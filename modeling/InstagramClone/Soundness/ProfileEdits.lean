import InstagramClone.Soundness.Registration

/-! # Profile edits and the sign-ins after them

Signing in with an address leaves the records alone. Signing in with Google writes the record
again from the Google profile, whether the account is new or not, so it takes back every edit.
-/

namespace InstagramClone

open Async

/-- What registers an account, changes its record, or signs it in and out. -/
inductive AccountOperation where
  | registerUser (credential : AuthCredentials)
  /-- Google has signed in the given profile; both the registration and the login. -/
  | registerGoogleUser (credential : AuthCredential) (profile : GoogleProfile)
  | loginUser (email password : String)
  | logoutUser
  | saveUserData (user : User)
  | updateProfileImage (user : User) (image : UIImage)

/-- The record of an account. -/
def Cloud.record (cloud : Cloud) (uid : Uid) : Option Dictionary :=
  cloud.firestore.lookup (.user uid)

/-- The account that signs in with the credential. -/
def Cloud.googleAccount? (cloud : Cloud) (credential : AuthCredential) : Option Account :=
  cloud.accounts.find? (·.method = .google credential.googleAccount)

/-- The record that a Google sign-in writes. -/
def GoogleProfile.data (profile : GoogleProfile) (uid : Uid) : Dictionary :=
  UserService.data profile.email profile.name (profile.imageURL.getD "") uid
    ((extractUsername profile.email).getD profile.email)

namespace AccountOperation

def perform : AccountOperation → Code Caller
  | registerUser credential => AuthService.registerUser credential Registration.report
  | registerGoogleUser credential profile =>
    .update (fun caller => { caller with googleProfile := some profile }) <|
    AuthService.registerGoogleUser credential Registration.report
  | loginUser email password => AuthService.loginUser email password fun _ => .done
  | logoutUser => AuthService.logoutUser
  | saveUserData user => UserService.saveUserData user Registration.report
  | updateProfileImage user image =>
    UserService.updateProfileImage user image fun _ error => Registration.report error

def isLogin : AccountOperation → Bool
  | registerGoogleUser .. | loginUser .. => true
  | _ => false

/-- A Google sign-in of an account with a record finds there what it is going to write. -/
def Spares (before : Cloud) : AccountOperation → Prop
  | registerGoogleUser credential profile => ∀ account ∈ before.googleAccount? credential,
      ∀ stored ∈ before.record account.uid, stored = profile.data account.uid
  | _ => True

/-- What the last registration or edit of each account left, when this operation comes last. A
Google sign-in registers the account that has no record. -/
def leaves (after : Cloud) (left : Uid → Option Dictionary) :
    AccountOperation → Uid → Option Dictionary
  | registerUser _ | saveUserData _ | updateProfileImage .. => after.record
  | registerGoogleUser .. => fun uid => (left uid).or (after.record uid)
  | loginUser .. | logoutUser => left

end AccountOperation

/-- A device between two operations, with what the last registration or edit of each account
left of its record. -/
structure AccountHistory where
  store : Cloud
  caller : Caller
  left : Uid → Option Dictionary

namespace AccountHistory

/-- One operation, with signals that complete it without a failure. -/
def complete? (state : AccountHistory) (label : AccountOperation × List (Signal cloud)) :
    Option AccountHistory :=
  (replay? (fun net signal => if succeeds signal = true then net.signal? id signal else none)
      ((Network.lone state.store state.caller [] : Network cloud Caller Unit Unit).launch id ()
        label.1.perform) label.2).bind fun final =>
    if final.flight.isEmpty then
      (final.clients ()).map fun caller =>
        ⟨final.store, caller, label.1.leaves final.store state.left⟩
    else none

section Login

variable {before : Cloud} {caller : Caller} {final : Network cloud Caller Unit Unit}

/-- An account that registers draws a uid without a record. -/
private theorem register_record {method : SignInMethod} {after : Cloud} {fresh uid : Uid}
    (registered : Request.register method before fresh = some (after, .ok uid)) :
    after.firestore = before.firestore ∧ before.record uid = none := by
  obtain ⟨account, rfl, same, -, -, missing⟩ := Registration.register_cases registered
  obtain rfl := Except.ok.inj same
  exact ⟨rfl, Finmap.lookup_eq_none.mpr missing⟩

/-- Signing in with an address changes no record. -/
private theorem loginUser_record {email password : String}
    (completes : ((Network.lone before caller [] : Network cloud Caller Unit Unit).launch id ()
      (AccountOperation.loginUser email password).perform).Completes id (succeeds · = true) final) :
    final.store.record = before.record := by
  obtain ⟨_, choice, after, answer, allowed, served, completes⟩ := completes.launch_call rfl
  have same : after.firestore = before.firestore := (serve_firestore allowed served).choose_spec.1
  cases answer with
  | error error =>
    obtain rfl := completes.launch_idle rfl
    exact congrArg (fun firestore uid => firestore.lookup (.user uid)) same
  | ok uid =>
    obtain rfl := completes.launch_idle rfl
    exact congrArg (fun firestore uid => firestore.lookup (.user uid)) same

/-- Signing in with Google writes the record of the account it signs in, which is the one of that
Google account, or a new one without a record. -/
private theorem registerGoogleUser_record {credential : AuthCredential} {profile : GoogleProfile}
    (completes : ((Network.lone before caller [] : Network cloud Caller Unit Unit).launch id ()
      (AccountOperation.registerGoogleUser credential profile).perform).Completes id
        (succeeds · = true) final) :
    ∃ uid, final.store.record = Function.update before.record uid (some (profile.data uid)) ∧
      (match before.googleAccount? credential with
      | some account => account.uid = uid
      | none => before.record uid = none) ∧
      ∀ account ∈ final.store.googleAccount? credential, account.uid = uid := by
  change ((Network.lone before caller [] : Network cloud Caller Unit Unit).launch id ()
    (.update _ (.update _ _))).Completes id _ final at completes
  rw [Network.launch_update, Network.launch_update] at completes
  obtain ⟨_, choice, second, answer, allowed, served, completes⟩ := completes.launch_call rfl
  obtain ⟨order, fresh, transfer, resolved⟩ := serve_succeeds allowed served
  obtain ⟨uid, rfl, documents, known, again⟩ : ∃ uid, answer = .ok uid ∧
      second.firestore = before.firestore ∧
        (match before.googleAccount? credential with
        | some account => account.uid = uid
        | none => before.record uid = none) ∧
        ∀ account ∈ second.googleAccount? credential, account.uid = uid := by
    simp only [Request.resolve] at resolved
    unfold Cloud.googleAccount?
    split at resolved
    · next absent =>
      obtain ⟨account, added, rfl, same, -⟩ := Registration.register_cases resolved
      obtain ⟨documents, missing⟩ := register_record resolved
      rw [absent]
      exact ⟨account.uid, rfl, documents, missing, by simp [added, same]⟩
    · next account found =>
      obtain ⟨rfl, rfl⟩ := Prod.mk.inj (Option.some.inj resolved)
      rw [found]
      exact ⟨account.uid, rfl, rfl, rfl, by simp⟩
  dsimp only [AuthService.signedIn] at completes
  rw [Network.launch_update] at completes
  obtain ⟨_, choice, third, error, allowed, served, completes⟩ := completes.launch_call rfl
  obtain ⟨order, fresh, transfer, resolved⟩ := serve_succeeds allowed served
  obtain ⟨rfl, rfl⟩ := Prod.mk.inj (Option.some.inj resolved)
  obtain rfl := completes.launch_idle rfl
  refine ⟨uid, funext fun other => ?_, known, again⟩
  simp only [Cloud.record, Network.lone, Firestore.lookup_set, documents, Function.update_apply,
    DocumentReference.user.injEq]
  rfl

/-- A Google sign-in leaves every record that is there exactly when it finds its own. -/
theorem registerGoogleUser_keeps_iff {credential : AuthCredential} {profile : GoogleProfile}
    (completes : ((Network.lone before caller [] : Network cloud Caller Unit Unit).launch id ()
      (AccountOperation.registerGoogleUser credential profile).perform).Completes id
        (succeeds · = true) final) :
    (∀ uid stored, before.record uid = some stored → final.store.record uid = some stored) ↔
      (AccountOperation.registerGoogleUser credential profile).Spares before := by
  obtain ⟨uid, written, known, -⟩ := registerGoogleUser_record completes
  rw [written]
  constructor
  · intro keeps account found stored present
    simp only [Option.mem_def] at found present
    simp only [found] at known
    subst known
    have kept := keeps _ _ present
    rw [Function.update_self] at kept
    exact (Option.some.inj kept).symm
  · intro spares other stored present
    by_cases same : other = uid
    · subst same
      rw [Function.update_self]
      cases found : before.googleAccount? credential with
      | none =>
        simp only [found] at known
        rw [known] at present
        cases present
      | some account =>
        simp only [found] at known
        subst known
        rw [spares account found stored present]
    · rwa [Function.update_of_ne same]

/-- A Google account that signs in again with the same profile finds its own record. -/
private theorem registerGoogleUser_spares {credential : AuthCredential} {profile : GoogleProfile}
    (completes : ((Network.lone before caller [] : Network cloud Caller Unit Unit).launch id ()
      (AccountOperation.registerGoogleUser credential profile).perform).Completes id
        (succeeds · = true) final) :
    (AccountOperation.registerGoogleUser credential profile).Spares final.store := by
  obtain ⟨uid, written, -, again⟩ := registerGoogleUser_record completes
  intro account found stored present
  obtain rfl := again account found
  rw [written, Function.update_self] at present
  exact (Option.some.inj present).symm

end Login

/-- Everything that one completed operation says. -/
private theorem complete?_cases {state next : AccountHistory} {operation : AccountOperation}
    {signals : List (Signal cloud)} (completed : state.complete? (operation, signals) = some next) :
    ∃ final, ((Network.lone state.store state.caller [] : Network cloud Caller Unit Unit).launch id ()
        operation.perform).Completes id (succeeds · = true) final ∧
      next.store = final.store ∧
      next.left = operation.leaves final.store state.left := by
  obtain ⟨final, replayed, rest⟩ := Option.bind_eq_some_iff.mp completed
  split_ifs at rest with idle
  obtain ⟨caller, -, rfl⟩ := Option.map_eq_some_iff.mp rest
  refine ⟨final, ⟨signals, (replay?_run replayed).mono fun taken => ?_, List.isEmpty_iff.mp idle⟩,
    rfl, rfl⟩
  split_ifs at taken with allowed
  exact ⟨allowed, taken⟩

/-- A login that spares its record keeps every record. -/
private theorem login_keeps {state next : AccountHistory} {operation : AccountOperation}
    {signals : List (Signal cloud)} (completed : state.complete? (operation, signals) = some next)
    (login : operation.isLogin = true) (spares : operation.Spares state.store) :
    ∀ uid stored, state.store.record uid = some stored → next.store.record uid = some stored := by
  obtain ⟨final, completes, store, -⟩ := complete?_cases completed
  rw [store]
  cases operation with
  | registerGoogleUser credential profile =>
    exact (registerGoogleUser_keeps_iff completes).mpr spares
  | loginUser email password =>
    rw [loginUser_record completes]
    exact fun _ _ present => present
  | _ => cases login

/-- Between operations the records are those that the last registration or edit left. -/
private theorem left_step {state next : AccountHistory} {operation : AccountOperation}
    {signals : List (Signal cloud)} (spares : operation.Spares state.store)
    (completed : state.complete? (operation, signals) = some next)
    (left : state.left = state.store.record) : next.left = next.store.record := by
  obtain ⟨final, completes, store, leaves⟩ := complete?_cases completed
  rw [leaves, store, left]
  cases operation with
  | registerUser | saveUserData | updateProfileImage => rfl
  | loginUser email password => exact (loginUser_record completes).symm
  | logoutUser =>
    obtain rfl := completes.launch_idle rfl
    rfl
  | registerGoogleUser credential profile =>
    funext uid
    cases present : state.store.record uid with
    | none => simp [AccountOperation.leaves, present]
    | some stored =>
      have kept := (registerGoogleUser_keeps_iff completes).mpr spares uid stored present
      simp [AccountOperation.leaves, present, kept]

/-- In every run whose Google logins find their own record, every login leaves the records that
the last registration or edit of each account left. -/
theorem edits_survive {start middle final : AccountHistory}
    {history : List (AccountOperation × List (Signal cloud))} {operation : AccountOperation}
    {signals : List (Signal cloud)} (fresh : start.left = start.store.record)
    (run : Run (fun state label next =>
      label.1.Spares state.store ∧ state.complete? label = some next) start history middle)
    (login : operation.isLogin = true) (spares : operation.Spares middle.store)
    (completed : middle.complete? (operation, signals) = some final) :
    ∀ uid stored, middle.left uid = some stored → final.store.record uid = some stored := by
  have left : middle.left = middle.store.record :=
    run.invariant fresh fun taken left => left_step taken.1 taken.2 left
  rw [left]
  exact login_keeps completed login spares

/-- No account and no record. -/
def empty : AccountHistory := ⟨{}, {}, fun _ => none⟩

/-- Signals that answer so many requests, one after the other, drawing the given name. -/
def answering (drawn : List String) : List (Signal cloud) :=
  drawn.flatMap fun fresh => [.serve 0 (.answer [] fresh), .deliver 0]

/-- An edit of the name on a device signed in as `u`. -/
def nameEdited : AccountOperation × List (Signal cloud) :=
  (.saveUserData ⟨"", "edited", "", "", "u", ⟨0, 0, 0⟩, false⟩, answering [""])

/-- An account with an address is registered and edited. -/
def editing : List (AccountOperation × List (Signal cloud)) :=
  [(.registerUser Registration.newcomer, answering [Registration.photoURL, "", "u", ""]),
    nameEdited, (.logoutUser, [])]

/-- A Google sign-in with one and the same profile. -/
def google : AccountOperation := .registerGoogleUser ⟨"g"⟩ ⟨"v@mail", "google", none⟩

/-- The Google account is registered and signs in again. -/
def returning : List (AccountOperation × List (Signal cloud)) :=
  [(google, answering ["v", ""]), (.logoutUser, []), (google, answering ["", ""]),
    (.logoutUser, [])]

/-- A sign-in and out of the Google account takes no edit back, and the next one takes none back
either. -/
private theorem returning_spares {start middle : AccountHistory} (spares : google.Spares start.store)
    (run : Run (fun state label next => state.complete? label = some next) start returning middle) :
    Run (fun state label next => label.1.Spares state.store ∧ state.complete? label = some next)
        start returning middle ∧
      google.Spares middle.store := by
  have among : ∀ label ∈ returning, label.1 = google ∨ label.1 = .logoutUser := by
    simp [returning]
  have keeps {state next : AccountHistory} {label : AccountOperation × List (Signal cloud)}
      (taken : (label.1 = google ∨ label.1 = .logoutUser) ∧ state.complete? label = some next)
      (spares : google.Spares state.store) : google.Spares next.store := by
    obtain ⟨operation, completed⟩ := taken
    obtain ⟨final, completes, store, -⟩ := complete?_cases completed
    rw [store]
    rcases operation with same | same
    · rw [same] at completes
      exact registerGoogleUser_spares completes
    · rw [same] at completes
      obtain rfl := completes.launch_idle rfl
      exact spares
  have only := run.restrict among
  refine ⟨(only.within spares keeps).mono ?_, only.invariant spares keeps⟩
  rintro state ⟨_, signals⟩ next ⟨spares, rfl | rfl, taken⟩
  · exact ⟨spares, taken⟩
  · exact ⟨trivial, taken⟩

/-- An account with an address is edited, and one from Google signs in twice: a third sign-in with
Google leaves both records. -/
theorem edits_survive_google :
    ∃ middle final : AccountHistory, empty.left = empty.store.record ∧
      middle.complete? (google, answering ["", ""]) = some final ∧
      (∀ uid stored, middle.left uid = some stored → final.store.record uid = some stored) ∧
      (middle.left "u").isSome = true ∧ (middle.left "v").isSome = true := by
  have edits : (replay? complete? empty editing).any (fun edited : AccountHistory => decide
      (edited.store.googleAccount? ⟨"g"⟩ = none ∧
        (replay? complete? edited returning).any (fun middle : AccountHistory => decide
          (((middle.left "u").isSome = true ∧ (middle.left "v").isSome = true) ∧
            (middle.complete? (google, answering ["", ""])).isSome = true)) = true)) = true := by
    decide +kernel
  obtain ⟨edited, first, unknown, returns⟩ := exists_run_of_replay? edits
  obtain ⟨middle, second, left, done⟩ := exists_run_of_replay? returns
  obtain ⟨final, completed⟩ := Option.isSome_iff_exists.mp done
  have without : ∀ label ∈ editing, ∀ store, label.1.Spares store := by
    simp [editing, nameEdited, AccountOperation.Spares]
  obtain ⟨returned, spares⟩ :=
    returning_spares (fun account found => by cases unknown.symm.trans found) second
  have run := ((first.restrict without).mono fun taken => ⟨taken.1 _, taken.2⟩).append returned
  exact ⟨middle, final, rfl, completed, edits_survive rfl run rfl spares completed, left⟩

/-- A Google account is registered, its name is edited, and it signs in again: the edit is lost. -/
theorem edits_not_survive :
    ¬ ∀ (start middle final : AccountHistory)
      (history : List (AccountOperation × List (Signal cloud))) (operation : AccountOperation)
      (signals : List (Signal cloud)), start.left = start.store.record →
      Run (fun state label next => state.complete? label = some next) start history middle →
      operation.isLogin = true → middle.complete? (operation, signals) = some final →
      ∀ uid stored, middle.left uid = some stored → final.store.record uid = some stored := by
  intro claim
  let signIn : AccountOperation := .registerGoogleUser ⟨"g"⟩ ⟨"u@mail", "google", none⟩
  have loses : (replay? complete? empty
      [(signIn, answering ["u", ""]), nameEdited, (.logoutUser, [])]).any
      (fun middle : AccountHistory => decide
        ((middle.complete? (signIn, answering ["", ""])).any (fun final : AccountHistory => decide
          ((middle.left "u").map (· "fullname") = some (some (.string "edited")) ∧
            (final.store.record "u").map (· "fullname") = some (some (.string "google")))) =
              true)) = true := by
    decide +kernel
  obtain ⟨middle, run, lost⟩ := exists_run_of_replay? loses
  obtain ⟨final, completed, lost⟩ := (Option.any_eq_true _ _).mp lost
  obtain ⟨edited, overwritten⟩ := of_decide_eq_true lost
  obtain ⟨stored, left, name⟩ := Option.map_eq_some_iff.mp edited
  have kept := claim empty middle final _ signIn _ rfl run rfl completed "u" stored left
  rw [kept] at overwritten
  simp [name] at overwritten

end AccountHistory

end InstagramClone
