import InstagramClone.API.AuthService
import InstagramClone.Async.Completion
import InstagramClone.Async.Log

/-! # Registration, and what a failed one leaves behind

Registration creates an account and then writes its record; nothing takes the account back when
the record cannot be written. All other failures leave the backend without a trace of the account.
-/

namespace InstagramClone

open Async

/-- Code that registers, with what its completion handler was given. -/
structure Caller where
  currentUser : Option Uid := none
  now : Timestamp := ⟨0, 0⟩
  googleProfile : Option GoogleProfile := none
  reported : Option (Option BackendError) := none
deriving DecidableEq, Repr

instance : Device Caller where
  currentUser := Caller.currentUser
  setCurrentUser uid caller := { caller with currentUser := uid }
  now := Caller.now
  googleProfile := Caller.googleProfile

/-- The two ways to register. -/
inductive Registration where
  | email (credential : AuthCredentials)
  | google (credential : AuthCredential)
deriving DecidableEq, Repr

namespace Registration

/-- The completion handler notes what it is given. -/
def report (error : Option BackendError) : Code Caller :=
  .update (fun caller => { caller with reported := some error }) .done

def perform : Registration → Code Caller
  | email credential => AuthService.registerUser credential report
  | google credential => AuthService.registerGoogleUser credential report

/-- Nobody has signed in with this Google account before. -/
def New (before : Cloud) : Registration → Prop
  | email _ => True
  | google credential => ∀ account ∈ before.accounts,
      account.method ≠ .google credential.googleAccount

end Registration

/-- No account has this address. -/
def Cloud.Free (cloud : Cloud) (address : String) : Prop :=
  ∀ account ∈ cloud.accounts, account.method.address? ≠ some address.toLower

/-- A new account exists with its record, and the caller was told so. -/
def Registered (before after : Cloud) (caller : Caller) : Prop :=
  ∃ account ∈ after.accounts, account ∉ before.accounts ∧
    .user account.uid ∈ after.firestore ∧ caller.reported = some none

/-- No account and no record is new, and addresses that were free can be registered again. -/
structure Unregistered (before after : Cloud) : Prop where
  accounts : ∀ account ∈ after.accounts, account ∈ before.accounts
  records : ∀ uid, .user uid ∈ after.firestore → .user uid ∈ before.firestore
  free : ∀ address, before.Free address → after.Free address

/-- The request writes the record of an account. -/
def Request.isRecord : Request → Bool
  | setData (.user _) _ => true
  | _ => false

/-- No write of a record among these requests has failed. -/
def Recording (served : List (Served firebase)) : Prop :=
  ∀ entry ∈ served, entry.request.isRecord = true → entry.succeeded = true

private theorem Recording.append {served : List (Served firebase)} {entry : Served firebase}
    (recording : Recording served)
    (settled : entry.request.isRecord = true → entry.succeeded = true) :
    Recording (served ++ [entry]) := by
  intro other member
  rcases List.mem_append.mp member with member | member
  · exact recording other member
  · obtain rfl := List.mem_singleton.mp member
    exact settled

/-- No write of the record fails, and a Google sign-in that succeeds has a profile. -/
def Registration.Finishes (caller : Caller) (served : List (Served firebase)) :
    Registration → Prop
  | email _ => Recording served
  | google _ => Recording served ∧
      (caller.googleProfile = none → ∀ entry ∈ served, entry.succeeded = false)

namespace Registration

variable {before after : Cloud} {caller told : Caller} {served : List (Served firebase)}

private theorem unregistered_of_same (accounts : after.accounts = before.accounts)
    (firestore : after.firestore = before.firestore) : Unregistered before after :=
  ⟨fun _ member => accounts ▸ member, fun _ member => firestore ▸ member, fun address free =>
    by rwa [Cloud.Free, accounts]⟩

/-- Everything that creating an account says. -/
theorem register_cases {method : SignInMethod} {fresh : Uid} {answer : Except BackendError Uid}
    (registered : Request.register method before fresh = some (after, answer)) :
    ∃ account, after = { before with accounts := account :: before.accounts } ∧
      answer = .ok account.uid ∧ account.method = method ∧ account ∉ before.accounts ∧
      .user account.uid ∉ before.firestore := by
  unfold Request.register at registered
  split_ifs at registered with drawn
  obtain ⟨rfl, rfl⟩ := Prod.mk.inj (Option.some.inj registered)
  refine ⟨⟨method, fresh⟩, rfl, rfl, rfl, fun member => drawn.2.2 _ member rfl, fun member => ?_⟩
  exact drawn.2.1 _ (Finmap.mem_keys.mpr member)
    (by simp [DocumentReference.ids, DocumentReference.documentID])

/-- A call of the backend that records what it serves. -/
abbrev Calling := Network (cloud.recorded Request.succeeded) Caller Unit Unit

/-- Nothing is left of the call but a registered account, of which the caller was told, or nothing at
all; then the upload of the image may have stopped the caller. -/
def AllOrNothing (before : Cloud) (final : Calling) : Prop :=
  (∃ told, final.clients () = some told ∧ Registered before final.store.store told) ∨
    Unregistered before final.store.store

/-- An account whose record is missing is neither registered nor unregistered. -/
private theorem not_allOrNothing {account : Account} {final : Calling}
    (created : final.store.store.accounts = account :: before.accounts)
    (added : account ∉ before.accounts) (missing : .user account.uid ∉ final.store.store.firestore) :
    ¬ AllOrNothing before final := by
  rintro (⟨told, -, other, member, new, recorded, -⟩ | unregistered)
  · rw [created] at member
    rcases List.mem_cons.mp member with rfl | member
    · exact missing recorded
    · exact new member
  · exact added (unregistered.accounts account (created ▸ List.mem_cons_self ..))

/-- The backend with its record, where no account and no document is new since the given one, and
no write of a record has been served. -/
structure Untouched (before : Cloud) (state : Recorded firebase Cloud) : Prop where
  accounts : state.store.accounts = before.accounts
  firestore : state.store.firestore = before.firestore
  served : ∀ entry ∈ state.served, entry.request.isRecord = false

variable {state later : Recorded firebase Cloud} {choice : Choice}

private theorem Untouched.unregistered (untouched : Untouched before state) :
    Unregistered before state.store :=
  unregistered_of_same untouched.accounts untouched.firestore

private theorem Untouched.start (before : Cloud) : Untouched before ⟨before, []⟩ :=
  ⟨rfl, rfl, fun _ member => nomatch member⟩

private theorem Untouched.recording (untouched : Untouched before state) :
    Recording state.served := by
  intro entry member record
  rw [untouched.served entry member] at record
  cases record

/-- A call that is over with nothing new left nothing behind. -/
private theorem Untouched.iff_recording {final : Calling} (untouched : Untouched before final.store) :
    AllOrNothing before final ↔ Recording final.store.served :=
  iff_of_true (.inr untouched.unregistered) untouched.recording

private theorem Untouched.serve {request : Request} {answer : request.Response}
    (untouched : Untouched before state) (other : request.isRecord = false)
    (served : (cloud.recorded Request.succeeded).serve choice state request = some (later, answer))
    (same : later.store.accounts = state.store.accounts ∧
      later.store.firestore = state.store.firestore) : Untouched before later := by
  refine ⟨same.1.trans untouched.accounts, same.2.trans untouched.firestore, ?_⟩
  rw [(recorded_serve served).2]
  intro entry member
  rcases List.mem_append.mp member with member | member
  · exact untouched.served entry member
  · obtain rfl := List.mem_singleton.mp member
    exact other

/-- The upload of an image leaves accounts and documents alone. -/
private theorem Untouched.upload {image : UIImage} {completion : String → Code Caller}
    {final : Calling} (untouched : Untouched before state)
    (completes : ((Network.lone state caller [] : Calling).launch id ()
      (ImageUploaderService.uploadImage image completion)).Completes id (fun _ => True) final) :
    Untouched before final.store ∨
      ∃ later url, Untouched before later ∧ ((Network.lone later caller [] : Calling).launch id ()
        (completion url)).Completes id (fun _ => True) final := by
  unfold ImageUploaderService.uploadImage at completes
  cases encoded : image.jpegData with
  | none =>
    rw [encoded] at completes
    rw [completes.launch_idle rfl]
    exact .inl untouched
  | some data =>
    rw [encoded] at completes
    obtain ⟨_, choice, second, upload, -, put, completes⟩ := completes.launch_call rfl
    have untouched : Untouched before second := by
      refine untouched.serve rfl put ?_
      rcases serve_cases (recorded_serve put).1 with ⟨same, -⟩ | ⟨_, _, _, resolved⟩
      · rw [same]
        exact ⟨rfl, rfl⟩
      · simp only [Request.resolve] at resolved
        split_ifs at resolved
        rw [← (Prod.mk.inj (Option.some.inj resolved)).1]
        exact ⟨rfl, rfl⟩
    rcases ImageUploaderService.handleStored_cases completion upload with
      ⟨-, same⟩ | ⟨-, ⟨-, same⟩ | ⟨object, -, same⟩⟩
    · simp only [same] at completes
      exact .inl ((completes.launch_trap rfl).2 ▸ untouched)
    · simp only [same] at completes
      rw [completes.launch_idle rfl]
      exact .inl untouched
    · simp only [same] at completes
      obtain ⟨_, choice, third, url, -, located, completes⟩ := completes.launch_call rfl
      have untouched : Untouched before third := by
        refine untouched.serve rfl located ?_
        rcases serve_cases (recorded_serve located).1 with ⟨same, -⟩ | ⟨_, _, _, resolved⟩
        · rw [same]
          exact ⟨rfl, rfl⟩
        · rw [← (Prod.mk.inj (Option.some.inj resolved)).1]
          exact ⟨rfl, rfl⟩
      cases url with
      | error =>
        rw [completes.launch_idle rfl]
        exact .inl untouched
      | ok url => exact .inr ⟨third, url, untouched, completes⟩

/-- The account exists, and its record is being written. -/
private theorem record_completes {account : Account} {data : Dictionary} {final : Calling}
    (created : state.store.accounts = account :: before.accounts)
    (added : account ∉ before.accounts)
    (firestore : state.store.firestore = before.firestore)
    (missing : .user account.uid ∉ before.firestore) (recording : Recording state.served)
    (completes : ((Network.lone state caller [] : Calling).launch id ()
      (Code.call (.setData (.user account.uid) data) report)).Completes id (fun _ => True) final) :
    AllOrNothing before final ↔ Recording final.store.served := by
  obtain ⟨_, choice, later, error, -, served, completes⟩ := completes.launch_call rfl
  obtain rfl := completes.launch_idle rfl
  obtain ⟨written, recorded⟩ := recorded_serve served
  dsimp only [Network.lone]
  rcases serve_cases written with ⟨same, error', transfer, rfl⟩ | ⟨_, _, _, resolved⟩
  · refine iff_of_false ?_ fun all => ?_
    · have left : .user account.uid ∉ later.store.firestore := by
        rw [same, firestore]
        exact missing
      exact not_allOrNothing (same ▸ created) added left
    · have failed := all ⟨.setData (.user account.uid) data, _⟩ (recorded ▸ List.mem_append_right _
        (List.mem_singleton.mpr rfl)) rfl
      cases failed
  · obtain ⟨store, rfl⟩ := Prod.mk.inj (Option.some.inj resolved)
    refine iff_of_true (.inl ⟨_, rfl, account, ?_, added, ?_, rfl⟩) ?_
    · dsimp only
      rw [← store]
      exact created ▸ List.mem_cons_self ..
    · dsimp only
      rw [← store]
      simp
    · rw [recorded]
      exact recording.append fun _ => rfl

/-- Registration with an address: an account is created once the image is stored, and its record
is written once the account is there. -/
private theorem registerUser_iff {credential : AuthCredentials} {final : Calling}
    (completes : ((Network.lone ⟨before, []⟩ caller [] : Calling).launch id ()
      (AuthService.registerUser credential report)).Completes id (fun _ => True) final) :
    AllOrNothing before final ↔ Recording final.store.served := by
  unfold AuthService.registerUser at completes
  split at completes
  · rename_i password image _ _
    rcases (Untouched.start before).upload completes with
      untouched | ⟨later, url, untouched, completes⟩
    · exact untouched.iff_recording
    obtain ⟨_, choice, second, answer, -, served, completes⟩ := completes.launch_call rfl
    obtain ⟨created, recorded⟩ := recorded_serve served
    cases answer with
    | error error =>
      obtain rfl := completes.launch_idle rfl
      have left : Untouched before second := by
        refine untouched.serve rfl served ?_
        rcases serve_cases created with ⟨same, -⟩ | ⟨_, _, _, resolved⟩
        · exact ⟨congrArg _ same, congrArg _ same⟩
        · simp only [Request.resolve] at resolved
          split at resolved
          · rw [← (Prod.mk.inj (Option.some.inj resolved)).1]
            exact ⟨rfl, rfl⟩
          · obtain ⟨_, _, impossible, -⟩ := register_cases resolved
            cases impossible
      exact left.iff_recording
    | ok uid =>
      rcases serve_cases created with ⟨-, _, _, impossible⟩ | ⟨_, _, _, resolved⟩
      · cases impossible
      · simp only [Request.resolve] at resolved
        split at resolved
        · cases (Prod.mk.inj (Option.some.inj resolved)).2
        · obtain ⟨account, store, same, -, added, missing⟩ := register_cases resolved
          obtain rfl := Except.ok.inj same
          dsimp only [AuthService.signedIn] at completes
          rw [Network.launch_update] at completes
          rw [untouched.accounts] at added
          rw [untouched.firestore] at missing
          refine record_completes ?_ added ?_ missing ?_ completes
          · rw [store]
            exact congrArg (account :: ·) untouched.accounts
          · rw [store]
            exact untouched.firestore
          · rw [recorded]
            exact untouched.recording.append (by rintro ⟨⟩)
  · rw [completes.launch_idle rfl]
    exact (Untouched.start before).iff_recording

/-- Signing in with a new Google account creates it; its record is written when there is a
profile. -/
private theorem registerGoogleUser_iff {credential : AuthCredential} {final : Calling}
    (new : (google credential).New before)
    (completes : ((Network.lone ⟨before, []⟩ caller [] : Calling).launch id ()
      (AuthService.registerGoogleUser credential report)).Completes id (fun _ => True) final) :
    AllOrNothing before final ↔ Recording final.store.served ∧
      (caller.googleProfile = none → ∀ entry ∈ final.store.served, entry.succeeded = false) := by
  change ((Network.lone ⟨before, []⟩ caller [] : Calling).launch id ()
    (.update _ _)).Completes id _ final at completes
  rw [Network.launch_update] at completes
  obtain ⟨_, choice, second, answer, -, served, completes⟩ := completes.launch_call rfl
  obtain ⟨created, recorded⟩ := recorded_serve served
  rcases serve_cases created with ⟨same, error, transfer, rfl⟩ | ⟨_, _, _, resolved⟩
  · obtain rfl := completes.launch_idle rfl
    have untouched := (Untouched.start before).serve rfl served
      ⟨congrArg Cloud.accounts same, congrArg Cloud.firestore same⟩
    refine iff_of_true (.inr untouched.unregistered) ⟨untouched.recording, fun _ entry member => ?_⟩
    dsimp only [Network.lone] at member
    rw [recorded] at member
    obtain rfl := List.mem_singleton.mp member
    rfl
  · have absent : before.accounts.find? (·.method = .google credential.googleAccount) = none :=
      List.find?_eq_none.mpr fun account member => by simpa using new account member
    simp only [Request.resolve, absent] at resolved
    obtain ⟨account, store, rfl, -, added, missing⟩ := register_cases resolved
    have logged : second.served = [⟨.signInWith credential, true⟩] := recorded
    have documents : second.store.firestore = before.firestore := by rw [store]
    dsimp only [AuthService.signedIn] at completes
    rw [Network.launch_update] at completes
    obtain ⟨currentUser, now, googleProfile, reported⟩ := caller
    cases googleProfile with
    | none =>
      obtain rfl := completes.launch_idle rfl
      refine iff_of_false ?_ fun finishes => ?_
      · exact not_allOrNothing (congrArg Cloud.accounts store) added (documents ▸ missing)
      · have member : ⟨.signInWith credential, true⟩ ∈ second.served := by simp [logged]
        cases finishes.2 rfl _ member
    | some profile =>
      change ((Network.lone second _ [] : Calling).launch id ()
        (Code.call (.setData (.user _) _) report)).Completes id _ final at completes
      have recording : Recording second.served := by
        rw [logged]
        exact (Untouched.start before).recording.append (by rintro ⟨⟩)
      rw [record_completes (congrArg Cloud.accounts store) added documents missing recording
        completes]
      exact ⟨fun all => ⟨all, by rintro ⟨⟩⟩, fun all => all.1⟩

/-- Registration is all or nothing exactly when the record of a created account gets written. -/
theorem all_or_nothing_iff {registration : Registration} {final : Calling}
    (new : registration.New before)
    (completes : ((Network.lone ⟨before, []⟩ caller [] : Calling).launch id ()
      registration.perform).Completes id (fun _ => True) final) :
    AllOrNothing before final ↔ registration.Finishes caller final.store.served := by
  cases registration with
  | email credential => exact registerUser_iff completes
  | google credential => exact registerGoogleUser_iff new completes

/-- The URL of a stored image. -/
def photoURL : String := "gs://" ++ storageBucket ++ "/photo"

/-- An address, and signals that store an image, create an account and answer its record. -/
def newcomer : AuthCredentials :=
  ⟨"u@mail", some "secret", "", "u", some ⟨some [0]⟩, none⟩

def signingUp (record : Choice) : List (Signal (cloud.recorded Request.succeeded)) :=
  [.serve 0 (.answer [] photoURL), .deliver 0, .serve 0 (.answer [] ""), .deliver 0,
    .serve 0 (.answer [] "u"), .deliver 0, .serve 0 record, .deliver 0]

/-- A registration whose record is written. -/
theorem all_or_nothing_iff_recorded :
    ∃ final, ((Network.lone ⟨{}, []⟩ {} [] : Calling).launch id ()
        (email newcomer).perform).Completes id (fun _ => True) final ∧
      (AllOrNothing {} final ↔ (email newcomer).Finishes {} final.store.served) ∧
      .user "u" ∈ final.store.store.firestore := by
  have completes : (replay? (fun net signal => if True then Network.signal? id net signal else none)
      ((Network.lone ⟨{}, []⟩ {} [] : Calling).launch id () (email newcomer).perform)
      (signingUp (.answer [] ""))).any (fun final => decide (final.flight.isEmpty = true ∧
        .user "u" ∈ final.store.store.firestore)) = true := by
    decide +kernel
  obtain ⟨final, completed, recorded⟩ := Network.exists_completes_of_replay? completes
  exact ⟨final, completed, all_or_nothing_iff trivial completed, recorded⟩

/-- The record of a new account fails: the account stays, without a record. -/
theorem not_all_or_nothing :
    ¬ ∀ (registration : Registration) (before : Cloud) (caller : Caller) (final : Calling),
      registration.New before →
      ((Network.lone ⟨before, []⟩ caller [] : Calling).launch id ()
        registration.perform).Completes id (fun _ => True) final →
      AllOrNothing before final := by
  intro claim
  have fails : (replay? (fun net signal => if True then Network.signal? id net signal else none)
      ((Network.lone ⟨{}, []⟩ {} [] : Calling).launch id () (email newcomer).perform)
      (signingUp (.fail .permissionDenied))).any (fun final => decide (final.flight.isEmpty = true ∧
        final.store.store.accounts = [⟨.email "u@mail" "secret", "u"⟩] ∧
        .user "u" ∉ final.store.store.firestore)) = true := by
    decide +kernel
  obtain ⟨final, completed, created, missing⟩ := Network.exists_completes_of_replay? fails
  exact not_allOrNothing created List.not_mem_nil missing
    (claim (email newcomer) {} {} final trivial completed)

end Registration

end InstagramClone
