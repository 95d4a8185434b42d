import InstagramClone.Soundness.Integrity

/-! # Referential integrity and the notification store

Devices register accounts and sign in, and sessions are opened on accounts whose record exists.
From an empty backend and without failures, the database and the memory of every device refer to
stored documents only, no path ever contains an empty id, notifications tell receivers of others,
and nobody follows themselves.
-/

namespace InstagramClone.Integrity

open Async

variable {ι : Type}

/-- What a device does: one that registers uses the pages that sign in and out; one that is a
session of an account is launched, and then used in every way short of logging out. -/
inductive DeviceAction where
  | auth (action : AuthAction)
  | launch
  | act (action : UserAction)

/-- The app just opened on a device that is signed in. -/
def opened (uid : Uid) : App where
  currentUser := some uid

/-- The app on a device that nobody is signed in to: it shows a login page. -/
def signedOut : App where
  currentUser := none
  objects := [⟨.authentication ⟨true⟩, false⟩]

/-- An empty backend, with devices that register and sessions that are still to be opened. -/
def start (account : ι → Option Uid) : Network cloud App ι ι where
  store := {}
  clients client := if account client = none then some signedOut else none

/-- Nothing of the client is left in the network. -/
def Gone (net : Network cloud App ι ι) (client : ι) : Prop :=
  net.clients client = none ∧ (∀ pending ∈ net.flight, pending.origin ≠ client) ∧
    ∀ listener ∈ net.listeners, listener.origin ≠ client

section Step

variable [DecidableEq ι]

instance (net : Network cloud App ι ι) (client : ι) : Decidable (Gone net client) :=
  match running : net.clients client with
  | some _ => isFalse fun gone => by simp [gone.1] at running
  | none => decidable_of_iff ((∀ pending ∈ net.flight, pending.origin ≠ client) ∧
      ∀ listener ∈ net.listeners, listener.origin ≠ client)
      ⟨fun left => ⟨running, left⟩, And.right⟩

/-- One step: no request fails, and a session is opened once the record of its account exists. -/
def deviceStep? (account : ι → Option Uid) (net : Network cloud App ι ι) :
    Event cloud ι DeviceAction → Option (Network cloud App ι ι)
  | .act client (.auth action) =>
    if account client = none then some (net.launch id client action.perform) else none
  | .act client .launch =>
    match account client with
    | none => none
    | some uid =>
      if Gone net client ∧ .user uid ∈ net.store.firestore then
        some { net with clients := Function.update net.clients client (some (opened uid)) }
      else none
  | .act client (.act action) =>
    if (account client).isSome then some (net.launch id client action.perform) else none
  | .signal signal => if succeeds signal then net.signal? id signal else none

variable {account : ι → Option Uid} {net next final : Network cloud App ι ι}
  {event : Event cloud ι DeviceAction} {events : List (Event cloud ι DeviceAction)}

omit [DecidableEq ι] in
private theorem sound_start : (start account).Sound (contract account) id := by
  refine ⟨⟨fun reference data stored => ?_, by simp [start]⟩, fun _ _ => trivial,
    fun client app running => ?_, by simp [start], by simp [start]⟩
  · simp [start] at stored
  · simp only [start, id] at running
    split_ifs at running
    · obtain rfl := Option.some.inj running
      exact ⟨by simp [signedOut], by simp [signedOut], by simp [signedOut],
        by simp [signedOut, Policy.object]⟩
    · cases running

/-- Opening a session on an account whose record exists. -/
private theorem sound_open (sound : net.Sound (contract account) id) {client : ι} {uid : Uid}
    (session : account client = some uid) (recorded : .user uid ∈ net.store.firestore) :
    Network.Sound (contract account) id
      { net with clients := Function.update net.clients client (some (opened uid)) } := by
  refine ⟨sound.store, fun _ _ => trivial, fun other app running => ?_, sound.flight,
    sound.listeners⟩
  dsimp only [id] at running
  by_cases same : other = client
  · subst same
    rw [Function.update_self] at running
    obtain rfl := Option.some.inj running
    refine ⟨fun current shown => ?_, by simp [opened], by simp [opened], by simp [opened]⟩
    obtain rfl : uid = current := Option.some.inj shown
    refine ⟨named_of_mem sound.store.1 recorded, fun mine known => ?_⟩
    obtain rfl : uid = mine := Option.some.inj (session.symm.trans known)
    exact ⟨rfl, recorded⟩
  · rw [Function.update_of_ne same] at running
    exact sound.clients other app running

omit [DecidableEq ι] in
/-- Sessions sign what they create as their account. -/
private theorem signed_of_governs {app : App} {client : ι} {uid : Uid} {store : Cloud}
    (session : account client = some uid)
    (governs : (policy (account client)).Governs store app) (action : UserAction) :
    action.Signed (policy (account client)) store app := by
  have known (current : Uid) (shown : current ∈ app.currentUser) :
      .user current ∈ store.firestore := by
    obtain ⟨same, recorded⟩ := (governs.signed current shown).2 uid session
    rw [same]
    exact recorded
  cases action with
  | feedCellOnTapLike | commentOnTapPost | profileOnTapEditProfile =>
    exact fun user shown => (governs.user user shown).2.2
  | uploadOnTapShare => exact fun _ _ _ _ current shown => known current shown
  | _ => trivial

private theorem sound_launch (sound : net.Sound (contract account) id) {client : ι}
    {program : Code App} (keeps : ∀ app ∈ net.clients client,
      (program.run app).Keeps (contract account) client net.store) :
    (net.launch id client program).Sound (contract account) id := by
  refine sound.launch_effect (fun {first second} same => ?_) keeps
  obtain rfl : first = second := same
  exact id

/-- Every step of the devices keeps the contract. -/
private theorem sound_step (sound : net.Sound (contract account) id)
    (taken : deviceStep? account net event = some next) : next.Sound (contract account) id := by
  cases event with
  | act client action =>
    cases action with
    | auth action =>
      simp only [deviceStep?] at taken
      split_ifs at taken with registers
      obtain rfl := Option.some.inj taken
      refine sound_launch sound fun app running => ?_
      have valid := sound.clients client app running
      exact ((policy_registers registers).keeps_perform
        (action.pictured_of_forall fun _ => trivial)).run valid
    | launch =>
      cases session : account client with
      | none => simp [deviceStep?, session] at taken
      | some uid =>
        simp only [deviceStep?, session] at taken
        split_ifs at taken with ready
        obtain rfl := Option.some.inj taken
        exact sound_open sound session ready.2
    | act action =>
      simp only [deviceStep?] at taken
      split_ifs at taken with session
      obtain rfl := Option.some.inj taken
      obtain ⟨uid, session⟩ := Option.isSome_iff_exists.mp session
      refine sound_launch sound fun app running => ?_
      have valid := sound.clients client app running
      exact (policy_writes session).effect_perform valid
        (signed_of_governs session valid action).authored
  | signal signal =>
    simp only [deviceStep?] at taken
    split_ifs at taken with succeeds
    have shared {first second : ι} (same : id first = id second) {store : Cloud} {app : App}
        (valid : (contract account).holds first store app) :
        (contract account).holds second store app := by
      obtain rfl : first = second := same
      exact valid
    exact (sound.signal shared (lawful account) (chosen_of_succeeds succeeds) taken).1

private theorem sound_run (run : Run (fun net event next => deviceStep? account net event = some next)
    (start account) events final) : final.Sound (contract account) id :=
  run.invariant sound_start fun taken sound => sound_step sound taken

end Step

/-- The database and all devices refer to stored documents only, and every path that is asked for
is made of non-empty ids. -/
structure Intact (account : ι → Option Uid) (net : Network cloud App ι ι) : Prop where
  documents : Consistent net.store.firestore
  devices : ∀ client app, net.clients client = some app →
    (policy (account client)).Governs net.store app
  requests : ∀ pending ∈ net.flight, ∀ id ∈ pending.call.request.ids, id ≠ ""
  listeners : ∀ listener ∈ net.listeners, ∀ id ∈ listener.subscription.topic.collection.ids, id ≠ ""

/-- In every state that devices reach from an empty backend without failures, stored documents and
the records held by devices refer to stored documents, and no path contains an empty id. -/
theorem references_stored [DecidableEq ι] {account : ι → Option Uid}
    {events : List (Event cloud ι DeviceAction)} {final : Network cloud App ι ι}
    (run : Run (fun net event next => deviceStep? account net event = some next) (start account)
      events final) : Intact account final := by
  have sound := sound_run run
  refine ⟨sound.store.1, fun client app running => sound.clients client app running,
    fun pending member => (sound.flight pending member).1.1, fun listener member => ?_⟩
  exact (sound.listeners listener member).1

/-- A notification names somebody other than its receiver as its author; one of a like or comment
carries the id and image of a post of the receiver, and one of a follow carries no post. -/
structure Notifies (store : Firestore) (receiver : Uid) (data : Dictionary) : Prop where
  author : ∃ author, data "uid" = some (.string author) ∧ author ≠ receiver
  post : ∃ type : NotificationType, data "type" = some (.int type.rawValue) ∧
    (type = .follow → data "postId" = none) ∧
    (type ≠ .follow → ∃ post image, data "postId" = some (.string post) ∧
      data "postImage" = some (.string image) ∧ Post store post receiver image)

/-- In every such state, stored notifications tell their receivers of others, and no account
follows itself. -/
theorem notifications_tell [DecidableEq ι] {account : ι → Option Uid}
    {events : List (Event cloud ι DeviceAction)} {final : Network cloud App ι ι}
    (run : Run (fun net event next => deviceStep? account net event = some next) (start account)
      events final) :
    (∀ receiver id data, final.store.firestore.lookup (.notification receiver id) = some data →
      Notifies final.store.firestore receiver data) ∧
    ∀ uid, .following uid uid ∉ final.store.firestore := by
  have consistent := (sound_run run).store.1
  constructor
  · intro receiver id data stored
    obtain ⟨author, type, written, -, apart, typed, mentions⟩ := consistent _ _ stored
    refine ⟨⟨author, written, apart⟩, type, typed, ?_, fun shows => ?_⟩
    · rintro rfl
      exact mentions
    · cases type with
      | follow => exact (shows rfl).elim
      | like | comment => exact mentions
  · intro uid present
    obtain ⟨data, stored⟩ := Finmap.mem_iff.mp present
    exact (consistent _ _ stored).1 rfl

section Examples

/-- One device that registers, and a session of the account that it registers first. -/
def accounts : Bool → Option Uid
  | false => none
  | true => some "u"

def drawing (fresh : String) : Choice := .answer [] fresh

/-- A sign-in with Google that draws this uid: the account, its record, and the record read back. -/
def signingUp (uid : Uid) : List (Event cloud Bool DeviceAction) :=
  .act false (.auth (.loginOnTapGoogle 0 ⟨uid⟩ ⟨uid ++ "@x", uid, none⟩)) ::
    drain [drawing uid] ++ drain [drawing ""] ++ drain [drawing ""]

/-- The session is launched and loads its user. -/
def launching : List (Event cloud Bool DeviceAction) :=
  [.act true .launch, .act true (.act .tabsViewDidLoad)] ++ drain [drawing ""]

/-- The session uploads a post. -/
def uploading : List (Event cloud Bool DeviceAction) :=
  [.act true (.act (.tabsDidFinishPicking ⟨some [0]⟩)), .act true (.act (.uploadOnTapShare 4))] ++
    drain [drawing ("gs://" ++ storageBucket ++ "/photo")] ++ drain [drawing ""] ++
    drain [drawing "p"]

end Examples

/-- An account is registered, and its session uploads a post and refreshes its feed. -/
theorem references_stored_upload :
    ∃ final, Run (fun net event next => deviceStep? accounts net event = some next) (start accounts)
        (signingUp "u" ++ launching ++ uploading) final ∧
      .post "p" ∈ final.store.firestore ∧ Intact accounts final := by
  have completes : (replay? (deviceStep? accounts) (start accounts)
      (signingUp "u" ++ launching ++ uploading)).any (fun final => decide (.post "p" ∈ final.store.firestore)) = true := by
    decide +kernel
  obtain ⟨final, run, uploaded⟩ := exists_run_of_replay? completes
  exact ⟨final, run, uploaded, references_stored run⟩

/-- Two accounts are registered, and the session of the first searches for the second's page and
follows it: the follow is notified. -/
theorem notifications_tell_follow :
    ∃ final, Run (fun net event next => deviceStep? accounts net event = some next) (start accounts)
        (signingUp "u" ++ signingUp "v" ++ launching ++
          [.act true (.act (.searchViewDidLoad 1))] ++
          drain [Choice.answer [.user "u", .user "v"] ""] ++
          [.act true (.act (.searchDidSelectRowAt 1 1)),
            .act true (.act (.profileViewForHeader 4)),
            .act true (.act (.profileOnTapEditProfile 4))] ++
          drain [drawing ""] ++ drain [drawing ""] ++ drain [drawing "n", drawing ""]) final ∧
      .notification "v" "n" ∈ final.store.firestore ∧
      (∀ receiver id data, final.store.firestore.lookup (.notification receiver id) = some data →
        Notifies final.store.firestore receiver data) ∧
      ∀ uid, .following uid uid ∉ final.store.firestore := by
  have completes : (replay? (deviceStep? accounts) (start accounts)
      (signingUp "u" ++ signingUp "v" ++ launching ++
        [.act true (.act (.searchViewDidLoad 1))] ++
        drain [Choice.answer [.user "u", .user "v"] ""] ++
        [.act true (.act (.searchDidSelectRowAt 1 1)),
          .act true (.act (.profileViewForHeader 4)),
          .act true (.act (.profileOnTapEditProfile 4))] ++
        drain [drawing ""] ++ drain [drawing ""] ++ drain [drawing "n", drawing ""])).any
      (fun final => decide (.notification "v" "n" ∈ final.store.firestore)) = true := by
    decide +kernel
  obtain ⟨final, run, notified⟩ := exists_run_of_replay? completes
  exact ⟨final, run, notified, notifications_tell run⟩

end InstagramClone.Integrity
