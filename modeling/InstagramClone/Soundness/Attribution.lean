import InstagramClone.Discipline.Controllers

/-! # Who signs comments, notifications and posts

What a tap creates carries the identity that the tab controller or the upload page holds at the
tap. That is the identity of the signed-in account only while the cached user is up to date: after
another login the old user stays until the new one has been fetched.
-/

namespace InstagramClone

open Async

namespace Attribution

/-- What comments, notifications and posts say of their author. -/
structure Identity where
  uid : Uid
  username : String
  profileImage : String
deriving DecidableEq, Repr

def Identity.ofUser (user : User) : Identity := ⟨user.uid, user.username, user.profileImage⟩

/-- One device. Every request descends from an action, and remembers as its origin the identity of
the account that was signed in at the action. -/
abbrev Phone := Network cloud App (Option Identity) Unit

/-- The identity of the account that Auth has signed in, as its record has it. -/
def signedIn? (net : Phone) : Option Identity :=
  (net.clients ()).bind fun app => app.currentUser.bind fun uid =>
    (net.store.firestore.lookup (.user uid)).map fun data =>
      ⟨uid, data.string "username", data.string "profileImage"⟩

/-- The user acts, or the surroundings do. -/
def step? (net : Phone) : Event cloud Unit (AuthAction ⊕ UserAction) → Option Phone
  | .act _ (.inl action) => some (net.launch (fun _ => ()) (signedIn? net) action.perform)
  | .act _ (.inr action) => some (net.launch (fun _ => ()) (signedIn? net) action.perform)
  | .signal signal => net.signal? (fun _ => ()) signal

/-- The data carries the identity under these keys. -/
structure Names (identity : Identity) (uid username profileImage : String) (data : Dictionary) :
    Prop where
  uid : data uid = some (.string identity.uid)
  username : data username = some (.string identity.username)
  profileImage : data profileImage = some (.string identity.profileImage)

/-- A request that creates a comment, notification or post carries the identity. -/
def Carries (identity : Option Identity) : Request → Prop
  | .addDocument (.comments _) data | .addDocument (.userNotifications _) data =>
    ∃ author ∈ identity, ∀ id, Names author "uid" "username" "profileImage" (data id)
  | .addDocument .posts data =>
    ∃ author ∈ identity, ∀ id, Names author "ownerUid" "ownerUsername" "ownerProfileImage" (data id)
  | _ => True

/-- If the event creates something, it does so as the account that is signed in. -/
def Genuine (net : Phone) : Event cloud Unit (AuthAction ⊕ UserAction) → Prop
  | .act _ (.inr action) => ∀ app ∈ net.clients (), ∀ user ∈ action.author? app,
    signedIn? net = some (Identity.ofUser user)
  | _ => True

instance (net : Phone) (event : Event cloud Unit (AuthAction ⊕ UserAction)) :
    Decidable (Genuine net event) :=
  match event with
  | .act _ (.inr action) => inferInstanceAs (Decidable (∀ app ∈ net.clients (),
      ∀ user ∈ action.author? app, signedIn? net = some (Identity.ofUser user)))
  | .act _ (.inl _) | .signal _ => inferInstanceAs (Decidable True)

/-- The device signs as the account that was signed in at the action. -/
def policy (origin : Option Identity) : Policy Cloud :=
  .free (fun _ => True) (fun user => origin = some (Identity.ofUser user))
    (fun uid user => origin = some (Identity.ofUser { user with uid })) (fun _ => True)
    fun _ _ _ => True

private theorem governs (origin : Option Identity) (store : Cloud) (app : App) :
    (policy origin).Governs store app := by
  refine ⟨fun _ _ => trivial, fun _ _ => ⟨⟨trivial, trivial⟩, trivial⟩, fun _ _ => trivial,
    fun entry _ => ?_⟩
  cases entry.object <;>
    simp [Policy.object, Policy.hasUser, Policy.hasPost, Policy.hasNotification, policy, Policy.free]

def contract : Contract firebase Cloud App (Option Identity) where
  invariant _ := True
  evolves _ _ := True
  holds origin store app := (policy origin).Governs store app
  allows origin _ request := Carries origin request
  opens _ _ _ := True
  replies _ _ _ := True
  reports _ _ _ := True
  mayTrap := True
  refl _ := trivial
  trans _ _ := trivial
  holds_mono _ _ := governs _ _ _
  allows_mono _ := id
  opens_mono _ _ := trivial

private theorem lawful : cloud.Lawful contract fun _ => True where
  serve _ _ _ _ := ⟨trivial, trivial, trivial⟩
  publish _ _ _ _ := trivial

variable {origin : Option Identity}

private theorem policy_reads : (policy origin).Reads contract origin :=
  Policy.free_reads (fun _ known => known) (fun _ _ => Iff.rfl)
    (fun _ request _ => by cases request <;> trivial) (fun _ _ => trivial) (fun _ => trivial)
    fun _ _ _ => trivial

private theorem policy_registers : (policy origin).Registers contract origin where
  toReads := policy_reads
  created _ := trivial
  signed_in _ := trivial
  signed_in_with _ := trivial
  register _ _ _ _ _ := trivial

private theorem policy_writes : (policy origin).Writes contract origin where
  toReads := policy_reads
  like_counter _ _ _ := trivial
  like _ _ present := by cases present <;> exact ⟨trivial, trivial⟩
  edge _ _ _ present := by cases present <;> exact ⟨trivial, trivial⟩
  edge_notified _ _ present := by cases present <;> exact ⟨trivial, trivial⟩
  feed _ _ _ _ present := by cases present <;> trivial
  notify_follow _ _ _ signs _ _ := ⟨_, signs, fun _ => ⟨rfl, rfl, rfl⟩⟩
  notify_post _ _ _ signs _ _ _ := ⟨_, signs, fun _ => ⟨rfl, rfl, rfl⟩⟩
  comment _ signs _ _ := ⟨_, signs, fun _ => ⟨rfl, rfl, rfl⟩⟩
  upload uploads _ _ _ := ⟨_, uploads, fun _ => ⟨rfl, rfl, rfl⟩⟩
  save _ _ _ _ _ := trivial
  picture _ _ := trivial
  owner_image _ _ _ _ _ := trivial

variable {net next final : Phone} {event : Event cloud Unit (AuthAction ⊕ UserAction)}
  {events : List (Event cloud Unit (AuthAction ⊕ UserAction))}

private theorem authored_of_genuine {app : App} (running : net.clients () = some app)
    {action : UserAction} (genuine : Genuine net (.act () (.inr action))) :
    action.Authored (policy (signedIn? net)) net.store app := by
  have genuine := genuine app running
  cases action with
  | uploadOnTapShare self =>
    rintro ⟨selected, shown, caption⟩ found chosen user same uid signedIn
    obtain ⟨image, rfl⟩ := Option.isSome_iff_exists.mp chosen
    obtain rfl : shown = some user := same
    obtain signedIn : app.currentUser = some uid := signedIn
    refine genuine { user with uid } ?_
    simp [UserAction.author?, found, signedIn]
  | _ => exact genuine

/-- A step whose author is the signed-in account keeps all attributions right. -/
private theorem sound_step (sound : net.Sound contract fun _ => ()) (genuine : Genuine net event)
    (taken : step? net event = some next) : next.Sound contract fun _ => () := by
  have shared {first second : Option Identity} (_ : () = ()) {store : Cloud} {app : App}
      (_ : contract.holds first store app) : contract.holds second store app :=
    governs second store app
  cases event with
  | act client action =>
    cases action with
    | inl action =>
      obtain rfl := Option.some.inj taken
      exact sound.launch shared
        (policy_registers.keeps_perform (action.pictured_of_forall fun _ => trivial))
    | inr action =>
      obtain rfl := Option.some.inj taken
      refine sound.launch_effect shared fun app running => ?_
      exact policy_writes.effect_perform (governs _ _ app) (authored_of_genuine running genuine)
  | signal signal =>
    refine (sound.signal shared lawful ?_ taken).1
    cases signal <;> trivial

/-- While every tap that creates something is made under the identity of the signed-in account,
every comment, notification and post carries the identity that was signed in at its tap. -/
theorem writes_attributed (idle : net.flight = []) (quiet : net.listeners = [])
    (run : Run (fun net event next => Genuine net event ∧ step? net event = some next) net events
      final) : ∀ pending ∈ final.flight, Carries pending.origin pending.call.request := by
  have opened : net.Sound contract fun _ => () :=
    ⟨trivial, fun _ _ => trivial, fun _ app _ => governs _ _ app, by simp [idle], by simp [quiet]⟩
  have sound := run.invariant opened fun taken sound => sound_step sound taken.1 taken.2
  exact fun pending member => (sound.flight pending member).1

section Examples

/-- Two accounts, of which the first has one post of a third in its feed. -/
def twoAccounts : Cloud where
  firestore := ((((∅ : Firestore).insert (.user "a") (UserService.data "a@x" "" "" "a" "ann")).insert
    (.user "b") (UserService.data "b@x" "" "" "b" "bob")).insert
    (.post "p") (.ofList [("ownerUid", .string "c"), ("likes", .int 0)])).insert
    (.userFeed "a" "p") .empty
  accounts := [⟨.email "a@x" "pw", "a"⟩, ⟨.email "b@x" "pw", "b"⟩]

/-- The app opened on a device that is signed in to the first account. -/
def phone : Phone where
  store := twoAccounts
  clients _ := some { currentUser := some "a" }

def answered : Choice := .answer [] ""

/-- The tabs and the feed load, and the feed shows a cell. -/
def browsing : List (Event cloud Unit (AuthAction ⊕ UserAction)) :=
  [.act () (.inr .tabsViewDidLoad)] ++ drain [answered] ++
    [.act () (.inr (.feedViewDidLoad 0))] ++ drain [Choice.answer [.userFeed "a" "p"] ""] ++
    drain [answered] ++ drain [answered] ++
    [.act () (.inr (.feedNewCell 0)), .act () (.inr (.feedCellForItemAt 0 0 5))]

/-- The second account is signed in, and its record has been asked for but not answered. -/
def switching : List (Event cloud Unit (AuthAction ⊕ UserAction)) :=
  [.act () (.inl (.feedOnTapLogout 0)), .act () (.inl (.loginOnTapLogin 6 "b@x" "pw"))] ++
    drain [answered]

/-- A comment on the post, made on the page that this object is. -/
def commenting (page : Ref) : List (Event cloud Unit (AuthAction ⊕ UserAction)) :=
  [.act () (.inr (.feedCellOnTapComment 5)), .act () (.inr (.commentEditText page "hi")),
    .act () (.inr (.commentOnTapPost page))]

/-- The request is a comment of this account. -/
def isCommentOf (uid : Uid) : Request → Bool
  | .addDocument (.comments _) data => data "" "uid" == some (.string uid)
  | _ => false

end Examples

/-- Between another login and the answer with its record, a comment is signed by the account that
was signed in before. -/
theorem not_attributed : ¬ ∀ events final,
    Run (fun net event next => step? net event = some next) phone events final →
    ∀ pending ∈ final.flight, Carries pending.origin pending.call.request := by
  intro attributed
  have completes : (replay? step? phone
      (browsing ++ switching ++ commenting 7)).any
      (fun final => decide (∃ pending ∈ final.flight, pending.origin = some ⟨"b", "bob", ""⟩ ∧
        isCommentOf "a" pending.call.request = true)) = true := by
    decide +kernel
  obtain ⟨final, run, pending, member, origin, comment⟩ := exists_run_of_replay? completes
  have carries := attributed _ final run pending member
  rw [origin] at carries
  unfold isCommentOf at comment
  split at comment
  · next post data same =>
    rw [same] at carries
    obtain ⟨author, ⟨⟩, names⟩ := carries
    rw [(names "").uid] at comment
    simp at comment
  · cases comment

/-- The account that was signed in all along comments. -/
theorem writes_attributed_comment : ∃ final,
    Run (fun net event next => Genuine net event ∧ step? net event = some next) phone
      (browsing ++ commenting 6) final ∧
    (∃ pending ∈ final.flight, isCommentOf "a" pending.call.request = true) ∧
    ∀ pending ∈ final.flight, Carries pending.origin pending.call.request := by
  have completes : (replay? (fun net event => if Genuine net event then step? net event else none)
      phone (browsing ++ commenting 6)).any
      (fun final => decide (∃ pending ∈ final.flight, isCommentOf "a" pending.call.request = true)) =
        true := by
    decide +kernel
  obtain ⟨final, run, written⟩ := exists_run_of_replay? completes
  have genuine := run.mono fun {state label next} taken =>
    show Genuine state label ∧ step? state label = some next by
      split_ifs at taken with genuine
      exact ⟨genuine, taken⟩
  exact ⟨final, genuine, written, writes_attributed rfl rfl genuine⟩

end Attribution

end InstagramClone
