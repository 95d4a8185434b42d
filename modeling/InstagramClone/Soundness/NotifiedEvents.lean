import InstagramClone.Async.Log
import InstagramClone.Discipline.Controllers

/-! # Notifications and the events they tell of

A like, comment or follow is notified by the completion handler of its last write, which does not
look at its error. So a notification tells of a stored event as long as the writes of events
succeed, and of nothing when they fail.
-/

namespace InstagramClone

open Async

/-- The request writes a like, a comment or a follow. -/
def Request.isEvent : Request → Bool
  | setData (.postLike ..) _ | setData (.userLike ..) _ | setData (.following ..) _
  | setData (.follower ..) _ | addDocument (.comments _) _ => true
  | _ => false

namespace NotifiedEvents

/-- One session, over a backend that records what it served. -/
abbrev Session := Network (cloud.recorded Request.succeeded) App Unit Unit

/-- The account's like of a post, a comment on it, or the account's follow of another, has been
stored. -/
def Happened (uid : Uid) (served : List (Served firebase)) : NotificationType → String → Prop
  | .like, post => ⟨.setData (.postLike post uid) .empty, true⟩ ∈ served ∧
      ⟨.setData (.userLike uid post) .empty, true⟩ ∈ served
  | .comment, post => ∃ data, ⟨.addDocument (.comments post) data, true⟩ ∈ served
  | .follow, other => ⟨.setData (.following uid other) .empty, true⟩ ∈ served ∧
      ⟨.setData (.follower other uid) .empty, true⟩ ∈ served

/-- What the notification is about: the post it names, or for a follow its receiver. -/
def About (receiver : Uid) (data : Dictionary) : NotificationType → String → Prop
  | .follow, about => about = receiver
  | _, about => data "postId" = some (.string about)

/-- A notification that is written tells of an event that has been stored. -/
def Preceded (uid : Uid) (served : List (Served firebase)) : Request → Prop
  | .addDocument (.userNotifications receiver) data => ∃ type about, Happened uid served type about ∧
      ∀ id, (data id) "type" = some (.int type.rawValue) ∧ About receiver (data id) type about
  | _ => True

/-- The write of an event has failed. -/
def Lost (served : List (Served firebase)) : Prop :=
  ∃ entry ∈ served, entry.request.isEvent = true ∧ entry.succeeded = false

variable {uid : Uid} {before after : List (Served firebase)}

private theorem Happened.mono {type : NotificationType} {about : String} (grows : before ⊆ after)
    (happened : Happened uid before type about) : Happened uid after type about := by
  cases type with
  | like => exact ⟨grows happened.1, grows happened.2⟩
  | comment =>
    obtain ⟨data, stored⟩ := happened
    exact ⟨data, grows stored⟩
  | follow => exact ⟨grows happened.1, grows happened.2⟩

private theorem Lost.mono (grows : before ⊆ after) (lost : Lost before) : Lost after := by
  obtain ⟨entry, member, event, failed⟩ := lost
  exact ⟨entry, grows member, event, failed⟩

private theorem Preceded.mono {request : Request} (grows : before ⊆ after)
    (preceded : Preceded uid before request) : Preceded uid after request := by
  unfold Preceded at preceded ⊢
  split
  · obtain ⟨type, about, happened, tells⟩ := preceded
    exact ⟨type, about, happened.mono grows, tells⟩
  · trivial

/-- An event write that was served has been stored, or is lost. -/
private theorem stored_or_lost {request : Request} (event : request.isEvent = true) {succeeded : Bool}
    (member : ⟨request, succeeded⟩ ∈ before) : ⟨request, true⟩ ∈ before ∨ Lost before := by
  cases succeeded with
  | true => exact .inl member
  | false => exact .inr ⟨_, member, event, rfl⟩

/-- A session of the account, in which every event that is told of has been stored or lost. -/
def policy (uid : Uid) : Policy (Recorded firebase Cloud) :=
  .free (fun current => current = uid) (fun _ => True) (fun _ _ => True) (fun _ => True)
    fun state type about => Happened uid state.served type about ∨ Lost state.served

private theorem policy_mono : (policy uid).Mono fun store later => store.served ⊆ later.served := by
  refine Policy.free_mono ?_
  intro store later type about grows event
  exact event.imp (Happened.mono grows) (Lost.mono grows)

/-- A notification is written when its event has been stored, or some event is lost. -/
def contract (uid : Uid) : Contract firebase (Recorded firebase Cloud) App Unit where
  invariant _ := True
  evolves store later := store.served ⊆ later.served
  holds _ store app := (policy uid).Governs store app
  allows _ store request := Preceded uid store.served request ∨ Lost store.served
  opens _ _ _ := True
  replies store request answer := ⟨request, request.succeeded answer⟩ ∈ store.served
  reports _ _ _ := True
  mayTrap := True
  refl _ := List.Subset.refl _
  trans := List.Subset.trans
  holds_mono grows valid := policy_mono.governs_mono grows valid
  allows_mono grows allowed := allowed.imp (Preceded.mono grows) (Lost.mono grows)
  opens_mono _ _ := trivial

private theorem lawful : (cloud.recorded Request.succeeded).Lawful (contract uid) fun _ => True where
  serve {_ _ store request next answer} _ _ _ served := by
    have recorded := (recorded_serve served).2
    refine ⟨trivial, ?_, ?_⟩
    · simp [contract, recorded]
    · simp [contract, recorded]
  publish _ _ _ _ := trivial

private theorem policy_reads : (policy uid).Reads (contract uid) () :=
  Policy.free_reads policy_mono.event_mono (fun _ _ => Iff.rfl)
    (fun _ request reads => by cases request <;> first | exact .inl trivial | cases reads)
    (fun _ _ => trivial) (fun _ => trivial) fun _ _ _ => trivial

private theorem policy_writes : (policy uid).Writes (contract uid) () where
  toReads := policy_reads
  like_counter _ _ _ := .inl trivial
  like _ _ present := by cases present <;> exact ⟨.inl trivial, .inl trivial⟩
  edge _ _ _ present := by cases present <;> exact ⟨.inl trivial, .inl trivial⟩
  edge_notified _ _ present := by cases present <;> exact ⟨.inl trivial, .inl trivial⟩
  feed _ _ _ _ present := by cases present <;> exact .inl trivial
  liked := by
    rintro store later current id answer reply rfl replied grows acknowledged
    rcases stored_or_lost rfl (grows replied) with first | lost
    · rcases stored_or_lost rfl acknowledged with second | lost
      · exact .inl ⟨first, second⟩
      · exact .inr lost
    · exact .inr lost
  commented := by
    intro store id data answer replied
    rcases stored_or_lost rfl replied with stored | lost
    · exact .inl ⟨data, stored⟩
    · exact .inr lost
  followed := by
    rintro store later current other answer reply rfl replied grows acknowledged
    rcases stored_or_lost rfl (grows replied) with first | lost
    · rcases stored_or_lost rfl acknowledged with second | lost
      · exact .inl ⟨first, second⟩
      · exact .inr lost
    · exact .inr lost
  notify_follow := by
    intro store current other user _ _ _ _ event timestamp
    exact event.imp_left fun happened => ⟨.follow, other, happened, fun _ => ⟨rfl, rfl⟩⟩
  notify_post := by
    intro store current post user type _ _ _ _ shows event timestamp
    refine event.imp_left fun happened => ⟨type, post.postId, happened, fun _ => ⟨rfl, ?_⟩⟩
    cases type with
    | follow => exact (shows rfl).elim
    | like | comment => rfl
  comment _ _ _ _ := .inl trivial
  upload _ _ _ _ := .inl trivial
  save _ _ _ _ _ := .inl trivial
  picture _ _ := .inl trivial
  owner_image _ _ _ _ _ := .inl trivial

variable {net final : Session} {events : List (Event (cloud.recorded Request.succeeded) Unit UserAction)}

/-- In every run of a session in which no write of an event fails, every notification in flight
tells of an event that has been stored before. -/
theorem notifications_preceded (session : ∀ app, net.clients () = some app →
      ∀ current ∈ app.currentUser, current = uid)
    (idle : net.flight = []) (quiet : net.listeners = [])
    (run : Run (fun net event next => net.event? UserAction.perform event = some next) net events
      final)
    (stored : ∀ entry ∈ final.store.served, entry.request.isEvent = true → entry.succeeded = true) :
    ∀ pending ∈ final.flight, Preceded uid final.store.served pending.call.request := by
  have opened : net.Sound (contract uid) id := by
    refine ⟨trivial, fun _ _ => trivial, fun client app running => ?_, by simp [idle], by simp [quiet]⟩
    refine ⟨session app running, fun _ _ => ⟨⟨trivial, trivial⟩, trivial⟩, fun _ _ => trivial,
      fun entry _ => ?_⟩
    cases entry.object <;>
      simp [Policy.object, Policy.hasUser, Policy.hasPost, Policy.hasNotification, policy, Policy.free]
  have sound : final.Sound (contract uid) id := by
    refine run.invariant opened fun taken sound => (sound.event lawful ?_ ?_ taken).1
    · intro signal _
      cases signal <;> trivial
    · intro client action _ app running
      refine policy_writes.effect_perform (sound.clients client app running)
        (UserAction.Signed.authored ?_)
      cases action with
      | feedCellOnTapLike | commentOnTapPost | profileOnTapEditProfile => exact fun _ _ => trivial
      | uploadOnTapShare => exact fun _ _ _ _ _ _ => trivial
      | _ => trivial
  intro pending member
  refine (sound.flight pending member).1.resolve_right ?_
  rintro ⟨entry, listed, event, failed⟩
  simp [stored entry listed event] at failed

section Examples

/-- A session of `u` that shows a post of `v`. -/
def session : Session where
  store := { store := { firestore := .singleton (.post "p") (.ofList [("ownerUid", .string "v")]) } }
  clients _ := some
    { currentUser := some "u"
      user := some ⟨"", "", "", "", "u", ⟨0, 0, 0⟩, false⟩
      objects := [⟨.feed {}, true⟩,
        ⟨.feedCell ⟨some ⟨"p", "", "", 0, "v", "", "", ⟨0, 0⟩, false⟩, 0⟩, true⟩] }

/-- The post is liked, and its like documents are resolved by this choice. -/
def liking (choice : Choice) : List (Event (cloud.recorded Request.succeeded) Unit UserAction) :=
  [.act () (.feedCellOnTapLike 1), .signal (.serve 1 choice), .signal (.deliver 1),
    .signal (.serve 1 choice), .signal (.deliver 1)]

def isNotification : Request → Bool
  | .addDocument (.userNotifications _) _ => true
  | _ => false

end Examples

/-- A like is notified although neither of its documents could be stored. -/
theorem not_preceded : ¬ ∀ events final,
    Run (fun net event next => net.event? UserAction.perform event = some next) session events
      final →
    ∀ pending ∈ final.flight, Preceded "u" final.store.served pending.call.request := by
  intro preceded
  have completes : (replay? (Network.event? UserAction.perform) session
      (liking (.fail .permissionDenied))).any
      (fun final => decide ((∀ entry ∈ final.store.served, entry.succeeded = false) ∧
        ∃ pending ∈ final.flight, isNotification pending.call.request = true)) = true := by
    decide +kernel
  obtain ⟨final, run, failed, pending, member, notification⟩ := exists_run_of_replay? completes
  have preceded := preceded _ final run pending member
  unfold isNotification at notification
  split at notification
  · next receiver data same =>
    rw [same] at preceded
    obtain ⟨type, about, happened, -⟩ := preceded
    cases type with
    | like => exact absurd (failed _ happened.1) (by simp)
    | comment =>
      obtain ⟨data, stored⟩ := happened
      exact absurd (failed _ stored) (by simp)
    | follow => exact absurd (failed _ happened.1) (by simp)
  · cases notification

/-- A like whose documents are stored is notified. -/
theorem notifications_preceded_like : ∃ final,
    Run (fun net event next => net.event? UserAction.perform event = some next) session
      (liking (.answer [] "")) final ∧
    (∃ pending ∈ final.flight, isNotification pending.call.request = true) ∧
    ∀ pending ∈ final.flight, Preceded "u" final.store.served pending.call.request := by
  have completes : (replay? (Network.event? UserAction.perform) session
      (liking (.answer [] ""))).any
      (fun final => decide ((∀ entry ∈ final.store.served,
          entry.request.isEvent = true → entry.succeeded = true) ∧
        ∃ pending ∈ final.flight, isNotification pending.call.request = true)) = true := by
    decide +kernel
  obtain ⟨final, run, stored, notified⟩ := exists_run_of_replay? completes
  refine ⟨final, run, notified, notifications_preceded ?_ rfl rfl run stored⟩
  rintro _ ⟨⟩ current ⟨⟩
  rfl

end NotifiedEvents

end InstagramClone
