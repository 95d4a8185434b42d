import InstagramClone.Discipline.Controllers

/-! # Like counters never go negative

A post's counter is written from copies that devices hold, and copies are decoded from stored
posts or counted up and down on the device. The bound holds of all of them at once: of stored
posts, of writes in flight and of copies. Neither failures nor the order of answers matter.
-/

namespace InstagramClone

open Async

/-- The posts that a heap object holds. -/
def Object.posts : Object → List Post
  | feed controller => controller.post.toList ++ controller.posts
  | feedCell cell => cell.viewModel.toList
  | profile controller => controller.posts
  | comment controller => [controller.post]
  | capturedPosts posts => posts
  | editProfile _ | notification _ | notificationCell _ | search _ | uploadPost _
  | authentication _ | capturedComments _ => []

/-- The posts held by the object at a reference. -/
def App.posts (app : App) (holder : Ref) : List Post :=
  (app.objects[holder]?.map fun entry => entry.object.posts).getD []

namespace LikesBound

variable {ι : Type}

/-- The data of a post whose counter is at least 0. -/
def Counted (data : Dictionary) : Prop := ∃ likes, data "likes" = some (.int likes) ∧ 0 ≤ likes

/-- The request writes no counter below 0. -/
def Counts : Request → Prop
  | .setData (.post _) data => Counted data
  | .updateData (.post _) fields => fields "likes" = none ∨ Counted fields
  | .addDocument .posts data => ∀ id, Counted (data id)
  | _ => True

/-- A session signs in and out, uses the app, or likes and unlikes a post held by some object. -/
inductive SessionAction where
  | auth (action : AuthAction)
  | user (action : UserAction)
  | likePost (holder : Ref) (index : ℕ)
  | unlikePost (holder : Ref) (index : ℕ)

/-- Go on with a post held by an object. -/
def withPost (holder : Ref) (index : ℕ) (body : Post → Code App) : Code App :=
  .inspect fun app =>
    match (app.posts holder)[index]? with
    | none => .done
    | some post => body post

def SessionAction.perform : SessionAction → Code App
  | auth action => action.perform
  | user action => action.perform
  | likePost holder index => withPost holder index fun post =>
      PostService.likePost post fun _ => .done
  | unlikePost holder index => withPost holder index fun post =>
      PostService.unlikePost post fun _ => .done

/-- All counters of the posts of a store are at least 0. -/
def Bounded (store : Firestore) : Prop :=
  ∀ id data, store.lookup (.post id) = some data → Counted data

section Serve

variable {store : Firestore} {data : Dictionary} {request : Request}

private theorem Counted.nonneg (counted : Counted data) : 0 ≤ data.int "likes" := by
  obtain ⟨likes, written, bound⟩ := counted
  simpa [Dictionary.int, written] using bound

private theorem Counted.updating (counted : Counted data) {fields : Dictionary}
    (counts : fields "likes" = none ∨ Counted fields) : Counted (data.updating fields) := by
  rcases counts with absent | ⟨likes, written, bound⟩
  · obtain ⟨likes, written, bound⟩ := counted
    exact ⟨likes, by simp [Dictionary.updating, absent, written], bound⟩
  · exact ⟨likes, by simp [Dictionary.updating, written], bound⟩

/-- A served request that counts keeps the bound. -/
private theorem bounded_apply (bounded : Bounded store) (counts : Counts request) (fresh : String) :
    Bounded (request.apply fresh store) := by
  have puts : request.Puts fun reference data => ∀ id, reference = .post id → Counted data := by
    cases request with
    | setData target written =>
      rintro id rfl
      exact counts
    | updateData target fields =>
      rintro stored held id rfl
      exact (held id rfl).updating counts
    | addDocument collection fields =>
      intro fresh id same
      cases collection <;> cases same
      exact counts fresh
    | _ => trivial
  intro id data stored
  exact puts.apply (fun _ data stored id same => bounded id data (same ▸ stored)) fresh _ data stored
    id rfl

end Serve

/-- Every post that a device holds has a counter from 0 on. -/
def policy : Policy Cloud :=
  .free (fun _ => True) (fun _ => True) (fun _ _ => True) (fun likes => 0 ≤ likes) fun _ _ _ => True

private theorem object_iff (store : Cloud) (object : Object) :
    policy.object store object ↔ ∀ post ∈ object.posts, 0 ≤ post.likes := by
  cases object <;>
    simp [Policy.object, Policy.hasUser, Policy.hasPost, Policy.hasNotification, policy,
      Policy.free, Object.posts, or_imp, forall_and, and_comm]

private theorem governs_iff (store : Cloud) (app : App) : policy.Governs store app ↔
    ∀ entry ∈ app.objects, ∀ post ∈ entry.object.posts, 0 ≤ post.likes := by
  simp only [← object_iff store]
  exact ⟨Policy.Governs.objects, fun objects => ⟨fun _ _ => trivial, fun _ _ =>
    ⟨⟨trivial, trivial⟩, trivial⟩, fun _ _ => trivial, objects⟩⟩

private theorem policy_mono : policy.Mono fun _ _ => True := Policy.free_mono fun _ known => known

/-- No write lowers a counter below 0, and clients may trap. -/
def contract : Contract firebase Cloud App ι where
  invariant store := Bounded store.firestore
  evolves _ _ := True
  holds _ store app := policy.Governs store app
  allows _ _ request := Counts request
  opens _ _ _ := True
  replies := fun store request => request.Replies (fun store => Bounded store.firestore) store
  reports _ _ _ := True
  mayTrap := True
  refl _ := trivial
  trans _ _ := trivial
  holds_mono _ valid := policy_mono.governs_mono trivial valid
  allows_mono _ := id
  opens_mono _ _ := trivial

variable {client : ι}

private theorem replies_iff {store : Cloud} {request : Request} {answer : request.Response} :
    (contract : Contract firebase Cloud App ι).replies store request answer ↔
      request.Replies (fun store => Bounded store.firestore) store answer :=
  Iff.rfl

private theorem policy_reads : policy.Reads (contract : Contract firebase Cloud App ι) client := by
  refine Policy.free_reads (fun _ known => known) (fun _ _ => Iff.rfl)
    (fun _ request reads => ?_) (fun _ _ => trivial) (fun {_ id data} replied => ?_)
    fun {_ _ documents} replied document listed => ?_
  · cases request <;> trivial
  · obtain ⟨bounded, stored⟩ := (replies_iff.mp replied).document
    exact (bounded id data stored).nonneg
  · obtain ⟨bounded, _, same, members⟩ := (replies_iff.mp replied).documents
    obtain rfl := Except.ok.inj same
    obtain ⟨reference, ⟨parent, -, -⟩, stored, -⟩ := (members document).mp listed
    cases reference with
    | post id => exact (bounded id _ stored).nonneg
    | _ => cases parent

private theorem policy_registers :
    policy.Registers (contract : Contract firebase Cloud App ι) client where
  toReads := policy_reads
  created _ := trivial
  signed_in _ := trivial
  signed_in_with _ := trivial
  register _ _ _ _ _ := trivial

private theorem policy_writes : policy.Writes (contract : Contract firebase Cloud App ι) client where
  toReads := policy_reads
  likes_up {likes} bound := by
    have bound : 0 ≤ likes := bound
    exact (by omega : 0 ≤ likes + 1)
  likes_down {likes} positive _ := (by omega : 0 ≤ likes - 1)
  like_counter _ likes bound := .inr ⟨likes, rfl, bound⟩
  like _ _ present := by cases present <;> exact ⟨trivial, trivial⟩
  edge _ _ _ present := by cases present <;> exact ⟨trivial, trivial⟩
  edge_notified _ _ present := by cases present <;> exact ⟨trivial, trivial⟩
  feed _ _ _ _ present := by cases present <;> trivial
  notify_follow _ _ _ _ _ _ := trivial
  notify_post _ _ _ _ _ _ _ := trivial
  comment _ _ _ _ := trivial
  upload _ _ _ _ := fun _ => ⟨0, rfl, le_refl 0⟩
  save _ _ _ _ _ := trivial
  picture _ _ := trivial
  owner_image _ _ _ _ _ := .inl rfl

/-- The backend keeps the bound, whether requests fail or not. -/
private theorem lawful : cloud.Lawful (contract : Contract firebase Cloud App ι) fun _ => True where
  serve {_ client store request next answer} _ bounded counts served := by
    rcases serve_cases served with ⟨rfl, failed⟩ | ⟨order, fresh, transfer, resolved⟩
    · exact ⟨bounded, trivial, .inl failed⟩
    · have still : Bounded next.firestore := by
        rw [(Request.resolve_firestore resolved).1]
        exact bounded_apply bounded counts fresh
      exact ⟨still, trivial, .inr ⟨still, Request.resolve_answers resolved⟩⟩
  publish _ _ _ _ := trivial

/-- A post of a device has a counter from 0 on. -/
private theorem keeps_withPost {holder : Ref} {index : ℕ} {body : Post → Code App} {store : Cloud}
    (keeps : ∀ post, policy.hasPost store post →
      (body post).Keeps (contract : Contract firebase Cloud App ι) client store) :
    (withPost holder index body).Keeps contract client store := by
  intro later app _ valid
  cases held : (app.posts holder)[index]? with
  | none => simp only [held, Program.keeps_done]
  | some post =>
    simp only [held]
    refine (keeps post ⟨trivial, ?_⟩).mono trivial
    have member := List.mem_of_getElem? held
    unfold App.posts at member
    cases there : app.objects[holder]? with
    | none => simp [there] at member
    | some entry =>
      rw [there] at member
      exact (governs_iff later app).mp valid entry (List.mem_of_getElem? there) post member

/-- Whatever a session does writes no counter below 0. -/
private theorem effect_perform (action : SessionAction) {app : App} {store : Cloud}
    (valid : policy.Governs store app) :
    (action.perform.run app).Keeps (contract : Contract firebase Cloud App ι) client store := by
  cases action with
  | auth action => exact (policy_registers.keeps_perform (action.pictured_of_forall fun _ => trivial)).run valid
  | user action =>
    refine policy_writes.effect_perform valid (UserAction.Signed.authored ?_)
    cases action with
    | feedCellOnTapLike | commentOnTapPost | profileOnTapEditProfile => exact fun _ _ => trivial
    | uploadOnTapShare => exact fun _ _ _ _ _ _ => trivial
    | _ => trivial
  | likePost holder index =>
    refine Program.Keeps.run (keeps_withPost fun post known => ?_) valid
    exact policy_writes.keeps_likePost known fun _ _ _ _ => trivial
  | unlikePost holder index =>
    refine Program.Keeps.run (keeps_withPost fun post known => ?_) valid
    exact policy_writes.keeps_unlikePost known fun _ _ _ _ => trivial

/-- Stored posts, writes in flight and the posts of all devices have counters from 0 on. -/
structure Nonnegative (net : Network cloud App ι ι) : Prop where
  documents : Bounded net.store.firestore
  requests : ∀ pending ∈ net.flight, Counts pending.call.request
  devices : ∀ client app, net.clients client = some app → ∀ entry ∈ app.objects,
    ∀ post ∈ entry.object.posts, 0 ≤ post.likes

/-- Whatever any number of sessions do from such a state, and whatever requests fail or are never
answered, no counter ever becomes negative. -/
theorem likes_nonnegative [DecidableEq ι] {net final : Network cloud App ι ι}
    {events : List (Event cloud ι SessionAction)} (start : Nonnegative net)
    (idle : net.flight = []) (quiet : net.listeners = [])
    (run : Run (fun net event next => net.event? SessionAction.perform event = some next) net events
      final) : Nonnegative final := by
  have opened : net.Sound contract id := by
    refine ⟨start.documents, fun _ _ => trivial, fun client app running => ?_, by simp [idle],
      by simp [quiet]⟩
    exact (governs_iff _ app).mpr (start.devices client app running)
  have sound : final.Sound contract id := by
    refine run.invariant opened fun taken sound => (sound.event lawful ?_ ?_ taken).1
    · intro signal _
      cases signal <;> trivial
    · exact fun client action _ app running => effect_perform action (sound.clients client app running)
  refine ⟨sound.store, fun pending member => (sound.flight pending member).1, ?_⟩
  exact fun client app running => (governs_iff _ app).mp (sound.clients client app running)

/-- The copy of a new post that both sessions hold. -/
def fresh : Post := ⟨"p", "", "", 0, "v", "", "", ⟨0, 0⟩, false⟩

def reader : User := ⟨"", "", "", "", "u", ⟨0, 0, 0⟩, false⟩

/-- A session that shows the post in its feed. -/
def showing : App where
  currentUser := some "u"
  user := some reader
  objects := [⟨.feed {}, true⟩, ⟨.feedCell ⟨some fresh, 0⟩, true⟩]

def both : Network cloud App Bool Bool where
  store := { firestore := .singleton (.post "p") (PostService.data "" ⟨0, 0⟩ "" "v" reader) }
  clients _ := some showing

/-- One session taps its like button twice, the other unlikes a stale copy after a failed like. -/
def stale : List (Event cloud Bool SessionAction) :=
  [.act true (.user (.feedCellOnTapLike 1)), .act true (.user (.feedCellOnTapLike 1)),
    .act false (.likePost 1 0), .act false (.unlikePost 1 0),
    .signal (.serve 0 (.answer [] "")), .signal (.serve 1 (.fail .permissionDenied)),
    .signal (.serve 2 (.answer [] "")), .signal (.deliver 1),
    .signal (.serve 3 (.fail .permissionDenied)), .signal (.deliver 3)]

/-- Two sessions show a new post: one taps its like button twice, the other unlikes a stale copy
after a failed like. -/
theorem likes_nonnegative_stale :
    ∃ final, Run (fun net event next => net.event? SessionAction.perform event = some next) both stale
        final ∧
      (final.store.firestore.lookup (.post "p")).bind (fun data => data "likes") = some (.int 1) ∧
      Nonnegative final := by
  have completes : (replay? (Network.event? SessionAction.perform) both stale).any
      (fun final => decide ((final.store.firestore.lookup (.post "p")).bind
        (fun data => data "likes") = some (.int 1))) = true := by
    decide +kernel
  obtain ⟨final, run, counted⟩ := exists_run_of_replay? completes
  refine ⟨final, run, counted, likes_nonnegative ⟨?_, by simp [both], ?_⟩ rfl rfl run⟩
  · intro id data stored
    by_cases same : id = "p"
    · subst same
      obtain rfl := Option.some.inj ((Finmap.lookup_singleton_eq ..).symm.trans stored)
      exact ⟨0, rfl, le_refl 0⟩
    · have absent := Finmap.mem_of_lookup_eq_some stored
      simp [both, same] at absent
  · rintro client _ ⟨⟩ entry member shown held
    simp only [showing, List.mem_cons, List.not_mem_nil, or_false] at member
    rcases member with rfl | rfl
    · simp [Object.posts] at held
    · obtain rfl : shown = fresh := by simpa [Object.posts] using held
      exact le_refl 0

end LikesBound

end InstagramClone
