import InstagramClone.Async.Task
import InstagramClone.Controller.MainTabController
import InstagramClone.Controller.ProfileController
import InstagramClone.Model.Contracts

/-! # Follow taps and uploads as tasks

What a device's tap on a profile page's button does to the store, and what an upload does, when
each is the only thing under way.
-/

namespace InstagramClone.FeedAgreement

open Async

open PostService (OwnedBy mem_answer_ownedBy)

variable {ι : Type}

/-- A device signed in to its account, with the account's user loaded and a profile page open. -/
structure Ready (account : ι → Uid) (page : ι → Ref) (client : ι) (app : App) : Prop where
  signedIn : app.currentUser = some (account client)
  user : app.user.isSome = true
  page : app.inTab (page client) = true

/-- The documents that a tap writes: the edge's, and the feed entries of the account's posts. -/
def Marked (follower followed : Uid) (store : Firestore) : DocumentReference → Prop
  | .following uid other => uid = follower ∧ other = followed
  | .follower uid other => uid = followed ∧ other = follower
  | .userFeed uid post => uid = follower ∧ OwnedBy store followed post
  | _ => False

/-- How a store changes while a tap is under way: marked documents only go the tap's way, and
notifications are added. -/
structure TapEvolves (follower followed : Uid) (follows : Bool) (before after : Firestore) :
    Prop where
  kept : ∀ reference, ¬ Marked follower followed before reference →
    (∀ uid, reference.parent ≠ .userNotifications uid) →
    after.lookup reference = before.lookup reference
  moves : ∀ reference, Marked follower followed before reference →
    decide (reference ∈ before) = follows → decide (reference ∈ after) = follows

namespace TapEvolves

variable {follower followed : Uid} {follows : Bool} {first second third : Firestore}

private theorem post (evolves : TapEvolves follower followed follows first second) (id : PostId) :
    second.lookup (.post id) = first.lookup (.post id) :=
  evolves.kept _ (by simp [Marked]) (by simp [DocumentReference.parent])

theorem owned (evolves : TapEvolves follower followed follows first second) (owner : Uid)
    (id : PostId) : OwnedBy second owner id ↔ OwnedBy first owner id := by
  rw [OwnedBy, OwnedBy, evolves.post]

private theorem marked (evolves : TapEvolves follower followed follows first second)
    (reference : DocumentReference) :
    Marked follower followed second reference ↔ Marked follower followed first reference := by
  cases reference <;> simp [Marked, evolves.owned]

private theorem refl (store : Firestore) : TapEvolves follower followed follows store store :=
  ⟨fun _ _ _ => rfl, fun _ _ same => same⟩

private theorem trans (left : TapEvolves follower followed follows first second)
    (right : TapEvolves follower followed follows second third) :
    TapEvolves follower followed follows first third := by
  constructor
  · intro reference unmarked apart
    rw [right.kept reference (by rwa [left.marked]) apart, left.kept reference unmarked apart]
  · intro reference marked same
    exact right.moves reference ((left.marked reference).mpr marked)
      (left.moves reference marked same)

end TapEvolves

/-- The requests of a tap: reads, notifications, and writes of marked documents. -/
def TapAllows (follower followed : Uid) (follows : Bool) (store : Firestore) (request : Request) :
    Prop :=
  (∃ reference, Marked follower followed store reference ∧ request = .put reference follows) ∨
    (∃ query, request = .getDocuments query) ∨
    ∃ uid data, request = .addDocument (.userNotifications uid) data

/-- Serving an allowed request moves the store as a tap may. -/
private theorem TapAllows.evolves {follower followed : Uid} {follows : Bool} {store : Firestore}
    {request : Request} (allowed : TapAllows follower followed follows store request)
    (fresh : String) : TapEvolves follower followed follows store (request.apply fresh store) := by
  rcases allowed with ⟨reference, marked, rfl⟩ | ⟨query, rfl⟩ | ⟨uid, data, rfl⟩
  · constructor
    · intro other unmarked _
      refine Request.lookup_apply fun touches => unmarked ?_
      rwa [← Request.touches_put.mp touches]
    · intro other _ same
      by_cases here : reference = other
      · subst here
        exact Request.has_put reference follows fresh store
      · rw [← same, decide_eq_decide]
        exact Request.mem_apply_of_not_touches fun touches => here (Request.touches_put.mp touches)
  · exact TapEvolves.refl store
  · have apart (other : DocumentReference) (parent : other.parent ≠ .userNotifications uid) :
        ¬ (Request.addDocument (.userNotifications uid) data).Touches other :=
      fun touches => parent touches.symm
    constructor
    · intro other _ outside
      exact Request.lookup_apply (apart other (outside uid))
    · intro other marked same
      rw [← same, decide_eq_decide]
      refine Request.mem_apply_of_not_touches (apart other ?_)
      cases other <;> simp [Marked, DocumentReference.parent] at marked ⊢

private theorem Ready.modify {account : ι → Uid} {page : ι → Ref} {client : ι} {app : App}
    (ready : Ready account page client app) {α : Type} [Instance α] (ref : Ref) (change : α → α) :
    Ready account page client (app.modify ref change) :=
  ⟨ready.signedIn, ready.user, by rw [App.inTab_modify]; exact ready.page⟩

private theorem Ready.add {account : ι → Uid} {page : ι → Ref} {client : ι} {app : App}
    (ready : Ready account page client app) (object : Object) (inTab : Bool) :
    Ready account page client (app.add object inTab) :=
  ⟨ready.signedIn, ready.user, App.inTab_add ready.page object inTab⟩

/-- What a tap brings about: the edge and the feed entries of the account's posts. -/
def tapGoals (follower followed : Uid) (follows : Bool) : Set (Cloud → Prop) :=
  insert (fun store => decide (.following follower followed ∈ store.firestore) = follows)
    (Set.range fun post store => OwnedBy store.firestore followed post →
      decide (.userFeed follower post ∈ store.firestore) = follows)

/-- A tap on the button of a page that shows another account. -/
def tap (account : ι → Uid) (page : ι → Ref) (follower followed : Uid) (follows : Bool) :
    Task cloud (fun choice => choice.smooth = true) id (Ready account page) where
  contract :=
    { invariant := fun _ => True
      evolves := fun before after =>
        TapEvolves follower followed follows before.firestore after.firestore
      holds := fun client _ app => Ready account page client app
      allows := fun _ store request => TapAllows follower followed follows store.firestore request
      opens := fun _ _ _ => False
      replies := fun store request answer => request.Answers store answer
      reports := fun _ _ _ => True
      mayTrap := False
      refl := fun store => .refl store.firestore
      trans := fun left right => left.trans right
      holds_mono := fun _ ready => ready
      allows_mono := fun evolves allowed => allowed.imp_left fun ⟨reference, marked, same⟩ =>
        ⟨reference, (evolves.marked reference).mpr marked, same⟩
      opens_mono := fun _ opened => opened }
  goals := tapGoals follower followed follows
  lawful :=
    { serve := by
        intro choice origin store request next answer smooth _ allowed served
        obtain ⟨order, fresh, transfer, resolved⟩ := serve_succeeds (Choice.smooth_succeeds smooth) served
        refine ⟨trivial, ?_, Request.resolve_answers resolved⟩
        dsimp only
        rw [(Request.resolve_firestore resolved).1]
        exact TapAllows.evolves allowed fresh
      publish := fun _ _ _ _ => trivial }
  mayNot := id
  holds_iff _ _ _ := Iff.rfl
  closed _ _ _ := id
  protects := by
    rintro goal (rfl | ⟨post, rfl⟩) before after evolves met
    · exact evolves.moves _ ⟨rfl, rfl⟩ met
    · intro owned
      have before := (evolves.owned followed post).mp owned
      exact evolves.moves _ ⟨rfl, before⟩ (met before)

section Tap

variable {account : ι → Uid} {page : ι → Ref} {client : ι} {store : Cloud} {user : User}
  {follows : Bool}

private theorem keeps_setIsFollowed {follower followed : Uid} (ref : Ref) (isFollowed : Bool) :
    (ProfileController.setIsFollowed ref isFollowed).Keeps
      (tap account page follower followed follows).contract client store :=
  Code.keeps_modify fun _ _ _ ready => ready.modify ref _

private theorem keeps_addNotification {follower followed : Uid} (uid : Uid) (fromUser : User)
    (type : NotificationType) : (NotificationService.addNotification uid fromUser type).Keeps
      (tap account page follower followed follows).contract client store := by
  refine Code.keeps_withCurrentUser fun later state current evolves ready signedIn => ?_
  split_ifs
  · trivial
  · refine Code.keeps_withTimestamp fun last timestamp beyond => ?_
    exact Program.keeps_post.mpr (.inr (.inr ⟨uid, _, rfl⟩))

/-- The writes of feed entries keep the tap's contract, once the account's posts are known. -/
private theorem keeps_feed {posts : List PostId} {later : Cloud}
    (owned : ∀ post ∈ posts, OwnedBy later.firestore user.uid post) :
    (Program.forEach posts fun post =>
      .post (Request.put (.userFeed (account client) post) follows)).Keeps
      (tap account page (account client) user.uid follows).contract client later :=
  Program.keeps_forEach fun post member =>
    Program.keeps_post.mpr (.inl ⟨.userFeed (account client) post, ⟨rfl, owned post member⟩, rfl⟩)

private theorem keeps_updateUserFeed : (PostService.updateUserFeed user).Keeps
    (tap account page (account client) user.uid true).contract client store := by
  refine Code.keeps_withCurrentUser fun later app uid _ ready signedIn => ?_
  obtain rfl : account client = uid := Option.some.inj (ready.signedIn.symm.trans signedIn)
  refine Code.keeps_call (.inr (.inl ⟨_, rfl⟩)) fun last answer _ answers => ?_
  cases answer with
  | error => trivial
  | ok documents => exact keeps_feed fun post member => (mem_answer_ownedBy answers post).mp member

private theorem keeps_removeUserFeed : (PostService.removeUserFeed user).Keeps
    (tap account page (account client) user.uid false).contract client store := by
  refine Code.keeps_withCurrentUser fun later app uid _ ready signedIn => ?_
  obtain rfl : account client = uid := Option.some.inj (ready.signedIn.symm.trans signedIn)
  refine Code.keeps_call (.inr (.inl ⟨_, rfl⟩)) fun last answer _ answers => ?_
  cases answer with
  | error =>
    obtain ⟨_, impossible, -⟩ := answers
    cases impossible
  | ok documents =>
    refine Program.keeps_forEach fun document member => Program.keeps_post.mpr (.inl ?_)
    have owned := (mem_answer_ownedBy answers _).mp (List.mem_map_of_mem member)
    exact ⟨.userFeed (account client) document.documentID, ⟨rfl, owned⟩, rfl⟩

/-- The two requests that write an edge, the second issued when the first is answered. -/
def writeEdge (user : User) (completion : Option BackendError → Code App) : Bool → Code App
  | true => UserService.follow user.uid completion
  | false => UserService.unFollow user.uid completion

private theorem keeps_writeEdge {completion : Option BackendError → Code App}
    (keeps : ∀ later error, (completion error).Keeps
      (tap account page (account client) user.uid follows).contract client later) :
    (writeEdge user completion follows).Keeps
      (tap account page (account client) user.uid follows).contract client store := by
  cases follows with
  | true =>
    refine Code.keeps_withCurrentUser fun later app uid _ ready current => ?_
    obtain rfl : account client = uid := Option.some.inj (ready.signedIn.symm.trans current)
    refine Code.keeps_call (.inl ⟨.following (account client) user.uid, ⟨rfl, rfl⟩, rfl⟩)
      fun last answer _ _ => ?_
    exact Code.keeps_call (.inl ⟨.follower user.uid (account client), ⟨rfl, rfl⟩, rfl⟩)
      fun final error _ _ => keeps final error
  | false =>
    refine Code.keeps_withCurrentUser fun later app uid _ ready current => ?_
    obtain rfl : account client = uid := Option.some.inj (ready.signedIn.symm.trans current)
    refine Code.keeps_call (.inl ⟨.following (account client) user.uid, ⟨rfl, rfl⟩, rfl⟩)
      fun last answer _ _ => ?_
    exact Code.keeps_call (.inl ⟨.follower user.uid (account client), ⟨rfl, rfl⟩, rfl⟩)
      fun final error _ _ => keeps final error

/-- What the first request makes of the edge's document, and what the handler brings about. -/
private theorem brings_writeEdge {completion : Option BackendError → Code App} {goal : Cloud → Prop}
    (protects : (tap account page (account client) user.uid follows).contract.Protects goal)
    (brings : (∀ before fresh after, after.firestore =
        (Request.put (.following (account client) user.uid) follows).apply fresh before →
          goal after) ∨
      ∀ later error, (completion error).Brings
        (tap account page (account client) user.uid follows).contract
        (fun choice => choice.smooth = true) goal client later) :
    (writeEdge user completion follows).Brings
      (tap account page (account client) user.uid follows).contract
      (fun choice => choice.smooth = true) goal client store := by
  cases follows with
  | true =>
    intro later app _ ready
    simp only [show Device.currentUser app = some (account client) from ready.signedIn]
    refine .inr fun last choice after answer _ _ smooth served => ?_
    rcases brings with written | completes
    · obtain ⟨fresh, applied, -⟩ := serve_firestore (Choice.smooth_succeeds smooth) served
      exact .of_goal protects (written _ fresh _ applied)
    · exact .inr fun _ _ final error _ _ _ _ => completes final error
  | false =>
    intro later app _ ready
    simp only [show Device.currentUser app = some (account client) from ready.signedIn]
    refine .inr fun last choice after answer _ _ smooth served => ?_
    rcases brings with written | completes
    · obtain ⟨fresh, applied, -⟩ := serve_firestore (Choice.smooth_succeeds smooth) served
      exact .of_goal protects (written _ fresh _ applied)
    · exact .inr fun _ _ final error _ _ _ _ => completes final error

/-- The feed entry of a post, as a goal of a tap. -/
def feedGoal (follower followed : Uid) (follows : Bool) (post : PostId) (store : Cloud) : Prop :=
  OwnedBy store.firestore followed post →
    decide (.userFeed follower post ∈ store.firestore) = follows

private theorem protects_feedGoal {follower followed : Uid} (post : PostId) :
    (tap account page follower followed follows).contract.Protects
      (feedGoal follower followed follows post) :=
  (tap account page follower followed follows).protects _ (.inr ⟨post, rfl⟩)

/-- Once the account's posts are answered, the loop over them writes each feed entry. -/
private theorem brings_feed {posts : List PostId} {later : Cloud}
    (listed : ∀ post, post ∈ posts ↔ OwnedBy later.firestore user.uid post) (post : PostId) :
    (Program.forEach posts fun post =>
      .post (Request.put (.userFeed (account client) post) follows)).Brings
      (tap account page (account client) user.uid follows).contract
      (fun choice => choice.smooth = true)
      (feedGoal (account client) user.uid follows post) client later := by
  by_cases owned : post ∈ posts
  · refine Program.brings_forEach id (protects_feedGoal post) owned (fun other member =>
      Program.keeps_post.mpr (.inl ⟨.userFeed (account client) other,
        ⟨rfl, (listed other).mp member⟩, rfl⟩)) (.inr ?_)
    intro last choice after answer _ _ smooth served
    obtain ⟨fresh, applied, -⟩ := serve_firestore (Choice.smooth_succeeds smooth) served
    refine Program.Brings.of_goal (protects_feedGoal post) fun _ => ?_
    rw [applied]
    exact Request.has_put ..
  · exact .of_goal (protects_feedGoal post) fun mine => absurd ((listed post).mpr mine) owned

private theorem brings_updateUserFeed (post : PostId) : (PostService.updateUserFeed user).Brings
    (tap account page (account client) user.uid true).contract
    (fun choice => choice.smooth = true)
    (feedGoal (account client) user.uid true post) client store := by
  intro later app _ ready
  simp only [show Device.currentUser app = some (account client) from ready.signedIn]
  refine .inr fun last choice after answer _ _ smooth served => ?_
  obtain ⟨order, fresh, transfer, resolved⟩ := serve_succeeds (Choice.smooth_succeeds smooth) served
  have answers := Request.resolve_answers resolved
  cases answer with
  | error =>
    obtain ⟨_, impossible, -⟩ := answers
    cases impossible
  | ok documents => exact brings_feed (mem_answer_ownedBy answers) post

private theorem brings_removeUserFeed (post : PostId) : (PostService.removeUserFeed user).Brings
    (tap account page (account client) user.uid false).contract
    (fun choice => choice.smooth = true)
    (feedGoal (account client) user.uid false post) client store := by
  intro later app _ ready
  simp only [show Device.currentUser app = some (account client) from ready.signedIn]
  refine .inr fun last choice after answer _ _ smooth served => ?_
  obtain ⟨order, fresh, transfer, resolved⟩ := serve_succeeds (Choice.smooth_succeeds smooth) served
  have answers := Request.resolve_answers resolved
  cases answer with
  | error =>
    obtain ⟨_, impossible, -⟩ := answers
    cases impossible
  | ok documents =>
    have loop : (Program.forEach documents fun document =>
        Program.post (I := firebase) (σ := App)
          (Request.delete (.userFeed (account client) document.documentID))) =
        Program.forEach (documents.map Document.documentID) fun post =>
          .post (Request.put (.userFeed (account client) post) false) := by
      simp only [Program.forEach, List.foldr_map]
      rfl
    dsimp only
    rw [loop]
    exact brings_feed (mem_answer_ownedBy answers) post

/-- The handler of a tap's edge writes. -/
def tapped (page : Ref) (user : User) (currentUser : User) : Bool → Code App
  | true => .seq (ProfileController.setIsFollowed page true) <|
    .seq (NotificationService.addNotification user.uid currentUser .follow) <|
    PostService.updateUserFeed user
  | false => .seq (ProfileController.setIsFollowed page false) <| PostService.removeUserFeed user

private theorem keeps_tapped (ref : Ref) (currentUser : User) :
    (tapped ref user currentUser follows).Keeps
    (tap account page (account client) user.uid follows).contract client store := by
  cases follows with
  | true =>
    exact (keeps_setIsFollowed ref true).seq
      ((keeps_addNotification user.uid currentUser .follow).seq keeps_updateUserFeed)
  | false => exact (keeps_setIsFollowed ref false).seq keeps_removeUserFeed

private theorem brings_tapped (ref : Ref) (currentUser : User) (post : PostId) :
    (tapped ref user currentUser follows).Brings
      (tap account page (account client) user.uid follows).contract
      (fun choice => choice.smooth = true)
      (feedGoal (account client) user.uid follows post) client store := by
  cases follows with
  | true =>
    refine .seq id (protects_feedGoal post) (keeps_setIsFollowed ref true) ?_
    exact .seq id (protects_feedGoal post) (keeps_addNotification user.uid currentUser .follow)
      (brings_updateUserFeed post)
  | false =>
    exact .seq id (protects_feedGoal post) (keeps_setIsFollowed ref false)
      (brings_removeUserFeed post)

/-- The code of a tap on a page that shows another account. -/
theorem onTapButtonFor_other {app : App} (other : app.currentUser ≠ some user.uid) (ref : Ref)
    (currentUser : User) : (if ProfileController.isCurrentUser app user then
        ProfileController.showEditProfileController ref
      else if user.isFollowed then
        UserService.unFollow user.uid fun _ =>
          .seq (ProfileController.setIsFollowed ref false) <| PostService.removeUserFeed user
      else
        UserService.follow user.uid fun _ =>
          .seq (ProfileController.setIsFollowed ref true) <|
          .seq (NotificationService.addNotification user.uid currentUser .follow) <|
          PostService.updateUserFeed user) =
      writeEdge user (fun _ => tapped ref user currentUser (!user.isFollowed))
        (!user.isFollowed) := by
  have elsewhere : ProfileController.isCurrentUser app user = false := by
    simpa [ProfileController.isCurrentUser] using other
  rw [elsewhere]
  cases user.isFollowed <;> rfl

theorem keeps_tap (other : account client ≠ user.uid) (ref : Ref) :
    (ProfileController.onTapButtonFor ref user).Keeps
      (tap account page (account client) user.uid (!user.isFollowed)).contract client store := by
  refine Code.keeps_withTabUser fun later app currentUser _ _ _ _ last state _ ready => ?_
  have elsewhere : state.currentUser ≠ some user.uid := by
    rw [ready.signedIn]
    exact fun same => other (Option.some.inj same)
  dsimp only
  rw [onTapButtonFor_other elsewhere]
  exact keeps_writeEdge fun _ _ => keeps_tapped ref currentUser

theorem brings_tap (other : account client ≠ user.uid) :
    ∀ goal ∈ tapGoals (account client) user.uid (!user.isFollowed),
      (ProfileController.onTapButtonFor (page client) user).Brings
        (tap account page (account client) user.uid (!user.isFollowed)).contract
        (fun choice => choice.smooth = true) goal client store := by
  intro goal member later app _ ready
  obtain ⟨currentUser, shown⟩ := Option.isSome_iff_exists.mp ready.user
  simp only [ready.page, shown]
  intro last state _ ready
  have elsewhere : state.currentUser ≠ some user.uid := by
    rw [ready.signedIn]
    exact fun same => other (Option.some.inj same)
  dsimp only
  rw [onTapButtonFor_other elsewhere]
  refine brings_writeEdge ((tap account page _ _ _).protects goal member) ?_
  rcases member with rfl | ⟨post, rfl⟩
  · refine .inl fun before fresh after applied => ?_
    dsimp only
    rw [applied]
    exact Request.has_put ..
  · exact .inr fun _ _ => brings_tapped _ currentUser post

end Tap

/-- How a store changes while an upload is under way: posts of its account are added. -/
structure UploadEvolves (owner : Uid) (before after : Cloud) : Prop where
  kept : ∀ reference, (reference.parent = .posts → reference ∈ before.firestore) →
    after.firestore.lookup reference = before.firestore.lookup reference
  added : ∀ post, .post post ∉ before.firestore → .post post ∈ after.firestore →
    OwnedBy after.firestore owner post
  objects : ∀ object ∈ before.objects, object ∈ after.objects

namespace UploadEvolves

variable {owner : Uid} {first second third : Cloud}

private theorem refl (store : Cloud) : UploadEvolves owner store store :=
  ⟨fun _ _ => rfl, fun _ absent present => absurd present absent, fun _ => id⟩

theorem post (evolves : UploadEvolves owner first second) {id : PostId}
    (present : .post id ∈ first.firestore) :
    second.firestore.lookup (.post id) = first.firestore.lookup (.post id) :=
  evolves.kept _ fun _ => present

private theorem mem_post (evolves : UploadEvolves owner first second) {id : PostId}
    (present : .post id ∈ first.firestore) : .post id ∈ second.firestore := by
  rw [Finmap.mem_iff, evolves.post present]
  exact Finmap.mem_iff.mp present

theorem other (evolves : UploadEvolves owner first second) {reference : DocumentReference}
    (apart : reference.parent ≠ .posts) :
    reference ∈ second.firestore ↔ reference ∈ first.firestore := by
  rw [Finmap.mem_iff, Finmap.mem_iff, evolves.kept _ fun same => absurd same apart]

private theorem trans (left : UploadEvolves owner first second)
    (right : UploadEvolves owner second third) :
    UploadEvolves owner first third := by
  refine ⟨fun reference known => ?_, fun post absent present => ?_, fun object member =>
    right.objects object (left.objects object member)⟩
  · rw [right.kept reference, left.kept reference known]
    intro inPosts
    rw [Finmap.mem_iff, left.kept reference known]
    exact Finmap.mem_iff.mp (known inPosts)
  · by_cases between : .post post ∈ second.firestore
    · rw [OwnedBy, right.post between]
      exact left.added post absent between
    · exact right.added post between present

end UploadEvolves

/-- The requests of an upload: of the image, of a post that names its owner, and the reads that
refresh the feed. -/
def UploadAllows (owner : Uid) (request : Request) : Prop :=
  (∃ data, request = .putData data) ∨ (∃ object, request = .downloadURL object) ∨
    (∃ data, request = .addDocument .posts data ∧
      ∀ id, (data id) "ownerUid" = some (.string owner)) ∨
    (∃ reference, request = .getDocument reference) ∨ ∃ query, request = .getDocuments query

private theorem UploadAllows.evolves {owner : Uid} {request : Request}
    (allowed : UploadAllows owner request) {order : List DocumentReference} {fresh : String}
    {transfer : Transfer} {store next : Cloud} {answer : request.Response}
    (resolved : request.resolve order fresh transfer store = some (next, answer)) :
    UploadEvolves owner store next := by
  rcases allowed with ⟨data, rfl⟩ | ⟨object, rfl⟩ | ⟨data, rfl, owned⟩ | ⟨reference, rfl⟩ |
    ⟨query, rfl⟩
  · simp only [Request.resolve] at resolved
    split_ifs at resolved
    obtain ⟨rfl, -⟩ := Prod.mk.inj (Option.some.inj resolved)
    exact ⟨fun _ _ => rfl, fun _ absent present => absurd present absent, fun _ =>
      List.mem_cons_of_mem _⟩
  · obtain ⟨rfl, -⟩ := Prod.mk.inj (Option.some.inj resolved)
    exact UploadEvolves.refl store
  · simp only [Request.resolve] at resolved
    split_ifs at resolved with drawn
    obtain ⟨rfl, -⟩ := Prod.mk.inj (Option.some.inj resolved)
    have absent : .post fresh ∉ store.firestore := fun present =>
      drawn.2 (.post fresh) (Finmap.mem_keys.mpr present)
        (by simp [DocumentReference.ids, DocumentReference.documentID])
    refine ⟨fun reference known => ?_, fun post new present => ?_, fun _ => id⟩
    · have elsewhere : reference ≠ .post fresh := by
        rintro rfl
        exact absent (known rfl)
      simp [CollectionReference.document, elsewhere]
    · have same : post = fresh := by
        by_contra differs
        refine new ?_
        simpa [CollectionReference.document, differs] using present
      subst same
      simp [OwnedBy, CollectionReference.document, owned]
  · obtain ⟨rfl, -⟩ := Prod.mk.inj (Option.some.inj resolved)
    exact UploadEvolves.refl store
  · obtain ⟨_, -, same⟩ := Option.map_eq_some_iff.mp resolved
    obtain ⟨rfl, -⟩ := Prod.mk.inj same
    exact UploadEvolves.refl store

/-- A new post of the owner, as the goal of an upload. -/
def uploadGoal (owner : Uid) (start : Firestore) (store : Cloud) : Prop :=
  ∃ post, .post post ∉ start ∧ OwnedBy store.firestore owner post

private theorem UploadEvolves.protects {owner : Uid} {start : Firestore} {before after : Cloud}
    (evolves : UploadEvolves owner before after) (met : uploadGoal owner start before) :
    uploadGoal owner start after := by
  obtain ⟨post, new, owned⟩ := met
  refine ⟨post, new, ?_⟩
  rw [OwnedBy, evolves.post owned.mem]
  exact owned

/-- An upload of a picked image. -/
def upload (account : ι → Uid) (page : ι → Ref) (owner : Uid) (start : Firestore) :
    Task cloud (fun choice => choice.smooth = true) id (Ready account page) where
  contract :=
    { invariant := fun _ => True
      evolves := UploadEvolves owner
      holds := fun client _ app => Ready account page client app
      allows := fun _ _ request => UploadAllows owner request
      opens := fun _ _ _ => False
      replies := fun _ request answer => request.Steady answer
      reports := fun _ _ _ => True
      mayTrap := False
      refl := .refl
      trans := .trans
      holds_mono := fun _ ready => ready
      allows_mono := fun _ allowed => allowed
      opens_mono := fun _ opened => opened }
  goals := {uploadGoal owner start}
  lawful :=
    { serve := by
        intro choice origin store request next answer smooth _ allowed served
        obtain ⟨order, fresh, transfer, resolved⟩ := serve_succeeds (Choice.smooth_succeeds smooth) served
        exact ⟨trivial, UploadAllows.evolves allowed resolved,
          Request.steady_serve (Choice.smooth_steady smooth) served⟩
      publish := fun _ _ _ _ => trivial }
  mayNot := id
  holds_iff _ _ _ := Iff.rfl
  closed _ _ _ := id
  protects := by
    rintro goal rfl before after evolves met
    exact evolves.protects met

/-- An operation that issues nothing: a tap on one's own page, or an image that has no data. -/
def inert (account : ι → Uid) (page : ι → Ref) :
    Task cloud (fun choice => choice.smooth = true) id (Ready account page) where
  contract :=
    { invariant := fun _ => True
      evolves := fun before after => after = before
      holds := fun client _ app => Ready account page client app
      allows := fun _ _ _ => False
      opens := fun _ _ _ => False
      replies := fun _ _ _ => True
      reports := fun _ _ _ => True
      mayTrap := False
      refl := fun _ => rfl
      trans := fun left right => right.trans left
      holds_mono := fun _ ready => ready
      allows_mono := fun _ allowed => allowed
      opens_mono := fun _ opened => opened }
  goals := ∅
  lawful := ⟨fun _ _ allowed _ => allowed.elim, fun _ _ _ _ => trivial⟩
  mayNot := id
  holds_iff _ _ _ := Iff.rfl
  closed _ _ _ := id
  protects := fun _ member => member.elim

section Upload

variable {account : ι → Uid} {page : ι → Ref} {client : ι} {store : Cloud} {start : Firestore}
  {caption : String} {image : UIImage} {user : User}

private theorem keeps_isUserLikedPost (ref : Ref) : (FeedController.isUserLikedPost ref).Keeps
    (upload account page (account client) start).contract client store := by
  have read (post : Post) (completion : Bool → Code App)
      (keeps : ∀ later liked, (completion liked).Keeps
        (upload account page (account client) start).contract client later) (store : Cloud) :
      (PostService.isUserLikedPost post completion).Keeps
        (upload account page (account client) start).contract client store := by
    refine Code.keeps_withCurrentUser fun _ _ _ _ _ _ => ?_
    refine Code.keeps_call (.inr (.inr (.inr (.inl ⟨_, rfl⟩)))) fun later answer _ _ => ?_
    cases answer with
    | error => trivial
    | ok snapshot => exact keeps later _
  refine Code.keeps_withObject fun later _ feed _ _ _ => ?_
  cases feed.post with
  | some post =>
    exact read post _ (fun _ _ => Code.keeps_modify fun _ _ _ ready => ready.modify ref _) later
  | none =>
    refine Program.keeps_forEach fun post _ => ?_
    exact read post _ (fun _ _ => Code.keeps_modify fun _ _ _ ready => ready.modify ref _) later

private theorem keeps_fetchPosts (ref : Ref) : (FeedController.fetchPosts ref).Keeps
    (upload account page (account client) start).contract client store := by
  have setPosts (posts : List Post) (later : Cloud) :
      (Code.modify ref fun feed : FeedController => { feed with posts }).Keeps
        (upload account page (account client) start).contract client later :=
    Code.keeps_modify fun _ _ _ ready => ready.modify ref _
  have deliver (posts : Ref) (later : Cloud) :
      (Code.withObject posts fun posts : List Post =>
        .seq (Code.modify ref fun feed : FeedController => { feed with posts }) <|
        FeedController.isUserLikedPost ref).Keeps
        (upload account page (account client) start).contract client later :=
    Code.keeps_withObject fun _ _ posts _ _ _ => (setPosts posts _).seq (keeps_isUserLikedPost ref)
  refine Code.keeps_withObject fun _ _ feed _ _ _ => ?_
  split_ifs
  · refine Code.keeps_withCurrentUser fun _ _ uid _ _ _ => ?_
    refine Code.keeps_alloc (fun _ _ _ ready => ready.add _ _) fun _ app _ _ => ?_
    have append (post : Post) (later : Cloud) :
        (Code.modify app.objects.length fun list : List Post => list ++ [post]).Keeps
          (upload account page (account client) start).contract client later :=
      Code.keeps_modify fun _ _ _ ready => ready.modify _ _
    refine Code.keeps_call (.inr (.inr (.inr (.inr ⟨_, rfl⟩)))) fun later answer _ _ => ?_
    cases answer with
    | error => exact deliver _ later
    | ok documents =>
      have none : (if documents.isEmpty then Code.withObject app.objects.length fun posts : List Post =>
          .seq (Code.modify ref fun feed : FeedController => { feed with posts }) <|
          FeedController.isUserLikedPost ref else .done).Keeps
          (upload account page (account client) start).contract client later := by
        split_ifs
        · exact deliver _ later
        · trivial
      refine none.seq (Program.keeps_forEach fun document _ => ?_)
      refine Code.keeps_call (.inr (.inr (.inr (.inl ⟨_, rfl⟩)))) fun last answer _ _ => ?_
      rcases answer with _ | _ | data
      · trivial
      · trivial
      · exact Code.keeps_withTimestamp fun last _ _ => (append _ last).seq (deliver _ last)
  · trivial

/-- An upload as the upload page does it: the feed is refreshed when the post is stored. -/
def postAnImage (caption : String) (image : UIImage) (user : User) : Code App :=
  PostService.postAnImage caption image user fun
    | some _ => .done
    | none => MainTabController.didFinishUploadPost

theorem keeps_upload : (postAnImage caption image user).Keeps
    (upload account page (account client) start).contract client store := by
  refine Code.keeps_withCurrentUser fun later app uid _ ready current => ?_
  obtain rfl : account client = uid := Option.some.inj (ready.signedIn.symm.trans current)
  refine ImageUploaderService.keeps_uploadImage (fun data => .inl ⟨data, rfl⟩)
    (fun _ _ _ steady wild => Bool.false_ne_true (wild.symm.trans steady))
    (fun _ _ _ ref _ _ _ => .inr (.inl ⟨ref, rfl⟩)) fun later _ url _ _ => ?_
  refine Code.keeps_withTimestamp fun last timestamp _ => ?_
  refine Code.keeps_call (.inr (.inr (.inl ⟨_, rfl, fun _ => rfl⟩))) fun last error _ _ => ?_
  cases error with
  | some error => trivial
  | none =>
    intro later app _ _
    dsimp only
    cases app.viewControllers with
    | nil => trivial
    | cons feed rest => exact keeps_fetchPosts feed

theorem brings_upload (data : Bytes) (encoded : image.jpegData = some data)
    (kept : ∀ post, .post post ∈ start → .post post ∈ store.firestore) :
    (postAnImage caption image user).Brings (upload account page (account client) start).contract
      (fun choice => choice.smooth = true) (uploadGoal (account client) start) client store := by
  intro later app evolves ready
  simp only [show Device.currentUser app = some (account client) from ready.signedIn,
    ImageUploaderService.uploadImage, encoded]
  refine .inr fun put _ putAfter putAnswer toPut _ smooth served => ?_
  obtain ⟨steady, object, stored, rfl⟩ := serve_smooth smooth served
  rw [ImageUploaderService.handleStored_ok steady stored]
  refine .inr fun got _ gotAfter gotAnswer toGot _ smooth served => ?_
  obtain ⟨_, _, _, resolved⟩ := serve_succeeds (Choice.smooth_succeeds smooth) served
  obtain ⟨rfl, rfl⟩ := Prod.mk.inj (Option.some.inj resolved)
  have held : object ∈ got.objects := toGot.objects object (List.mem_cons_self ..)
  simp only [held, if_true, ImageUploaderService.handleLocated]
  intro timed state toTimed _
  refine .inr fun last _ after _ toLast _ smooth served => ?_
  obtain ⟨fresh, applied, -, unused⟩ := serve_firestore (Choice.smooth_succeeds smooth) served
  have storing : UploadEvolves (account client) put { put with objects := object :: put.objects } :=
    ⟨fun _ _ => rfl, fun _ absent present => absurd present absent, fun _ =>
      List.mem_cons_of_mem _⟩
  have sofar := (((evolves.trans toPut).trans storing).trans toGot).trans (toTimed.trans toLast)
  refine .of_goal (fun evolves => evolves.protects) ⟨fresh, fun old => ?_, ?_⟩
  · exact unused (.post fresh) (Finmap.mem_keys.mpr (sofar.mem_post (kept fresh old)))
      (by simp [DocumentReference.ids, DocumentReference.documentID])
  · rw [OwnedBy, applied]
    simp only [Request.apply, CollectionReference.document, Firestore.lookup_set, if_true]
    rfl

end Upload

section Inert

variable {account : ι → Uid} {page : ι → Ref} {client : ι} {store : Cloud}

/-- A tap on one's own page opens the editor. -/
theorem keeps_ownTap {user : User} (own : account client = user.uid) (ref : Ref) :
    (ProfileController.onTapButtonFor ref user).Keeps (inert account page).contract client store := by
  refine Code.keeps_withTabUser fun later app currentUser _ _ _ _ last state _ ready => ?_
  have here : ProfileController.isCurrentUser state user = true := by
    simp [ProfileController.isCurrentUser, ready.signedIn, own]
  simp only [here, if_true]
  refine Code.keeps_withObject fun _ _ profile _ _ _ => ?_
  exact Code.keeps_alloc (fun _ _ _ ready => ready.add _ _) fun _ _ _ _ => trivial

theorem keeps_unencoded {caption : String} {image : UIImage} {user : User}
    (unencoded : image.jpegData = none) :
    (postAnImage caption image user).Keeps (inert account page).contract client store := by
  refine Code.keeps_withCurrentUser fun _ _ _ _ _ _ => ?_
  simp only [ImageUploaderService.uploadImage, unencoded, Program.keeps_done]

end Inert

end InstagramClone.FeedAgreement
