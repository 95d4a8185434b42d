import InstagramClone.Async.Completion
import InstagramClone.Controller.NotificationController
import InstagramClone.Soundness.FeedTasks

/-! # Following from a notification row and from a profile page

Both controllers write the edge. The profile page then notifies the account and updates the feed,
a notification row does neither.
-/

namespace InstagramClone

open Async

open PostService (OwnedBy mem_answer_ownedBy)

/-- What a notification says besides its id and its time. -/
def Dictionary.content (notification : Dictionary) : Dictionary := fun key =>
  if key = "id" ∨ key = "timestamp" then none else notification key

/-- What the notifications of an account say, each as often as it is said. -/
def Firestore.notifications (store : Firestore) (uid : Uid) : Multiset Dictionary :=
  (store.references (.userNotifications uid)).val.map fun reference =>
    ((store.lookup reference).getD .empty).content

@[simp] theorem Firestore.card_notifications (store : Firestore) (uid : Uid) :
    (store.notifications uid).card = store.count (.userNotifications uid) := by
  simp [notifications, count]

/-- Stores with the same notifications say the same by them. -/
private theorem Firestore.notifications_congr {first second : Firestore} {uid : Uid}
    (same : ∀ id, first.lookup (.notification uid id) = second.lookup (.notification uid id)) :
    first.notifications uid = second.notifications uid := by
  have path {reference : DocumentReference} (parent : reference.parent = .userNotifications uid) :
      first.lookup reference = second.lookup reference := by
    rw [← reference.parent_document, parent]
    exact same _
  have members : first.references (.userNotifications uid) =
      second.references (.userNotifications uid) := by
    ext reference
    rw [mem_references, mem_references, Finmap.mem_iff, Finmap.mem_iff]
    exact and_congr_left fun parent => by rw [path parent]
  unfold notifications
  rw [members]
  refine Multiset.map_congr rfl fun reference member => ?_
  rw [path (mem_references.mp member).2]

/-- The account holds a notification that the other one follows it. -/
def Firestore.NotifiedOfFollow (store : Firestore) (uid other : Uid) : Prop :=
  ∃ id data, store.lookup (.notification uid id) = some data ∧ data.string "uid" = other ∧
    data.int "type" = NotificationType.follow.rawValue

namespace FollowPaths

/-- The stores have the same edges, the same feed of the follower, and notifications of the
followed account that say the same. -/
structure Agree (follower followed : Uid) (first second : Firestore) : Prop where
  following : ∀ uid other, first.lookup (.following uid other) = second.lookup (.following uid other)
  followers : ∀ uid other, first.lookup (.follower uid other) = second.lookup (.follower uid other)
  feed : ∀ post, first.lookup (.userFeed follower post) = second.lookup (.userFeed follower post)
  notifications : first.notifications followed = second.notifications followed

/-- A device of the follower with a row for a follow notification from the other account and a
profile page of that account, whose buttons offer the same. -/
structure Shows (follower followed : Uid) (isFollowed : Bool) (row page : Ref) (app : App) :
    Prop where
  signedIn : app.currentUser = some follower
  user : app.user.isSome = true
  inTab : app.inTab page = true
  row : ∃ notification delegate,
    app.find? NotificationCell row = some ⟨some notification, delegate⟩ ∧
      notification.type = .follow ∧ notification.uid = followed ∧
      notification.userIsFollowed = isFollowed
  page : ∃ profile user, app.find? ProfileController page = some profile ∧
    profile.header = some user ∧ user.uid = followed ∧ user.isFollowed = isFollowed

/-- The store once the edge is written. -/
def edgeWritten (follower followed : Uid) (follows : Bool) (store : Cloud) : Cloud :=
  { store with
    firestore := (Request.put (.follower followed follower) follows).apply ""
      ((Request.put (.following follower followed) follows).apply "" store.firestore) }

variable {follower followed : Uid} {follows isFollowed : Bool} {store : Cloud} {app : App}
  {row page : Ref} {final : Network cloud App Unit Unit}

/-- Documents besides the edge's are as they were. -/
private theorem lookup_edgeWritten {reference : DocumentReference}
    (following : reference ≠ .following follower followed)
    (followers : reference ≠ .follower followed follower) :
    (edgeWritten follower followed follows store).firestore.lookup reference =
      store.firestore.lookup reference := by
  rw [edgeWritten,
    Request.lookup_apply fun touches => followers (Request.touches_put.mp touches).symm,
    Request.lookup_apply fun touches => following (Request.touches_put.mp touches).symm]

private theorem serve_put {choice : Choice} {next : Cloud} {reference : DocumentReference}
    (follows : Bool) {answer : (Request.put reference follows).Response}
    (succeeds : choice.succeeds = true)
    (served : cloud.serve choice store (.put reference follows) = some (next, answer)) :
    next = { store with firestore := (Request.put reference follows).apply "" store.firestore } := by
  obtain ⟨order, fresh, transfer, resolved⟩ := serve_succeeds succeeds served
  cases follows with
  | true => exact (Prod.mk.inj (Option.some.inj resolved)).1.symm
  | false => exact (Prod.mk.inj (Option.some.inj resolved)).1.symm

open FeedAgreement (writeEdge tapped onTapButtonFor_other)

/-- Both documents of the edge are written before the handler runs. -/
private theorem writeEdge_completes {user : User} {completion : Option BackendError → Code App}
    (signedIn : app.currentUser = some follower)
    (completes : ((Network.lone store app [] : Network cloud App Unit Unit).launch id ()
      (writeEdge user completion follows)).Completes id (fun signal => succeeds signal = true) final) :
    ∃ error, ((Network.lone (edgeWritten follower user.uid follows store) app [] :
      Network cloud App Unit Unit).launch id () (completion error)).Completes id
        (fun signal => succeeds signal = true) final := by
  cases follows with
  | true =>
    obtain ⟨_, first, _, _, allowed, served, completes⟩ :=
      completes.launch_call (UserService.run_follow signedIn user.uid completion)
    obtain rfl := serve_put true allowed served
    obtain ⟨_, second, _, error, allowed, served, completes⟩ := completes.launch_call rfl
    obtain rfl := serve_put true allowed served
    exact ⟨error, completes⟩
  | false =>
    obtain ⟨_, first, _, _, allowed, served, completes⟩ :=
      completes.launch_call (UserService.run_unFollow signedIn user.uid completion)
    obtain rfl := serve_put false allowed served
    obtain ⟨_, second, _, error, allowed, served, completes⟩ := completes.launch_call rfl
    obtain rfl := serve_put false allowed served
    exact ⟨error, completes⟩

/-- The row's button writes the edge and turns over its own state. -/
private theorem row_run (shows : Shows follower followed isFollowed row page app) :
    ∃ user : User, user.uid = followed ∧ (NotificationCell.touchFollowButton row).run app =
      (writeEdge user (fun _ => NotificationController.toggleUserIsFollowed row)
        (!isFollowed)).run app := by
  obtain ⟨notification, delegate, shown, type, uid, offered⟩ := shows.row
  refine ⟨⟨"", "", "", "", followed, ⟨0, 0, 0⟩, false⟩, rfl, ?_⟩
  simp only [NotificationCell.touchFollowButton, NotificationCell.onTapFollow,
    NotificationCell.withViewModel, Code.withObject, Program.run_inspect, shown,
    NotificationCell.shouldHidePostImage, type, decide_true, if_true, offered, uid]
  cases isFollowed <;> rfl

/-- The page's button writes the edge, then does more. -/
private theorem page_run (apart : follower ≠ followed)
    (shows : Shows follower followed isFollowed row page app) :
    ∃ user currentUser, user.uid = followed ∧ (ProfileController.onTapEditProfile page).run app =
      (writeEdge user (fun _ => tapped page user currentUser (!isFollowed)) (!isFollowed)).run app := by
  obtain ⟨profile, user, opened, header, rfl, offered⟩ := shows.page
  obtain ⟨currentUser, loaded⟩ := Option.isSome_iff_exists.mp shows.user
  have other : app.currentUser ≠ some user.uid := by
    rw [shows.signedIn]
    exact fun same => apart (Option.some.inj same)
  refine ⟨user, currentUser, rfl, ?_⟩
  simp only [ProfileController.onTapEditProfile, ProfileController.onTapButtonFor, Code.withObject,
    Code.withTabUser, Program.run_inspect, opened, header, shows.inTab, loaded]
  rw [onTapButtonFor_other other, offered]

/-- The store after a tap in the row. -/
private theorem row_store (shows : Shows follower followed isFollowed row page app)
    (completes : ((Network.lone store app [] : Network cloud App Unit Unit).launch id ()
      (NotificationCell.touchFollowButton row)).Completes id (fun signal => succeeds signal = true)
        final) : final.store = edgeWritten follower followed (!isFollowed) store := by
  obtain ⟨user, rfl, ran⟩ := row_run shows
  rw [Network.lone_launch_congr ran] at completes
  obtain ⟨_, completes⟩ := writeEdge_completes shows.signedIn completes
  rw [completes.launch_idle rfl]
  rfl

section Unfollow

/-- The loop that takes posts out of a feed: it deletes entries for them and nothing else. -/
def clearing (follower : Uid) (posts : List PostId) : Contract firebase Cloud App Unit where
  invariant _ := True
  evolves before after :=
    (∀ reference : DocumentReference, (∀ post ∈ posts, reference ≠ .userFeed follower post) →
      after.firestore.lookup reference = before.firestore.lookup reference) ∧
    ∀ reference, before.firestore.lookup reference = none → after.firestore.lookup reference = none
  holds _ _ _ := True
  allows _ _ request := ∃ post ∈ posts, request = .delete (.userFeed follower post)
  opens _ _ _ := False
  replies _ _ _ := True
  reports _ _ _ := True
  mayTrap := False
  refl _ := ⟨fun _ _ => rfl, fun _ absent => absent⟩
  trans left right := ⟨fun reference other =>
      (right.1 reference other).trans (left.1 reference other),
    fun reference absent => right.2 reference (left.2 reference absent)⟩
  holds_mono _ _ := trivial
  allows_mono _ allowed := allowed
  opens_mono _ opened := opened

variable {posts : List PostId}

private theorem clearing_lawful :
    cloud.Lawful (clearing follower posts) fun choice => choice.succeeds = true where
  serve := by
    rintro choice _ before request next answer succeeds _ ⟨post, listed, rfl⟩ served
    obtain ⟨fresh, applied, -⟩ := serve_firestore succeeds served
    refine ⟨trivial, ⟨fun reference other => ?_, fun reference absent => ?_⟩, trivial⟩
    · rw [applied]
      exact Request.lookup_apply fun touches => other post listed touches.symm
    · rw [applied, Request.apply, Firestore.lookup_delete, absent, ite_self]
  publish _ _ _ _ := trivial

def clear (follower : Uid) (posts : List PostId) : Code App :=
  .forEach posts fun post => .post (.delete (.userFeed follower post))

private theorem clearing_keeps (store : Cloud) :
    (clear follower posts).Keeps (clearing follower posts) () store :=
  Program.keeps_forEach fun post listed => Program.keeps_post.mpr ⟨post, listed, rfl⟩

/-- Once the loop is over, the feed has no entry for these posts, and all else is as it was. -/
private theorem clearing_completes (completes : ((Network.lone store app [] :
      Network cloud App Unit Unit).launch id () (clear follower posts)).Completes id
        (fun signal => succeeds signal = true) final) :
    (∀ reference : DocumentReference, (∀ post ∈ posts, reference ≠ .userFeed follower post) →
      final.store.firestore.lookup reference = store.firestore.lookup reference) ∧
    ∀ post ∈ posts, final.store.firestore.lookup (.userFeed follower post) = none := by
  obtain ⟨-, evolves, goals⟩ := completes.over clearing_lawful
    (fun signal allowed => by cases signal <;> first | exact allowed | trivial) trivial trivial
    (clearing_keeps store)
  refine ⟨evolves.1, fun post listed => ?_⟩
  have protects : (clearing follower posts).Protects (B := cloud)
      fun later => later.firestore.lookup (.userFeed follower post) = none :=
    fun further absent => further.2 _ absent
  refine goals id _ protects (Program.brings_forEach id protects listed (fun other member =>
    Program.keeps_post.mpr ⟨other, member, rfl⟩) (.inr ?_))
  intro last choice after answer _ _ succeeds served
  obtain ⟨fresh, applied, -⟩ := serve_firestore succeeds served
  refine Program.Brings.of_goal protects ?_
  rw [applied, Request.apply, Firestore.lookup_delete, if_pos rfl]

/-- The store after a tap on the page that unfollows: no post of the account is in the feed. -/
private theorem page_unfollow (apart : follower ≠ followed)
    (shows : Shows follower followed true row page app)
    (completes : ((Network.lone store app [] : Network cloud App Unit Unit).launch id ()
      (ProfileController.onTapEditProfile page)).Completes id (fun signal => succeeds signal = true)
        final) :
    (∀ reference : DocumentReference, (∀ post, OwnedBy store.firestore followed post →
        reference ≠ .userFeed follower post) → final.store.firestore.lookup reference =
          (edgeWritten follower followed false store).firestore.lookup reference) ∧
    ∀ post, OwnedBy store.firestore followed post →
      final.store.firestore.lookup (.userFeed follower post) = none := by
  obtain ⟨user, currentUser, rfl, ran⟩ := page_run apart shows
  rw [Network.lone_launch_congr ran] at completes
  obtain ⟨_, completes⟩ := writeEdge_completes shows.signedIn completes
  have query : (tapped page user currentUser false).run app =
      ⟨some _, [⟨.getDocuments (PostService.ownedBy user.uid), _⟩], []⟩ :=
    Code.run_withCurrentUser (show Device.currentUser (app.modify page _) = _ from shows.signedIn) _
  obtain ⟨_, choice, queried, answer, allowed, served, completes⟩ := completes.launch_call query
  obtain ⟨order, fresh, transfer, resolved⟩ := serve_succeeds allowed served
  have answers := Request.resolve_answers resolved
  obtain ⟨documents, listed, same⟩ := Option.map_eq_some_iff.mp resolved
  obtain ⟨rfl, rfl⟩ := Prod.mk.inj same
  have owned (post : PostId) : post ∈ documents.map Document.documentID ↔
      OwnedBy store.firestore user.uid post := by
    rw [PostService.mem_answer_ownedBy answers, OwnedBy, OwnedBy,
      lookup_edgeWritten (by simp) (by simp)]
  have loop : (.forEach documents fun document =>
      .post (.delete (.userFeed follower document.documentID)) : Code App) =
        clear follower (documents.map Document.documentID) := by
    simp only [clear, Program.forEach, List.foldr_map]
  dsimp only at completes
  rw [loop] at completes
  obtain ⟨kept, cleared⟩ := clearing_completes completes
  constructor
  · intro reference other
    exact kept reference fun post member => other post ((owned post).mp member)
  · exact fun post mine => cleared post ((owned post).mpr mine)

end Unfollow

section Follow

/-- Code that may add notifications for the account but leaves those there are. -/
def notifying (follower followed : Uid) : Contract firebase Cloud App Unit where
  invariant _ := True
  evolves before after := before.firestore.count (.userNotifications followed) ≤
    after.firestore.count (.userNotifications followed)
  holds _ _ app := app.currentUser = some follower
  allows _ _ request := (∃ data, request = .addDocument (.userNotifications followed) data) ∨
    ∀ id, ¬ request.Touches (.notification followed id)
  opens _ _ _ := False
  replies _ _ _ := True
  reports _ _ _ := True
  mayTrap := False
  refl _ := le_refl _
  trans := le_trans
  holds_mono _ signedIn := signedIn
  allows_mono _ allowed := allowed
  opens_mono _ opened := opened

/-- A new notification is one more. -/
private theorem count_notification {store : Firestore} {fresh : String} {data : String → Dictionary}
    (unused : store.Unused fresh) :
    ((Request.addDocument (.userNotifications followed) data).apply fresh store).count
      (.userNotifications followed) = store.count (.userNotifications followed) + 1 := by
  have absent : .notification followed fresh ∉ store := fun present =>
    unused _ (Finmap.mem_keys.mpr present)
      (by simp [DocumentReference.ids, DocumentReference.documentID])
  exact Firestore.count_set absent (data fresh)

private theorem count_untouched {store : Firestore} {request : Request} {fresh : String}
    (apart : ∀ id, ¬ request.Touches (.notification followed id)) :
    (request.apply fresh store).count (.userNotifications followed) =
      store.count (.userNotifications followed) := by
  refine Firestore.count_congr fun reference parent => ?_
  rw [← reference.parent_document, parent]
  exact Request.mem_apply_of_not_touches (apart _)

private theorem notifying_lawful :
    cloud.Lawful (notifying follower followed) fun choice => choice.succeeds = true where
  serve := by
    intro choice _ before request next answer succeeds _ allowed served
    obtain ⟨fresh, applied, drawn⟩ := serve_firestore succeeds served
    refine ⟨trivial, ?_, trivial⟩
    dsimp only [notifying]
    rw [applied]
    rcases allowed with ⟨data, rfl⟩ | apart
    · rw [count_notification drawn.2]
      omega
    · rw [count_untouched apart]
  publish _ _ _ _ := trivial

private theorem notifying_keeps_setIsFollowed (store : Cloud) :
    (ProfileController.setIsFollowed page true).Keeps (notifying follower followed) () store :=
  Code.keeps_modify fun _ _ _ signedIn => signedIn

private theorem notifying_keeps_addNotification (currentUser : User) (store : Cloud) :
    (NotificationService.addNotification followed currentUser .follow).Keeps
      (notifying follower followed) () store := by
  refine Code.keeps_withCurrentUser fun _ _ _ _ _ _ => ?_
  split_ifs
  · trivial
  · exact Code.keeps_withTimestamp fun _ _ _ => Program.keeps_post.mpr (.inl ⟨_, rfl⟩)

private theorem notifying_keeps_updateUserFeed (user : User) (store : Cloud) :
    (PostService.updateUserFeed user).Keeps (notifying follower followed) () store := by
  refine Code.keeps_withCurrentUser fun _ _ _ _ _ _ => ?_
  refine Code.keeps_call (.inr fun _ => id) fun _ answer _ _ => ?_
  cases answer with
  | error => trivial
  | ok documents =>
    exact Program.keeps_forEach fun _ _ => Program.keeps_post.mpr (.inr fun _ => nofun)

/-- A tap on the page that follows adds a notification for the account. -/
private theorem page_follow (apart : follower ≠ followed)
    (shows : Shows follower followed false row page app)
    (completes : ((Network.lone store app [] : Network cloud App Unit Unit).launch id ()
      (ProfileController.onTapEditProfile page)).Completes id (fun signal => succeeds signal = true)
        final) :
    store.firestore.count (.userNotifications followed) <
      final.store.firestore.count (.userNotifications followed) := by
  obtain ⟨user, currentUser, rfl, ran⟩ := page_run apart shows
  rw [Network.lone_launch_congr ran] at completes
  obtain ⟨_, completes⟩ := writeEdge_completes shows.signedIn completes
  have protects : (notifying follower user.uid).Protects (B := cloud) fun later =>
      store.firestore.count (.userNotifications user.uid) <
        later.firestore.count (.userNotifications user.uid) :=
    fun further more => lt_of_lt_of_le more further
  have keeps (store : Cloud) : (tapped page user currentUser true).Keeps
      (notifying follower user.uid) () store :=
    (notifying_keeps_setIsFollowed store).seq
      ((notifying_keeps_addNotification currentUser store).seq
        (notifying_keeps_updateUserFeed user store))
  have same : (edgeWritten follower user.uid true store).firestore.count
      (.userNotifications user.uid) = store.firestore.count (.userNotifications user.uid) := by
    refine Firestore.count_congr fun reference parent => ?_
    rw [Finmap.mem_iff, Finmap.mem_iff, lookup_edgeWritten] <;>
      · rintro rfl
        cases parent
  refine (completes.over notifying_lawful
    (fun signal allowed => by cases signal <;> first | exact allowed | trivial) trivial
    shows.signedIn (keeps _)).2.2 id _ protects ?_
  refine .seq id protects (notifying_keeps_setIsFollowed _) ?_
  refine .seq_left protects fun later app further signedIn => ?_
  have self : user.uid ≠ follower := fun same => apart same.symm
  simp only [show Device.currentUser app = some follower from signedIn, if_neg self]
  intro last timed beyond _
  refine .inr fun served choice after answer past _ succeeds resolved => ?_
  obtain ⟨fresh, applied, drawn⟩ := serve_firestore succeeds resolved
  refine Program.Brings.of_goal protects ?_
  have grown : (edgeWritten follower user.uid true store).firestore.count
      (.userNotifications user.uid) ≤ served.firestore.count (.userNotifications user.uid) :=
    le_trans further (le_trans beyond past)
  rw [applied, count_notification drawn.2]
  omega

end Follow

/-- The row and the page agree exactly when they unfollow and no post of the account is in the
feed. -/
theorem paths_agree_iff {first second : Network cloud App Unit Unit} (apart : follower ≠ followed)
    (shows : Shows follower followed isFollowed row page app)
    (byRow : ((Network.lone store app [] : Network cloud App Unit Unit).launch id ()
      (NotificationCell.touchFollowButton row)).Completes id (fun signal => succeeds signal = true)
        first)
    (byPage : ((Network.lone store app [] : Network cloud App Unit Unit).launch id ()
      (ProfileController.onTapEditProfile page)).Completes id (fun signal => succeeds signal = true)
        second) :
    Agree follower followed first.store.firestore second.store.firestore ↔
      isFollowed = true ∧ ∀ post, OwnedBy store.firestore followed post →
        .userFeed follower post ∉ store.firestore := by
  rw [row_store shows byRow]
  cases isFollowed with
  | false =>
    refine iff_of_false (fun agree => ?_) (by simp)
    have more := page_follow apart shows byPage
    have same : (edgeWritten follower followed true store).firestore.count
        (.userNotifications followed) = store.firestore.count (.userNotifications followed) := by
      refine Firestore.count_congr fun reference parent => ?_
      rw [Finmap.mem_iff, Finmap.mem_iff, lookup_edgeWritten] <;>
        · rintro rfl
          cases parent
    have cards := congrArg Multiset.card agree.notifications
    simp only [Bool.not_false, Firestore.card_notifications] at cards
    omega
  | true =>
    obtain ⟨kept, cleared⟩ := page_unfollow apart shows byPage
    have still (post : PostId) :
        (edgeWritten follower followed false store).firestore.lookup (.userFeed follower post) =
          store.firestore.lookup (.userFeed follower post) :=
      lookup_edgeWritten (by simp) (by simp)
    simp only [Bool.not_true, true_and]
    constructor
    · intro agree post owned present
      have gone := agree.feed post
      rw [cleared post owned, still] at gone
      exact Finmap.mem_iff.mp present |>.elim fun data found => by simp [gone] at found
    · intro unseen
      refine ⟨fun uid other => (kept _ (by simp)).symm, fun uid other => (kept _ (by simp)).symm,
        fun post => ?_, Firestore.notifications_congr fun id => (kept _ (by simp)).symm⟩
      by_cases owned : OwnedBy store.firestore followed post
      · rw [cleared post owned, still, Finmap.lookup_eq_none]
        exact unseen post owned
      · refine (kept _ fun other mine same => owned ?_).symm
        cases same
        exact mine

/-- An account, and a device of another one that shows a row and a page of it. -/
def author (isFollowed : Bool) : User := ⟨"v@mail", "v", "", "v", "v", ⟨0, 0, 0⟩, isFollowed⟩

def reader : User := ⟨"u@mail", "u", "", "u", "u", ⟨0, 0, 0⟩, false⟩

def shown (isFollowed : Bool) : App where
  currentUser := some "u"
  user := some reader
  objects :=
    [⟨.notificationCell ⟨some ⟨"n", "v", some "", "v", some "", some "", .follow, ⟨0, 0⟩, isFollowed⟩,
        0⟩, true⟩,
      ⟨.profile { user := author isFollowed, header := some (author isFollowed) }, true⟩]

private theorem shown_shows (isFollowed : Bool) : Shows "u" "v" isFollowed 0 1 (shown isFollowed) :=
  ⟨rfl, rfl, rfl, ⟨_, _, rfl, rfl, rfl, rfl⟩, ⟨_, _, rfl, rfl, rfl, rfl⟩⟩

/-- The reader has been notified by the author, who has one post. -/
def posted : Cloud where
  firestore := ((∅ : Firestore).insert (.notification "u" "n")
    (NotificationService.data (author false) .follow none ⟨0, 0⟩ "n")).insert (.post "p")
    (PostService.data "" ⟨0, 0⟩ "" "v" (author false))

/-- The edge is written. -/
def writing : List (Signal cloud) :=
  [.serve 0 (.answer [] ""), .deliver 0, .serve 0 (.answer [] ""), .deliver 0]

abbrev Tapped (isFollowed : Bool) (touch : Code App) : Network cloud App Unit Unit :=
  (Network.lone posted (shown isFollowed) []).launch id () touch

/-- Unfollowing an author without posts in the feed. -/
theorem paths_agree_iff_unfollow : ∃ first second : Network cloud App Unit Unit,
    (Tapped true (NotificationCell.touchFollowButton 0)).Completes id
      (fun signal => succeeds signal = true) first ∧
    (Tapped true (ProfileController.onTapEditProfile 1)).Completes id
      (fun signal => succeeds signal = true) second ∧
    Agree "u" "v" first.store.firestore second.store.firestore := by
  have row : (replay? (fun net signal =>
      if succeeds signal = true then Network.signal? id net signal else none)
      (Tapped true (NotificationCell.touchFollowButton 0)) writing).any (fun final =>
        decide (final.flight.isEmpty = true ∧ True)) = true := by
    decide +kernel
  have page : (replay? (fun net signal =>
      if succeeds signal = true then Network.signal? id net signal else none)
      (Tapped true (ProfileController.onTapEditProfile 1))
      (writing ++ [.serve 0 (.answer [.post "p"] ""), .deliver 0, .serve 0 (.answer [] ""),
        .deliver 0])).any (fun final => decide (final.flight.isEmpty = true ∧ True)) = true := by
    decide +kernel
  obtain ⟨first, byRow, -⟩ := Network.exists_completes_of_replay? row
  obtain ⟨second, byPage, -⟩ := Network.exists_completes_of_replay? page
  exact ⟨first, second, byRow, byPage, (paths_agree_iff (by decide) (shown_shows true) byRow
    byPage).mpr ⟨rfl, fun post _ => by simp [posted, Finmap.notMem_empty]⟩⟩

/-- A follow from the row brings no post of the author into the feed. -/
theorem paths_not_agree :
    ¬ ∀ (follower followed : Uid) (isFollowed : Bool) (row page : Ref) (store : Cloud) (app : App)
      (first second : Network cloud App Unit Unit), follower ≠ followed →
      store.firestore.NotifiedOfFollow follower followed →
      Shows follower followed isFollowed row page app →
      ((Network.lone store app [] : Network cloud App Unit Unit).launch id ()
        (NotificationCell.touchFollowButton row)).Completes id
          (fun signal => succeeds signal = true) first →
      ((Network.lone store app [] : Network cloud App Unit Unit).launch id ()
        (ProfileController.onTapEditProfile page)).Completes id
          (fun signal => succeeds signal = true) second →
      Agree follower followed first.store.firestore second.store.firestore := by
  intro claim
  have row : (replay? (fun net signal =>
      if succeeds signal = true then Network.signal? id net signal else none)
      (Tapped false (NotificationCell.touchFollowButton 0)) writing).any (fun final =>
        decide (final.flight.isEmpty = true ∧
          .userFeed "u" "p" ∉ final.store.firestore)) = true := by
    decide +kernel
  have page : (replay? (fun net signal =>
      if succeeds signal = true then Network.signal? id net signal else none)
      (Tapped false (ProfileController.onTapEditProfile 1))
      (writing ++ [.serve 0 (.answer [] "m"), .serve 1 (.answer [.post "p"] ""), .deliver 0,
        .deliver 0, .serve 0 (.answer [] ""), .deliver 0])).any (fun final =>
        decide (final.flight.isEmpty = true ∧ .userFeed "u" "p" ∈ final.store.firestore)) = true := by
    decide +kernel
  obtain ⟨first, byRow, absent⟩ := Network.exists_completes_of_replay? row
  obtain ⟨second, byPage, present⟩ := Network.exists_completes_of_replay? page
  have notified : posted.firestore.NotifiedOfFollow "u" "v" :=
    ⟨"n", NotificationService.data (author false) .follow none ⟨0, 0⟩ "n", by simp [posted], rfl, rfl⟩
  have agree := claim "u" "v" false 0 1 posted (shown false) first second (by decide) notified
    (shown_shows false) byRow byPage
  rw [Finmap.mem_iff, ← agree.feed] at present
  exact absent (Finmap.mem_iff.mpr present)

end FollowPaths

end InstagramClone
