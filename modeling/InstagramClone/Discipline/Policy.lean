import InstagramClone.Controller.UserAction
import InstagramClone.Model.Contracts

/-! # Policies for the values a device holds

A policy says what is known, at a store, of the ids and records in the memory of a device: which
account it may be signed in to, and what the users, posts and notifications decoded from documents
refer to. A contract whose answers establish the policy, and which allows what the app's code does
with such values, is kept by all of that code.
-/

namespace InstagramClone

open Async

structure Policy (S : Type) where
  /-- Accounts that the device may be signed in to now. -/
  signed : S → Uid → Prop
  /-- Accounts that count as the device's own. -/
  mine : Uid → Prop
  /-- The accounts of decoded users and comments. -/
  user : S → Uid → Prop
  /-- The accounts of users that the device holds as its own. -/
  own : S → Uid → Prop
  /-- Users whose identity the device may put on comments and notifications. -/
  signs : S → User → Prop
  /-- The account that a new post may name as its owner, with the user it may name. -/
  uploads : S → Uid → User → Prop
  /-- Ids of posts that the device may fetch. -/
  stored : S → PostId → Prop
  /-- The id, owner and image of decoded posts. -/
  post : S → PostId → Uid → String → Prop
  /-- The author, type and post of decoded notifications. -/
  notification : S → Uid → NotificationType → Option PostId → Prop
  /-- Ids that may stand in a path. -/
  path : String → Prop
  /-- The like counters of decoded posts. -/
  likes : ℤ → Prop := fun _ => True
  /-- A like or comment on the post, or a follow of the account, has been stored. -/
  event : S → NotificationType → String → Prop := fun _ _ _ => True
  /-- Links that may be the profile image of an account. -/
  image : String → Prop := fun _ => True

namespace Policy

variable {S : Type}

def hasUser (P : Policy S) (store : S) (user : User) : Prop :=
  P.user store user.uid ∧ P.image user.profileImage

def hasPost (P : Policy S) (store : S) (post : Post) : Prop :=
  P.post store post.postId post.ownerUid post.imageUrl ∧ P.likes post.likes

def hasNotification (P : Policy S) (store : S) (notification : Notification) : Prop :=
  P.notification store notification.uid notification.type notification.postId

/-- What the policy says of a heap object. A profile page whose header shows an account of the
device shows that account itself. -/
def object (P : Policy S) (store : S) : Object → Prop
  | .feed feed => (∀ post ∈ feed.posts, P.hasPost store post) ∧
      ∀ post ∈ feed.post, P.hasPost store post
  | .feedCell cell => ∀ post ∈ cell.viewModel, P.hasPost store post
  | .profile profile => P.hasUser store profile.user ∧
      (∀ post ∈ profile.posts, P.hasPost store post) ∧
      ∀ header ∈ profile.header, P.hasUser store header ∧
        (P.mine header.uid → P.own store profile.user.uid)
  | .editProfile edit => P.hasUser store edit.user ∧ P.own store edit.user.uid
  | .comment page => P.hasPost store page.post ∧
      ∀ comment ∈ page.comments, P.user store comment.uid
  | .notification page => ∀ notification ∈ page.notifications, P.hasNotification store notification
  | .notificationCell cell => ∀ notification ∈ cell.viewModel, P.hasNotification store notification
  | .search page => (∀ user ∈ page.users, P.hasUser store user) ∧
      ∀ user ∈ page.filteredUsers, P.hasUser store user
  | .uploadPost page => ∀ user ∈ page.currentUser, P.hasUser store user ∧ P.own store user.uid
  | .authentication _ => True
  | .capturedPosts posts => ∀ post ∈ posts, P.hasPost store post
  | .capturedComments comments => ∀ comment ∈ comments, P.user store comment.uid

/-- What the policy says of a device. -/
structure Governs (P : Policy S) (store : S) (app : App) : Prop where
  signed : ∀ uid ∈ app.currentUser, P.signed store uid
  user : ∀ user ∈ app.user, P.hasUser store user ∧ P.own store user.uid
  google : ∀ profile ∈ app.googleProfile, P.image (profile.imageURL.getD "")
  objects : ∀ entry ∈ app.objects, P.object store entry.object

variable {τ : Type} {P : Policy S} {C : Contract firebase S App τ} {origin : τ} {store later : S}

/-- What the policy says stays true as the store evolves. -/
structure Mono (P : Policy S) (evolves : S → S → Prop) : Prop where
  signed_mono : ∀ {store later uid}, evolves store later → P.signed store uid →
    P.signed later uid
  user_mono : ∀ {store later uid}, evolves store later → P.user store uid → P.user later uid
  own_mono : ∀ {store later uid}, evolves store later → P.own store uid → P.own later uid
  signs_mono : ∀ {store later user}, evolves store later → P.signs store user →
    P.signs later user
  uploads_mono : ∀ {store later uid user}, evolves store later → P.uploads store uid user →
    P.uploads later uid user
  stored_mono : ∀ {store later id}, evolves store later → P.stored store id → P.stored later id
  post_mono : ∀ {store later id owner image}, evolves store later →
    P.post store id owner image → P.post later id owner image
  notification_mono : ∀ {store later uid type post}, evolves store later →
    P.notification store uid type post → P.notification later uid type post
  event_mono : ∀ {store later type about}, evolves store later → P.event store type about →
    P.event later type about := by intros; trivial

/-- The contract lets the device read, and its answers establish the policy. -/
structure Reads (P : Policy S) (C : Contract firebase S App τ) (origin : τ) : Prop extends
    Mono P C.evolves where
  holds_iff : ∀ store app, C.holds origin store app ↔ P.Governs store app
  signed_mine : ∀ {store uid}, P.signed store uid → P.mine uid
  mine_own : ∀ {store uid}, P.mine uid → P.user store uid → P.own store uid
  post_owner : ∀ {store id owner image}, P.post store id owner image → P.user store owner
  notification_author : ∀ {store uid type post}, P.notification store uid type post →
    P.user store uid
  notification_post : ∀ {store uid type post}, P.notification store uid type post →
    type ≠ .follow → P.stored store (post.getD "")
  signed_path : ∀ {store uid}, P.signed store uid → P.path uid
  user_path : ∀ {store uid}, P.user store uid → P.path uid
  stored_path : ∀ {store id}, P.stored store id → P.path id
  post_path : ∀ {store id owner image}, P.post store id owner image → P.path id
  allows : ∀ {store request}, request.writes = false → (∀ id ∈ request.ids, P.path id) →
    C.allows origin store request
  opens : ∀ {store} {topic : Query}, (∀ id ∈ topic.collection.ids, P.path id) →
    C.opens origin store topic
  /-- The device traps at a progress that it cannot divide. -/
  wild : ∀ {store data upload}, C.replies store (.putData data) upload → upload.steady = false →
    C.mayTrap := by intros; trivial
  located : ∀ {store object url}, C.replies store (.downloadURL object) (.ok url) → P.image url := by
    intros; trivial
  user_image : ∀ {store uid data}, C.replies store (.getDocument (.user uid)) (.ok (some data)) →
    P.image (data.string "profileImage") := by intros; trivial
  users_image : ∀ {store documents},
    C.replies store (.getDocuments { collection := .users }) (.ok documents) →
    ∀ document ∈ documents, P.image (document.data.string "profileImage") := by intros; trivial
  user_read : ∀ {store uid data}, C.replies store (.getDocument (.user uid)) (.ok (some data)) →
    P.user store (data.string "uid") ∧ (P.signed store uid → P.own store (data.string "uid"))
  users_read : ∀ {store documents},
    C.replies store (.getDocuments { collection := .users }) (.ok documents) →
    ∀ document ∈ documents, P.user store (document.data.string "uid")
  post_read : ∀ {store id data}, C.replies store (.getDocument (.post id)) (.ok (some data)) →
    P.post store id (data.string "ownerUid") (data.string "imageUrl")
  posts_read : ∀ {store uid documents},
    C.replies store (.getDocuments (PostService.ownedBy uid)) (.ok documents) →
    ∀ document ∈ documents, P.post store document.documentID (document.data.string "ownerUid")
      (document.data.string "imageUrl")
  post_likes : ∀ {store id data}, C.replies store (.getDocument (.post id)) (.ok (some data)) →
    P.likes (data.int "likes") := by intros; trivial
  posts_likes : ∀ {store uid documents},
    C.replies store (.getDocuments (PostService.ownedBy uid)) (.ok documents) →
    ∀ document ∈ documents, P.likes (document.data.int "likes") := by intros; trivial
  feeds_read : ∀ {store uid documents},
    C.replies store (.getDocuments { collection := .userFeeds uid }) (.ok documents) →
    ∀ document ∈ documents, P.stored store document.documentID
  notifications_read : ∀ {store uid documents},
    C.replies store (.getDocuments
      { collection := .userNotifications uid, orderBy := some "timestamp" }) (.ok documents) →
    P.signed store uid → ∀ document ∈ documents, ∀ now,
      P.hasNotification store (Notification.ofDictionary now document.data)
  comments_reported : ∀ {store post changes},
    C.reports store { collection := .comments post, orderBy := some "timestamp" } (.ok changes) →
    ∀ change ∈ changes, change.type = .added → P.user store (change.document.data.string "uid")

/-- The contract also lets the device sign in and register. -/
structure Registers (P : Policy S) (C : Contract firebase S App τ) (origin : τ) : Prop extends
    Reads P C origin where
  created : ∀ {store email password uid}, C.replies store (.createUser email password) (.ok uid) →
    P.signed store uid
  signed_in : ∀ {store email password uid}, C.replies store (.signIn email password) (.ok uid) →
    P.signed store uid
  signed_in_with : ∀ {store credential uid}, C.replies store (.signInWith credential) (.ok uid) →
    P.signed store uid
  register : ∀ {store uid profileImage}, P.signed store uid → P.image profileImage →
    ∀ email fullname username, C.allows origin store
      (.setData (.user uid) (UserService.data email fullname profileImage uid username))

/-- The contract also lets the device write what the app's code writes. -/
structure Writes (P : Policy S) (C : Contract firebase S App τ) (origin : τ) : Prop extends
    Reads P C origin where
  /-- The device traps when it removes feed entries and their query fails. -/
  unanswered : ∀ {store uid error},
    C.replies store (.getDocuments (PostService.ownedBy uid)) (.error error) → C.mayTrap := by
      intros; trivial
  /-- The device traps when it replaces a profile image that is not in the bucket. -/
  elsewhere : ∀ {image}, P.image image → isStorageURL image = false → C.mayTrap := by
    intros; trivial
  likes_up : ∀ {likes}, P.likes likes → P.likes (likes + 1) := by intros; trivial
  likes_down : ∀ {likes}, likes > 0 → P.likes likes → P.likes (likes - 1) := by intros; trivial
  like_counter : ∀ {store id owner image}, P.post store id owner image → ∀ likes, P.likes likes →
    C.allows origin store (.updateData (.post id) (.ofList [("likes", .int likes)]))
  like : ∀ {store uid id owner image}, P.signed store uid → P.post store id owner image →
    ∀ present, C.allows origin store (.put (.postLike id uid) present) ∧
      C.allows origin store (.put (.userLike uid id) present)
  edge : ∀ {store uid other}, P.signed store uid → P.user store other → other ≠ uid →
    ∀ present, C.allows origin store (.put (.following uid other) present) ∧
      C.allows origin store (.put (.follower other uid) present)
  edge_notified : ∀ {store uid other post}, P.signed store uid →
    P.notification store other .follow post →
    ∀ present, C.allows origin store (.put (.following uid other) present) ∧
      C.allows origin store (.put (.follower other uid) present)
  feed : ∀ {store uid other documents}, P.signed store uid →
    C.replies store (.getDocuments (PostService.ownedBy other)) (.ok documents) →
    ∀ document ∈ documents, ∀ present,
      C.allows origin store (.put (.userFeed uid document.documentID) present)
  liked : ∀ {store later uid id answer reply}, P.signed store uid →
    C.replies store (.setData (.postLike id uid) .empty) answer → C.evolves store later →
    C.replies later (.setData (.userLike uid id) .empty) reply → P.event later .like id := by
      intros; trivial
  commented : ∀ {store id data answer}, C.replies store (.addDocument (.comments id) data) answer →
    P.event store .comment id := by intros; trivial
  followed : ∀ {store later uid other answer reply}, P.signed store uid →
    C.replies store (.setData (.following uid other) .empty) answer → C.evolves store later →
    C.replies later (.setData (.follower other uid) .empty) reply → P.event later .follow other := by
      intros; trivial
  notify_follow : ∀ {store uid other user}, P.signed store uid → P.user store other →
    other ≠ uid → P.signs store user → P.event store .follow other → ∀ timestamp,
    C.allows origin store (.addDocument (.userNotifications other)
      (NotificationService.data user .follow none timestamp))
  notify_post : ∀ {store uid post user type}, P.signed store uid → P.hasPost store post →
    post.ownerUid ≠ uid → P.signs store user → type ≠ .follow → P.event store type post.postId →
    ∀ timestamp, C.allows origin store (.addDocument (.userNotifications post.ownerUid)
      (NotificationService.data user type (some post) timestamp))
  comment : ∀ {store post user}, P.hasPost store post → P.signs store user → ∀ text timestamp,
    C.allows origin store (.addDocument (.comments post.postId) fun _ =>
      CommentService.data text post user timestamp)
  upload : ∀ {store uid user}, P.uploads store uid user → ∀ caption timestamp imageUrl,
    C.allows origin store (.addDocument .posts fun _ =>
      PostService.data caption timestamp imageUrl uid user)
  save : ∀ {store uid profileImage}, P.signed store uid → P.image profileImage →
    ∀ email fullname username, C.allows origin store
      (.setData (.user uid) (UserService.data email fullname profileImage uid username))
  picture : ∀ {store uid profileImage}, P.signed store uid → P.image profileImage →
    C.allows origin store
    (.updateData (.user uid) (.ofList [("profileImage", .string profileImage)]))
  owner_image : ∀ {store uid documents}, P.own store uid →
    C.replies store (.getDocuments (PostService.ownedBy uid)) (.ok documents) →
    ∀ document ∈ documents, ∀ profileImage, C.allows origin store
      (.updateData (.post document.documentID)
        (.ofList [("ownerProfileImage", .string profileImage)]))

namespace Mono

variable {evolution : S → S → Prop} (mono : P.Mono evolution)
include mono

theorem hasUser_mono (evolves : evolution store later) {user : User} (known : P.hasUser store user) :
    P.hasUser later user :=
  ⟨mono.user_mono evolves known.1, known.2⟩

theorem hasPost_mono (evolves : evolution store later) {post : Post} (known : P.hasPost store post) :
    P.hasPost later post :=
  ⟨mono.post_mono evolves known.1, known.2⟩

theorem object_mono (evolves : evolution store later) {object : Object}
    (valid : P.object store object) : P.object later object := by
  have post {post : Post} : P.hasPost store post → P.hasPost later post := mono.hasPost_mono evolves
  have author {uid : Uid} : P.user store uid → P.user later uid := mono.user_mono evolves
  have user {user : User} : P.hasUser store user → P.hasUser later user :=
    mono.hasUser_mono evolves
  have own {uid : Uid} : P.own store uid → P.own later uid := mono.own_mono evolves
  have notification {notification : Notification} : P.hasNotification store notification →
      P.hasNotification later notification := mono.notification_mono evolves
  cases object with
  | feed feed => exact ⟨fun _ member => post (valid.1 _ member), fun _ shown => post (valid.2 _ shown)⟩
  | feedCell cell => exact fun _ shown => post (valid _ shown)
  | profile profile =>
    exact ⟨user valid.1, fun _ member => post (valid.2.1 _ member), fun header shown =>
      ⟨user (valid.2.2 header shown).1, fun mine => own ((valid.2.2 header shown).2 mine)⟩⟩
  | editProfile edit => exact ⟨user valid.1, own valid.2⟩
  | comment page => exact ⟨post valid.1, fun _ member => author (valid.2 _ member)⟩
  | notification page => exact fun _ member => notification (valid _ member)
  | notificationCell cell => exact fun _ shown => notification (valid _ shown)
  | search page => exact ⟨fun _ member => user (valid.1 _ member), fun _ member =>
      user (valid.2 _ member)⟩
  | uploadPost page => exact fun _ shown => ⟨user (valid _ shown).1, own (valid _ shown).2⟩
  | authentication page => trivial
  | capturedPosts posts => exact fun _ member => post (valid _ member)
  | capturedComments comments => exact fun _ member => author (valid _ member)

/-- What the policy says of a device stays true as the store evolves. -/
theorem governs_mono (evolves : evolution store later) {app : App} (valid : P.Governs store app) :
    P.Governs later app :=
  ⟨fun uid shown => mono.signed_mono evolves (valid.signed uid shown),
    fun user shown => ⟨mono.hasUser_mono evolves (valid.user user shown).1,
      mono.own_mono evolves (valid.user user shown).2⟩, valid.google,
    fun entry member => mono.object_mono evolves (valid.objects entry member)⟩

end Mono

section Free

/-- A policy that says nothing of what a device reads, but for the counters of posts and the images of
accounts. -/
def free (signed : Uid → Prop) (signs : User → Prop) (uploads : Uid → User → Prop)
    (likes : ℤ → Prop) (event : S → NotificationType → String → Prop)
    (image : String → Prop := fun _ => True) : Policy S where
  signed _ := signed
  mine _ := True
  user _ _ := True
  own _ _ := True
  signs _ := signs
  uploads _ := uploads
  stored _ _ := True
  post _ _ _ _ := True
  notification _ _ _ _ := True
  path _ := True
  likes := likes
  event := event
  image := image

variable {signed : Uid → Prop} {signs : User → Prop} {uploads : Uid → User → Prop}
  {likes : ℤ → Prop} {event : S → NotificationType → String → Prop} {image : String → Prop}

theorem free_mono {evolves : S → S → Prop}
    (stable : ∀ {store later type about}, evolves store later → event store type about →
      event later type about) : (free signed signs uploads likes event image).Mono evolves := by
  constructor
  case event_mono => exact stable
  all_goals exact fun _ known => known

/-- Reading is free when the contract allows all reads, and its posts have such counters. -/
theorem free_reads
    (stable : ∀ {store later type about}, C.evolves store later → event store type about →
      event later type about)
    (holds_iff : ∀ store app, C.holds origin store app ↔
      (free signed signs uploads likes event image).Governs store app)
    (allows : ∀ store request, request.writes = false → C.allows origin store request)
    (opens : ∀ store topic, C.opens origin store topic)
    (counter : ∀ {store id data}, C.replies store (.getDocument (.post id)) (.ok (some data)) →
      likes (data.int "likes"))
    (counters : ∀ {store uid documents},
      C.replies store (.getDocuments (PostService.ownedBy uid)) (.ok documents) →
      ∀ document ∈ documents, likes (document.data.int "likes"))
    (wild : ∀ {store data upload}, C.replies store (.putData data) upload → upload.steady = false →
      C.mayTrap := by intros; trivial)
    (located : ∀ {store object url}, C.replies store (.downloadURL object) (.ok url) → image url := by
      intros; trivial)
    (picture : ∀ {store uid data}, C.replies store (.getDocument (.user uid)) (.ok (some data)) →
      image (data.string "profileImage") := by intros; trivial)
    (pictures : ∀ {store documents},
      C.replies store (.getDocuments { collection := .users }) (.ok documents) →
      ∀ document ∈ documents, image (document.data.string "profileImage") := by intros; trivial) :
    (free signed signs uploads likes event image).Reads C origin where
  toMono := free_mono stable
  holds_iff := holds_iff
  signed_mine _ := trivial
  mine_own _ _ := trivial
  post_owner _ := trivial
  notification_author _ := trivial
  notification_post _ _ := trivial
  signed_path _ := trivial
  user_path _ := trivial
  stored_path _ := trivial
  post_path _ := trivial
  allows reads _ := allows _ _ reads
  opens _ := opens _ _
  wild := wild
  located := located
  user_image := picture
  users_image := pictures
  user_read _ := ⟨trivial, fun _ => trivial⟩
  users_read _ _ _ := trivial
  post_read _ := trivial
  posts_read _ _ _ := trivial
  post_likes := counter
  posts_likes := counters
  feeds_read _ _ _ := trivial
  notifications_read _ _ _ _ _ := trivial
  comments_reported _ _ _ _ := trivial

end Free

variable {α : Type} [Instance α]

theorem Governs.find {app : App} (valid : P.Governs store app) {ref : Ref} {value : α}
    (found : app.find? α ref = some value) : P.object store (Instance.inject value) := by
  obtain ⟨entry, present, same⟩ := Option.bind_eq_some_iff.mp found
  rw [Instance.inject_project same]
  exact valid.objects entry (List.mem_of_getElem? present)

/-- A change of an object that the policy allows. -/
theorem Governs.modify {app : App} (valid : P.Governs store app) {ref : Ref} {change : α → α}
    (keeps : ∀ value : α, P.object store (Instance.inject value) →
      P.object store (Instance.inject (change value))) : P.Governs store (app.modify ref change) := by
  refine ⟨valid.signed, valid.user, valid.google, fun entry member => ?_⟩
  obtain ⟨index, present⟩ := List.mem_iff_getElem?.mp member
  simp only [App.modify, List.getElem?_modify] at present
  obtain ⟨before, there, rfl⟩ := Option.map_eq_some_iff.mp present
  have known := valid.objects before (List.mem_of_getElem? there)
  split_ifs
  · unfold HeapObject.modify
    split
    · next value found =>
      refine keeps value ?_
      rwa [Instance.inject_project found]
    · exact known
  · exact known

omit [Instance α] in
theorem Governs.add {app : App} (valid : P.Governs store app) {object : Object}
    (known : P.object store object) (inTab : Bool) : P.Governs store (app.add object inTab) := by
  refine ⟨valid.signed, valid.user, valid.google, fun entry member => ?_⟩
  rcases List.mem_append.mp member with member | member
  · exact valid.objects entry member
  · obtain rfl := List.mem_singleton.mp member
    exact known

/-- New tabs for a user of the device. -/
theorem Governs.setUser {app : App} (valid : P.Governs store app) {user : User}
    (known : P.hasUser store user) (own : P.own store user.uid) :
    P.Governs store (MainTabController.setUser user app) := by
  refine ⟨valid.signed, fun shown same => ?_, valid.google, fun entry member => ?_⟩
  · obtain rfl := Option.some.inj same
    exact ⟨known, own⟩
  · rcases List.mem_append.mp member with member | member
    · obtain ⟨before, there, rfl⟩ := List.mem_map.mp member
      exact valid.objects before there
    · simp only [List.mem_cons, List.not_mem_nil, or_false] at member
      rcases member with rfl | rfl | rfl | rfl <;> simp [Policy.object, known]

end Policy

end InstagramClone
