import InstagramClone.Discipline.Policy

/-! # Services keep a policy's contract

One rule for each service function: what its completion handler may rely on.
-/

namespace InstagramClone.Policy

open Async

variable {S τ α : Type} [Instance α] {P : Policy S} {C : Contract firebase S App τ} {origin : τ}
  {store : S} {uid : Uid}

namespace Reads

variable (reads : P.Reads C origin)
include reads

theorem keeps_withObject {ref : Ref} {body : α → Code App}
    (keeps : ∀ later value, C.evolves store later → P.object later (Instance.inject value) →
      (body value).Keeps C origin later) :
    (Code.withObject ref body).Keeps C origin store :=
  Code.keeps_withObject fun later app value evolves valid found =>
    keeps later value evolves (((reads.holds_iff later app).mp valid).find found)

theorem keeps_modify {ref : Ref} {change : α → α}
    (keeps : ∀ later (value : α), C.evolves store later →
      P.object later (Instance.inject value) → P.object later (Instance.inject (change value))) :
    (Code.modify ref change).Keeps C origin store := by
  refine Code.keeps_modify fun later app evolves valid => ?_
  rw [reads.holds_iff] at valid ⊢
  exact valid.modify fun value => keeps later value evolves

private theorem holds_add {later : S} {app : App} (evolves : C.evolves store later) {value : α}
    (known : P.object store (Instance.inject value)) (inTab : Bool)
    (valid : C.holds origin later app) :
    C.holds origin later (app.add (Instance.inject value) inTab) := by
  rw [reads.holds_iff] at valid ⊢
  exact valid.add (reads.object_mono evolves known) inTab

theorem keeps_alloc {value : α} {inTab : Bool} {body : Ref → Code App}
    (known : P.object store (Instance.inject value))
    (keeps : ∀ later ref, C.evolves store later → (body ref).Keeps C origin later) :
    (Code.alloc value inTab body).Keeps C origin store :=
  Code.keeps_alloc (fun _ _ evolves => reads.holds_add evolves known inTab)
    fun later _ evolves _ => keeps later _ evolves

theorem keeps_push {opener : Ref} {value : α} (known : P.object store (Instance.inject value)) :
    (Code.push opener value).Keeps C origin store :=
  Code.keeps_push fun _ _ inTab evolves => reads.holds_add evolves known inTab

theorem keeps_withCurrentUser {body : Uid → Code App}
    (keeps : ∀ later uid, C.evolves store later → P.signed later uid →
      (body uid).Keeps C origin later) :
    (Code.withCurrentUser body).Keeps C origin store :=
  Code.keeps_withCurrentUser fun later app uid evolves valid current =>
    keeps later uid evolves (((reads.holds_iff later app).mp valid).signed uid current)

/-- A document may be read when the ids in its path are known. -/
private theorem allows_document {reference : DocumentReference}
    (parents : ∀ id ∈ reference.parent.ids, P.path id) (path : P.path reference.documentID) :
    C.allows origin store (.getDocument reference) := by
  refine reads.allows rfl fun id member => ?_
  rcases List.mem_append.mp member with member | member
  · exact parents id member
  · obtain rfl := List.mem_singleton.mp member
    exact path

theorem keeps_fetchUser {completion : User → Code App} (path : P.path uid)
    (keeps : ∀ later user, C.evolves store later → P.hasUser later user →
      (P.signed later uid → P.own later user.uid) → (completion user).Keeps C origin later) :
    (UserService.fetchUser uid completion).Keeps C origin store := by
  refine Code.keeps_call (reads.allows_document (fun _ member => absurd member List.not_mem_nil) path)
    ?_
  intro later answer evolves replied
  rcases answer with _ | _ | data
  · trivial
  · trivial
  · have known := reads.user_read replied
    exact keeps later _ evolves ⟨known.1, reads.user_image replied⟩ known.2

theorem keeps_fetchUsers {completion : List User → Code App}
    (keeps : ∀ later users, C.evolves store later → (∀ user ∈ users, P.hasUser later user) →
      (completion users).Keeps C origin later) :
    (UserService.fetchUsers completion).Keeps C origin store := by
  refine Code.keeps_call (reads.allows rfl (by simp [Request.ids, CollectionReference.ids])) ?_
  intro later answer evolves replied
  cases answer with
  | error => trivial
  | ok documents =>
    refine keeps later _ evolves fun user member => ?_
    obtain ⟨document, listed, rfl⟩ := List.mem_map.mp member
    exact ⟨reads.users_read replied document listed, reads.users_image replied document listed⟩

theorem keeps_isUserFollowed {completion : Bool → Code App} (path : P.path uid)
    (keeps : ∀ later isFollowed, C.evolves store later →
      (completion isFollowed).Keeps C origin later) :
    (UserService.isUserFollowed uid completion).Keeps C origin store := by
  refine reads.keeps_withCurrentUser fun later current evolves signed => ?_
  refine Code.keeps_call (reads.allows_document (fun id member => ?_) path)
    fun last answer beyond _ => ?_
  · obtain rfl := List.mem_singleton.mp member
    exact reads.signed_path signed
  · cases answer with
    | error => trivial
    | ok snapshot => exact keeps last _ (C.trans evolves beyond)

private theorem allows_collection {collection : CollectionReference} {query : Query}
    (inside : query.collection = collection) (path : ∀ id ∈ collection.ids, P.path id) :
    C.allows origin store (.getDocuments query) :=
  reads.allows rfl (by simpa [Request.ids, inside] using path)

theorem keeps_fetchUserStats {completion : UserStats → Code App} (path : P.path uid)
    (keeps : ∀ later stats, C.evolves store later → (completion stats).Keeps C origin later) :
    (UserService.fetchUserStats uid completion).Keeps C origin store := by
  refine Code.keeps_call (reads.allows_collection rfl (by simpa [CollectionReference.ids] using path))
    fun second _ toSecond _ => ?_
  refine Code.keeps_call (reads.allows_collection rfl (by simpa [CollectionReference.ids] using path))
    fun third _ toThird _ => ?_
  refine Code.keeps_call (reads.allows_collection rfl (by simp [CollectionReference.ids]))
    fun last _ toLast _ => ?_
  exact keeps last _ (C.trans (C.trans toSecond toThird) toLast)

omit reads in
private theorem hasPost_decode {documents : List Document}
    (known : ∀ document ∈ documents, P.post store document.documentID
      (document.data.string "ownerUid") (document.data.string "imageUrl"))
    (counts : ∀ document ∈ documents, P.likes (document.data.int "likes")) (now : Timestamp) :
    ∀ post ∈ PostService.decode now documents, P.hasPost store post := by
  intro post member
  obtain ⟨document, listed, rfl⟩ := List.mem_map.mp member
  exact ⟨known document listed, counts document listed⟩

theorem keeps_fetchPostsForUser {completion : List Post → Code App}
    (keeps : ∀ later posts, C.evolves store later → (∀ post ∈ posts, P.hasPost later post) →
      (completion posts).Keeps C origin later) :
    (PostService.fetchPostsForUser uid completion).Keeps C origin store := by
  refine Code.keeps_call (reads.allows_collection rfl
    (by simp [PostService.ownedBy, CollectionReference.ids])) fun later answer evolves replied => ?_
  cases answer with
  | error => trivial
  | ok documents =>
    have known := hasPost_decode (reads.posts_read replied) (reads.posts_likes replied)
    refine Code.keeps_withTimestamp fun last now beyond => ?_
    refine keeps last _ (C.trans evolves beyond) fun post member => ?_
    rw [List.mem_mergeSort] at member
    exact reads.hasPost_mono beyond (known now post member)

theorem keeps_fetchPost {id : PostId} {completion : Post → Code App} (path : P.path id)
    (keeps : ∀ later post, C.evolves store later → P.hasPost later post →
      (completion post).Keeps C origin later) :
    (PostService.fetchPost id completion).Keeps C origin store := by
  refine Code.keeps_call (reads.allows_document (fun _ member => absurd member List.not_mem_nil) path)
    ?_
  intro later answer evolves replied
  rcases answer with _ | _ | data
  · trivial
  · trivial
  · refine Code.keeps_withTimestamp fun last now beyond => ?_
    exact keeps last _ (C.trans evolves beyond)
      ⟨reads.post_mono beyond (reads.post_read replied), reads.post_likes replied⟩

theorem keeps_isUserLikedPost {post : Post} {completion : Bool → Code App} (path : P.path post.postId)
    (keeps : ∀ later liked, C.evolves store later → (completion liked).Keeps C origin later) :
    (PostService.isUserLikedPost post completion).Keeps C origin store := by
  refine reads.keeps_withCurrentUser fun later current evolves signed => ?_
  refine Code.keeps_call (reads.allows_document (fun id member => ?_) path)
    fun last answer beyond _ => ?_
  · obtain rfl := List.mem_singleton.mp member
    exact reads.signed_path signed
  · cases answer with
    | error => trivial
    | ok snapshot => exact keeps last _ (C.trans evolves beyond)

theorem keeps_fetchFeedPosts {completion : List Post → Code App}
    (keeps : ∀ later posts, C.evolves store later → (∀ post ∈ posts, P.hasPost later post) →
      (completion posts).Keeps C origin later) :
    (PostService.fetchFeedPosts completion).Keeps C origin store := by
  have deliver (posts : Ref) {later : S} (evolves : C.evolves store later) :
      (Code.withObject posts completion).Keeps C origin later :=
    reads.keeps_withObject fun last posts beyond known =>
      keeps last posts (C.trans evolves beyond) known
  refine reads.keeps_withCurrentUser fun first current toFirst signed => ?_
  refine reads.keeps_alloc (fun _ member => absurd member List.not_mem_nil)
    fun second posts toSecond => ?_
  have signed := reads.signed_mono toSecond signed
  refine Code.keeps_call (reads.allows_collection rfl
    (by simpa [CollectionReference.ids] using reads.signed_path signed))
    fun third answer toThird replied => ?_
  have sofar := C.trans (C.trans toFirst toSecond) toThird
  cases answer with
  | error => exact deliver posts sofar
  | ok documents =>
    refine Program.Keeps.seq ?_ (Program.keeps_forEach fun document member => ?_)
    · split_ifs
      · exact deliver posts sofar
      · trivial
    · refine reads.keeps_fetchPost (reads.stored_path (reads.feeds_read replied document member))
        fun last post beyond known => ?_
      refine Program.Keeps.seq (reads.keeps_modify fun final list after valid => ?_)
        (deliver posts (C.trans sofar beyond))
      intro shown listed
      rcases List.mem_append.mp listed with listed | listed
      · exact valid shown listed
      · obtain rfl := List.mem_singleton.mp listed
        exact reads.hasPost_mono after known

theorem keeps_fetchNotifications {completion : List Notification → Code App}
    (keeps : ∀ later notifications, C.evolves store later →
      (∀ notification ∈ notifications, P.hasNotification later notification) →
      (completion notifications).Keeps C origin later) :
    (NotificationService.fetchNotifications completion).Keeps C origin store := by
  refine reads.keeps_withCurrentUser fun first current toFirst signed => ?_
  refine Code.keeps_call (reads.allows_collection rfl
    (by simpa [CollectionReference.ids] using reads.signed_path signed))
    fun later answer toLater replied => ?_
  cases answer with
  | error => trivial
  | ok documents =>
    have known := reads.notifications_read replied (reads.signed_mono toLater signed)
    refine Code.keeps_withTimestamp fun last now toLast => ?_
    refine keeps last _ (C.trans (C.trans toFirst toLater) toLast) fun notification member => ?_
    obtain ⟨document, listed, rfl⟩ := List.mem_map.mp member
    exact reads.notification_mono toLast (known document listed now)

theorem keeps_fetchComments {id : PostId} {completion : List Comment → Code App} (path : P.path id)
    (keeps : ∀ later comments, C.evolves store later →
      (∀ comment ∈ comments, P.user later comment.uid) →
      (completion comments).Keeps C origin later) :
    (CommentService.fetchComments id completion).Keeps C origin store := by
  refine reads.keeps_alloc (fun _ member => absurd member List.not_mem_nil)
    fun first comments toFirst => ?_
  refine ⟨⟨reads.opens (by simpa [CollectionReference.ids] using path), ?_⟩, trivial⟩
  intro later snapshot toLater reported
  refine Program.Keeps.seq ?_ (reads.keeps_withObject fun last list toLast known =>
    keeps last list (C.trans (C.trans toFirst toLater) toLast) known)
  cases snapshot with
  | error => trivial
  | ok changes =>
    refine Code.keeps_withTimestamp fun timed now toTimed => ?_
    refine reads.keeps_modify fun last list toLast known => ?_
    intro comment member
    rcases List.mem_append.mp member with member | member
    · exact known comment member
    · obtain ⟨change, kept, rfl⟩ := List.mem_map.mp member
      obtain ⟨listed, added⟩ := List.mem_filter.mp kept
      exact reads.user_mono (C.trans toTimed toLast)
        (reads.comments_reported reported change listed (by simpa using added))

theorem keeps_uploadImage {image : UIImage} {completion : String → Code App}
    (keeps : ∀ later url, C.evolves store later → P.image url →
      (completion url).Keeps C origin later) :
    (ImageUploaderService.uploadImage image completion).Keeps C origin store := by
  refine ImageUploaderService.keeps_uploadImage (fun data => ?_) (fun _ _ _ => reads.wild)
    (fun _ _ _ ref _ _ _ => ?_) fun later _ url toLater located =>
      keeps later url toLater (reads.located located)
  · exact reads.allows rfl (by simp [Request.ids])
  · exact reads.allows rfl (by simp [Request.ids])

end Reads

namespace Writes

variable (writes : P.Writes C origin)
include writes

theorem keeps_likePost {post : Post} {completion : Option BackendError → Code App}
    (known : P.hasPost store post)
    (keeps : ∀ later error, C.evolves store later → P.event later .like post.postId →
      (completion error).Keeps C origin later) :
    (PostService.likePost post completion).Keeps C origin store := by
  refine writes.keeps_withCurrentUser fun first current toFirst signed => ?_
  have stored := writes.post_mono toFirst known.1
  have counter := writes.like_counter stored _ (writes.likes_up known.2)
  refine Program.Keeps.seq (Program.keeps_post.mpr counter) ?_
  refine Code.keeps_call (writes.like signed stored true).1 fun second _ toSecond replied => ?_
  have signed := writes.signed_mono toSecond signed
  refine Code.keeps_call (writes.like signed (writes.post_mono toSecond stored) true).2
    fun last error toLast acknowledged => ?_
  exact keeps last error (C.trans (C.trans toFirst toSecond) toLast)
    (writes.liked signed replied toLast acknowledged)

theorem keeps_unlikePost {post : Post} {completion : Option BackendError → Code App}
    (known : P.hasPost store post)
    (keeps : post.likes > 0 → ∀ later error, C.evolves store later →
      (completion error).Keeps C origin later) :
    (PostService.unlikePost post completion).Keeps C origin store := by
  refine writes.keeps_withCurrentUser fun first current toFirst signed => ?_
  have stored := writes.post_mono toFirst known.1
  split_ifs with liked
  · have counter := writes.like_counter stored _ (writes.likes_down liked known.2)
    refine Program.Keeps.seq (Program.keeps_post.mpr counter) ?_
    refine Code.keeps_call (writes.like signed stored false).1 fun second _ toSecond _ => ?_
    refine Code.keeps_call (writes.like (writes.signed_mono toSecond signed)
      (writes.post_mono toSecond stored) false).2 fun last error toLast _ => ?_
    exact keeps liked last error (C.trans (C.trans toFirst toSecond) toLast)
  · trivial

omit writes in
/-- The two requests of a follow or unfollow. -/
theorem keeps_edge {current : Uid} (present : Bool) {completion : Option BackendError → Code App}
    (edge : ∀ later, C.evolves store later →
      C.allows origin later (.put (.following current uid) present) ∧
        C.allows origin later (.put (.follower uid current) present))
    (keeps : ∀ middle later answer error, C.evolves store middle →
      C.replies middle (.put (.following current uid) present) answer → C.evolves middle later →
      C.replies later (.put (.follower uid current) present) error →
      ∀ reported, (completion reported).Keeps C origin later) :
    (match present with
      | true => Code.call (.setData (.following current uid) .empty) fun _ =>
          Code.call (.setData (.follower uid current) .empty) completion
      | false => Code.call (.delete (.following current uid)) fun _ =>
          Code.call (.delete (.follower uid current)) completion : Code App).Keeps C origin store := by
  cases present with
  | true =>
    refine Code.keeps_call (edge store (C.refl _)).1 fun middle answer toMiddle replied => ?_
    refine Code.keeps_call (edge middle toMiddle).2 fun last error toLast acknowledged => ?_
    exact keeps middle last answer error toMiddle replied toLast acknowledged error
  | false =>
    refine Code.keeps_call (edge store (C.refl _)).1 fun middle answer toMiddle replied => ?_
    refine Code.keeps_call (edge middle toMiddle).2 fun last error toLast acknowledged => ?_
    exact keeps middle last answer error toMiddle replied toLast acknowledged error

theorem keeps_updateUserFeed {user : User} :
    (PostService.updateUserFeed user).Keeps C origin store := by
  refine writes.keeps_withCurrentUser fun first current toFirst signed => ?_
  refine Code.keeps_call (writes.allows_collection rfl
    (by simp [PostService.ownedBy, CollectionReference.ids])) fun later answer toLater replied => ?_
  cases answer with
  | error => trivial
  | ok documents =>
    have signed := writes.signed_mono toLater signed
    refine Program.keeps_forEach fun id member => Program.keeps_post.mpr ?_
    obtain ⟨document, listed, rfl⟩ := List.mem_map.mp member
    exact writes.feed signed replied document listed true

theorem keeps_removeUserFeed {user : User} :
    (PostService.removeUserFeed user).Keeps C origin store := by
  refine writes.keeps_withCurrentUser fun first current toFirst signed => ?_
  refine Code.keeps_call (writes.allows_collection rfl
    (by simp [PostService.ownedBy, CollectionReference.ids])) fun later answer toLater replied => ?_
  cases answer with
  | error => exact writes.unanswered replied
  | ok documents =>
    have signed := writes.signed_mono toLater signed
    refine Program.keeps_forEach fun document listed => Program.keeps_post.mpr ?_
    exact writes.feed signed replied document listed false

/-- The notification of a follow. -/
theorem keeps_addNotification_follow {fromUser : User} (known : P.user store uid)
    (signs : P.signs store fromUser) (event : P.event store .follow uid) :
    (NotificationService.addNotification uid fromUser .follow).Keeps C origin store := by
  refine writes.keeps_withCurrentUser fun first current toFirst signed => ?_
  split_ifs with own
  · trivial
  · refine Code.keeps_withTimestamp fun last now toLast => Program.keeps_post.mpr ?_
    exact writes.notify_follow (writes.signed_mono toLast signed)
      (writes.user_mono (C.trans toFirst toLast) known) own
      (writes.signs_mono (C.trans toFirst toLast) signs)
      (writes.event_mono (C.trans toFirst toLast) event) now

/-- The notification of a like or comment. -/
theorem keeps_addNotification_post {post : Post} {fromUser : User} {type : NotificationType}
    (known : P.hasPost store post) (signs : P.signs store fromUser) (shows : type ≠ .follow)
    (event : P.event store type post.postId) :
    (NotificationService.addNotification post.ownerUid fromUser type (some post)).Keeps C origin
      store := by
  refine writes.keeps_withCurrentUser fun first current toFirst signed => ?_
  split_ifs with own
  · trivial
  · refine Code.keeps_withTimestamp fun last now toLast => Program.keeps_post.mpr ?_
    exact writes.notify_post (writes.signed_mono toLast signed)
      (writes.hasPost_mono (C.trans toFirst toLast) known) own
      (writes.signs_mono (C.trans toFirst toLast) signs) shows
      (writes.event_mono (C.trans toFirst toLast) event) now

theorem keeps_uploadComment {text : String} {post : Post} {user : User}
    {completion : Option BackendError → Code App} (known : P.hasPost store post)
    (signs : P.signs store user)
    (keeps : ∀ later error, C.evolves store later → P.event later .comment post.postId →
      (completion error).Keeps C origin later) :
    (CommentService.uploadComment text post user completion).Keeps C origin store := by
  refine Code.keeps_withTimestamp fun first now toFirst => ?_
  refine Code.keeps_call (writes.comment (writes.hasPost_mono toFirst known)
    (writes.signs_mono toFirst signs) text now) fun last error toLast replied => ?_
  exact keeps last error (C.trans toFirst toLast) (writes.commented replied)

/-- An upload on behalf of the given account. -/
theorem keeps_upload {caption : String} {image : UIImage} {user : User}
    {completion : Option BackendError → Code App} (uploads : P.uploads store uid user)
    (keeps : ∀ later error, C.evolves store later → (completion error).Keeps C origin later) :
    (ImageUploaderService.uploadImage image fun imageUrl =>
      Code.withTimestamp fun timestamp =>
        Code.call (.addDocument .posts fun _ => PostService.data caption timestamp imageUrl uid user)
          completion : Code App).Keeps C origin store := by
  refine writes.keeps_uploadImage fun first url toFirst _ => ?_
  refine Code.keeps_withTimestamp fun second now toSecond => ?_
  have sofar := C.trans toFirst toSecond
  refine Code.keeps_call (writes.upload (writes.uploads_mono sofar uploads) caption now url)
    fun last error toLast _ => ?_
  exact keeps last error (C.trans sofar toLast)

theorem keeps_saveUserData {user : User} {completion : Option BackendError → Code App}
    (known : P.image user.profileImage)
    (keeps : ∀ later error, C.evolves store later → (completion error).Keeps C origin later) :
    (UserService.saveUserData user completion).Keeps C origin store := by
  refine writes.keeps_withCurrentUser fun first current toFirst signed => ?_
  refine Code.keeps_call (writes.save signed known _ _ _) fun last error toLast _ => ?_
  exact keeps last error (C.trans toFirst toLast)

theorem keeps_updateProfileImage {user : User} {image : UIImage}
    {completion : Option String → Option BackendError → Code App} (known : P.image user.profileImage)
    (own : P.own store user.uid)
    (keeps : ∀ later url error, C.evolves store later → (∀ link ∈ url, P.image link) →
      (completion url error).Keeps C origin later) :
    (UserService.updateProfileImage user image completion).Keeps C origin store := by
  refine writes.keeps_withCurrentUser fun first current toFirst signed => ?_
  refine Program.Keeps.seq ?_ (writes.keeps_uploadImage fun second url toSecond located => ?_)
  · split_ifs with stored
    · exact Program.keeps_post.mpr (writes.allows rfl (by simp [Request.ids]))
    · exact writes.elsewhere known (Bool.eq_false_iff.mpr stored)
  · refine Code.keeps_call (writes.picture (writes.signed_mono toSecond signed) located)
      fun third error toThird _ => ?_
    have sofar := C.trans (C.trans toFirst toSecond) toThird
    cases error with
    | some error => exact keeps third none (some error) sofar (by simp)
    | none =>
      refine Program.Keeps.seq ?_ (keeps third (some url) none sofar (by simpa using located))
      refine Code.keeps_call (writes.allows_collection rfl (by simp [CollectionReference.ids]))
        fun last answer toLast replied => ?_
      cases answer with
      | error => trivial
      | ok documents =>
        refine Program.keeps_forEach fun document listed => Program.keeps_post.mpr ?_
        exact writes.owner_image (writes.own_mono (C.trans sofar toLast) own) replied document
          listed url

end Writes

end InstagramClone.Policy
