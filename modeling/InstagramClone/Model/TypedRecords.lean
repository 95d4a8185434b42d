import InstagramClone.API.CommentService
import InstagramClone.API.NotificationService
import InstagramClone.API.PostService
import InstagramClone.API.UserService
import Mathlib.Logic.Function.Basic

/-! # The database as typed records

What the app means by its documents: a user has a name and an image, a post has a caption, an owner
and a counter, a notification tells of one event, and likes, feeds and follow edges are marks that
are there or not. A change of the records is compiled to one request, and serving the request does
to the documents what the change does to the records.
-/

namespace InstagramClone

open Async

/-- A user's document, which stands under its uid. -/
structure UserRecord where
  email : String
  fullname : String
  profileImage : String
  username : String
deriving DecidableEq, Repr

structure PostRecord where
  caption : String
  timestamp : Timestamp
  likes : ℤ
  imageUrl : String
  ownerUid : Uid
  ownerUsername : String
  ownerProfileImage : String
deriving DecidableEq, Repr

structure CommentRecord where
  uid : Uid
  comment : String
  username : String
  profileImage : String
  postOwnerId : Uid
  timestamp : Timestamp
deriving DecidableEq, Repr

/-- What a notification tells of: a like of or a comment on a post with this id and image, or a
follow. -/
inductive NotifiedEvent where
  | like (postId : PostId) (postImage : String)
  | comment (postId : PostId) (postImage : String)
  | follow
deriving DecidableEq, Repr

/-- A notification, which stands under its id. -/
structure NotificationRecord where
  uid : Uid
  profileImage : String
  username : String
  event : NotifiedEvent
  timestamp : Timestamp
deriving DecidableEq, Repr

/-- A document without fields, whose existence is all it says. -/
inductive Mark where
  | userFeed (uid : Uid) (post : PostId)
  | userLike (uid : Uid) (post : PostId)
  | following (uid other : Uid)
  | follower (uid other : Uid)
  | postLike (post : PostId) (uid : Uid)
deriving DecidableEq, Repr

structure Records where
  users : Uid → Option UserRecord
  posts : PostId → Option PostRecord
  comments : PostId → String → Option CommentRecord
  notifications : Uid → String → Option NotificationRecord
  marks : Mark → Bool

section Documents

def UserRecord.data (uid : Uid) (record : UserRecord) : Dictionary :=
  UserService.data record.email record.fullname record.profileImage uid record.username

def PostRecord.data (record : PostRecord) : Dictionary :=
  .ofList
    [("caption", .string record.caption), ("timestamp", .timestamp record.timestamp),
     ("likes", .int record.likes), ("imageUrl", .string record.imageUrl),
     ("ownerUid", .string record.ownerUid), ("ownerUsername", .string record.ownerUsername),
     ("ownerProfileImage", .string record.ownerProfileImage)]

def CommentRecord.data (record : CommentRecord) : Dictionary :=
  .ofList
    [("uid", .string record.uid), ("comment", .string record.comment),
     ("username", .string record.username), ("profileImage", .string record.profileImage),
     ("postOwnerId", .string record.postOwnerId), ("timestamp", .timestamp record.timestamp)]

namespace NotifiedEvent

def type : NotifiedEvent → NotificationType
  | like .. => .like
  | comment .. => .comment
  | follow => .follow

/-- The `postId` and `postImage` entries. -/
def postFields : NotifiedEvent → List (String × Value)
  | like postId postImage | comment postId postImage =>
    [("postId", .string postId), ("postImage", .string postImage)]
  | follow => []

end NotifiedEvent

def NotificationRecord.data (id : String) (record : NotificationRecord) : Dictionary :=
  .ofList
    ([("timestamp", .timestamp record.timestamp), ("uid", .string record.uid), ("id", .string id),
      ("type", .int record.event.type.rawValue), ("profileImage", .string record.profileImage),
      ("username", .string record.username)] ++ record.event.postFields)

def Mark.reference : Mark → DocumentReference
  | userFeed uid post => .userFeed uid post
  | userLike uid post => .userLike uid post
  | following uid other => .following uid other
  | follower uid other => .follower uid other
  | postLike post uid => .postLike post uid

namespace Records

/-- The document of a mark. -/
def mark (records : Records) (mark : Mark) : Option Dictionary :=
  if records.marks mark then some .empty else none

/-- The document that the records hold at a path. -/
def lookup (records : Records) : DocumentReference → Option Dictionary
  | .user uid => (records.users uid).map (UserRecord.data uid)
  | .post id => (records.posts id).map PostRecord.data
  | .comment post id => (records.comments post id).map CommentRecord.data
  | .notification uid id => (records.notifications uid id).map (NotificationRecord.data id)
  | .userFeed uid post => records.mark (.userFeed uid post)
  | .userLike uid post => records.mark (.userLike uid post)
  | .following uid other => records.mark (.following uid other)
  | .follower uid other => records.mark (.follower uid other)
  | .postLike post uid => records.mark (.postLike post uid)

@[simp] theorem lookup_reference (records : Records) (mark : Mark) :
    records.lookup mark.reference = records.mark mark := by
  cases mark <;> rfl

/-- The documents of the database are those of the records. -/
def Represents (records : Records) (store : Firestore) : Prop :=
  ∀ reference, store.lookup reference = records.lookup reference

/-- No records at all, as an empty database has them. -/
def empty : Records :=
  ⟨fun _ => none, fun _ => none, fun _ _ => none, fun _ _ => none, fun _ => false⟩

theorem represents_empty : empty.Represents ∅ := by
  intro reference
  cases reference <;> rfl

end Records

end Documents

/-- A change that the app makes to the records. -/
inductive RecordChange where
  | saveUser (uid : Uid) (record : UserRecord)
  | setProfileImage (uid : Uid) (profileImage : String)
  | addPost (record : PostRecord)
  | setLikes (post : PostId) (likes : ℤ)
  | setOwnerProfileImage (post : PostId) (profileImage : String)
  | addComment (post : PostId) (record : CommentRecord)
  | addNotification (receiver : Uid) (record : NotificationRecord)
  | put (mark : Mark) (present : Bool)

namespace RecordChange

/-- The request that a change is compiled to. -/
def request : RecordChange → Request
  | saveUser uid record => .setData (.user uid) (record.data uid)
  | setProfileImage uid profileImage =>
    .updateData (.user uid) (.ofList [("profileImage", .string profileImage)])
  | addPost record => .addDocument .posts fun _ => record.data
  | setLikes post likes => .updateData (.post post) (.ofList [("likes", .int likes)])
  | setOwnerProfileImage post profileImage =>
    .updateData (.post post) (.ofList [("ownerProfileImage", .string profileImage)])
  | addComment post record => .addDocument (.comments post) fun _ => record.data
  | addNotification receiver record =>
    .addDocument (.userNotifications receiver) fun id => record.data id
  | put mark present => .put mark.reference present

/-- What a change makes of the records, where new records are given the fresh id. -/
def apply (fresh : String) (records : Records) : RecordChange → Records
  | saveUser uid record =>
    { records with users := Function.update records.users uid (some record) }
  | setProfileImage uid profileImage =>
    { records with
      users := Function.update records.users uid
        ((records.users uid).map fun record => { record with profileImage }) }
  | addPost record =>
    { records with posts := Function.update records.posts fresh (some record) }
  | setLikes post likes =>
    { records with
      posts := Function.update records.posts post
        ((records.posts post).map fun record => { record with likes }) }
  | setOwnerProfileImage post profileImage =>
    { records with
      posts := Function.update records.posts post
        ((records.posts post).map fun record => { record with ownerProfileImage := profileImage }) }
  | addComment post record =>
    { records with
      comments := Function.update records.comments post
        (Function.update (records.comments post) fresh (some record)) }
  | addNotification receiver record =>
    { records with
      notifications := Function.update records.notifications receiver
        (Function.update (records.notifications receiver) fresh (some record)) }
  | put mark present => { records with marks := Function.update records.marks mark present }

end RecordChange

namespace Dictionary

/-- Updating one field of a dictionary whose other fields are those of another. -/
private theorem updating_eq {stored changed : Dictionary} {key : String} {value : Value}
    (set : changed key = some value) (same : ∀ other, other ≠ key → changed other = stored other) :
    stored.updating (ofList [(key, value)]) = changed := by
  funext other
  by_cases here : other = key
  · rw [here, updating_self, set]
  · rw [updating_of_ne stored value here, same other here]

/-- Dictionaries listed with the same keys in the same order agree wherever their values do. -/
private theorem ofList_cons_congr {key other : String} {first second : Value}
    {left right : List (String × Value)} (value : other = key → first = second)
    (rest : other ≠ key → ofList left other = ofList right other) :
    ofList ((key, first) :: left) other = ofList ((key, second) :: right) other := by
  by_cases here : other = key
  · simp [ofList, here, value here]
  · have apart : (other == key) = false := beq_false_of_ne here
    simpa [ofList, List.lookup_cons, apart] using rest here

end Dictionary

section Decoding

def User.record (user : User) : UserRecord :=
  ⟨user.email, user.fullname, user.profileImage, user.username⟩

def Post.record (post : Post) : PostRecord :=
  ⟨post.caption, post.timestamp, post.likes, post.imageUrl, post.ownerUid, post.ownerUsername,
    post.ownerProfileImage⟩

/-- The comment's record, with the owner of its post, which is not decoded. -/
def Comment.record (comment : Comment) (postOwnerId : Uid) : CommentRecord :=
  ⟨comment.uid, comment.comment, comment.username, comment.profileImage, postOwnerId,
    comment.timestamp⟩

def Notification.event (notification : Notification) : NotifiedEvent :=
  match notification.type with
  | .like => .like (notification.postId.getD "") (notification.postImage.getD "")
  | .comment => .comment (notification.postId.getD "") (notification.postImage.getD "")
  | .follow => .follow

def Notification.record (notification : Notification) : NotificationRecord :=
  ⟨notification.uid, notification.profileImage.getD "", notification.username, notification.event,
    notification.timestamp⟩

namespace UserRecord

variable (uid : Uid) (record : UserRecord)

theorem uid_ofDictionary : (User.ofDictionary (record.data uid)).uid = uid := by
  simp [User.ofDictionary, data, UserService.data, Dictionary.ofList, Dictionary.string,
    List.lookup_cons]

/-- Decoding a user's document gives back its record. -/
theorem ofDictionary_record : (User.ofDictionary (record.data uid)).record = record := by
  simp [User.record, User.ofDictionary, data, UserService.data, Dictionary.ofList,
    Dictionary.string, List.lookup_cons]

end UserRecord

/-- Decoding a post's document gives back its record, whatever the time. -/
theorem PostRecord.ofDictionary_record (now : Timestamp) (id : PostId) (record : PostRecord) :
    (Post.ofDictionary now id record.data).record = record := by
  simp [Post.record, Post.ofDictionary, data, Dictionary.ofList, Dictionary.string, Dictionary.int,
    Dictionary.timestamp, List.lookup_cons]

/-- Decoding a comment's document gives back all of its record but the owner of the post. -/
theorem CommentRecord.ofDictionary_record (now : Timestamp) (record : CommentRecord) :
    (Comment.ofDictionary now record.data).record record.postOwnerId = record := by
  simp [Comment.record, Comment.ofDictionary, data, Dictionary.ofList, Dictionary.string,
    Dictionary.timestamp, List.lookup_cons]

namespace NotificationRecord

variable (now : Timestamp) (id : String) (record : NotificationRecord)

theorem id_ofDictionary : (Notification.ofDictionary now (record.data id)).id = id := by
  simp [Notification.ofDictionary, data, Dictionary.ofList, Dictionary.string, List.lookup_cons]

/-- Decoding a notification's document gives back its record. -/
theorem ofDictionary_record : (Notification.ofDictionary now (record.data id)).record = record := by
  obtain ⟨uid, profileImage, username, event, timestamp⟩ := record
  cases event <;>
    simp [Notification.record, Notification.event, Notification.ofDictionary, data,
      NotifiedEvent.type, NotifiedEvent.postFields, Dictionary.ofList, Dictionary.string,
      Dictionary.int, Dictionary.timestamp, List.lookup_cons]

end NotificationRecord

end Decoding

section Updates

private theorem UserRecord.data_updating (uid : Uid) (record : UserRecord) (profileImage : String) :
    (record.data uid).updating (.ofList [("profileImage", .string profileImage)]) =
      UserRecord.data uid { record with profileImage } := by
  apply Dictionary.updating_eq rfl
  intro other apart
  refine Dictionary.ofList_cons_congr (fun _ => rfl) fun _ => ?_
  refine Dictionary.ofList_cons_congr (fun _ => rfl) fun _ => ?_
  exact Dictionary.ofList_cons_congr (fun here => absurd here apart) fun _ => rfl

private theorem PostRecord.data_updating_likes (record : PostRecord) (likes : ℤ) :
    record.data.updating (.ofList [("likes", .int likes)]) =
      PostRecord.data { record with likes } := by
  apply Dictionary.updating_eq rfl
  intro other apart
  refine Dictionary.ofList_cons_congr (fun _ => rfl) fun _ => ?_
  refine Dictionary.ofList_cons_congr (fun _ => rfl) fun _ => ?_
  exact Dictionary.ofList_cons_congr (fun here => absurd here apart) fun _ => rfl

private theorem PostRecord.data_updating_image (record : PostRecord) (profileImage : String) :
    record.data.updating (.ofList [("ownerProfileImage", .string profileImage)]) =
      PostRecord.data { record with ownerProfileImage := profileImage } := by
  apply Dictionary.updating_eq rfl
  intro other apart
  iterate 6 refine Dictionary.ofList_cons_congr (fun _ => rfl) fun _ => ?_
  exact Dictionary.ofList_cons_congr (fun here => absurd here apart) fun _ => rfl

end Updates

namespace Records

variable {records : Records} {store : Firestore} {reference : DocumentReference}

/-- A document that is written, and what the changed records hold there and elsewhere. -/
theorem Represents.insert {changed : Records} {data : Dictionary}
    (represents : records.Represents store) (here : changed.lookup reference = some data)
    (elsewhere : ∀ other, other ≠ reference → changed.lookup other = records.lookup other) :
    changed.Represents (store.insert reference data) := by
  intro other
  rw [Firestore.lookup_set]
  split_ifs with same
  · rw [same, here]
  · rw [elsewhere other same, represents other]

private theorem Represents.erase {changed : Records} (represents : records.Represents store)
    (here : changed.lookup reference = none)
    (elsewhere : ∀ other, other ≠ reference → changed.lookup other = records.lookup other) :
    changed.Represents (store.erase reference) := by
  intro other
  rw [Firestore.lookup_delete]
  split_ifs with same
  · rw [same, here]
  · rw [elsewhere other same, represents other]

/-- Updating a document that the records hold, or one that is missing. -/
private theorem Represents.update {changed : Records} {fields : Dictionary} {fresh : String}
    (represents : records.Represents store)
    (here : changed.lookup reference =
      (records.lookup reference).map fun stored => stored.updating fields)
    (elsewhere : ∀ other, other ≠ reference → changed.lookup other = records.lookup other) :
    changed.Represents ((Request.updateData reference fields).apply fresh store) := by
  cases stored : store.lookup reference with
  | none =>
    intro other
    simp only [Request.apply, stored]
    by_cases same : other = reference
    · rw [same, here, ← represents reference, stored]
      rfl
    · rw [elsewhere other same, represents other]
  | some data =>
    simp only [Request.apply, stored]
    apply represents.insert _ elsewhere
    rw [here, ← represents reference, stored]
    rfl

end Records

namespace RecordChange

variable {records : Records} {store : Firestore} {fresh : String}

/-- The records of users that are changed at one uid. -/
private theorem lookup_users {users : Option UserRecord} {uid : Uid} {other : DocumentReference}
    (apart : other ≠ .user uid) :
    ({ records with users := Function.update records.users uid users } : Records).lookup other =
      records.lookup other := by
  cases other with
  | user current =>
    have distinct : current ≠ uid := fun same => apart (congrArg _ same)
    simp only [Records.lookup, Function.update_of_ne distinct]
  | _ => rfl

private theorem lookup_posts {posts : Option PostRecord} {id : PostId} {other : DocumentReference}
    (apart : other ≠ .post id) :
    ({ records with posts := Function.update records.posts id posts } : Records).lookup other =
      records.lookup other := by
  cases other with
  | post current =>
    have distinct : current ≠ id := fun same => apart (congrArg _ same)
    simp only [Records.lookup, Function.update_of_ne distinct]
  | _ => rfl

private theorem lookup_marks {mark : Mark} {present : Bool} {other : DocumentReference}
    (apart : other ≠ mark.reference) :
    ({ records with marks := Function.update records.marks mark present } : Records).lookup other =
      records.lookup other := by
  have kept (shown : Mark) (same : other = shown.reference) :
      ({ records with marks := Function.update records.marks mark present } : Records).mark shown =
        records.mark shown := by
    have distinct : shown ≠ mark := by
      rintro rfl
      exact apart same
    simp only [Records.mark, Function.update_of_ne distinct]
  cases other with
  | userFeed uid post => exact kept (.userFeed uid post) rfl
  | userLike uid post => exact kept (.userLike uid post) rfl
  | following uid current => exact kept (.following uid current) rfl
  | follower uid current => exact kept (.follower uid current) rfl
  | postLike post uid => exact kept (.postLike post uid) rfl
  | _ => rfl

/-- Serving the request of a change does to the documents what the change does to the records. -/
theorem represents_apply (represents : records.Represents store) (change : RecordChange) :
    (change.apply fresh records).Represents (change.request.apply fresh store) := by
  cases change with
  | saveUser uid record =>
    apply represents.insert _ fun _ => lookup_users
    simp only [Records.lookup, Function.update_self, Option.map_some]
  | setProfileImage uid profileImage =>
    apply represents.update _ fun _ => lookup_users
    simp only [Records.lookup, Function.update_self, Option.map_map, Function.comp_def,
      UserRecord.data_updating]
  | addPost record =>
    apply represents.insert _ fun _ => lookup_posts
    simp only [Records.lookup, Function.update_self, Option.map_some]
  | setLikes post likes =>
    apply represents.update _ fun _ => lookup_posts
    simp only [Records.lookup, Function.update_self, Option.map_map, Function.comp_def,
      PostRecord.data_updating_likes]
  | setOwnerProfileImage post profileImage =>
    apply represents.update _ fun _ => lookup_posts
    simp only [Records.lookup, Function.update_self, Option.map_map, Function.comp_def,
      PostRecord.data_updating_image]
  | addComment post record =>
    apply represents.insert
    · simp only [apply, CollectionReference.document, Records.lookup, Function.update_self,
        Option.map_some]
    · intro other apart
      cases other with
      | comment current id =>
        by_cases same : current = post
        · subst same
          have distinct : id ≠ fresh := fun drawn => apart (congrArg _ drawn)
          simp only [apply, Records.lookup, Function.update_self, Function.update_of_ne distinct]
        · simp only [apply, Records.lookup, Function.update_of_ne same]
      | _ => rfl
  | addNotification receiver record =>
    apply represents.insert
    · simp only [apply, CollectionReference.document, Records.lookup, Function.update_self,
        Option.map_some]
    · intro other apart
      cases other with
      | notification current id =>
        by_cases same : current = receiver
        · subst same
          have distinct : id ≠ fresh := fun drawn => apart (congrArg _ drawn)
          simp only [apply, Records.lookup, Function.update_self, Function.update_of_ne distinct]
        · simp only [apply, Records.lookup, Function.update_of_ne same]
      | _ => rfl
  | put mark present =>
    cases present with
    | true =>
      apply represents.insert _ fun _ => lookup_marks
      simp only [Records.lookup_reference, Records.mark, Function.update_self, if_true]
    | false =>
      apply represents.erase _ fun _ => lookup_marks
      simp only [Records.lookup_reference, Records.mark, Function.update_self, Bool.false_eq_true,
        if_false]

end RecordChange

end InstagramClone
