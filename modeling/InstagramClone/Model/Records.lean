import InstagramClone.Model.Firestore

/-! # The records the app decodes from documents

Each decoder reads by key and falls back silently on a missing or mistyped field. Decoders that
default a timestamp to the present take the clock as an argument.
-/

namespace InstagramClone

structure UserStats where
  followers : ℕ
  following : ℕ
  posts : ℕ
deriving DecidableEq, Repr

structure User where
  email : String
  fullname : String
  profileImage : String
  username : String
  uid : Uid
  stats : UserStats := ⟨0, 0, 0⟩
  isFollowed : Bool := false
deriving DecidableEq, Repr

/-- `User.init(dictionary:)` -/
def User.ofDictionary (dictionary : Dictionary) : User where
  email := dictionary.string "email"
  fullname := dictionary.string "fullname"
  profileImage := dictionary.string "profileImage"
  username := dictionary.string "username"
  uid := dictionary.string "uid"
  stats := ⟨0, 0, 0⟩

structure Post where
  postId : PostId
  caption : String
  imageUrl : String
  likes : ℤ
  ownerUid : Uid
  ownerUsername : String
  ownerProfileImage : String
  timestamp : Timestamp
  didLike : Bool := false
deriving DecidableEq, Repr

/-- `Post.init(postId:dictionary:)` -/
def Post.ofDictionary (now : Timestamp) (postId : PostId) (dictionary : Dictionary) : Post where
  postId
  caption := dictionary.string "caption"
  imageUrl := dictionary.string "imageUrl"
  likes := dictionary.int "likes"
  ownerUid := dictionary.string "ownerUid"
  ownerUsername := dictionary.string "ownerUsername"
  ownerProfileImage := dictionary.string "ownerProfileImage"
  timestamp := dictionary.timestamp "timestamp" now

structure Comment where
  uid : Uid
  username : String
  profileImage : String
  comment : String
  postOwnerUid : Uid
  timestamp : Timestamp
deriving DecidableEq, Repr

/-- `Comment.init(dictionary:)` -/
def Comment.ofDictionary (now : Timestamp) (dictionary : Dictionary) : Comment where
  uid := dictionary.string "uid"
  username := dictionary.string "username"
  profileImage := dictionary.string "profileImage"
  comment := dictionary.string "comment"
  postOwnerUid := dictionary.string "postOwnerUid"
  timestamp := dictionary.timestamp "timestamp" now

inductive NotificationType where
  | like
  | follow
  | comment
deriving DecidableEq, Repr

namespace NotificationType

def rawValue : NotificationType → ℤ
  | like => 0
  | follow => 1
  | comment => 2

/-- `NotificationType(rawValue:)` -/
def ofRawValue? : ℤ → Option NotificationType
  | 0 => some like
  | 1 => some follow
  | 2 => some comment
  | _ => none

@[simp] theorem ofRawValue?_rawValue (type : NotificationType) :
    ofRawValue? type.rawValue = some type := by
  cases type <;> rfl

end NotificationType

structure Notification where
  id : String
  uid : Uid
  profileImage : Option String
  username : String
  postId : Option PostId
  postImage : Option String
  type : NotificationType
  timestamp : Timestamp
  userIsFollowed : Bool
deriving DecidableEq, Repr

/-- `Notification.init(dictionary:)`; the optional fields are never `nil`, they default too. -/
def Notification.ofDictionary (now : Timestamp) (dictionary : Dictionary) : Notification where
  id := dictionary.string "id"
  uid := dictionary.string "uid"
  profileImage := some (dictionary.string "profileImage")
  username := dictionary.string "username"
  postId := some (dictionary.string "postId")
  postImage := some (dictionary.string "postImage")
  type := (NotificationType.ofRawValue? (dictionary.int "type")).getD .like
  timestamp := dictionary.timestamp "timestamp" now
  userIsFollowed := false

end InstagramClone
