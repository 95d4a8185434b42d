import InstagramClone.Model.Device

/-! # NotificationService -/

namespace InstagramClone.NotificationService

open Async

variable {σ : Type} [Device σ]

/-- The `postId` and `postImage` entries, written only when there is a post. -/
def postFields : Option Post → List (String × Value)
  | none => []
  | some post => [("postId", .string post.postId), ("postImage", .string post.imageUrl)]

/-- The data of a new notification under this id. -/
def data (fromUser : User) (type : NotificationType) (post : Option Post) (timestamp : Timestamp)
    (documentID : String) : Dictionary :=
  .ofList
    ([("timestamp", .timestamp timestamp), ("uid", .string fromUser.uid),
      ("id", .string documentID), ("type", .int type.rawValue),
      ("profileImage", .string fromUser.profileImage),
      ("username", .string fromUser.username)] ++ postFields post)

def addNotification (uid : Uid) (fromUser : User) (type : NotificationType)
    (post : Option Post := none) : Code σ :=
  Code.withCurrentUser fun currentUid =>
    if uid = currentUid then .done
    else Code.withTimestamp fun timestamp =>
      .post (.addDocument (.userNotifications uid) (data fromUser type post timestamp))

def fetchNotifications (completion : List Notification → Code σ) : Code σ :=
  Code.withCurrentUser fun currentUid =>
    Code.call (.getDocuments
        { collection := .userNotifications currentUid, orderBy := some "timestamp" }) fun
      | .error _ => .done
      | .ok documents => Code.withTimestamp fun now =>
          completion (documents.map fun document => Notification.ofDictionary now document.data)

end InstagramClone.NotificationService
