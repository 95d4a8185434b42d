import InstagramClone.Model.App

/-! # CommentService -/

namespace InstagramClone.CommentService

open Async

/-- The data of a new comment. -/
def data (comment : String) (post : Post) (user : User) (timestamp : Timestamp) : Dictionary :=
  .ofList
    [("uid", .string user.uid), ("comment", .string comment),
     ("username", .string user.username), ("profileImage", .string user.profileImage),
     ("postOwnerId", .string post.ownerUid), ("timestamp", .timestamp timestamp)]

def uploadComment {σ : Type} [Device σ] (comment : String) (post : Post) (user : User)
    (completion : Option BackendError → Code σ) : Code σ :=
  Code.withTimestamp fun timestamp =>
    Code.call (.addDocument (.comments post.postId) fun _ => data comment post user timestamp)
      completion

/-- The comments of the added documents, decoded in the order of the changes. -/
def added (now : Timestamp) (changes : List DocumentChange) : List Comment :=
  (changes.filter (·.type = .added)).map fun change => Comment.ofDictionary now change.document.data

/-- Every snapshot appends what it adds to the one captured list, and delivers the whole list. -/
def fetchComments (postId : PostId) (completion : List Comment → Code App) : Code App :=
  Code.alloc ([] : List Comment) false fun comments =>
    .listen { collection := .comments postId, orderBy := some "timestamp" } (fun snapshot =>
      .seq (match snapshot with
        | .error _ => .done
        | .ok changes => Code.withTimestamp fun now =>
            Code.modify comments fun list : List Comment => list ++ added now changes)
        (Code.withObject comments completion)) .done

end InstagramClone.CommentService
