import InstagramClone.API.CommentService
import InstagramClone.API.NotificationService
import InstagramClone.API.UserService

/-! # CommentController and its input view -/

namespace InstagramClone

open Async

namespace CommentController

def fetchComments (self : Ref) : Code App :=
  Code.withObject self fun controller : CommentController =>
    CommentService.fetchComments controller.post.postId fun comments =>
      Code.modify self fun controller : CommentController => { controller with comments }

def viewDidLoad (self : Ref) : Code App := fetchComments self

/-- The user edits the text of the input view. -/
def editText (self : Ref) (text : String) : Code App :=
  Code.modify self fun controller : CommentController => { controller with commentText := text }

def clearInputText (self : Ref) : Code App := editText self ""

/-- `inputView(_:uploadText:)` -/
def uploadText (self : Ref) (text : String) : Code App :=
  Code.withTabUser self fun currentUser =>
    Code.withObject self fun controller : CommentController =>
      CommentService.uploadComment text controller.post currentUser fun _ =>
        .seq (clearInputText self) <|
        NotificationService.addNotification controller.post.ownerUid currentUser .comment
          (some controller.post)

/-- `CustomInputAccessoryView.onTapPost` -/
def onTapPost (self : Ref) : Code App :=
  Code.withObject self fun controller : CommentController => uploadText self controller.commentText

def didSelectItemAt (self : Ref) (row : ℕ) : Code App :=
  Code.withObject self fun controller : CommentController =>
    match controller.comments[row]? with
    | none => .done
    | some comment => UserService.fetchUser comment.uid fun user =>
        Code.push self (α := ProfileController) { user }

end CommentController

end InstagramClone
