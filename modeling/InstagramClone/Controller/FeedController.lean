import InstagramClone.API.NotificationService
import InstagramClone.API.PostService
import InstagramClone.API.UserService

/-! # FeedController and FeedCell

A feed shows the signed-in user's feed, or the one post it was opened with. Cells are handed a
copy of a post and are given another one when they are reused.
-/

namespace InstagramClone

open Async

namespace FeedController

/-- `self.posts[index].didLike = didLike` at the first post with this id, if any. -/
def setDidLike (postId : PostId) (didLike : Bool) (posts : List Post) : List Post :=
  posts.modify (posts.findIdx fun post => post.postId = postId) fun post =>
    { post with didLike }

def isUserLikedPost (self : Ref) : Code App :=
  Code.withObject self fun feed : FeedController =>
    match feed.post with
    | some post => PostService.isUserLikedPost post fun didLike =>
        Code.modify self fun feed : FeedController =>
          { feed with post := feed.post.map fun post => { post with didLike } }
    | none => .forEach feed.posts fun post =>
        PostService.isUserLikedPost post fun didLike =>
          Code.modify self fun feed : FeedController =>
            { feed with posts := setDidLike post.postId didLike feed.posts }

def fetchPosts (self : Ref) : Code App :=
  Code.withObject self fun feed : FeedController =>
    if feed.post.isNone then
      PostService.fetchFeedPosts fun posts =>
        .seq (Code.modify self fun feed : FeedController => { feed with posts }) <|
        isUserLikedPost self
    else .done

def viewDidLoad (self : Ref) : Code App := fetchPosts self

def onTapRefresh (self : Ref) : Code App := fetchPosts self

/-- The post shown in a row: the single post, or one of the list. -/
def row? (feed : FeedController) (row : ℕ) : Option Post :=
  match feed.post with
  | some post => some post
  | none => feed.posts[row]?

/-- A new cell of this feed, before it is given a post. -/
def newCell (self : Ref) : Code App :=
  .inspect fun app => Code.alloc (α := FeedCell) ⟨none, self⟩ (app.inTab self) fun _ => .done

/-- `collectionView(_:cellForItemAt:)` handing a cell to a row. -/
def cellForItemAt (self : Ref) (row : ℕ) (cell : Ref) : Code App :=
  Code.withObject self fun feed : FeedController =>
    match feed.row? row with
    | none => .done
    | some post => Code.modify cell fun _ : FeedCell => ⟨some post, self⟩

def showProfileFor (self : Ref) (uid : Uid) : Code App :=
  UserService.fetchUser uid fun user => Code.push self (α := ProfileController) { user }

def showCommentsFor (self : Ref) (post : Post) : Code App :=
  Code.push self (α := CommentController) { post }

/-- `cell.viewModel?.post.likes = likes` -/
def setLikes (cell : Ref) (likes : ℤ) : Code App :=
  Code.modify cell fun shown : FeedCell =>
    { shown with viewModel := shown.viewModel.map fun post => { post with likes } }

/-- `cell.viewModel?.post.didLike.toggle()` -/
def toggleDidLike (cell : Ref) : Code App :=
  Code.modify cell fun shown : FeedCell =>
    { shown with viewModel := shown.viewModel.map fun post => { post with didLike := !post.didLike } }

def didLike (self cell : Ref) (post : Post) : Code App :=
  Code.withTabUser self fun user =>
    .seq (toggleDidLike cell) <|
    if post.didLike then
      PostService.unlikePost post fun _ => setLikes cell (post.likes - 1)
    else
      PostService.likePost post fun _ =>
        .seq (setLikes cell (post.likes + 1)) <|
        NotificationService.addNotification post.ownerUid user .like (some post)

end FeedController

namespace FeedCell

/-- The cell's post and delegate, `guard let viewModel = viewModel else { return }`. -/
def withViewModel (self : Ref) (body : Post → Ref → Code App) : Code App :=
  Code.withObject self fun cell : FeedCell =>
    match cell.viewModel with
    | none => .done
    | some post => body post cell.delegate

def showUserProfile (self : Ref) : Code App :=
  withViewModel self fun post delegate => FeedController.showProfileFor delegate post.ownerUid

def onTapLike (self : Ref) : Code App :=
  withViewModel self fun post delegate => FeedController.didLike delegate self post

def onTapComment (self : Ref) : Code App :=
  withViewModel self fun post delegate => FeedController.showCommentsFor delegate post

end FeedCell

end InstagramClone
