import InstagramClone.API.NotificationService
import InstagramClone.API.PostService
import InstagramClone.API.UserService

/-! # NotificationController and NotificationCell

A row shows a follow button for a follow notification and a post image for the others; a hidden
view receives no taps.
-/

namespace InstagramClone

open Async

namespace NotificationController

/-- `self.notifications[index].userIsFollowed = isFollowed` at the first row with this id. -/
def setUserIsFollowed (id : String) (isFollowed : Bool) (notifications : List Notification) :
    List Notification :=
  notifications.modify (notifications.findIdx fun notification => notification.id = id)
    fun notification => { notification with userIsFollowed := isFollowed }

def checkIfUserIsFollowed (self : Ref) : Code App :=
  Code.withObject self fun controller : NotificationController =>
    .forEach controller.notifications fun notif =>
      if notif.type = .follow then
        UserService.isUserFollowed notif.uid fun isFollowed =>
          Code.modify self fun controller : NotificationController =>
            ⟨setUserIsFollowed notif.id isFollowed controller.notifications⟩
      else .done

def fetchNotifications (self : Ref) : Code App :=
  NotificationService.fetchNotifications fun notifications =>
    .seq (Code.modify self fun _ : NotificationController => ⟨notifications⟩) <|
    checkIfUserIsFollowed self

def viewDidLoad (self : Ref) : Code App := fetchNotifications self

def onRefresh (self : Ref) : Code App :=
  .seq (Code.modify self fun _ : NotificationController => ⟨[]⟩) <| fetchNotifications self

/-- A new cell of this list, before it is given a notification. -/
def newCell (self : Ref) : Code App :=
  .inspect fun app =>
    Code.alloc (α := NotificationCell) ⟨none, self⟩ (app.inTab self) fun _ => .done

/-- `tableView(_:cellForRowAt:)` handing a cell to a row. -/
def cellForRowAt (self : Ref) (row : ℕ) (cell : Ref) : Code App :=
  Code.withObject self fun controller : NotificationController =>
    match controller.notifications[row]? with
    | none => .done
    | some notification => Code.modify cell fun _ : NotificationCell => ⟨some notification, self⟩

def didSelectRowAt (self : Ref) (row : ℕ) : Code App :=
  Code.withObject self fun controller : NotificationController =>
    match controller.notifications[row]? with
    | none => .done
    | some notification => UserService.fetchUser notification.uid fun user =>
        Code.push self (α := ProfileController) { user }

/-- `cell.viewModel?.notification.userIsFollowed.toggle()` -/
def toggleUserIsFollowed (cell : Ref) : Code App :=
  Code.modify cell fun shown : NotificationCell =>
    { shown with
      viewModel := shown.viewModel.map fun notification =>
        { notification with userIsFollowed := !notification.userIsFollowed } }

def wantsToFollow (cell : Ref) (uid : Uid) : Code App :=
  UserService.follow uid fun _ => toggleUserIsFollowed cell

def wantsToUnfollow (cell : Ref) (uid : Uid) : Code App :=
  UserService.unFollow uid fun _ => toggleUserIsFollowed cell

def wantsToViewPost (self : Ref) (postId : PostId) : Code App :=
  PostService.fetchPost postId fun post => Code.push self (α := FeedController) { post := some post }

end NotificationController

namespace NotificationCell

/-- `NotificationViewModel.shouldHidePostImage` -/
def shouldHidePostImage (notification : Notification) : Bool := notification.type = .follow

/-- `guard let viewModel = viewModel else { return }` -/
def withViewModel (self : Ref) (body : Notification → Ref → Code App) : Code App :=
  Code.withObject self fun cell : NotificationCell =>
    match cell.viewModel with
    | none => .done
    | some notification => body notification cell.delegate

def onTapFollow (self : Ref) : Code App :=
  withViewModel self fun notification _ =>
    if notification.userIsFollowed then
      NotificationController.wantsToUnfollow self notification.uid
    else NotificationController.wantsToFollow self notification.uid

def onTapPost (self : Ref) : Code App :=
  withViewModel self fun notification delegate =>
    NotificationController.wantsToViewPost delegate (notification.postId.getD "")

/-- A touch on the follow button, which is hidden while the post image is not. -/
def touchFollowButton (self : Ref) : Code App :=
  withViewModel self fun notification _ =>
    if shouldHidePostImage notification then onTapFollow self else .done

/-- A touch on the post image. -/
def touchPostImage (self : Ref) : Code App :=
  withViewModel self fun notification _ =>
    if shouldHidePostImage notification then .done else onTapPost self

end NotificationCell

end InstagramClone
