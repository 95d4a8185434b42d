import InstagramClone.Controller.CommentController
import InstagramClone.Controller.MainTabController
import InstagramClone.Controller.NotificationController
import InstagramClone.Controller.ProfileController

/-! # Everything a user can make the app do

Each touch, each appearance of a page and each cell handed to a row is one action; the page or
cell concerned is any object of the device.
-/

namespace InstagramClone

open Async

/-- What a user who is signed in can do, short of logging out. -/
inductive UserAction where
  | tabsViewDidLoad
  | tabsDidFinishPicking (image : UIImage)
  | feedViewDidLoad (self : Ref)
  | feedOnTapRefresh (self : Ref)
  | feedNewCell (self : Ref)
  | feedCellForItemAt (self : Ref) (row : ℕ) (cell : Ref)
  | feedCellShowUserProfile (cell : Ref)
  | feedCellOnTapLike (cell : Ref)
  | feedCellOnTapComment (cell : Ref)
  | profileViewDidLoad (self : Ref)
  | profileViewForHeader (self : Ref)
  | profileDidSelectItemAt (self : Ref) (row : ℕ)
  | profileOnTapEditProfile (self : Ref)
  | editUpdateUserInfo (self : Ref) (option : EditProfileOptions) (text : String)
  | editHandleDone (self : Ref) (editing : Option (EditProfileOptions × String))
  | editDidFinishPicking (self : Ref) (image : UIImage)
  | commentViewDidLoad (self : Ref)
  | commentEditText (self : Ref) (text : String)
  | commentOnTapPost (self : Ref)
  | commentDidSelectItemAt (self : Ref) (row : ℕ)
  | notificationViewDidLoad (self : Ref)
  | notificationOnRefresh (self : Ref)
  | notificationNewCell (self : Ref)
  | notificationCellForRowAt (self : Ref) (row : ℕ) (cell : Ref)
  | notificationDidSelectRowAt (self : Ref) (row : ℕ)
  | notificationCellTouchFollow (cell : Ref)
  | notificationCellTouchPost (cell : Ref)
  | searchViewDidLoad (self : Ref)
  | searchUpdateResults (self : Ref) (isActive : Bool) (text : String)
  | searchDidSelectRowAt (self : Ref) (row : ℕ)
  | uploadEditCaption (self : Ref) (caption : String)
  | uploadOnTapShare (self : Ref)

/-- The code of an action. -/
def UserAction.perform : UserAction → Code App
  | tabsViewDidLoad => MainTabController.viewDidLoad
  | tabsDidFinishPicking image => MainTabController.didFinishPickingMedia image
  | feedViewDidLoad self => FeedController.viewDidLoad self
  | feedOnTapRefresh self => FeedController.onTapRefresh self
  | feedNewCell self => FeedController.newCell self
  | feedCellForItemAt self row cell => FeedController.cellForItemAt self row cell
  | feedCellShowUserProfile cell => FeedCell.showUserProfile cell
  | feedCellOnTapLike cell => FeedCell.onTapLike cell
  | feedCellOnTapComment cell => FeedCell.onTapComment cell
  | profileViewDidLoad self => ProfileController.viewDidLoad self
  | profileViewForHeader self => ProfileController.viewForHeader self
  | profileDidSelectItemAt self row => ProfileController.didSelectItemAt self row
  | profileOnTapEditProfile self => ProfileController.onTapEditProfile self
  | editUpdateUserInfo self option text => EditProfileController.updateUserInfo self option text
  | editHandleDone self editing => EditProfileController.handleDone self editing
  | editDidFinishPicking self image => EditProfileController.didFinishPickingMedia self image
  | commentViewDidLoad self => CommentController.viewDidLoad self
  | commentEditText self text => CommentController.editText self text
  | commentOnTapPost self => CommentController.onTapPost self
  | commentDidSelectItemAt self row => CommentController.didSelectItemAt self row
  | notificationViewDidLoad self => NotificationController.viewDidLoad self
  | notificationOnRefresh self => NotificationController.onRefresh self
  | notificationNewCell self => NotificationController.newCell self
  | notificationCellForRowAt self row cell => NotificationController.cellForRowAt self row cell
  | notificationDidSelectRowAt self row => NotificationController.didSelectRowAt self row
  | notificationCellTouchFollow cell => NotificationCell.touchFollowButton cell
  | notificationCellTouchPost cell => NotificationCell.touchPostImage cell
  | searchViewDidLoad self => SearchController.viewDidLoad self
  | searchUpdateResults self isActive text =>
    SearchController.updateSearchResults self isActive text
  | searchDidSelectRowAt self row => SearchController.didSelectRowAt self row
  | uploadEditCaption self caption => UploadPostController.editCaption self caption
  | uploadOnTapShare self => UploadPostController.onTapShare self

/-- What a user can do on the pages that sign in and out. -/
inductive AuthAction where
  | loginOnTapLogin (self : Ref) (email password : String)
  | loginOnTapGoogle (self : Ref) (credential : AuthCredential) (profile : GoogleProfile)
  | loginOnTapRegister (self : Ref)
  | registrationOnTapSignUp (self : Ref) (email password username fullName : String)
      (profileImage : Option UIImage)
  | feedOnTapLogout (self : Ref)

def AuthAction.perform : AuthAction → Code App
  | loginOnTapLogin self email password =>
    AuthenticationController.onTapLogin self email password
  | loginOnTapGoogle self credential profile =>
    AuthenticationController.onTapLoginGoogle self credential profile
  | loginOnTapRegister self => AuthenticationController.onTapRegister self
  | registrationOnTapSignUp self email password username fullName profileImage =>
    AuthenticationController.onTapSignUp self email password username fullName profileImage
  | feedOnTapLogout self => FeedController.onTapLogout self

end InstagramClone
