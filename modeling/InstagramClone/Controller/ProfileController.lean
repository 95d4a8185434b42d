import InstagramClone.API.NotificationService
import InstagramClone.API.PostService
import InstagramClone.API.UserService

/-! # ProfileController, its header, and EditProfileController

The header view keeps a copy of the user it was last given, and its button acts on that copy.
-/

namespace InstagramClone

open Async

namespace ProfileController

def fetchIsUserFollowed (self : Ref) : Code App :=
  Code.withObject self fun profile : ProfileController =>
    UserService.isUserFollowed profile.user.uid fun isFollowed =>
      Code.modify self fun profile : ProfileController =>
        { profile with user := { profile.user with isFollowed } }

def fetchUserStats (self : Ref) : Code App :=
  Code.withObject self fun profile : ProfileController =>
    UserService.fetchUserStats profile.user.uid fun stats =>
      Code.modify self fun profile : ProfileController =>
        { profile with user := { profile.user with stats } }

def fetchPosts (self : Ref) : Code App :=
  Code.withObject self fun profile : ProfileController =>
    PostService.fetchPostsForUser profile.user.uid fun posts =>
      Code.modify self fun profile : ProfileController => { profile with posts }

def viewDidLoad (self : Ref) : Code App :=
  .seq (fetchIsUserFollowed self) <| .seq (fetchUserStats self) <| fetchPosts self

/-- `viewForSupplementaryElementOfKind` handing the header the current user. -/
def viewForHeader (self : Ref) : Code App :=
  Code.modify self fun profile : ProfileController => { profile with header := some profile.user }

def didSelectItemAt (self : Ref) (row : ℕ) : Code App :=
  Code.withObject self fun profile : ProfileController =>
    match profile.posts[row]? with
    | none => .done
    | some post => Code.push self (α := FeedController) { post := some post }

def showEditProfileController (self : Ref) : Code App :=
  Code.withObject self fun profile : ProfileController =>
    Code.alloc (α := EditProfileController) ⟨profile.user, self, false, none⟩ false fun _ => .done

/-- `self.user.isFollowed = isFollowed` -/
def setIsFollowed (self : Ref) (isFollowed : Bool) : Code App :=
  Code.modify self fun profile : ProfileController =>
    { profile with user := { profile.user with isFollowed } }

/-- `user.isCurrentUser` -/
def isCurrentUser (app : App) (user : User) : Bool := app.currentUser = some user.uid

/-- `header(_:onTapButtonFor:)` -/
def onTapButtonFor (self : Ref) (user : User) : Code App :=
  Code.withTabUser self fun currentUser =>
    .inspect fun app =>
      if isCurrentUser app user then showEditProfileController self
      else if user.isFollowed then
        UserService.unFollow user.uid fun _ =>
          .seq (setIsFollowed self false) <|
          PostService.removeUserFeed user
      else
        UserService.follow user.uid fun _ =>
          .seq (setIsFollowed self true) <|
          .seq (NotificationService.addNotification user.uid currentUser .follow) <|
          PostService.updateUserFeed user

/-- `ProfileHeader.onTapEditProfile` -/
def onTapEditProfile (self : Ref) : Code App :=
  Code.withObject self fun profile : ProfileController =>
    match profile.header with
    | none => .done
    | some user => onTapButtonFor self user

/-- `controller(_:wantsToUpdate:)` -/
def wantsToUpdate (self : Ref) (user : User) : Code App :=
  Code.modify self fun profile : ProfileController => { profile with user }

end ProfileController

inductive EditProfileOptions where
  | fullname
  | username
deriving DecidableEq, Repr

namespace EditProfileController

def imageChanged (controller : EditProfileController) : Bool := controller.selectedImage.isSome

def updateProfileImage (self : Ref) : Code App :=
  Code.withObject self fun edit : EditProfileController =>
    match edit.selectedImage with
    | none => .done
    | some image => UserService.updateProfileImage edit.user image fun
      | some profileImageUrl, none =>
        .seq (Code.modify self fun edit : EditProfileController =>
          { edit with user := { edit.user with profileImage := profileImageUrl } }) <|
        Code.withObject self fun edit : EditProfileController =>
          ProfileController.wantsToUpdate edit.delegate edit.user
      | _, _ => .done

def updateUserData (self : Ref) : Code App :=
  Code.withObject self fun edit : EditProfileController =>
    .seq (if edit.imageChanged && !edit.userInfoChanged then updateProfileImage self else .done) <|
    .seq (if edit.userInfoChanged && !edit.imageChanged then
        UserService.saveUserData edit.user fun _ =>
          Code.withObject self fun edit : EditProfileController =>
            ProfileController.wantsToUpdate edit.delegate edit.user
      else .done) <|
    if edit.userInfoChanged && edit.imageChanged then
      UserService.saveUserData edit.user fun _ => updateProfileImage self
    else .done

/-- `updateUserInfo(_:)` for a cell of the given option whose field holds the given text. -/
def updateUserInfo (self : Ref) (option : EditProfileOptions) (text : String) : Code App :=
  Code.modify self fun edit : EditProfileController =>
    { edit with
      userInfoChanged := true
      user := match option with
        | .fullname => { edit.user with fullname := text }
        | .username => { edit.user with username := text } }

/-- Done first ends the editing of the field being edited, if any, which reports its text. -/
def handleDone (self : Ref) (editing : Option (EditProfileOptions × String)) : Code App :=
  .seq (match editing with
    | none => .done
    | some (option, text) => updateUserInfo self option text) <|
  Code.withObject self fun edit : EditProfileController =>
    if edit.imageChanged || edit.userInfoChanged then updateUserData self else .done

/-- `imagePickerController(_:didFinishPickingMediaWithInfo:)` with an edited image. -/
def didFinishPickingMedia (self : Ref) (image : UIImage) : Code App :=
  Code.modify self fun edit : EditProfileController => { edit with selectedImage := some image }

end EditProfileController

end InstagramClone
