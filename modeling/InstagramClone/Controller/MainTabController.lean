import InstagramClone.API.AuthService
import InstagramClone.Controller.FeedController

/-! # MainTabController, and the pages it opens beside the tabs

Setting the tab controller's user replaces every tab. Login and registration pages report to the
tab controller, which then fetches the signed-in user.
-/

namespace InstagramClone

open Async

namespace MainTabController

/-- New tabs: feed, search, the placeholder of the upload tab, notifications and the profile.
Every object of the previous tabs leaves the tab controller. -/
def configureViewControllers (user : User) (app : App) : App :=
  let count := app.objects.length
  { app with
    viewControllers := [count, count + 1, count + 2, count + 3]
    objects := app.objects.map (fun entry => { entry with inTab := false }) ++
      [⟨.feed {}, true⟩, ⟨.search {}, true⟩, ⟨.notification {}, true⟩, ⟨.profile { user }, true⟩] }

/-- `self.user = user` with its `didSet`. -/
def setUser (user : User) (app : App) : App :=
  configureViewControllers user { app with user := some user }

def fetchUser : Code App :=
  Code.withCurrentUser fun uid =>
    UserService.fetchUser uid fun user => .update (setUser user) .done

def fetchIsUserLoggedIn : Code App :=
  .inspect fun app =>
    if app.currentUser.isNone then
      Code.alloc (α := AuthenticationController) ⟨true⟩ false fun _ => .done
    else .done

def viewDidLoad : Code App := .seq fetchIsUserLoggedIn fetchUser

def authenticationDidComplete : Code App := fetchUser

/-- `didFinishPickingMedia(_:)` with a picked photo. -/
def didFinishPickingMedia (selectedImage : UIImage) : Code App :=
  .inspect fun app =>
    Code.alloc (α := UploadPostController) ⟨some selectedImage, app.user, ""⟩ false fun _ => .done

def didFinishUploadPost : Code App :=
  .inspect fun app =>
    match app.viewControllers with
    | [] => .done
    | feed :: _ => FeedController.onTapRefresh feed

end MainTabController

namespace UploadPostController

def editCaption (self : Ref) (caption : String) : Code App :=
  Code.modify self fun upload : UploadPostController => { upload with caption }

def onTapShare (self : Ref) : Code App :=
  Code.withObject self fun upload : UploadPostController =>
    match upload.selectedImage, upload.currentUser with
    | some image, some user =>
      PostService.postAnImage upload.caption image user fun
        | some _ => .done
        | none => MainTabController.didFinishUploadPost
    | _, _ => .done

end UploadPostController

namespace SearchController

def fetchUsers (self : Ref) : Code App :=
  UserService.fetchUsers fun users =>
    Code.modify self fun search : SearchController => { search with users }

def viewDidLoad (self : Ref) : Code App := fetchUsers self

def isSearchEnabled (search : SearchController) : Bool :=
  search.isActive && !search.searchText.isEmpty

/-- The rows of the table. -/
def rows (search : SearchController) : List User :=
  if search.isSearchEnabled then search.filteredUsers else search.users

/-- `text.contains(other)`, scalar by scalar. -/
def contains (text other : String) : Bool := decide (other.toList <:+: text.toList)

/-- `lowercased` and `contains` are those of strings; the default ones know the letters of ASCII
only, and tell canonically equivalent characters apart. -/
def updateSearchResults (self : Ref) (isActive : Bool) (text : String)
    (lowercased : String → String := String.toLower)
    (contains : String → String → Bool := SearchController.contains) : Code App :=
  Code.modify self fun search : SearchController =>
    { search with
      isActive
      searchText := text
      filteredUsers := search.users.filter fun user =>
        contains user.username (lowercased text) ||
          contains (lowercased user.fullname) (lowercased text) }

def didSelectRowAt (self : Ref) (row : ℕ) : Code App :=
  Code.withObject self fun search : SearchController =>
    match search.rows[row]? with
    | none => .done
    | some user => Code.push self (α := ProfileController) { user }

end SearchController

namespace AuthenticationController

/-- `self.delegate?.authenticationDidComplete()` -/
def didComplete (self : Ref) : Code App :=
  Code.withObject self fun controller : AuthenticationController =>
    if controller.delegate then MainTabController.authenticationDidComplete else .done

/-- `LoginController.onTapLogin` -/
def onTapLogin (self : Ref) (email password : String) : Code App :=
  AuthService.loginUser email password fun
    | .error _ => .done
    | .ok _ => didComplete self

/-- `LoginController.onTapLoginGoogle`, once Google has signed the given profile in. -/
def onTapLoginGoogle (self : Ref) (credential : AuthCredential) (profile : GoogleProfile) :
    Code App :=
  .update (fun app => { app with googleProfile := some profile }) <|
  AuthService.registerGoogleUser credential fun
    | some _ => .done
    | none => didComplete self

/-- `LoginController.onTapRegister` -/
def onTapRegister (self : Ref) : Code App :=
  Code.withObject self fun controller : AuthenticationController =>
    Code.alloc (α := AuthenticationController) ⟨controller.delegate⟩ false fun _ => .done

/-- `RegistrationController.onTapSignUp` -/
def onTapSignUp (self : Ref) (email password username fullName : String)
    (profileImage : Option UIImage) : Code App :=
  match profileImage with
  | none => .done
  | some image =>
    AuthService.registerUser ⟨email, some password, fullName, username, some image, none⟩ fun
      | some _ => .done
      | none => didComplete self

end AuthenticationController

/-- `FeedController.onTapLogout`: the login page reports to the tab controller of this feed. -/
def FeedController.onTapLogout (self : Ref) : Code App :=
  .seq AuthService.logoutUser <|
  .inspect fun app =>
    Code.alloc (α := AuthenticationController) ⟨app.inTab self⟩ false fun _ => .done

end InstagramClone
