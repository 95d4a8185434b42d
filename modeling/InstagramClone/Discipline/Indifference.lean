import InstagramClone.Controller.UserAction
import InstagramClone.Discipline.Preservation

/-! # Code that leaves the feed cells alone

A feed cell holds the copy of a post that it was last handed. Of all that a user can do, handing a
cell to a row and tapping its like button alone change copies. All other code issues no like writes
and preserves every property in which the copies alone play a part.
-/

namespace InstagramClone

open Async Code

/-- Requests that write no like documents, and a property of the client that changes of objects
other than feed cells keep, as do new cells that show nothing and new tabs. -/
structure Indifferent (asks : Request → Prop) (goal : App → Prop) : Prop where
  reads : ∀ request : Request, request.writes = false → asks request
  edges : ∀ uid other present, asks (.put (.following uid other) present) ∧
    asks (.put (.follower uid other) present)
  entries : ∀ uid post present, asks (.put (.userFeed uid post) present)
  posts : ∀ data, asks (.addDocument .posts data)
  comments : ∀ post data, asks (.addDocument (.comments post) data)
  notifies : ∀ receiver data, asks (.addDocument (.userNotifications receiver) data)
  record : ∀ uid data, asks (.setData (.user uid) data)
  updates : ∀ reference fields, asks (.updateData reference fields)
  modifies : ∀ {α : Type} [Instance α] (app : App) (ref : Ref) (change : α → α),
    (∀ value : α, (Instance.project (Instance.inject value) : Option FeedCell) = none) →
    goal app → goal (app.modify ref change)
  adds : ∀ app object inTab, (∀ cell, object = .feedCell cell → cell.viewModel = none) →
    goal app → goal (app.add object inTab)
  tabs : ∀ app user, goal app → goal (MainTabController.setUser user app)

/-- The action hands a cell to a row, or taps its like button. -/
def UserAction.changesCopy : UserAction → Bool
  | feedCellForItemAt .. | feedCellOnTapLike .. => true
  | _ => false

namespace Indifferent

variable {asks : Request → Prop} {goal : App → Prop} (indifferent : Indifferent asks goal)
  {self : Ref}
include indifferent

section Rules

variable {α : Type} [Instance α]

/-- A change of an object that is no feed cell. -/
private theorem modify {ref : Ref} {change : α → α}
    (apart : ∀ value : α, (Instance.project (Instance.inject value) : Option FeedCell) = none) :
    (Code.modify ref change).Preserves asks goal :=
  preserves_modify fun app => indifferent.modifies app ref change apart

omit [Instance α] in
private theorem others (app : App) (object : Object) (inTab : Bool)
    (apart : ∀ cell, object ≠ .feedCell cell) (known : goal app) : goal (app.add object inTab) :=
  indifferent.adds app object inTab (fun cell same => absurd same (apart cell)) known

private theorem alloc {value : α} {inTab : Bool} {body : Ref → Code App}
    (blank : ∀ cell, Instance.inject value = .feedCell cell → cell.viewModel = none)
    (each : ∀ ref, (body ref).Preserves asks goal) :
    (Code.alloc value inTab body).Preserves asks goal :=
  preserves_alloc (fun app => indifferent.adds app _ inTab blank) each

private theorem push {opener : Ref} {controller : α}
    (apart : ∀ cell, Instance.inject controller ≠ .feedCell cell) :
    (Code.push opener controller).Preserves asks goal := by
  intro app
  exact indifferent.alloc (fun cell same => absurd same (apart cell)) fun _ => trivial

end Rules

section Services

private theorem fetchUser {uid : Uid} {completion : User → Code App}
    (each : ∀ user, (completion user).Preserves asks goal) :
    (UserService.fetchUser uid completion).Preserves asks goal := by
  refine preserves_call (indifferent.reads _ rfl) fun answer => ?_
  rcases answer with _ | _ | data
  · trivial
  · trivial
  · exact each _

private theorem isUserFollowed {uid : Uid} {completion : Bool → Code App}
    (each : ∀ isFollowed, (completion isFollowed).Preserves asks goal) :
    (UserService.isUserFollowed uid completion).Preserves asks goal := by
  refine preserves_withCurrentUser fun currentId => ?_
  refine preserves_call (indifferent.reads _ rfl) fun answer => ?_
  cases answer with
  | error => trivial
  | ok snapshot => exact each _

private theorem fetchUserStats {uid : Uid} {completion : UserStats → Code App}
    (each : ∀ stats, (completion stats).Preserves asks goal) :
    (UserService.fetchUserStats uid completion).Preserves asks goal :=
  preserves_call (indifferent.reads _ rfl) fun _ => preserves_call (indifferent.reads _ rfl) fun _ =>
    preserves_call (indifferent.reads _ rfl) fun _ => each _

private theorem saveUserData {user : User} {completion : Option BackendError → Code App}
    (each : ∀ error, (completion error).Preserves asks goal) :
    (UserService.saveUserData user completion).Preserves asks goal :=
  preserves_withCurrentUser fun _ => preserves_call (indifferent.record _ _) each

private theorem updateProfileImage {user : User} {image : UIImage}
    {completion : Option String → Option BackendError → Code App}
    (each : ∀ url error, (completion url error).Preserves asks goal) :
    (UserService.updateProfileImage user image completion).Preserves asks goal := by
  refine preserves_withCurrentUser fun uid => Program.Preserves.seq ?_ ?_
  · split_ifs
    · exact preserves_post (indifferent.reads _ rfl)
    · trivial
  · refine ImageUploaderService.preserves_uploadImage (fun _ => indifferent.reads _ rfl)
      (fun _ => indifferent.reads _ rfl) fun url => ?_
    refine preserves_call (indifferent.updates _ _) fun error => ?_
    cases error with
    | some error => exact each none (some error)
    | none =>
      refine Program.Preserves.seq (preserves_call (indifferent.reads _ rfl) fun answer => ?_)
        (each (some url) none)
      cases answer with
      | error => trivial
      | ok documents =>
        exact Program.preserves_forEach fun _ _ => preserves_post (indifferent.updates _ _)

private theorem fetchPostsForUser {uid : Uid} {completion : List Post → Code App}
    (each : ∀ posts, (completion posts).Preserves asks goal) :
    (PostService.fetchPostsForUser uid completion).Preserves asks goal := by
  refine preserves_call (indifferent.reads _ rfl) fun answer => ?_
  cases answer with
  | error => trivial
  | ok documents => exact preserves_withTimestamp fun _ => each _

private theorem fetchPost {postId : PostId} {completion : Post → Code App}
    (each : ∀ post, (completion post).Preserves asks goal) :
    (PostService.fetchPost postId completion).Preserves asks goal := by
  refine preserves_call (indifferent.reads _ rfl) fun answer => ?_
  rcases answer with _ | _ | data
  · trivial
  · trivial
  · exact preserves_withTimestamp fun _ => each _

private theorem fetchNotifications {completion : List Notification → Code App}
    (each : ∀ notifications, (completion notifications).Preserves asks goal) :
    (NotificationService.fetchNotifications completion).Preserves asks goal := by
  refine preserves_withCurrentUser fun uid => preserves_call (indifferent.reads _ rfl) fun answer => ?_
  cases answer with
  | error => trivial
  | ok documents => exact preserves_withTimestamp fun _ => each _

end Services

section Controllers

private theorem feed (app : App) (ref : Ref) (change : FeedController → FeedController)
    (known : goal app) :
    goal (app.modify ref change) :=
  indifferent.modifies app ref change (fun _ => rfl) known

private theorem captured (app : App) (ref : Ref) (change : List Post → List Post) (known : goal app) :
    goal (app.modify ref change) :=
  indifferent.modifies app ref change (fun _ => rfl) known

private theorem feedFetchPosts : (FeedController.fetchPosts self).Preserves asks goal :=
  FeedController.preserves_fetchPosts indifferent.reads indifferent.feed indifferent.captured
    indifferent.others

private theorem feedNewCell : (FeedController.newCell self).Preserves asks goal := by
  intro app
  refine indifferent.alloc (fun cell same => ?_) fun _ => trivial
  obtain rfl := Object.feedCell.inj same
  rfl

private theorem feedCellShowUserProfile : (FeedCell.showUserProfile self).Preserves asks goal := by
  refine preserves_withObject fun cell => ?_
  cases cell.viewModel with
  | none => trivial
  | some post => exact indifferent.fetchUser fun _ => indifferent.push nofun

private theorem feedCellOnTapComment : (FeedCell.onTapComment self).Preserves asks goal := by
  refine preserves_withObject fun cell => ?_
  cases cell.viewModel with
  | none => trivial
  | some post => exact indifferent.push nofun

private theorem profileViewDidLoad : (ProfileController.viewDidLoad self).Preserves asks goal := by
  refine Program.Preserves.seq ?_ (Program.Preserves.seq ?_ ?_)
  · exact preserves_withObject fun profile => indifferent.isUserFollowed fun _ =>
      indifferent.modify fun _ => rfl
  · exact preserves_withObject fun profile => indifferent.fetchUserStats fun _ =>
      indifferent.modify fun _ => rfl
  · exact preserves_withObject fun profile => indifferent.fetchPostsForUser fun _ =>
      indifferent.modify fun _ => rfl

private theorem profileDidSelectItemAt {row : ℕ} :
    (ProfileController.didSelectItemAt self row).Preserves asks goal := by
  refine preserves_withObject fun profile => ?_
  cases profile.posts[row]? with
  | none => trivial
  | some post => exact indifferent.push nofun

private theorem profileOnTapEditProfile :
    (ProfileController.onTapEditProfile self).Preserves asks goal :=
  ProfileController.preserves_onTapEditProfile indifferent.reads indifferent.edges
    indifferent.entries indifferent.notifies
    (fun app ref change => indifferent.modifies app ref change fun _ => rfl) indifferent.others

private theorem reportUser : (Code.withObject self fun edit : EditProfileController =>
    ProfileController.wantsToUpdate edit.delegate edit.user).Preserves asks goal :=
  preserves_withObject fun _ => indifferent.modify fun _ => rfl

private theorem editUpdateProfileImage :
    (EditProfileController.updateProfileImage self).Preserves asks goal := by
  refine preserves_withObject fun edit => ?_
  cases edit.selectedImage with
  | none => trivial
  | some image =>
    refine indifferent.updateProfileImage fun url error => ?_
    cases url with
    | none => trivial
    | some url =>
      cases error with
      | some error => trivial
      | none => exact Program.Preserves.seq (indifferent.modify fun _ => rfl) indifferent.reportUser

private theorem editUpdateUserData :
    (EditProfileController.updateUserData self).Preserves asks goal := by
  refine preserves_withObject fun edit => Program.Preserves.seq ?_ (Program.Preserves.seq ?_ ?_)
  · split_ifs
    · exact indifferent.editUpdateProfileImage
    · trivial
  · split_ifs
    · exact indifferent.saveUserData fun _ => indifferent.reportUser
    · trivial
  · split_ifs
    · exact indifferent.saveUserData fun _ => indifferent.editUpdateProfileImage
    · trivial

private theorem editHandleDone {editing : Option (EditProfileOptions × String)} :
    (EditProfileController.handleDone self editing).Preserves asks goal := by
  refine Program.Preserves.seq ?_ (preserves_withObject fun edit => ?_)
  · rcases editing with _ | ⟨option, text⟩
    · trivial
    · exact indifferent.modify fun _ => rfl
  · split_ifs
    · exact indifferent.editUpdateUserData
    · trivial

private theorem commentViewDidLoad : (CommentController.viewDidLoad self).Preserves asks goal := by
  refine preserves_withObject fun page => indifferent.alloc nofun fun comments => ?_
  refine ⟨fun snapshot => Program.Preserves.seq ?_ ?_, trivial⟩
  · cases snapshot with
    | error => trivial
    | ok changes => exact preserves_withTimestamp fun _ => indifferent.modify fun _ => rfl
  · exact preserves_withObject fun _ => indifferent.modify fun _ => rfl

private theorem commentOnTapPost : (CommentController.onTapPost self).Preserves asks goal := by
  refine preserves_withObject fun page => preserves_withTabUser fun currentUser => ?_
  refine preserves_withObject fun page => preserves_withTimestamp fun _ => ?_
  refine preserves_call (indifferent.comments _ _) fun _ => Program.Preserves.seq ?_ ?_
  · exact indifferent.modify fun _ => rfl
  · exact NotificationService.preserves_addNotification (indifferent.notifies _)

private theorem commentDidSelectItemAt {row : ℕ} :
    (CommentController.didSelectItemAt self row).Preserves asks goal := by
  refine preserves_withObject fun page => ?_
  cases page.comments[row]? with
  | none => trivial
  | some comment => exact indifferent.fetchUser fun _ => indifferent.push nofun

private theorem notificationFetchNotifications :
    (NotificationController.fetchNotifications self).Preserves asks goal := by
  refine indifferent.fetchNotifications fun notifications => Program.Preserves.seq ?_ ?_
  · exact indifferent.modify fun _ => rfl
  · refine preserves_withObject fun page => Program.preserves_forEach fun notif _ => ?_
    split_ifs
    · exact indifferent.isUserFollowed fun _ => indifferent.modify fun _ => rfl
    · trivial

private theorem notificationOnRefresh : (NotificationController.onRefresh self).Preserves asks goal :=
  Program.Preserves.seq (indifferent.modify fun _ => rfl) indifferent.notificationFetchNotifications

private theorem notificationCellForRowAt {row : ℕ} {cell : Ref} :
    (NotificationController.cellForRowAt self row cell).Preserves asks goal := by
  refine preserves_withObject fun page => ?_
  cases page.notifications[row]? with
  | none => trivial
  | some notification => exact indifferent.modify fun _ => rfl

private theorem notificationDidSelectRowAt {row : ℕ} :
    (NotificationController.didSelectRowAt self row).Preserves asks goal := by
  refine preserves_withObject fun page => ?_
  cases page.notifications[row]? with
  | none => trivial
  | some notification => exact indifferent.fetchUser fun _ => indifferent.push nofun

private theorem notificationCellTouchFollow :
    (NotificationCell.touchFollowButton self).Preserves asks goal := by
  refine preserves_withObject fun cell => ?_
  cases cell.viewModel with
  | none => trivial
  | some notification =>
    dsimp only
    split_ifs
    · refine preserves_withObject fun cell => ?_
      cases cell.viewModel with
      | none => trivial
      | some notification =>
        dsimp only
        split_ifs
        · exact UserService.preserves_unFollow indifferent.edges fun _ =>
            indifferent.modify fun _ => rfl
        · exact UserService.preserves_follow indifferent.edges fun _ =>
            indifferent.modify fun _ => rfl
    · trivial

private theorem notificationCellTouchPost :
    (NotificationCell.touchPostImage self).Preserves asks goal := by
  refine preserves_withObject fun cell => ?_
  cases cell.viewModel with
  | none => trivial
  | some notification =>
    dsimp only
    split_ifs
    · trivial
    · refine preserves_withObject fun cell => ?_
      cases cell.viewModel with
      | none => trivial
      | some notification => exact indifferent.fetchPost fun _ => indifferent.push nofun

private theorem searchViewDidLoad : (SearchController.viewDidLoad self).Preserves asks goal := by
  refine preserves_call (indifferent.reads _ rfl) fun answer => ?_
  cases answer with
  | error => trivial
  | ok documents => exact indifferent.modify fun _ => rfl

private theorem searchDidSelectRowAt {row : ℕ} :
    (SearchController.didSelectRowAt self row).Preserves asks goal := by
  refine preserves_withObject fun page => ?_
  cases page.rows[row]? with
  | none => trivial
  | some user => exact indifferent.push nofun

/-- All that a user can do but two actions. -/
theorem perform {action : UserAction} (apart : action.changesCopy = false) :
    action.perform.Preserves asks goal := by
  cases action with
  | tabsViewDidLoad =>
    exact MainTabController.preserves_viewDidLoad indifferent.reads indifferent.tabs
      indifferent.others
  | tabsDidFinishPicking image => exact fun _ => indifferent.alloc nofun fun _ => trivial
  | feedViewDidLoad self => exact indifferent.feedFetchPosts
  | feedOnTapRefresh self => exact indifferent.feedFetchPosts
  | feedNewCell self => exact indifferent.feedNewCell
  | feedCellForItemAt | feedCellOnTapLike => cases apart
  | feedCellShowUserProfile cell => exact indifferent.feedCellShowUserProfile
  | feedCellOnTapComment cell => exact indifferent.feedCellOnTapComment
  | profileViewDidLoad self => exact indifferent.profileViewDidLoad
  | profileViewForHeader self => exact indifferent.modify fun _ => rfl
  | profileDidSelectItemAt self row => exact indifferent.profileDidSelectItemAt
  | profileOnTapEditProfile self => exact indifferent.profileOnTapEditProfile
  | editUpdateUserInfo self option text => exact indifferent.modify fun _ => rfl
  | editHandleDone self editing => exact indifferent.editHandleDone
  | editDidFinishPicking self image => exact indifferent.modify fun _ => rfl
  | commentViewDidLoad self => exact indifferent.commentViewDidLoad
  | commentEditText self text => exact indifferent.modify fun _ => rfl
  | commentOnTapPost self => exact indifferent.commentOnTapPost
  | commentDidSelectItemAt self row => exact indifferent.commentDidSelectItemAt
  | notificationViewDidLoad self => exact indifferent.notificationFetchNotifications
  | notificationOnRefresh self => exact indifferent.notificationOnRefresh
  | notificationNewCell self => exact fun _ => indifferent.alloc nofun fun _ => trivial
  | notificationCellForRowAt self row cell => exact indifferent.notificationCellForRowAt
  | notificationDidSelectRowAt self row => exact indifferent.notificationDidSelectRowAt
  | notificationCellTouchFollow cell => exact indifferent.notificationCellTouchFollow
  | notificationCellTouchPost cell => exact indifferent.notificationCellTouchPost
  | searchViewDidLoad self => exact indifferent.searchViewDidLoad
  | searchUpdateResults self isActive text => exact indifferent.modify fun _ => rfl
  | searchDidSelectRowAt self row => exact indifferent.searchDidSelectRowAt
  | uploadEditCaption self caption => exact indifferent.modify fun _ => rfl
  | uploadOnTapShare self =>
    exact UploadPostController.preserves_onTapShare indifferent.reads indifferent.posts
      indifferent.feed indifferent.captured indifferent.others

end Controllers

end Indifferent

end InstagramClone
