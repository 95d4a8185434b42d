import InstagramClone.Discipline.Services

/-! # Everything a user does keeps a policy's contract

Most handlers keep the contract wherever they run. Those that put an identity on what they create,
or that open the editor for one's own profile, do so by what the device shows at the tap.
-/

namespace InstagramClone

open Async

/-- The identities that an action puts on what it creates are those the policy lets it put. -/
def UserAction.Signed {S : Type} (P : Policy S) (store : S) (app : App) : UserAction → Prop
  | feedCellOnTapLike _ | commentOnTapPost _ | profileOnTapEditProfile _ =>
    ∀ user ∈ app.user, P.signs store user
  | uploadOnTapShare self => ∀ page, app.find? UploadPostController self = some page →
    ∀ user ∈ page.currentUser, ∀ uid ∈ app.currentUser, P.uploads store uid user
  | _ => True

/-- The action, if it is a sign-in with Google, brings such a link to a profile image. -/
def AuthAction.Pictured (image : String → Prop) : AuthAction → Prop
  | loginOnTapGoogle _ _ profile => image (profile.imageURL.getD "")
  | _ => True

theorem AuthAction.pictured_of_forall {image : String → Prop} (all : ∀ link, image link)
    (action : AuthAction) : action.Pictured image := by
  cases action with
  | loginOnTapGoogle => exact all _
  | _ => trivial

/-- The user as whom an action creates a comment, notification or post. -/
def UserAction.author? (app : App) : UserAction → Option User
  | feedCellOnTapLike cell =>
    match app.find? FeedCell cell with
    | some ⟨some post, delegate⟩ =>
      if post.didLike = false ∧ app.inTab delegate = true ∧ app.currentUser.isSome then app.user
      else none
    | _ => none
  | commentOnTapPost self =>
    if (app.find? CommentController self).isSome ∧ app.inTab self = true then app.user else none
  | profileOnTapEditProfile self =>
    match (app.find? ProfileController self).bind (·.header) with
    | some header =>
      if header.isFollowed = false ∧ ProfileController.isCurrentUser app header = false ∧
          app.inTab self = true ∧ app.currentUser.isSome then app.user
      else none
    | none => none
  | uploadOnTapShare self =>
    match app.find? UploadPostController self, app.currentUser with
    | some ⟨some _, some user, _⟩, some uid => some { user with uid }
    | _, _ => none
  | _ => none

/-- The policy lets the action create in the name of its author. -/
def UserAction.Authored {S : Type} (P : Policy S) (store : S) (app : App) (action : UserAction) :
    Prop :=
  match action with
  | uploadOnTapShare self => ∀ page, app.find? UploadPostController self = some page →
    page.selectedImage.isSome → ∀ user ∈ page.currentUser, ∀ uid ∈ app.currentUser,
      P.uploads store uid user
  | _ => ∀ user ∈ action.author? app, P.signs store user

theorem UserAction.Signed.authored {S : Type} {P : Policy S} {store : S} {app : App}
    {action : UserAction}
    (signed : action.Signed P store app) : action.Authored P store app := by
  cases action with
  | feedCellOnTapLike cell =>
    intro user author
    simp only [author?] at author
    split at author
    · split_ifs at author
      · exact signed user author
      · cases author
    · cases author
  | commentOnTapPost self =>
    intro user author
    simp only [author?] at author
    split_ifs at author
    · exact signed user author
    · cases author
  | profileOnTapEditProfile self =>
    intro user author
    simp only [author?] at author
    split at author
    · split_ifs at author
      · exact signed user author
      · cases author
    · cases author
  | uploadOnTapShare self => exact fun page found _ => signed page found
  | _ => exact fun _ author => by cases author

namespace Policy

variable {S τ α : Type} [Instance α] {P : Policy S} {C : Contract firebase S App τ} {origin : τ}
  {store : S}

section Effects

variable {app : App} (valid : C.holds origin store app)
include valid

private theorem effect_done : ((.done : Code App).run app).Keeps C origin store :=
  Program.keeps_done.run valid

private theorem effect_withObject {ref : Ref} {body : α → Code App}
    (keeps : ∀ value, app.find? α ref = some value → ((body value).run app).Keeps C origin store) :
    ((Code.withObject ref body).run app).Keeps C origin store := by
  simp only [Code.withObject, Program.run_inspect]
  cases found : app.find? α ref with
  | none => exact effect_done valid
  | some value => exact keeps value found

private theorem effect_withTabUser {ref : Ref} {body : User → Code App}
    (keeps : ∀ user, app.inTab ref = true → app.user = some user →
      ((body user).run app).Keeps C origin store) :
    ((Code.withTabUser ref body).run app).Keeps C origin store := by
  simp only [Code.withTabUser, Program.run_inspect]
  cases inside : app.inTab ref with
  | false => exact effect_done valid
  | true =>
    cases shown : app.user with
    | none => exact effect_done valid
    | some user => exact keeps user inside shown

private theorem effect_withCurrentUser {body : Uid → Code App}
    (keeps : ∀ uid, app.currentUser = some uid → ((body uid).run app).Keeps C origin store) :
    ((Code.withCurrentUser body).run app).Keeps C origin store := by
  cases current : app.currentUser with
  | none =>
    rw [Code.run_withCurrentUser_none current]
    exact effect_done valid
  | some uid =>
    rw [Code.run_withCurrentUser current]
    exact keeps uid current

end Effects

namespace Reads

variable (reads : P.Reads C origin)
include reads

private theorem keeps_feedIsUserLikedPost (self : Ref) :
    (FeedController.isUserLikedPost self).Keeps C origin store := by
  refine reads.keeps_withObject fun later feed _ known => ?_
  cases shown : feed.post with
  | some post =>
    refine reads.keeps_isUserLikedPost (reads.post_path (known.2 post shown).1) fun last liked _ => ?_
    refine reads.keeps_modify fun _ feed _ valid => ⟨valid.1, fun changed same => ?_⟩
    obtain ⟨before, present, rfl⟩ := Option.map_eq_some_iff.mp same
    exact valid.2 before present
  | none =>
    refine Program.keeps_forEach fun post member => ?_
    refine reads.keeps_isUserLikedPost (reads.post_path (known.1 post member).1) fun last liked _ => ?_
    refine reads.keeps_modify fun _ feed _ valid => ⟨fun changed listed => ?_, valid.2⟩
    obtain ⟨index, present⟩ := List.mem_iff_getElem?.mp listed
    simp only [FeedController.setDidLike, List.getElem?_modify] at present
    obtain ⟨before, there, rfl⟩ := Option.map_eq_some_iff.mp present
    have valid := valid.1 before (List.mem_of_getElem? there)
    split_ifs <;> exact valid

theorem keeps_feedFetchPosts (self : Ref) :
    (FeedController.fetchPosts self).Keeps C origin store := by
  refine reads.keeps_withObject fun later feed _ _ => ?_
  split_ifs
  · refine reads.keeps_fetchFeedPosts fun last posts _ known => ?_
    refine Program.Keeps.seq ?_ (reads.keeps_feedIsUserLikedPost self)
    exact reads.keeps_modify fun final feed toFinal valid =>
      ⟨fun post member => reads.hasPost_mono toFinal (known post member), valid.2⟩
  · trivial

private theorem keeps_showProfileFor (self : Ref) {uid : Uid} (path : P.path uid) :
    (FeedController.showProfileFor self uid).Keeps C origin store :=
  reads.keeps_fetchUser path fun _ _ _ known _ =>
    reads.keeps_push ⟨known, by simp, by simp⟩

private theorem keeps_feedCell_withViewModel {cell : Ref} {body : Post → Ref → Code App}
    (keeps : ∀ later post delegate, P.hasPost later post →
      (body post delegate).Keeps C origin later) :
    (FeedCell.withViewModel cell body).Keeps C origin store := by
  refine reads.keeps_withObject fun later shown _ known => ?_
  cases model : shown.viewModel with
  | none => trivial
  | some post => exact keeps later post _ (known post model)

theorem keeps_feedCellShowUserProfile (cell : Ref) :
    (FeedCell.showUserProfile cell).Keeps C origin store :=
  reads.keeps_feedCell_withViewModel fun _ _ _ known =>
    reads.keeps_showProfileFor _ (reads.user_path (reads.post_owner known.1))

theorem keeps_feedCellOnTapComment (cell : Ref) :
    (FeedCell.onTapComment cell).Keeps C origin store :=
  reads.keeps_feedCell_withViewModel fun _ _ _ known =>
    reads.keeps_push ⟨known, fun _ member => absurd member List.not_mem_nil⟩

theorem keeps_feedCellForItemAt (self : Ref) (row : ℕ) (cell : Ref) :
    (FeedController.cellForItemAt self row cell).Keeps C origin store := by
  refine reads.keeps_withObject fun later feed _ known => ?_
  have valid : ∀ post ∈ feed.row? row, P.hasPost later post := by
    intro post shown
    unfold FeedController.row? at shown
    split at shown
    · next single same => exact known.2 post (same.trans shown)
    · exact known.1 post (List.mem_of_getElem? shown)
  cases shown : feed.row? row with
  | none => trivial
  | some post =>
    refine reads.keeps_modify fun last _ toLast _ => ?_
    rintro _ ⟨⟩
    exact reads.hasPost_mono toLast (valid post shown)

theorem keeps_newCell (self : Ref) :
    (FeedController.newCell self).Keeps C origin store := fun later app _ _ =>
  reads.keeps_alloc (fun _ shown => by cases shown) fun _ _ _ => trivial

theorem keeps_profileViewDidLoad (self : Ref) :
    (ProfileController.viewDidLoad self).Keeps C origin store := by
  refine Program.Keeps.seq ?_ (Program.Keeps.seq ?_ ?_)
  · refine reads.keeps_withObject fun later profile _ known => ?_
    refine reads.keeps_isUserFollowed (reads.user_path known.1.1) fun _ _ _ => ?_
    exact reads.keeps_modify fun _ _ _ valid => valid
  · refine reads.keeps_withObject fun later profile _ known => ?_
    refine reads.keeps_fetchUserStats (reads.user_path known.1.1) fun _ _ _ => ?_
    exact reads.keeps_modify fun _ _ _ valid => valid
  · refine reads.keeps_withObject fun later profile _ known => ?_
    refine reads.keeps_fetchPostsForUser fun last posts _ listed => ?_
    exact reads.keeps_modify fun _ _ toFinal valid =>
      ⟨valid.1, fun post member => reads.hasPost_mono toFinal (listed post member), valid.2.2⟩

theorem keeps_viewForHeader (self : Ref) :
    (ProfileController.viewForHeader self).Keeps C origin store := by
  refine reads.keeps_modify fun later profile _ valid => ⟨valid.1, valid.2.1, ?_⟩
  rintro _ ⟨⟩
  exact ⟨valid.1, fun mine => reads.mine_own mine valid.1.1⟩

theorem keeps_profileDidSelectItemAt (self : Ref) (row : ℕ) :
    (ProfileController.didSelectItemAt self row).Keeps C origin store := by
  refine reads.keeps_withObject fun later profile _ known => ?_
  cases shown : profile.posts[row]? with
  | none => trivial
  | some post =>
    refine reads.keeps_push ⟨fun _ member => absurd member List.not_mem_nil, ?_⟩
    rintro _ ⟨⟩
    exact known.2.1 post (List.mem_of_getElem? shown)

private theorem keeps_setIsFollowed (self : Ref) (isFollowed : Bool) :
    (ProfileController.setIsFollowed self isFollowed).Keeps C origin store :=
  reads.keeps_modify fun _ _ _ valid => valid

theorem keeps_updateUserInfo (self : Ref) (option : EditProfileOptions) (text : String) :
    (EditProfileController.updateUserInfo self option text).Keeps C origin store := by
  refine reads.keeps_modify fun _ edit _ valid => ?_
  cases option <;> exact valid

theorem keeps_editDidFinishPicking (self : Ref) (image : UIImage) :
    (EditProfileController.didFinishPickingMedia self image).Keeps C origin store :=
  reads.keeps_modify fun _ _ _ valid => valid

/-- The profile page takes over the user of its editor. -/
private theorem keeps_reportUser (self : Ref) :
    (Code.withObject self fun edit : EditProfileController =>
      ProfileController.wantsToUpdate edit.delegate edit.user).Keeps C origin store := by
  refine reads.keeps_withObject fun later edit _ known => ?_
  refine reads.keeps_modify fun last profile toLast valid => ⟨reads.hasUser_mono toLast known.1,
    valid.2.1, fun header shown => ⟨(valid.2.2 header shown).1, fun _ => ?_⟩⟩
  exact reads.own_mono toLast known.2

theorem keeps_commentViewDidLoad (self : Ref) :
    (CommentController.viewDidLoad self).Keeps C origin store := by
  refine reads.keeps_withObject fun later page _ known => ?_
  refine reads.keeps_fetchComments (reads.post_path known.1.1) fun last comments _ listed => ?_
  exact reads.keeps_modify fun _ _ toFinal valid =>
    ⟨valid.1, fun comment member => reads.user_mono toFinal (listed comment member)⟩

theorem keeps_editText (self : Ref) (text : String) :
    (CommentController.editText self text).Keeps C origin store :=
  reads.keeps_modify fun _ _ _ valid => valid

theorem keeps_commentDidSelectItemAt (self : Ref) (row : ℕ) :
    (CommentController.didSelectItemAt self row).Keeps C origin store := by
  refine reads.keeps_withObject fun later page _ known => ?_
  cases shown : page.comments[row]? with
  | none => trivial
  | some comment =>
    have author := known.2 comment (List.mem_of_getElem? shown)
    exact reads.keeps_fetchUser (reads.user_path author) fun _ _ _ user _ =>
      reads.keeps_push ⟨user, by simp, by simp⟩

private theorem keeps_checkIfUserIsFollowed (self : Ref) :
    (NotificationController.checkIfUserIsFollowed self).Keeps C origin store := by
  refine reads.keeps_withObject fun later page _ known => ?_
  refine Program.keeps_forEach fun notification member => ?_
  split_ifs
  · have author := reads.notification_author (known notification member)
    refine reads.keeps_isUserFollowed (reads.user_path author) fun last isFollowed _ => ?_
    refine reads.keeps_modify fun _ page _ valid => fun changed listed => ?_
    obtain ⟨index, present⟩ := List.mem_iff_getElem?.mp listed
    simp only [NotificationController.setUserIsFollowed, List.getElem?_modify] at present
    obtain ⟨before, there, rfl⟩ := Option.map_eq_some_iff.mp present
    have valid := valid before (List.mem_of_getElem? there)
    split_ifs <;> exact valid
  · trivial

theorem keeps_notificationViewDidLoad (self : Ref) :
    (NotificationController.viewDidLoad self).Keeps C origin store := by
  unfold NotificationController.viewDidLoad NotificationController.fetchNotifications
  refine reads.keeps_fetchNotifications fun last notifications _ listed => ?_
  refine Program.Keeps.seq ?_ (reads.keeps_checkIfUserIsFollowed self)
  exact reads.keeps_modify fun _ _ toFinal _ => fun notification member =>
    reads.notification_mono toFinal (listed notification member)

theorem keeps_onRefresh (self : Ref) :
    (NotificationController.onRefresh self).Keeps C origin store :=
  Program.Keeps.seq (reads.keeps_modify fun _ _ _ _ => fun _ member =>
    absurd member List.not_mem_nil) (reads.keeps_notificationViewDidLoad self)

theorem keeps_notificationNewCell (self : Ref) :
    (NotificationController.newCell self).Keeps C origin store := fun later app _ _ =>
  reads.keeps_alloc (fun _ shown => by cases shown) fun _ _ _ => trivial

theorem keeps_cellForRowAt (self : Ref) (row : ℕ) (cell : Ref) :
    (NotificationController.cellForRowAt self row cell).Keeps C origin store := by
  refine reads.keeps_withObject fun later page _ known => ?_
  cases shown : page.notifications[row]? with
  | none => trivial
  | some notification =>
    refine reads.keeps_modify fun last _ toLast _ => ?_
    rintro _ ⟨⟩
    exact reads.notification_mono toLast (known notification (List.mem_of_getElem? shown))

theorem keeps_notificationDidSelectRowAt (self : Ref) (row : ℕ) :
    (NotificationController.didSelectRowAt self row).Keeps C origin store := by
  refine reads.keeps_withObject fun later page _ known => ?_
  cases shown : page.notifications[row]? with
  | none => trivial
  | some notification =>
    have author := reads.notification_author (known notification (List.mem_of_getElem? shown))
    exact reads.keeps_fetchUser (reads.user_path author) fun _ _ _ user _ =>
      reads.keeps_push ⟨user, by simp, by simp⟩

/-- A touch on a cell's post image, which the cell of a follow notification does not show. -/
theorem effect_touchPostImage {app : App} (valid : C.holds origin store app) (cell : Ref) :
    ((NotificationCell.touchPostImage cell).run app).Keeps C origin store := by
  refine effect_withObject valid fun shown found => ?_
  have known := ((reads.holds_iff store app).mp valid).find found
  cases model : shown.viewModel with
  | none => exact effect_done valid
  | some notification =>
    have known := known notification model
    dsimp only
    split_ifs with hidden
    · exact effect_done valid
    · refine effect_withObject valid fun again same => ?_
      obtain rfl := Option.some.inj (found.symm.trans same)
      simp only [model]
      have stored := reads.notification_post known
        (by simpa [NotificationCell.shouldHidePostImage] using hidden)
      refine Program.Keeps.run (reads.keeps_fetchPost (reads.stored_path stored)
        fun _ post _ known => reads.keeps_push ⟨fun _ member => absurd member List.not_mem_nil, ?_⟩)
        valid
      rintro _ ⟨⟩
      exact known

theorem keeps_searchViewDidLoad (self : Ref) :
    (SearchController.viewDidLoad self).Keeps C origin store := by
  unfold SearchController.viewDidLoad SearchController.fetchUsers
  refine reads.keeps_fetchUsers fun last users _ listed => ?_
  exact reads.keeps_modify fun _ _ toFinal valid =>
    ⟨fun user member => reads.hasUser_mono toFinal (listed user member), valid.2⟩

theorem keeps_updateSearchResults (self : Ref) (isActive : Bool) (text : String) :
    (SearchController.updateSearchResults self isActive text).Keeps C origin store :=
  reads.keeps_modify fun _ _ _ valid =>
    ⟨valid.1, fun user member => valid.1 user (List.mem_of_mem_filter member)⟩

theorem keeps_searchDidSelectRowAt (self : Ref) (row : ℕ) :
    (SearchController.didSelectRowAt self row).Keeps C origin store := by
  refine reads.keeps_withObject fun later page _ known => ?_
  cases shown : page.rows[row]? with
  | none => trivial
  | some user =>
    refine reads.keeps_push ⟨?_, by simp, by simp⟩
    have listed := List.mem_of_getElem? shown
    unfold SearchController.rows at listed
    split_ifs at listed
    · exact known.2 user listed
    · exact known.1 user listed

private theorem keeps_tabsFetchUser : MainTabController.fetchUser.Keeps C origin store := by
  refine reads.keeps_withCurrentUser fun first uid _ signed => ?_
  refine reads.keeps_fetchUser (reads.signed_path signed) fun second user toSecond known own => ?_
  refine ⟨fun last app toLast valid => ?_, trivial⟩
  rw [reads.holds_iff] at valid ⊢
  exact valid.setUser (reads.hasUser_mono toLast known)
    (reads.own_mono toLast (own (reads.signed_mono toSecond signed)))

theorem keeps_tabsViewDidLoad : MainTabController.viewDidLoad.Keeps C origin store := by
  refine Program.Keeps.seq (fun later app _ _ => ?_) reads.keeps_tabsFetchUser
  dsimp only
  split_ifs
  · exact reads.keeps_alloc trivial fun _ _ _ => trivial
  · trivial

theorem keeps_tabsDidFinishPicking (image : UIImage) :
    (MainTabController.didFinishPickingMedia image).Keeps C origin store := by
  intro later app _ valid
  rw [reads.holds_iff] at valid
  exact reads.keeps_alloc (fun user shown => valid.user user shown) fun _ _ _ => trivial

private theorem keeps_didFinishUploadPost :
    MainTabController.didFinishUploadPost.Keeps C origin store := by
  intro later app _ _
  dsimp only
  cases app.viewControllers with
  | nil => trivial
  | cons feed rest => exact reads.keeps_feedFetchPosts feed

theorem keeps_editCaption (self : Ref) (caption : String) :
    (UploadPostController.editCaption self caption).Keeps C origin store :=
  reads.keeps_modify fun _ _ _ valid => valid

end Reads

namespace Registers

variable (registers : P.Registers C origin)
include registers

private theorem keeps_didComplete (self : Ref) :
    (AuthenticationController.didComplete self).Keeps C origin store := by
  refine registers.keeps_withObject fun later page _ _ => ?_
  split_ifs
  · exact registers.keeps_tabsFetchUser
  · trivial

/-- The handler of a sign-in runs once the device took the account. -/
private theorem keeps_signedIn {answer : Except BackendError Uid}
    {completion : Except BackendError Uid → Code App}
    (signed : ∀ uid, answer = .ok uid → P.signed store uid)
    (keeps : (completion answer).Keeps C origin store) :
    (AuthService.signedIn completion answer).Keeps C origin store := by
  cases answer with
  | error => exact keeps
  | ok uid =>
    refine ⟨fun later app evolves valid => ?_, keeps⟩
    rw [registers.holds_iff] at valid ⊢
    refine ⟨fun current shown => ?_, valid.user, valid.google, valid.objects⟩
    obtain rfl : uid = current := Option.some.inj shown
    exact registers.signed_mono evolves (signed uid rfl)

private theorem keeps_logoutUser : (AuthService.logoutUser : Code App).Keeps C origin store := by
  refine ⟨fun later app _ valid => ?_, trivial⟩
  rw [registers.holds_iff] at valid ⊢
  exact ⟨fun current shown => absurd shown.symm (Option.some_ne_none current), valid.user,
    valid.google, valid.objects⟩

private theorem keeps_onTapLogin (self : Ref) (email password : String) :
    (AuthenticationController.onTapLogin self email password).Keeps C origin store := by
  refine Code.keeps_call (registers.allows rfl (by simp [Request.ids])) fun later answer _ replied => ?_
  refine registers.keeps_signedIn (fun uid same => registers.signed_in (same ▸ replied)) ?_
  cases answer with
  | error => trivial
  | ok uid => exact registers.keeps_didComplete self

/-- A sign-in with Google puts the image of the Google account into the account. -/
private theorem keeps_onTapLoginGoogle (self : Ref) (credential : AuthCredential)
    {profile : GoogleProfile} (known : P.image (profile.imageURL.getD "")) :
    (AuthenticationController.onTapLoginGoogle self credential profile).Keeps C origin store := by
  refine ⟨fun later app _ valid => ?_, ?_⟩
  · rw [registers.holds_iff] at valid ⊢
    refine ⟨valid.signed, valid.user, fun held same => ?_, valid.objects⟩
    obtain rfl := Option.some.inj same
    exact known
  · refine Program.Keeps.seq registers.keeps_logoutUser ?_
    refine Code.keeps_call (registers.allows rfl (by simp [Request.ids])) fun later answer _ replied => ?_
    refine registers.keeps_signedIn (fun uid same => registers.signed_in_with (same ▸ replied)) ?_
    cases answer with
    | error => trivial
    | ok uid =>
      intro last app toLast valid
      rw [registers.holds_iff] at valid
      cases shown : app.googleProfile with
      | none =>
        have absent : Device.googleProfile app = none := shown
        simp only [absent, Program.keeps_done]
      | some held =>
        have present : Device.googleProfile app = some held := shown
        simp only [present]
        have signed := registers.signed_mono toLast (registers.signed_in_with replied)
        refine Code.keeps_call (registers.register signed (valid.google held shown) _ _ _)
          fun final error _ _ => ?_
        cases error with
        | some error => trivial
        | none => exact registers.keeps_didComplete self

private theorem keeps_onTapSignUp (self : Ref) (email password username fullName : String)
    (profileImage : Option UIImage) :
    (AuthenticationController.onTapSignUp self email password username fullName profileImage).Keeps
      C origin store := by
  cases profileImage with
  | none => trivial
  | some image =>
    refine registers.keeps_uploadImage fun first url _ located => ?_
    refine Code.keeps_call (registers.allows rfl (by simp [Request.ids])) fun later answer _ replied => ?_
    refine registers.keeps_signedIn (fun uid same => registers.created (same ▸ replied)) ?_
    cases answer with
    | error => trivial
    | ok uid =>
      refine Code.keeps_call (registers.register (registers.created replied) located _ _ _)
        fun final error _ _ => ?_
      cases error with
      | some error => trivial
      | none => exact registers.keeps_didComplete self

/-- Whatever a user does on the pages that sign in and out keeps the contract. -/
theorem keeps_perform {action : AuthAction} (pictured : action.Pictured P.image) :
    action.perform.Keeps C origin store := by
  cases action with
  | loginOnTapLogin self email password => exact registers.keeps_onTapLogin self email password
  | loginOnTapGoogle self credential profile =>
    exact registers.keeps_onTapLoginGoogle self credential pictured
  | loginOnTapRegister self =>
    exact registers.keeps_withObject fun _ _ _ _ =>
      registers.keeps_alloc trivial fun _ _ _ => trivial
  | registrationOnTapSignUp self email password username fullName profileImage =>
    exact registers.keeps_onTapSignUp self email password username fullName profileImage
  | feedOnTapLogout self =>
    exact Program.Keeps.seq registers.keeps_logoutUser fun _ _ _ _ =>
      registers.keeps_alloc trivial fun _ _ _ => trivial

end Registers

namespace Writes

variable (writes : P.Writes C origin)
include writes

private theorem effect_feedCellOnTapLike {app : App} (valid : C.holds origin store app) (cell : Ref)
    (signs : ∀ user ∈ (UserAction.feedCellOnTapLike cell).author? app, P.signs store user) :
    ((FeedCell.onTapLike cell).run app).Keeps C origin store := by
  refine effect_withObject valid fun shown found => ?_
  have known := ((writes.holds_iff store app).mp valid).find found
  rcases shown with ⟨_ | post, delegate⟩
  · exact effect_done valid
  have known : P.hasPost store post := known post rfl
  refine effect_withTabUser valid fun user inside same => ?_
  have toggles : (FeedController.toggleDidLike cell).Keeps C origin store := by
    refine writes.keeps_modify fun _ cell _ valid => fun changed same => ?_
    obtain ⟨before, present, rfl⟩ := Option.map_eq_some_iff.mp same
    exact valid before present
  have setLikes (later : S) {likes : ℤ} (counted : P.likes likes) :
      (FeedController.setLikes cell likes).Keeps C origin later := by
    refine writes.keeps_modify fun _ cell _ valid => fun changed same => ?_
    obtain ⟨before, present, rfl⟩ := Option.map_eq_some_iff.mp same
    exact ⟨(valid before present).1, counted⟩
  cases liked : post.didLike with
  | true =>
    refine Program.Keeps.run (Program.Keeps.seq toggles ?_) valid
    exact writes.keeps_unlikePost known fun liked later _ _ =>
      setLikes later (writes.likes_down liked known.2)
  | false =>
    cases signedIn : app.currentUser with
    | none =>
      -- the cell is toggled, and no request is made
      simp only [FeedController.toggleDidLike, Code.modify, Program.update_seq, Program.done_seq,
        Program.run_update, Bool.false_eq_true, if_false]
      rw [PostService.likePost, Code.run_withCurrentUser_none signedIn]
      exact effect_done (toggles.1 store app (C.refl store) valid)
    | some uid =>
      have author : user ∈ (UserAction.feedCellOnTapLike cell).author? app := by
        simp [UserAction.author?, found, liked, inside, signedIn, same]
      have signs := signs user author
      refine Program.Keeps.run (Program.Keeps.seq toggles ?_) valid
      refine writes.keeps_likePost known fun later _ toLater event =>
        (setLikes later (writes.likes_up known.2)).seq ?_
      exact writes.keeps_addNotification_post (writes.hasPost_mono toLater known)
        (writes.signs_mono toLater signs) (by simp) event

private theorem effect_commentOnTapPost {app : App} (valid : C.holds origin store app) (self : Ref)
    (signs : ∀ user ∈ (UserAction.commentOnTapPost self).author? app, P.signs store user) :
    ((CommentController.onTapPost self).run app).Keeps C origin store := by
  refine effect_withObject valid fun page found => ?_
  refine effect_withTabUser valid fun user inside same => Program.Keeps.run ?_ valid
  have author : user ∈ (UserAction.commentOnTapPost self).author? app := by
    simp [UserAction.author?, found, inside, same]
  refine writes.keeps_withObject fun later page toLater known => ?_
  have signs := writes.signs_mono toLater (signs user author)
  refine writes.keeps_uploadComment known.1 signs fun last _ toLast event => ?_
  refine Program.Keeps.seq (writes.keeps_editText self "") ?_
  exact writes.keeps_addNotification_post (writes.hasPost_mono toLast known.1)
    (writes.signs_mono toLast signs) (by simp) event

private theorem effect_profileOnTapEditProfile {app : App} (valid : C.holds origin store app)
    (self : Ref)
    (signs : ∀ user ∈ (UserAction.profileOnTapEditProfile self).author? app, P.signs store user) :
    ((ProfileController.onTapEditProfile self).run app).Keeps C origin store := by
  have governs := (writes.holds_iff store app).mp valid
  refine effect_withObject valid fun profile found => ?_
  have known := governs.find found
  cases shown : profile.header with
  | none => exact effect_done valid
  | some header =>
    have known := known.2.2 header shown
    refine effect_withTabUser valid fun user inside same => ?_
    simp only [Program.run_inspect]
    split_ifs with own followed
    · -- the editor is opened for the user of the same page
      have mine : P.mine header.uid :=
        writes.signed_mine (governs.signed header.uid
          (by simpa [ProfileController.isCurrentUser] using own))
      refine effect_withObject valid fun page again => Program.Keeps.run ?_ valid
      obtain rfl := Option.some.inj (found.symm.trans again)
      exact writes.keeps_alloc ⟨(governs.find found).1, known.2 mine⟩ fun _ _ _ => trivial
    · refine effect_withCurrentUser valid fun current signedIn => Program.Keeps.run ?_ valid
      have apart : header.uid ≠ current := by
        rintro rfl
        simp [ProfileController.isCurrentUser, signedIn] at own
      refine keeps_edge false (fun later toLater => writes.edge
        (writes.signed_mono toLater (governs.signed current signedIn))
        (writes.user_mono toLater known.1.1) apart false) fun _ _ _ _ _ _ _ _ _ => ?_
      exact Program.Keeps.seq (writes.keeps_setIsFollowed self false) writes.keeps_removeUserFeed
    · refine effect_withCurrentUser valid fun current signedIn => Program.Keeps.run ?_ valid
      have author : user ∈ (UserAction.profileOnTapEditProfile self).author? app := by
        simp [UserAction.author?, found, shown, followed, own, inside, signedIn, same]
      have signs := signs user author
      have apart : header.uid ≠ current := by
        rintro rfl
        simp [ProfileController.isCurrentUser, signedIn] at own
      refine keeps_edge true (fun later toLater => writes.edge
        (writes.signed_mono toLater (governs.signed current signedIn))
        (writes.user_mono toLater known.1.1) apart true)
        fun middle last _ _ toMiddle replied toLast acknowledged _ => ?_
      have signed := writes.signed_mono toMiddle (governs.signed current signedIn)
      have sofar := C.trans toMiddle toLast
      refine Program.Keeps.seq (writes.keeps_setIsFollowed self true) (Program.Keeps.seq ?_
        writes.keeps_updateUserFeed)
      exact writes.keeps_addNotification_follow (writes.user_mono sofar known.1.1)
        (writes.signs_mono sofar signs) (writes.followed signed replied toLast acknowledged)

private theorem keeps_editUpdateProfileImage (self : Ref) :
    (EditProfileController.updateProfileImage self).Keeps C origin store := by
  refine writes.keeps_withObject fun later edit _ known => ?_
  cases edit.selectedImage with
  | none => trivial
  | some image =>
    refine writes.keeps_updateProfileImage known.1.2 known.2 fun last url error _ located => ?_
    rcases url with _ | url <;> rcases error with _ | error <;> try trivial
    exact Program.Keeps.seq
      (writes.keeps_modify fun _ _ _ valid => ⟨⟨valid.1.1, located url rfl⟩, valid.2⟩)
      (writes.keeps_reportUser self)

private theorem keeps_editUpdateUserData (self : Ref) :
    (EditProfileController.updateUserData self).Keeps C origin store := by
  refine writes.keeps_withObject fun later edit _ known => ?_
  refine Program.Keeps.seq ?_ (Program.Keeps.seq ?_ ?_)
  · split_ifs
    · exact writes.keeps_editUpdateProfileImage self
    · trivial
  · split_ifs
    · exact writes.keeps_saveUserData known.1.2 fun _ _ _ => writes.keeps_reportUser self
    · trivial
  · split_ifs
    · exact writes.keeps_saveUserData known.1.2 fun _ _ _ => writes.keeps_editUpdateProfileImage self
    · trivial

private theorem keeps_handleDone (self : Ref) (editing : Option (EditProfileOptions × String)) :
    (EditProfileController.handleDone self editing).Keeps C origin store := by
  refine Program.Keeps.seq ?_ (writes.keeps_withObject fun later edit _ _ => ?_)
  · rcases editing with _ | ⟨option, text⟩
    · trivial
    · exact writes.keeps_updateUserInfo self option text
  · split_ifs
    · exact writes.keeps_editUpdateUserData self
    · trivial

/-- A touch on a cell's follow button, which only the cell of a follow notification shows. -/
private theorem effect_touchFollowButton {app : App} (valid : C.holds origin store app) (cell : Ref) :
    ((NotificationCell.touchFollowButton cell).run app).Keeps C origin store := by
  refine effect_withObject valid fun shown found => ?_
  have known := ((writes.holds_iff store app).mp valid).find found
  cases model : shown.viewModel with
  | none => exact effect_done valid
  | some notification =>
    have known := known notification model
    dsimp only
    split_ifs with visible
    · refine effect_withObject valid fun again same => Program.Keeps.run ?_ valid
      obtain rfl := Option.some.inj (found.symm.trans same)
      simp only [model]
      have follows : notification.type = .follow := by
        simpa [NotificationCell.shouldHidePostImage] using visible
      have toggles (later : S) :
          (NotificationController.toggleUserIsFollowed cell).Keeps C origin later := by
        refine writes.keeps_modify fun _ cell _ valid => fun changed same => ?_
        obtain ⟨before, present, rfl⟩ := Option.map_eq_some_iff.mp same
        exact valid before present
      split_ifs
      · refine writes.keeps_withCurrentUser fun later current toLater signed => ?_
        refine keeps_edge false (fun last toLast => writes.edge_notified
          (writes.signed_mono toLast signed) (follows ▸ writes.notification_mono
            (C.trans toLater toLast) known) false) fun _ last _ _ _ _ _ _ _ => toggles last
      · refine writes.keeps_withCurrentUser fun later current toLater signed => ?_
        refine keeps_edge true (fun last toLast => writes.edge_notified
          (writes.signed_mono toLast signed) (follows ▸ writes.notification_mono
            (C.trans toLater toLast) known) true) fun _ last _ _ _ _ _ _ _ => toggles last
    · exact effect_done valid

private theorem effect_uploadOnTapShare {app : App} (valid : C.holds origin store app) (self : Ref)
    (uploads : ∀ page, app.find? UploadPostController self = some page →
      page.selectedImage.isSome → ∀ user ∈ page.currentUser, ∀ uid ∈ app.currentUser,
        P.uploads store uid user) :
    ((UploadPostController.onTapShare self).run app).Keeps C origin store := by
  refine effect_withObject valid fun page found => ?_
  rcases selected : page.selectedImage with _ | image
  · exact effect_done valid
  · rcases shown : page.currentUser with _ | user
    · exact effect_done valid
    · refine effect_withCurrentUser valid fun uid signedIn => Program.Keeps.run ?_ valid
      have chosen : page.selectedImage.isSome := by simp [selected]
      refine writes.keeps_upload (uploads page found chosen user shown uid signedIn)
        fun last error _ => ?_
      cases error with
      | some error => trivial
      | none => exact writes.keeps_didFinishUploadPost

/-- Whatever a user does keeps the contract, given the identities the device shows. -/
theorem effect_perform {app : App} (valid : C.holds origin store app) {action : UserAction}
    (signed : action.Authored P store app) : (action.perform.run app).Keeps C origin store := by
  cases action with
  | tabsViewDidLoad => exact (writes.keeps_tabsViewDidLoad).run valid
  | tabsDidFinishPicking image => exact (writes.keeps_tabsDidFinishPicking image).run valid
  | feedViewDidLoad self => exact (writes.keeps_feedFetchPosts self).run valid
  | feedOnTapRefresh self => exact (writes.keeps_feedFetchPosts self).run valid
  | feedNewCell self => exact (writes.keeps_newCell self).run valid
  | feedCellForItemAt self row cell => exact (writes.keeps_feedCellForItemAt self row cell).run valid
  | feedCellShowUserProfile cell => exact (writes.keeps_feedCellShowUserProfile cell).run valid
  | feedCellOnTapLike cell => exact writes.effect_feedCellOnTapLike valid cell signed
  | feedCellOnTapComment cell => exact (writes.keeps_feedCellOnTapComment cell).run valid
  | profileViewDidLoad self => exact (writes.keeps_profileViewDidLoad self).run valid
  | profileViewForHeader self => exact (writes.keeps_viewForHeader self).run valid
  | profileDidSelectItemAt self row => exact (writes.keeps_profileDidSelectItemAt self row).run valid
  | profileOnTapEditProfile self => exact writes.effect_profileOnTapEditProfile valid self signed
  | editUpdateUserInfo self option text =>
    exact (writes.keeps_updateUserInfo self option text).run valid
  | editHandleDone self editing => exact (writes.keeps_handleDone self editing).run valid
  | editDidFinishPicking self image => exact (writes.keeps_editDidFinishPicking self image).run valid
  | commentViewDidLoad self => exact (writes.keeps_commentViewDidLoad self).run valid
  | commentEditText self text => exact (writes.keeps_editText self text).run valid
  | commentOnTapPost self => exact writes.effect_commentOnTapPost valid self signed
  | commentDidSelectItemAt self row => exact (writes.keeps_commentDidSelectItemAt self row).run valid
  | notificationViewDidLoad self => exact (writes.keeps_notificationViewDidLoad self).run valid
  | notificationOnRefresh self => exact (writes.keeps_onRefresh self).run valid
  | notificationNewCell self => exact (writes.keeps_notificationNewCell self).run valid
  | notificationCellForRowAt self row cell => exact (writes.keeps_cellForRowAt self row cell).run valid
  | notificationDidSelectRowAt self row =>
    exact (writes.keeps_notificationDidSelectRowAt self row).run valid
  | notificationCellTouchFollow cell => exact writes.effect_touchFollowButton valid cell
  | notificationCellTouchPost cell => exact writes.effect_touchPostImage valid cell
  | searchViewDidLoad self => exact (writes.keeps_searchViewDidLoad self).run valid
  | searchUpdateResults self isActive text =>
    exact (writes.keeps_updateSearchResults self isActive text).run valid
  | searchDidSelectRowAt self row => exact (writes.keeps_searchDidSelectRowAt self row).run valid
  | uploadEditCaption self caption => exact (writes.keeps_editCaption self caption).run valid
  | uploadOnTapShare self => exact writes.effect_uploadOnTapShare valid self signed

end Writes

end Policy

end InstagramClone
