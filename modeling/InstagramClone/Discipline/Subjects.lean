import InstagramClone.Discipline.Steering

/-! # What pages are about

A page is opened on something: a profile page on an account, a comment page on a post, a feed on one
post or on the account's list, an editor on the account of the page that opened it. What the app's
code changes of a page leaves that as it is, and all code but that of a comment page leaves the
comments that are held as they are. So it stays on every course that such changes follow.
-/

namespace InstagramClone

open Async

/-- What an object of the heap is about. -/
inductive Subject where
  | feed (post : Option Post)
  | feedCell
  | profile (uid : Uid)
  | editProfile (uid : Uid) (delegate : Ref)
  | comment (post : Post)
  | notification
  | notificationCell
  | search
  | uploadPost (selectedImage : Option UIImage) (currentUser : Option User)
  | authentication (delegate : Bool)
  | capturedPosts
  | capturedComments
deriving DecidableEq

def Object.subject : Object → Subject
  | feed controller => .feed controller.post
  | feedCell _ => .feedCell
  | profile controller => .profile controller.user.uid
  | editProfile controller => .editProfile controller.user.uid controller.delegate
  | comment controller => .comment controller.post
  | notification _ => .notification
  | notificationCell _ => .notificationCell
  | search _ => .search
  | uploadPost controller => .uploadPost controller.selectedImage controller.currentUser
  | authentication controller => .authentication controller.delegate
  | capturedPosts _ => .capturedPosts
  | capturedComments _ => .capturedComments

/-- The comments that an object holds. -/
def Object.comments : Object → List Comment
  | comment controller => controller.comments
  | capturedComments comments => comments
  | _ => []

/-- What an object is about, and the comments it holds. -/
def Object.kept (object : Object) : Subject × List Comment := (object.subject, object.comments)

/-- What is told of the object at a reference. -/
def App.told? {β : Type} (app : App) (tells : Object → β) (ref : Ref) : Option β :=
  app.objects[ref]?.map fun entry => tells entry.object

/-- What the object at a reference is about. -/
abbrev App.subject? (app : App) (ref : Ref) : Option Subject := app.told? Object.subject ref

/-- The action loads the comments of a page. -/
def AppAction.loadsComments : AppAction → Bool
  | .user (.commentViewDidLoad _) => true
  | _ => false

namespace PageSubjects

section Objects

variable {app : App} {ref other : Ref} {α β : Type} [Instance α] {tells : Object → β} {told : β}

theorem told?_of_find {value : α} (found : app.find? α ref = some value) :
    app.told? tells ref = some (tells (Instance.inject value)) := by
  obtain ⟨entry, present, projected⟩ := Option.bind_eq_some_iff.mp found
  rw [App.told?, present, Instance.inject_project projected]
  rfl

/-- A change that keeps what is told of its object. -/
theorem told?_modify {change : α → α}
    (same : ∀ value, app.find? α ref = some value →
      tells (Instance.inject (change value)) = tells (Instance.inject value)) :
    (app.modify ref change).told? tells other = app.told? tells other := by
  simp only [App.told?, App.modify, List.getElem?_modify]
  cases found : app.objects[other]? with
  | none => rfl
  | some entry =>
    simp only [Option.map_eq_map, Option.map_some]
    split_ifs with here
    · subst here
      unfold HeapObject.modify
      split
      · next value projected =>
        have held : app.find? α ref = some value := by simp [App.find?, found, projected]
        rw [same value held, Instance.inject_project projected]
      · rfl
    · rfl

theorem told?_modify_of_ne (apart : other ≠ ref) (change : α → α) :
    (app.modify ref change).told? tells other = app.told? tells other := by
  simp [App.told?, App.modify, Ne.symm apart]

omit [Instance α] in
theorem told?_add (known : app.told? tells ref = some told)
    (object : Object) (inTab : Bool) : (app.add object inTab).told? tells ref = some told := by
  obtain ⟨entry, found, rfl⟩ := Option.map_eq_some_iff.mp known
  rw [App.told?, App.getElem?_add found]
  rfl

theorem lt_of_told? (known : app.told? tells ref = some told) : ref < app.objects.length := by
  obtain ⟨entry, found, -⟩ := Option.map_eq_some_iff.mp known
  exact (List.getElem?_eq_some_iff.mp found).1

/-- An object of the enlarged heap was there before or is the new one. -/
theorem told?_add_cases {object : Object} {inTab : Bool}
    (known : (app.add object inTab).told? tells ref = some told) :
    app.told? tells ref = some told ∨ told = tells object := by
  rcases Nat.lt_or_ge ref app.objects.length with old | new
  · rw [App.told?, App.add, List.getElem?_append_left old] at known
    exact .inl known
  · rw [App.told?, App.add, List.getElem?_append_right new] at known
    obtain ⟨entry, found, rfl⟩ := Option.map_eq_some_iff.mp known
    obtain rfl := List.mem_singleton.mp (List.mem_of_getElem? found)
    exact .inr rfl

private theorem inTab_add_of_lt (old : ref < app.objects.length) (object : Object) (inTab : Bool) :
    (app.add object inTab).inTab ref = app.inTab ref := by
  rw [App.inTab, App.add, List.getElem?_append_left old, App.inTab]

/-- The first tab of a user, and the ones after it. -/
def tabs (user : User) : List HeapObject :=
  [⟨.feed {}, true⟩, ⟨.search {}, true⟩, ⟨.notification {}, true⟩, ⟨.profile { user }, true⟩]

omit [Instance α] in
private theorem getElem?_setUser_of_lt (old : ref < app.objects.length) (user : User) :
    (MainTabController.setUser user app).objects[ref]? =
      app.objects[ref]?.map fun entry => { entry with inTab := false } := by
  have before : ref < (app.objects.map fun entry => { entry with inTab := false }).length := by
    simpa using old
  rw [← List.getElem?_map]
  exact List.getElem?_append_left before

omit [Instance α] in
private theorem getElem?_setUser_add (app : App) (user : User) (index : ℕ) :
    (MainTabController.setUser user app).objects[app.objects.length + index]? =
      (tabs user)[index]? := by
  have after : (app.objects.map fun entry => { entry with inTab := false }).length ≤
      app.objects.length + index := by
    simp
  refine (List.getElem?_append_right after).trans ?_
  rw [List.length_map, Nat.add_sub_cancel_left]
  rfl

omit [Instance α] in
theorem told?_setUser_of_lt (old : ref < app.objects.length) (user : User) :
    (MainTabController.setUser user app).told? tells ref = app.told? tells ref := by
  rw [App.told?, getElem?_setUser_of_lt old, Option.map_map]
  rfl

omit [Instance α] in
/-- Of the new tabs it is told what they start as. -/
theorem told?_setUser_add (app : App) (user : User) (index : ℕ) :
    (MainTabController.setUser user app).told? tells (app.objects.length + index) =
      (tabs user)[index]?.map fun entry => tells entry.object := by
  rw [App.told?, getElem?_setUser_add]

omit [Instance α] in
/-- New tabs leave every earlier object outside. -/
private theorem inTab_setUser_of_lt (old : ref < app.objects.length) (user : User) :
    (MainTabController.setUser user app).inTab ref = false := by
  rw [App.inTab, getElem?_setUser_of_lt old, Option.map_map]
  cases app.objects[ref]? <;> rfl

end Objects

/-- The tabs of the tab controller's user: its feed, a search page, its notifications and its profile
page. -/
structure TabsOf (app : App) (user : User) (feed search notifications profile : Ref) : Prop where
  viewControllers : app.viewControllers = [feed, search, notifications, profile]
  inTab : ∀ ref ∈ app.viewControllers, app.inTab ref = true
  feed : app.subject? feed = some (.feed none)
  search : app.subject? search = some .search
  notifications : app.subject? notifications = some .notification
  profile : app.subject? profile = some (.profile user.uid)

/-- Every editor edits the account of the page it reports to, and the tabs are those of the tab
controller's user. -/
structure Coherent (app : App) : Prop where
  editors : ∀ {ref uid delegate}, app.subject? ref = some (.editProfile uid delegate) →
    app.subject? delegate = some (.profile uid)
  tabs : ∀ user, app.user = some user →
    ∃ feed search notifications profile, TabsOf app user feed search notifications profile
  noTabs : app.user = none → app.viewControllers = []

/-- Later on, all objects are still about the same, none has returned to the tab controller, and all
have left it if the tabs were replaced. -/
structure Lasts (before after : App) : Prop where
  subjects : ∀ {ref subject}, before.subject? ref = some subject → after.subject? ref = some subject
  outside : ∀ {ref}, ref < before.objects.length → before.inTab ref = false →
    after.inTab ref = false
  replaced : after.viewControllers = before.viewControllers ∨
    ∀ ref, ref < before.objects.length → after.inTab ref = false
  coherent : Coherent before → Coherent after

private theorem lt_of_lasts {before after : App} (lasts : Lasts before after) {ref : Ref}
    (old : ref < before.objects.length) : ref < after.objects.length := by
  have known : before.subject? ref = some (before.objects[ref]).object.subject := by
    rw [App.subject?, App.told?, List.getElem?_eq_getElem old]
    rfl
  exact lt_of_told? (lasts.subjects known)

theorem Lasts.refl (app : App) : Lasts app app := ⟨id, fun _ => id, .inl rfl, id⟩

theorem Lasts.trans {first second third : App} (left : Lasts first second)
    (right : Lasts second third) : Lasts first third := by
  refine ⟨fun known => right.subjects (left.subjects known),
    fun old out => right.outside (lt_of_lasts left old) (left.outside old out), ?_,
    fun coherent => right.coherent (left.coherent coherent)⟩
  rcases left.replaced with same | gone
  · rcases right.replaced with again | gone
    · exact .inl (again.trans same)
    · exact .inr fun ref old => gone ref (lt_of_lasts left old)
  · exact .inr fun ref old => right.outside (lt_of_lasts left old) (gone ref old)

/-- Moving on in this way. -/
def lasting : Motion App where
  moves := Lasts
  refl := Lasts.refl
  trans := Lasts.trans

section Lasting

variable {app : App} {ref : Ref} {α : Type} [Instance α]

/-- A change of the device that leaves the objects and the tabs as they are. -/
private theorem Coherent.congr {other : App} (coherent : Coherent app)
    (subjects : ∀ ref, other.subject? ref = app.subject? ref)
    (inTab : ∀ ref, other.inTab ref = app.inTab ref) (user : other.user = app.user)
    (tabs : other.viewControllers = app.viewControllers) : Coherent other := by
  constructor
  · intro ref uid delegate known
    rw [subjects] at known ⊢
    exact coherent.editors known
  · intro current shown
    obtain ⟨feed, search, notifications, profile, those⟩ := coherent.tabs current (user ▸ shown)
    refine ⟨feed, search, notifications, profile, tabs.trans those.viewControllers, ?_, ?_, ?_, ?_,
      ?_⟩
    · intro ref member
      rw [inTab]
      exact those.inTab ref (tabs ▸ member)
    · rw [subjects, those.feed]
    · rw [subjects, those.search]
    · rw [subjects, those.notifications]
    · rw [subjects, those.profile]
  · intro absent
    rw [tabs]
    exact coherent.noTabs (user ▸ absent)

/-- A change of an object that keeps what it is about. -/
theorem lasts_modify {change : α → α}
    (same : ∀ value, app.find? α ref = some value →
      (Instance.inject (change value)).subject = (Instance.inject value).subject) :
    Lasts app (app.modify ref change) := by
  refine ⟨fun known => (told?_modify same).trans known, fun _ out => ?_, .inl rfl,
    fun coherent => ?_⟩
  · rwa [App.inTab_modify]
  · exact coherent.congr (fun other => told?_modify same) (fun other => App.inTab_modify ..)
      rfl rfl

/-- A new object; an editor edits the account of the page it reports to. -/
theorem lasts_add {object : Object} {inTab : Bool}
    (edits : ∀ uid delegate, object.subject = .editProfile uid delegate →
      app.subject? delegate = some (.profile uid)) : Lasts app (app.add object inTab) := by
  refine ⟨fun known => told?_add known object inTab, fun old out => ?_, .inl rfl,
    fun coherent => ?_⟩
  · rwa [inTab_add_of_lt old]
  constructor
  · intro ref uid delegate known
    apply told?_add _ object inTab
    rcases told?_add_cases known with old | new
    · exact coherent.editors old
    · exact edits uid delegate new.symm
  · intro user shown
    obtain ⟨feed, search, notifications, profile, those⟩ := coherent.tabs user shown
    refine ⟨feed, search, notifications, profile, those.viewControllers, fun ref member => ?_, ?_, ?_,
      ?_, ?_⟩
    · exact App.inTab_add (those.inTab ref member) object inTab
    · exact told?_add those.feed object inTab
    · exact told?_add those.search object inTab
    · exact told?_add those.notifications object inTab
    · exact told?_add those.profile object inTab
  · exact coherent.noTabs

/-- New tabs for a user. -/
theorem lasts_setUser (app : App) (user : User) :
    Lasts app (MainTabController.setUser user app) := by
  have subject (index : ℕ) : (MainTabController.setUser user app).subject?
      (app.objects.length + index) = (tabs user)[index]?.map fun entry => entry.object.subject :=
    told?_setUser_add app user index
  have shown (index : ℕ) : (MainTabController.setUser user app).inTab
      (app.objects.length + index) = ((tabs user)[index]?.map HeapObject.inTab).getD false := by
    rw [App.inTab, getElem?_setUser_add]
  have kept {ref : Ref} {subject : Subject} (known : app.subject? ref = some subject) :
      (MainTabController.setUser user app).subject? ref = some subject :=
    (told?_setUser_of_lt (lt_of_told? known) user).trans known
  refine ⟨kept, fun old _ => inTab_setUser_of_lt old user,
    .inr fun ref old => inTab_setUser_of_lt old user, fun coherent => ?_⟩
  constructor
  · intro ref uid delegate known
    apply kept
    rcases Nat.lt_or_ge ref app.objects.length with old | new
    · exact coherent.editors ((told?_setUser_of_lt old user).symm.trans known)
    · obtain ⟨index, rfl⟩ := Nat.exists_eq_add_of_le new
      rw [subject] at known
      obtain ⟨entry, listed, edits⟩ := Option.map_eq_some_iff.mp known
      have member := List.mem_of_getElem? listed
      simp only [tabs, List.mem_cons, List.not_mem_nil, or_false] at member
      rcases member with rfl | rfl | rfl | rfl <;> cases edits
  · rintro current ⟨⟩
    refine ⟨_, _, _, _, rfl, ?_, subject 0, subject 1, subject 2, subject 3⟩
    intro ref member
    have place : ref = app.objects.length + 0 ∨ ref = app.objects.length + 1 ∨
        ref = app.objects.length + 2 ∨ ref = app.objects.length + 3 := by
      simpa [MainTabController.setUser, MainTabController.configureViewControllers] using member
    rcases place with rfl | rfl | rfl | rfl <;> exact shown _
  · intro absent
    cases absent

/-- Signing in or out. -/
theorem lasts_signs (app : App) (uid : Option Uid) :
    Lasts app { app with currentUser := uid } :=
  ⟨id, fun _ => id, .inl rfl, fun coherent => coherent.congr (fun _ => rfl) (fun _ => rfl) rfl rfl⟩

theorem lasts_profile (app : App) (profile : Option GoogleProfile) :
    Lasts app { app with googleProfile := profile } :=
  ⟨id, fun _ => id, .inl rfl, fun coherent => coherent.congr (fun _ => rfl) (fun _ => rfl) rfl rfl⟩

end Lasting

/-- The course allows every change that keeps what an object is about and the comments it holds, new
objects that hold none, new tabs, and signing in and out. -/
structure Guides (course : Course firebase App) : Prop where
  lasts : ∀ {before after}, course.moves before after → Lasts before after
  alters : ∀ {α : Type} [Instance α] {app : App} {ref : Ref} {change : α → α},
    (∀ value, app.find? α ref = some value →
      (Instance.inject (change value)).kept = (Instance.inject value).kept) →
    course.own.moves app (app.modify ref change)
  add : ∀ {app : App} {object : Object} {inTab : Bool},
    (∀ uid delegate, object.subject = .editProfile uid delegate →
      app.subject? delegate = some (.profile uid)) → object.comments = [] →
    course.own.moves app (app.add object inTab)
  tabs : ∀ app user, course.own.moves app (MainTabController.setUser user app)
  signs : ∀ (app : App) uid, course.own.moves app { app with currentUser := uid }
  google : ∀ (app : App) profile, course.own.moves app { app with googleProfile := profile }

namespace Guides

open Code

variable {course : Course firebase App} (guides : Guides course) {app : App} {self : Ref}
include guides

section Controllers

/-- A new page or cell that is no editor. -/
private theorem opens {α : Type} [Instance α] {controller : α} {inTab : Bool}
    (plain : ∀ uid delegate, (Instance.inject controller).subject ≠ .editProfile uid delegate)
    (blank : (Instance.inject controller).comments = []) :
    course.own.moves app (app.add (Instance.inject controller) inTab) :=
  guides.add (fun uid delegate edits => absurd edits (plain uid delegate)) blank

private theorem steers_opens {α : Type} [Instance α] {controller : α} {inTab : Bool}
    (plain : ∀ uid delegate, (Instance.inject controller).subject ≠ .editProfile uid delegate)
    (blank : (Instance.inject controller).comments = []) :
    (alloc controller inTab fun _ => .done).Steers course app :=
  steers_alloc (guides.opens plain blank) trivial

/-- On a feed that shows the account's list, no answer sets a single post. -/
private theorem steers_feedIsUserLikedPost (list : app.subject? self = some (.feed none)) :
    (FeedController.isUserLikedPost self).Steers course app := by
  apply steers_withObject
  intro feed found
  have single : feed.post = none := by
    have about := (told?_of_find found).symm.trans list
    exact Subject.feed.inj (Option.some.inj about)
  rw [single]
  apply Program.steers_forEach
  intro post _ middle _
  apply PostService.steers_isUserLikedPost
  intro didLike later _
  exact steers_modify (guides.alters fun _ _ => rfl)

private theorem steers_feedFetchPosts : (FeedController.fetchPosts self).Steers course app := by
  apply steers_withObject
  intro feed found
  split_ifs with listed
  · have list : app.subject? self = some (.feed none) := by
      rw [App.subject?, told?_of_find found, ← Option.isNone_iff_eq_none.mp listed]
      rfl
    apply PostService.steers_fetchFeedPosts (guides.add (fun _ _ edits => by cases edits) rfl)
    · exact fun later ref change _ => guides.alters fun _ _ => rfl
    · intro posts later moved
      have shown : course.own.moves later
          (later.modify self fun feed : FeedController => { feed with posts }) :=
        guides.alters fun _ _ => rfl
      apply Program.Steers.seq (steers_modify shown)
      intro last beyond
      have lasts := guides.lasts (course.trans moved beyond)
      exact guides.steers_feedIsUserLikedPost (lasts.subjects list)
  · trivial

private theorem steers_showProfileFor {uid : Uid} :
    (FeedController.showProfileFor self uid).Steers course app := by
  apply UserService.steers_fetchUser
  exact fun user later _ => steers_push fun _ => guides.opens (fun _ _ edits => by cases edits) rfl

omit guides in
private theorem steers_feedCellWithViewModel {body : Post → Ref → Code App}
    (each : ∀ post delegate, (body post delegate).Steers course app) :
    (FeedCell.withViewModel self body).Steers course app := by
  apply steers_withObject
  intro cell _
  cases cell.viewModel with
  | none => trivial
  | some post => exact each post cell.delegate

private theorem steers_didLike {cell : Ref} {post : Post} :
    (FeedController.didLike self cell post).Steers course app := by
  have changes {change : FeedCell → FeedCell} (later : App) :
      (modify cell change).Steers course later := steers_modify (guides.alters fun _ _ => rfl)
  apply steers_withTabUser
  intro user _
  apply (changes app).seq
  intro later _
  split_ifs
  · exact PostService.steers_unlikePost fun _ last _ => changes last
  · apply PostService.steers_likePost
    intro _ last _
    exact (changes last).seq fun _ _ => NotificationService.steers_addNotification

private theorem steers_profileViewDidLoad :
    (ProfileController.viewDidLoad self).Steers course app := by
  have changes {change : ProfileController → ProfileController} (later : App)
      (same : ∀ profile, (change profile).user.uid = profile.user.uid) :
      (modify self change).Steers course later :=
    steers_modify (guides.alters fun profile _ =>
      congrArg (fun uid => (Subject.profile uid, [])) (same profile))
  apply Program.Steers.seq
  · apply steers_withObject
    intro profile _
    exact UserService.steers_isUserFollowed fun _ later _ => changes later fun _ => rfl
  intro second _
  apply Program.Steers.seq
  · apply steers_withObject
    intro profile _
    exact UserService.steers_fetchUserStats fun _ later _ => changes later fun _ => rfl
  intro third _
  apply steers_withObject
  intro profile _
  exact PostService.steers_fetchPostsForUser fun _ later _ => changes later fun _ => rfl

/-- An editor is opened on the account of its page. -/
private theorem steers_showEditProfileController :
    (ProfileController.showEditProfileController self).Steers course app := by
  apply steers_withObject
  intro profile found
  refine steers_alloc (guides.add (fun uid delegate edits => ?_) rfl) trivial
  obtain ⟨rfl, rfl⟩ := Subject.editProfile.inj edits
  exact told?_of_find found

private theorem steers_onTapButtonFor {user : User} :
    (ProfileController.onTapButtonFor self user).Steers course app := by
  have shows {isFollowed : Bool} (later : App) :
      (ProfileController.setIsFollowed self isFollowed).Steers course later :=
    steers_modify (guides.alters fun _ _ => rfl)
  apply steers_withTabUser
  intro currentUser _
  simp only [Program.Steers]
  split_ifs
  · exact guides.steers_showEditProfileController
  · apply UserService.steers_unFollow
    intro _ later _
    exact (shows later).seq fun _ _ => PostService.steers_removeUserFeed
  · apply UserService.steers_follow
    intro _ later _
    apply (shows later).seq
    intro _ _
    exact NotificationService.steers_addNotification.seq fun _ _ => PostService.steers_updateUserFeed

private theorem steers_onTapEditProfile :
    (ProfileController.onTapEditProfile self).Steers course app := by
  apply steers_withObject
  intro profile _
  cases profile.header with
  | none => trivial
  | some user => exact guides.steers_onTapButtonFor

/-- What an editor reports is a user of the account of its page. -/
private theorem steers_reportUser (coherent : Coherent app) :
    (withObject self fun edit : EditProfileController =>
      ProfileController.wantsToUpdate edit.delegate edit.user).Steers course app := by
  apply steers_withObject
  intro edit found
  refine steers_modify (guides.alters fun profile shown => ?_)
  have account := coherent.editors (told?_of_find found)
  rw [App.subject?, told?_of_find shown] at account
  exact Prod.ext (Option.some.inj account).symm rfl

private theorem steers_editUpdateProfileImage (coherent : Coherent app) :
    (EditProfileController.updateProfileImage self).Steers course app := by
  apply steers_withObject
  intro edit _
  cases edit.selectedImage with
  | none => trivial
  | some image =>
    apply UserService.steers_updateProfileImage
    intro url error later moved
    split
    · next profileImageUrl =>
      have painted : course.own.moves later (later.modify self fun edit : EditProfileController =>
          { edit with user := { edit.user with profileImage := profileImageUrl } }) :=
        guides.alters fun _ _ => rfl
      apply Program.Steers.seq (steers_modify painted)
      intro last beyond
      have lasts := guides.lasts (course.trans moved beyond)
      exact guides.steers_reportUser (lasts.coherent coherent)
    · trivial

private theorem steers_editUpdateUserData (coherent : Coherent app) :
    (EditProfileController.updateUserData self).Steers course app := by
  apply steers_withObject
  intro edit _
  apply Program.Steers.seq
  · split_ifs
    · exact guides.steers_editUpdateProfileImage coherent
    · trivial
  intro second toSecond
  apply Program.Steers.seq
  · split_ifs
    · apply UserService.steers_saveUserData
      intro _ later beyond
      have lasts := guides.lasts (course.trans toSecond beyond)
      exact guides.steers_reportUser (lasts.coherent coherent)
    · trivial
  intro third toThird
  split_ifs
  · apply UserService.steers_saveUserData
    intro _ later beyond
    apply guides.steers_editUpdateProfileImage
    exact (guides.lasts (course.trans (course.trans toSecond toThird) beyond)).coherent coherent
  · trivial

private theorem steers_updateUserInfo {option : EditProfileOptions} {text : String} :
    (EditProfileController.updateUserInfo self option text).Steers course app := by
  refine steers_modify (guides.alters fun edit _ => ?_)
  cases option <;> rfl

private theorem steers_handleDone (coherent : Coherent app)
    {editing : Option (EditProfileOptions × String)} :
    (EditProfileController.handleDone self editing).Steers course app := by
  apply Program.Steers.seq
  · rcases editing with _ | ⟨option, text⟩
    · trivial
    · exact guides.steers_updateUserInfo
  intro later moved
  apply steers_withObject
  intro edit _
  split_ifs
  · exact guides.steers_editUpdateUserData ((guides.lasts moved).coherent coherent)
  · trivial

private theorem steers_commentOnTapPost : (CommentController.onTapPost self).Steers course app := by
  apply steers_withObject
  intro page _
  apply steers_withTabUser
  intro user _
  apply steers_withObject
  intro shown _
  apply CommentService.steers_uploadComment
  intro _ later _
  apply Program.Steers.seq
  · exact steers_modify (guides.alters fun _ _ => rfl)
  · exact fun _ _ => NotificationService.steers_addNotification

private theorem steers_checkIfUserIsFollowed :
    (NotificationController.checkIfUserIsFollowed self).Steers course app := by
  apply steers_withObject
  intro page _
  apply Program.steers_forEach
  intro notification _ middle _
  split_ifs
  · apply UserService.steers_isUserFollowed
    exact fun isFollowed later _ => steers_modify (guides.alters fun _ _ => rfl)
  · trivial

private theorem steers_fetchNotifications :
    (NotificationController.fetchNotifications self).Steers course app := by
  apply NotificationService.steers_fetchNotifications
  intro notifications later _
  apply Program.Steers.seq
  · exact steers_modify (guides.alters fun _ _ => rfl)
  · exact fun _ _ => guides.steers_checkIfUserIsFollowed

omit guides in
private theorem steers_notificationCellWithViewModel {body : Notification → Ref → Code App}
    (each : ∀ notification delegate, (body notification delegate).Steers course app) :
    (NotificationCell.withViewModel self body).Steers course app := by
  apply steers_withObject
  intro cell _
  cases cell.viewModel with
  | none => trivial
  | some notification => exact each notification cell.delegate

private theorem steers_touchFollowButton :
    (NotificationCell.touchFollowButton self).Steers course app := by
  have toggles (later : App) :
      (NotificationController.toggleUserIsFollowed self).Steers course later :=
    steers_modify (guides.alters fun _ _ => rfl)
  apply steers_notificationCellWithViewModel
  intro notification _
  split_ifs
  · apply steers_notificationCellWithViewModel
    intro shown _
    split_ifs
    · exact UserService.steers_unFollow fun _ later _ => toggles later
    · exact UserService.steers_follow fun _ later _ => toggles later
  · trivial

private theorem steers_touchPostImage : (NotificationCell.touchPostImage self).Steers course app := by
  apply steers_notificationCellWithViewModel
  intro notification _
  split_ifs
  · trivial
  · apply steers_notificationCellWithViewModel
    intro shown delegate
    apply PostService.steers_fetchPost
    exact fun post later _ => steers_push fun _ => guides.opens (fun _ _ edits => by cases edits) rfl

private theorem steers_tabsFetchUser : MainTabController.fetchUser.Steers course app := by
  apply steers_withCurrentUser
  intro uid _
  apply UserService.steers_fetchUser
  exact fun user later _ => ⟨guides.tabs later user, trivial⟩

private theorem steers_tabsViewDidLoad : MainTabController.viewDidLoad.Steers course app := by
  apply Program.Steers.seq
  · simp only [MainTabController.fetchIsUserLoggedIn, Program.Steers]
    split_ifs
    · exact guides.steers_opens (fun _ _ edits => by cases edits) rfl
    · trivial
  · exact fun _ _ => guides.steers_tabsFetchUser

private theorem steers_onTapShare : (UploadPostController.onTapShare self).Steers course app := by
  apply steers_withObject
  intro page _
  split
  · apply PostService.steers_postAnImage
    intro error later _
    cases error with
    | some error => trivial
    | none =>
      simp only [MainTabController.didFinishUploadPost, Program.Steers]
      cases later.viewControllers with
      | nil => trivial
      | cons feed rest => exact guides.steers_feedFetchPosts
  · trivial

private theorem steers_didComplete :
    (AuthenticationController.didComplete self).Steers course app := by
  apply steers_withObject
  intro page _
  split_ifs
  · exact guides.steers_tabsFetchUser
  · trivial

private theorem steers_didFinishPickingMedia {image : UIImage} :
    (MainTabController.didFinishPickingMedia image).Steers course app := by
  simp only [MainTabController.didFinishPickingMedia, Program.Steers]
  exact guides.steers_opens (fun _ _ edits => by cases edits) rfl

private theorem steers_feedNewCell : (FeedController.newCell self).Steers course app := by
  simp only [FeedController.newCell, Program.Steers]
  exact guides.steers_opens (fun _ _ edits => by cases edits) rfl

private theorem steers_feedCellForItemAt {row : ℕ} {cell : Ref} :
    (FeedController.cellForItemAt self row cell).Steers course app := by
  apply steers_withObject
  intro feed _
  cases feed.row? row with
  | none => trivial
  | some post => exact steers_modify (guides.alters fun _ _ => rfl)

private theorem steers_showUserProfile : (FeedCell.showUserProfile self).Steers course app :=
  steers_feedCellWithViewModel fun _ _ => guides.steers_showProfileFor

private theorem steers_onTapLike : (FeedCell.onTapLike self).Steers course app :=
  steers_feedCellWithViewModel fun _ _ => guides.steers_didLike

private theorem steers_onTapComment : (FeedCell.onTapComment self).Steers course app :=
  steers_feedCellWithViewModel fun _ _ =>
    steers_push fun _ => guides.opens (fun _ _ edits => by cases edits) rfl

private theorem steers_profileDidSelectItemAt {row : ℕ} :
    (ProfileController.didSelectItemAt self row).Steers course app := by
  apply steers_withObject
  intro profile _
  cases profile.posts[row]? with
  | none => trivial
  | some post => exact steers_push fun _ => guides.opens (fun _ _ edits => by cases edits) rfl

private theorem steers_notificationNewCell :
    (NotificationController.newCell self).Steers course app := by
  simp only [NotificationController.newCell, Program.Steers]
  exact guides.steers_opens (fun _ _ edits => by cases edits) rfl

private theorem steers_searchViewDidLoad : (SearchController.viewDidLoad self).Steers course app := by
  unfold SearchController.viewDidLoad SearchController.fetchUsers
  apply UserService.steers_fetchUsers
  exact fun users later _ => steers_modify (guides.alters fun _ _ => rfl)

private theorem steers_searchDidSelectRowAt {row : ℕ} :
    (SearchController.didSelectRowAt self row).Steers course app := by
  apply steers_withObject
  intro page _
  cases page.rows[row]? with
  | none => trivial
  | some user => exact steers_push fun _ => guides.opens (fun _ _ edits => by cases edits) rfl

private theorem steers_onTapRegister :
    (AuthenticationController.onTapRegister self).Steers course app := by
  apply steers_withObject
  exact fun page _ => guides.steers_opens (fun _ _ edits => by cases edits) rfl

private theorem steers_onTapLogin {email password : String} :
    (AuthenticationController.onTapLogin self email password).Steers course app := by
  apply AuthService.steers_loginUser fun later uid _ => guides.signs later uid
  intro answer later _
  cases answer with
  | error => trivial
  | ok uid => exact guides.steers_didComplete

private theorem steers_onTapLoginGoogle {credential : AuthCredential} {profile : GoogleProfile} :
    (AuthenticationController.onTapLoginGoogle self credential profile).Steers course app := by
  refine ⟨guides.google app (some profile), ?_⟩
  apply AuthService.steers_registerGoogleUser fun later uid _ => guides.signs later uid
  intro error later _
  cases error with
  | some error => trivial
  | none => exact guides.steers_didComplete

private theorem steers_onTapSignUp {email password username fullName : String}
    {profileImage : Option UIImage} :
    (AuthenticationController.onTapSignUp self email password username fullName
      profileImage).Steers course app := by
  cases profileImage with
  | none => trivial
  | some image =>
    simp only [AuthenticationController.onTapSignUp]
    apply AuthService.steers_registerUser fun later uid _ => guides.signs later uid
    intro error later _
    cases error with
    | some error => trivial
    | none => exact guides.steers_didComplete

private theorem steers_onTapLogout : (FeedController.onTapLogout self).Steers course app := by
  refine ⟨guides.signs app none, ?_⟩
  change (alloc (⟨_⟩ : AuthenticationController) false fun _ => .done).Steers course _
  exact guides.steers_opens (fun _ _ edits => by cases edits) rfl

/-- All code but that which loads comments follows the course. -/
private theorem steers_userAction (coherent : Coherent app) {action : UserAction}
    (apart : AppAction.loadsComments (.user action) = false) : action.perform.Steers course app := by
  cases action with
  | tabsViewDidLoad => exact guides.steers_tabsViewDidLoad
  | tabsDidFinishPicking => exact guides.steers_didFinishPickingMedia
  | feedViewDidLoad => exact guides.steers_feedFetchPosts
  | feedOnTapRefresh => exact guides.steers_feedFetchPosts
  | feedNewCell => exact guides.steers_feedNewCell
  | feedCellForItemAt => exact guides.steers_feedCellForItemAt
  | feedCellShowUserProfile => exact guides.steers_showUserProfile
  | feedCellOnTapLike => exact guides.steers_onTapLike
  | feedCellOnTapComment => exact guides.steers_onTapComment
  | profileViewDidLoad => exact guides.steers_profileViewDidLoad
  | profileViewForHeader => exact steers_modify (guides.alters fun _ _ => rfl)
  | profileDidSelectItemAt => exact guides.steers_profileDidSelectItemAt
  | profileOnTapEditProfile => exact guides.steers_onTapEditProfile
  | editUpdateUserInfo => exact guides.steers_updateUserInfo
  | editHandleDone => exact guides.steers_handleDone coherent
  | editDidFinishPicking => exact steers_modify (guides.alters fun _ _ => rfl)
  | commentViewDidLoad => cases apart
  | commentEditText => exact steers_modify (guides.alters fun _ _ => rfl)
  | commentOnTapPost => exact guides.steers_commentOnTapPost
  | commentDidSelectItemAt self row =>
    apply steers_withObject
    intro page _
    cases page.comments[row]? with
    | none => trivial
    | some comment => exact guides.steers_showProfileFor
  | notificationViewDidLoad => exact guides.steers_fetchNotifications
  | notificationOnRefresh =>
    apply Program.Steers.seq
    · exact steers_modify (guides.alters fun _ _ => rfl)
    · exact fun _ _ => guides.steers_fetchNotifications
  | notificationNewCell => exact guides.steers_notificationNewCell
  | notificationCellForRowAt self row cell =>
    apply steers_withObject
    intro page _
    cases page.notifications[row]? with
    | none => trivial
    | some notification => exact steers_modify (guides.alters fun _ _ => rfl)
  | notificationDidSelectRowAt self row =>
    apply steers_withObject
    intro page _
    cases page.notifications[row]? with
    | none => trivial
    | some notification => exact guides.steers_showProfileFor
  | notificationCellTouchFollow => exact guides.steers_touchFollowButton
  | notificationCellTouchPost => exact guides.steers_touchPostImage
  | searchViewDidLoad => exact guides.steers_searchViewDidLoad
  | searchUpdateResults => exact steers_modify (guides.alters fun _ _ => rfl)
  | searchDidSelectRowAt => exact guides.steers_searchDidSelectRowAt
  | uploadEditCaption => exact steers_modify (guides.alters fun _ _ => rfl)
  | uploadOnTapShare => exact guides.steers_onTapShare

private theorem steers_authAction (action : AuthAction) : action.perform.Steers course app := by
  cases action with
  | loginOnTapLogin => exact guides.steers_onTapLogin
  | loginOnTapGoogle => exact guides.steers_onTapLoginGoogle
  | loginOnTapRegister => exact guides.steers_onTapRegister
  | registrationOnTapSignUp => exact guides.steers_onTapSignUp
  | feedOnTapLogout => exact guides.steers_onTapLogout

theorem steers_perform (coherent : Coherent app) {action : AppAction}
    (apart : action.loadsComments = false) : action.perform.Steers course app := by
  cases action with
  | auth action => exact guides.steers_authAction action
  | user action => exact guides.steers_userAction coherent apart

end Controllers

end Guides

end PageSubjects

end InstagramClone
