import InstagramClone.Model.Device

/-! # The state of one device running the app

Controllers, cells and the variables that callbacks capture live in one heap, in allocation
order, and code refers to them by position: this is what a Swift reference is here. `inTab` says
whether `tabBarController` of the object is the tab controller; replacing the tabs takes every
earlier object out of it.
-/

namespace InstagramClone

open Async

abbrev Ref := ℕ

structure FeedController where
  posts : List Post := []
  post : Option Post := none

/-- A feed cell with the controller that is its delegate. -/
structure FeedCell where
  viewModel : Option Post := none
  delegate : Ref

/-- A profile page with the user its header view was last given. -/
structure ProfileController where
  user : User
  posts : List Post := []
  header : Option User := none

structure EditProfileController where
  user : User
  delegate : Ref
  userInfoChanged : Bool := false
  selectedImage : Option UIImage := none

/-- A comment page with the text of its input view. -/
structure CommentController where
  post : Post
  comments : List Comment := []
  commentText : String := ""

structure NotificationController where
  notifications : List Notification := []

structure NotificationCell where
  viewModel : Option Notification := none
  delegate : Ref

/-- The search page with the state of its search bar. -/
structure SearchController where
  users : List User := []
  filteredUsers : List User := []
  isActive : Bool := false
  searchText : String := ""

structure UploadPostController where
  selectedImage : Option UIImage
  currentUser : Option User
  caption : String := ""

/-- A login or registration page; `delegate` says whether the tab controller is its delegate. -/
structure AuthenticationController where
  delegate : Bool

inductive Object where
  | feed (controller : FeedController)
  | feedCell (cell : FeedCell)
  | profile (controller : ProfileController)
  | editProfile (controller : EditProfileController)
  | comment (controller : CommentController)
  | notification (controller : NotificationController)
  | notificationCell (cell : NotificationCell)
  | search (controller : SearchController)
  | uploadPost (controller : UploadPostController)
  | authentication (controller : AuthenticationController)
  /-- `var posts` captured by `fetchFeedPosts` -/
  | capturedPosts (posts : List Post)
  /-- `var comments` captured by `fetchComments` -/
  | capturedComments (comments : List Comment)

/-- The types of heap objects. -/
class Instance (α : Type) where
  inject : α → Object
  project : Object → Option α
  project_inject : ∀ value, project (inject value) = some value
  inject_project : ∀ {object value}, project object = some value → inject value = object

instance : Instance FeedController where
  inject := .feed
  project | .feed controller => some controller | _ => none
  project_inject _ := rfl
  inject_project := by rintro (_ | _) _ ⟨⟩; rfl

instance : Instance FeedCell where
  inject := .feedCell
  project | .feedCell cell => some cell | _ => none
  project_inject _ := rfl
  inject_project := by rintro (_ | _) _ ⟨⟩; rfl

instance : Instance ProfileController where
  inject := .profile
  project | .profile controller => some controller | _ => none
  project_inject _ := rfl
  inject_project := by rintro (_ | _) _ ⟨⟩; rfl

instance : Instance EditProfileController where
  inject := .editProfile
  project | .editProfile controller => some controller | _ => none
  project_inject _ := rfl
  inject_project := by rintro (_ | _) _ ⟨⟩; rfl

instance : Instance CommentController where
  inject := .comment
  project | .comment controller => some controller | _ => none
  project_inject _ := rfl
  inject_project := by rintro (_ | _) _ ⟨⟩; rfl

instance : Instance NotificationController where
  inject := .notification
  project | .notification controller => some controller | _ => none
  project_inject _ := rfl
  inject_project := by rintro (_ | _) _ ⟨⟩; rfl

instance : Instance NotificationCell where
  inject := .notificationCell
  project | .notificationCell cell => some cell | _ => none
  project_inject _ := rfl
  inject_project := by rintro (_ | _) _ ⟨⟩; rfl

instance : Instance SearchController where
  inject := .search
  project | .search controller => some controller | _ => none
  project_inject _ := rfl
  inject_project := by rintro (_ | _) _ ⟨⟩; rfl

instance : Instance UploadPostController where
  inject := .uploadPost
  project | .uploadPost controller => some controller | _ => none
  project_inject _ := rfl
  inject_project := by rintro (_ | _) _ ⟨⟩; rfl

instance : Instance AuthenticationController where
  inject := .authentication
  project | .authentication controller => some controller | _ => none
  project_inject _ := rfl
  inject_project := by rintro (_ | _) _ ⟨⟩; rfl

instance : Instance (List Post) where
  inject := .capturedPosts
  project | .capturedPosts posts => some posts | _ => none
  project_inject _ := rfl
  inject_project := by rintro (_ | _) _ ⟨⟩; rfl

instance : Instance (List Comment) where
  inject := .capturedComments
  project | .capturedComments comments => some comments | _ => none
  project_inject _ := rfl
  inject_project := by rintro (_ | _) _ ⟨⟩; rfl

structure HeapObject where
  object : Object
  inTab : Bool

/-- Change the value in a heap object of the expected type. -/
def HeapObject.modify {α : Type} [Instance α] (change : α → α) (entry : HeapObject) : HeapObject :=
  match Instance.project entry.object with
  | some value => { entry with object := Instance.inject (change value) }
  | none => entry

private theorem HeapObject.project_modify {α : Type} [Instance α] (change : α → α)
    (entry : HeapObject) :
    Instance.project (entry.modify change).object = (Instance.project entry.object).map change := by
  unfold HeapObject.modify
  split
  · next value found => simp [found, Instance.project_inject]
  · next found => simp [found]

/-- `user` and `viewControllers` are those of the tab controller. -/
structure App where
  currentUser : Option Uid
  user : Option User := none
  viewControllers : List Ref := []
  now : Timestamp := ⟨0, 0⟩
  googleProfile : Option GoogleProfile := none
  objects : List HeapObject := []

instance : Device App where
  currentUser := App.currentUser
  setCurrentUser uid app := { app with currentUser := uid }
  now := App.now
  googleProfile := App.googleProfile

namespace App

variable {α : Type} [Instance α]

/-- The object at a reference, when it has the expected type. -/
def find? (app : App) (α : Type) [Instance α] (ref : Ref) : Option α :=
  app.objects[ref]?.bind fun entry => Instance.project entry.object

def inTab (app : App) (ref : Ref) : Bool := (app.objects[ref]?.map HeapObject.inTab).getD false

/-- Change the object at a reference, when it has the expected type. -/
def modify (ref : Ref) (change : α → α) (app : App) : App :=
  { app with objects := app.objects.modify ref (HeapObject.modify change) }

/-- A new object, in the tab controller or not. -/
def add (object : Object) (inTab : Bool) (app : App) : App :=
  { app with objects := app.objects ++ [⟨object, inTab⟩] }

theorem find?_modify (app : App) (ref : Ref) (change : α → α) :
    (app.modify ref change).find? α ref = (app.find? α ref).map change := by
  simp only [find?, modify, List.getElem?_modify, if_pos]
  cases app.objects[ref]? with
  | none => rfl
  | some entry => exact entry.project_modify change

/-- What a change does to an object is told by the object. -/
theorem modify_congr {app : App} {ref : Ref} {value : α} (found : app.find? α ref = some value)
    {first second : α → α} (same : first value = second value) :
    app.modify ref first = app.modify ref second := by
  obtain ⟨entry, present, projected⟩ := Option.bind_eq_some_iff.mp found
  have entries : app.objects.modify ref (HeapObject.modify first) =
      app.objects.modify ref (HeapObject.modify second) := by
    refine List.ext_getElem? fun index => ?_
    rw [List.getElem?_modify, List.getElem?_modify]
    split_ifs with here
    · subst here
      simp [present, HeapObject.modify, projected, same]
    · rfl
  rw [modify, modify, entries]

theorem modify_modify (app : App) (ref : Ref) (first second : α → α) :
    (app.modify ref first).modify ref second = app.modify ref fun value => second (first value) := by
  have entries : (app.objects.modify ref (HeapObject.modify first)).modify ref
      (HeapObject.modify second) = app.objects.modify ref
        (HeapObject.modify fun value => second (first value)) := by
    refine List.ext_getElem? fun index => ?_
    simp only [List.getElem?_modify]
    cases app.objects[index]? with
    | none => rfl
    | some entry =>
      split_ifs
      · cases projected : (Instance.project entry.object : Option α) with
        | none => simp [HeapObject.modify, projected]
        | some value => simp [HeapObject.modify, projected, Instance.project_inject]
      · rfl
  rw [modify, modify, modify, entries]

/-- An object that is what it should become is left as it is. -/
theorem modify_eq_self {app : App} {ref : Ref} {value : α} (found : app.find? α ref = some value)
    {change : α → α} (same : change value = value) : app.modify ref change = app := by
  rw [modify_congr found (show change value = id value from same)]
  have entries : app.objects.modify ref (HeapObject.modify (id : α → α)) = app.objects := by
    refine List.ext_getElem? fun index => ?_
    rw [List.getElem?_modify]
    split_ifs
    · cases app.objects[index]? with
      | none => rfl
      | some entry =>
        simp only [Option.map_eq_map, Option.map_some, HeapObject.modify, id]
        split
        · next value found => rw [Instance.inject_project found]
        · rfl
    · simp
  rw [modify, entries]

theorem find?_modify_of_ne {β : Type} [Instance β] (app : App) {ref other : Ref}
    (apart : other ≠ ref) (change : α → α) :
    (app.modify ref change).find? β other = app.find? β other := by
  simp [find?, modify, Ne.symm apart]

/-- Changing an object of one type leaves those of another as they are. -/
theorem find?_modify_other {β : Type} [Instance β]
    (apart : ∀ value : α, (Instance.project (Instance.inject value) : Option β) = none)
    (app : App) (ref other : Ref) (change : α → α) :
    (app.modify ref change).find? β other = app.find? β other := by
  simp only [find?, modify, List.getElem?_modify]
  cases app.objects[other]? with
  | none => rfl
  | some entry =>
    simp only [Option.map_eq_map, Option.map_some, Option.bind_some]
    split_ifs
    · unfold HeapObject.modify
      split
      · next value found =>
        rw [← Instance.inject_project found, apart, apart]
      · rfl
    · rfl

omit [Instance α] in
/-- Allocation leaves the objects there are where they are. -/
theorem getElem?_add {app : App} {ref : Ref} {entry : HeapObject}
    (found : app.objects[ref]? = some entry) (object : Object) (inTab : Bool) :
    (app.add object inTab).objects[ref]? = some entry := by
  rw [add, List.getElem?_append_left (List.getElem?_eq_some_iff.mp found).1, found]

theorem find?_add {app : App} {ref : Ref} {value : α} (found : app.find? α ref = some value)
    (object : Object) (inTab : Bool) : (app.add object inTab).find? α ref = some value := by
  obtain ⟨entry, present, projected⟩ := Option.bind_eq_some_iff.mp found
  simp [find?, getElem?_add present, projected]

theorem lt_length_of_find? {app : App} {ref : Ref} {value : α}
    (found : app.find? α ref = some value) : ref < app.objects.length := by
  obtain ⟨entry, present, -⟩ := Option.bind_eq_some_iff.mp found
  exact (List.getElem?_eq_some_iff.mp present).1

/-- A new object stands at the end of the heap. -/
theorem find?_add_new (app : App) (value : α) (inTab : Bool) :
    (app.add (Instance.inject value) inTab).find? α app.objects.length = some value := by
  simp [find?, add, Instance.project_inject]

@[simp] theorem modify_currentUser (app : App) (ref : Ref) (change : α → α) :
    (app.modify ref change).currentUser = app.currentUser := rfl

@[simp] theorem modify_user (app : App) (ref : Ref) (change : α → α) :
    (app.modify ref change).user = app.user := rfl

@[simp] theorem add_currentUser (app : App) (object : Object) (inTab : Bool) :
    (app.add object inTab).currentUser = app.currentUser := rfl

@[simp] theorem add_user (app : App) (object : Object) (inTab : Bool) :
    (app.add object inTab).user = app.user := rfl

/-- Changing an object leaves every object where it is. -/
@[simp] theorem inTab_modify (app : App) (ref other : Ref) (change : α → α) :
    (app.modify ref change).inTab other = app.inTab other := by
  simp only [inTab, modify, List.getElem?_modify]
  cases app.objects[other]? with
  | none => rfl
  | some entry =>
    simp only [Option.map_eq_map, Option.map_some]
    split_ifs
    · unfold HeapObject.modify
      split <;> rfl
    · rfl

omit [Instance α] in
theorem inTab_add {app : App} {ref : Ref} (inside : app.inTab ref = true) (object : Object)
    (inTab : Bool) : (app.add object inTab).inTab ref = true := by
  unfold App.inTab at inside ⊢
  cases found : app.objects[ref]? with
  | none => simp [found] at inside
  | some entry =>
    have bound := (List.getElem?_eq_some_iff.mp found).1
    rw [add, List.getElem?_append_left bound, found]
    simpa [found] using inside

end App

namespace Code

/-- Read the object at a reference; code whose object is gone does nothing. -/
def withObject {α : Type} [Instance α] (ref : Ref) (body : α → Code App) : Code App :=
  .inspect fun app =>
    match app.find? α ref with
    | none => .done
    | some value => body value

/-- Change the object at a reference. -/
def modify {α : Type} [Instance α] (ref : Ref) (change : α → α) : Code App :=
  .update (App.modify ref change) .done

/-- Allocate an object and go on with its reference. -/
def alloc {α : Type} [Instance α] (value : α) (inTab : Bool) (body : Ref → Code App) : Code App :=
  .inspect fun app => .update (App.add (Instance.inject value) inTab) (body app.objects.length)

/-- `navigationController?.pushViewController(controller)`: the new page is where its opener is.
Its `viewDidLoad` runs later, when the page is about to be shown. -/
def push {α : Type} [Instance α] (opener : Ref) (controller : α) : Code App :=
  .inspect fun app => alloc controller (app.inTab opener) fun _ => .done

/-- `guard let tab = tabBarController as? MainTabController else { return }`, then
`guard let user = tab.user else { return }` -/
def withTabUser (ref : Ref) (body : User → Code App) : Code App :=
  .inspect fun app =>
    match app.inTab ref, app.user with
    | true, some user => body user
    | _, _ => .done

end Code

end InstagramClone
