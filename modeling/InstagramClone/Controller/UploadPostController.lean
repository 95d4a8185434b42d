import InstagramClone.Controller.MainTabController
import InstagramClone.Model.TextView

/-! # The caption of UploadPostController

The page reads the caption from its text view when Share is tapped. Characters are of any kind, and
`string` is the caption that they spell.
-/

namespace InstagramClone

open Async

/-- The page with its text view and the label below it. -/
structure UploadPostView (α : Type) where
  captionTextView : TextView α := {}
  characterCountLabel : String := "0/100"
  selectedImage : Option UIImage
  currentUser : Option User

namespace UploadPostView

variable {α : Type}

def checkMaxLength (textView : TextView α) : TextView α :=
  if textView.count > 100 then textView.deleteBackward else textView

/-- `UITextViewDelegate.textViewDidChange` -/
def textViewDidChange (self : UploadPostView α) : UploadPostView α :=
  let textView := checkMaxLength self.captionTextView
  { self with
    captionTextView := textView
    characterCountLabel := toString textView.count ++ "/100" }

/-- An edit of the caption, which the text view then reports. -/
def edit (start stop : ℕ) (insertion : List α) (self : UploadPostView α) : UploadPostView α :=
  textViewDidChange
    { self with captionTextView := self.captionTextView.replace start stop insertion }

/-- What `onTapShare` passes to `postAnImage`. -/
def onTapShare (self : UploadPostView α) : Option (List α × UIImage × User) :=
  self.selectedImage.bind fun image => self.currentUser.map fun user =>
    (self.captionTextView.text, image, user)

/-- The page as the rest of the app sees it. -/
def page (string : List α → String) (self : UploadPostView α) : UploadPostController :=
  ⟨self.selectedImage, self.currentUser, string self.captionTextView.text⟩

/-- A tap on Share calls `postAnImage` with just these. -/
theorem run_onTapShare {string : List α → String} {self : UploadPostView α} {app : App} {ref : Ref}
    (shown : app.find? UploadPostController ref = some (self.page string)) :
    (UploadPostController.onTapShare ref).run app =
      match self.onTapShare with
      | none => ⟨some app, [], []⟩
      | some (caption, image, user) => (PostService.postAnImage (string caption) image user fun
          | some _ => .done
          | none => MainTabController.didFinishUploadPost).run app := by
  simp only [UploadPostController.onTapShare, Code.withObject, Program.run_inspect, shown, page,
    onTapShare]
  cases self.selectedImage with
  | none => rfl
  | some image => cases self.currentUser <;> rfl

end UploadPostView

end InstagramClone
