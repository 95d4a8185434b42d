import InstagramClone.Async.Run
import InstagramClone.Controller.UploadPostController

/-! # The limit on captions

After each edit the caption loses at most one character. It stays within the limit as long as no
edit takes it past the limit by more than that.
-/

namespace InstagramClone

open Async

namespace CaptionLimit

/-- The user edits the caption, or taps Share. -/
inductive CaptionEvent (α : Type) where
  | edit (start stop : ℕ) (insertion : List α)
  | share

variable {α : Type} {start stop : ℕ} {insertion : List α} {view : TextView α}

def step (page : UploadPostView α) : CaptionEvent α → UploadPostView α
  | .edit start stop insertion => page.edit start stop insertion
  | .share => page

/-- An edit is to leave at most 100 characters, and the text as it was with a beginning of the
insertion put in. A caption that is shared has at most 100 characters. -/
def Respected (page : UploadPostView α) : CaptionEvent α → Prop
  | .edit start stop insertion =>
    let caption := (page.edit start stop insertion).captionTextView
    caption.count ≤ 100 ∧ ∃ kept, kept <+: insertion ∧
      caption.text = page.captionTextView.text.take start ++ kept ++
        page.captionTextView.text.drop (max start stop)
  | .share => ∀ shared ∈ page.onTapShare, shared.1.length ≤ 100

/-- The edit takes the caption past the limit by at most one character. -/
def Fits (page : UploadPostView α) : CaptionEvent α → Prop
  | .edit start stop insertion => (page.captionTextView.replace start stop insertion).count ≤ 101
  | .share => True

instance (page : UploadPostView α) (event : CaptionEvent α) : Decidable (Fits page event) :=
  match event with
  | .edit start stop insertion =>
    inferInstanceAs (Decidable ((page.captionTextView.replace start stop insertion).count ≤ 101))
  | .share => inferInstanceAs (Decidable True)

/-- The check leaves at most 100 characters exactly if there were at most 101. -/
private theorem count_checkMaxLength (within : view.count ≤ 100) :
    (UploadPostView.checkMaxLength (view.replace start stop insertion)).count ≤ 100 ↔
      (view.replace start stop insertion).count ≤ 101 := by
  rw [UploadPostView.checkMaxLength]
  split_ifs with long
  · have inserts : insertion ≠ [] := by
      rintro rfl
      have shorter : (view.replace start stop []).count ≤ view.count := TextView.count_replace_nil
      omega
    have shorter : (view.replace start stop insertion).deleteBackward.count + 1 =
        (view.replace start stop insertion).count :=
      TextView.count_deleteBackward_replace inserts
    omega
  · omega

/-- The check removes a character of the insertion, if any. -/
private theorem text_checkMaxLength (within : view.count ≤ 100) : ∃ kept, kept <+: insertion ∧
    (UploadPostView.checkMaxLength (view.replace start stop insertion)).text =
      view.text.take start ++ kept ++ view.text.drop (max start stop) := by
  rw [UploadPostView.checkMaxLength]
  split_ifs with long
  · have inserts : insertion ≠ [] := by
      rintro rfl
      have shorter : (view.replace start stop []).count ≤ view.count := TextView.count_replace_nil
      omega
    exact ⟨_, List.dropLast_prefix _, TextView.text_deleteBackward_replace inserts⟩
  · exact ⟨_, List.prefix_refl _, TextView.text_replace⟩

private theorem respected_iff {page : UploadPostView α} {event : CaptionEvent α}
    (within : page.captionTextView.count ≤ 100) :
    Respected page event ↔ Fits page event := by
  cases event with
  | edit start stop insertion =>
    constructor
    · exact fun respected => (count_checkMaxLength within).mp respected.1
    · exact fun fits => ⟨(count_checkMaxLength within).mpr fits, text_checkMaxLength within⟩
  | share =>
    refine iff_of_true ?_ trivial
    intro shared passed
    obtain ⟨image, -, passed⟩ := Option.bind_eq_some_iff.mp passed
    obtain ⟨user, -, rfl⟩ := Option.map_eq_some_iff.mp passed
    exact within

private theorem within_step {page : UploadPostView α} {event : CaptionEvent α}
    (within : page.captionTextView.count ≤ 100) (fits : Fits page event) :
    (step page event).captionTextView.count ≤ 100 := by
  cases event with
  | edit start stop insertion => exact (count_checkMaxLength within).mpr fits
  | share => exact within

/-- From an empty caption, all edits and all shared captions respect the limit exactly if no edit
takes the caption past it by more than one character. -/
theorem caption_limit_iff {image : Option UIImage} {user : Option User}
    {events : List (CaptionEvent α)} {final : UploadPostView α} :
    Run (fun page event next => step page event = next ∧ Respected page event)
        { selectedImage := image, currentUser := user } events final ↔
      Run (fun page event next => step page event = next ∧ Fits page event)
        { selectedImage := image, currentUser := user } events final := by
  refine Run.congr (fun page => page.captionTextView.count ≤ 100) (Nat.zero_le 100) ?_ ?_
  · exact fun _ within => respected_iff within
  · rintro page event _ rfl fits within
    exact within_step within fits

/-- A text of 102 characters is pasted into an empty caption, and 101 of them are left. -/
theorem caption_limit_broken :
    ¬ ∀ (image : Option UIImage) (user : Option User) (events : List (CaptionEvent Char))
      (final : UploadPostView Char),
      Run (fun page event next => step page event = next)
        { selectedImage := image, currentUser := user } events final →
      Run (fun page event next => step page event = next ∧ Respected page event)
        { selectedImage := image, currentUser := user } events final := by
  intro claim
  have pasted := claim none none [.edit 0 0 (.replicate 102 'a')] _ (.single rfl)
  cases pasted with
  | cons taken rest =>
    have long : ¬ (UploadPostView.edit 0 0 (.replicate 102 'a') ⟨{}, "0/100", none, none⟩ :
        UploadPostView Char).captionTextView.count ≤ 100 := by
      decide +kernel
    exact long taken.2.1

end CaptionLimit

end InstagramClone
