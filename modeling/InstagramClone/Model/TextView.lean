import Mathlib.Data.List.TakeDrop

/-! # A text view around its cursor

The text is a list of characters of some kind, split where the cursor stands. An edit puts new
characters in place of a selection, which may be empty, and leaves the cursor behind them. The
lengths of texts that are put together add up: characters are assumed not to merge where two texts
meet, as a letter and a combining mark would.
-/

namespace InstagramClone

/-- `UITextView`: the characters before and after the cursor. -/
structure TextView (α : Type) where
  before : List α := []
  after : List α := []
deriving DecidableEq, Repr

namespace TextView

variable {α : Type}

def text (view : TextView α) : List α := view.before ++ view.after

/-- `text.count` -/
def count (view : TextView α) : ℕ := view.text.length

/-- The user types or pastes in place of the characters from `start` to `stop`, if any. -/
def replace (start stop : ℕ) (insertion : List α) (view : TextView α) : TextView α :=
  ⟨view.text.take start ++ insertion, view.text.drop (max start stop)⟩

/-- Remove the character before the cursor, if there is one. -/
def deleteBackward (view : TextView α) : TextView α := ⟨view.before.dropLast, view.after⟩

variable {start stop : ℕ} {insertion : List α} {view : TextView α}

theorem text_replace : (view.replace start stop insertion).text =
    view.text.take start ++ insertion ++ view.text.drop (max start stop) := rfl

/-- An edit that removes characters at most makes the text no longer. -/
theorem count_replace_nil : (view.replace start stop []).count ≤ view.count := by
  simp only [count, text_replace, List.length_append, List.length_take, List.length_drop,
    List.length_nil]
  omega

/-- After an insertion the character before the cursor is the last one inserted. -/
theorem text_deleteBackward_replace (inserts : insertion ≠ []) :
    (view.replace start stop insertion).deleteBackward.text =
      view.text.take start ++ insertion.dropLast ++ view.text.drop (max start stop) := by
  rw [deleteBackward, replace, text, List.dropLast_append_of_ne_nil inserts]

theorem count_deleteBackward_replace (inserts : insertion ≠ []) :
    (view.replace start stop insertion).deleteBackward.count + 1 =
      (view.replace start stop insertion).count := by
  have positive : 0 < insertion.length := List.length_pos_iff.mpr inserts
  rw [count, count, text_deleteBackward_replace inserts, text_replace]
  simp only [List.length_append, List.length_dropLast]
  omega

end TextView

end InstagramClone
