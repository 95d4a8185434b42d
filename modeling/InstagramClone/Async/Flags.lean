import Mathlib.Data.List.Basic
import Mathlib.Data.List.Nodup

/-! # Flags that late answers set

Items of a list carry a key and a flag, which is false until an answer for the key sets it on the
first item that has the key. While every flag that is not yet right is false and waits for an
answer, the flags are right once no answer is waited for.
-/

namespace Async

/-- A flag of the items, apart from the key that answers find them by. -/
structure Flag (α K : Type*) where
  key : α → K
  get : α → Bool
  set : Bool → α → α
  key_set : ∀ flag item, key (set flag item) = key item
  get_set : ∀ flag item, get (set flag item) = flag
  set_set : ∀ first second item, set first (set second item) = set first item

namespace Flag

variable {α K : Type*} {flag : Flag α K} {items : List α} {truth : α → Bool} {awaited : K → Prop}

/-- The item without its flag. -/
def clear (flag : Flag α K) (item : α) : α := flag.set false item

/-- A flag that is not right is false, and an answer for the item is on its way. -/
def Awaits (flag : Flag α K) (truth : α → Bool) (awaited : K → Prop) (items : List α) : Prop :=
  ∀ item ∈ items, flag.get item ≠ truth item → flag.get item = false ∧ awaited (flag.key item)

/-- A flag that is set is right. -/
theorem Awaits.true_of_get (awaits : flag.Awaits truth awaited items) {item : α}
    (member : item ∈ items) (marked : flag.get item = true) : truth item = true := by
  by_contra wrong
  have unset := (awaits item member (by rw [marked]; exact fun same => wrong same.symm)).1
  rw [marked] at unset
  cases unset

/-- With no answer on its way all flags are right. -/
theorem Awaits.settled (awaits : flag.Awaits truth awaited items) (none : ∀ key, ¬ awaited key)
    {item : α} (member : item ∈ items) : flag.get item = truth item := by
  by_contra wrong
  exact none _ (awaits item member wrong).2

theorem Awaits.mono {later : K → Prop} (awaits : flag.Awaits truth awaited items)
    (still : ∀ key, awaited key → later key) : flag.Awaits truth later items :=
  fun item member wrong => ⟨(awaits item member wrong).1, still _ (awaits item member wrong).2⟩

/-- Cleared items wait for the answers about those whose flag is to be set. -/
theorem awaits_of_clear (clear : ∀ item ∈ items, flag.get item = false)
    (asked : ∀ item ∈ items, truth item = true → awaited (flag.key item)) :
    flag.Awaits truth awaited items := by
  intro item member wrong
  refine ⟨clear item member, asked item member ?_⟩
  rw [clear item member] at wrong
  cases right : truth item with
  | true => rfl
  | false => exact absurd right.symm wrong

section Assign

variable [DecidableEq K] {key : K} {value : Bool}

/-- Set the flag of the first item with this key, if there is one. -/
def assign (flag : Flag α K) (key : K) (value : Bool) (items : List α) : List α :=
  items.modify (items.findIdx fun item => flag.key item = key) (flag.set value)

@[simp] theorem assign_nil : flag.assign key value [] = [] := rfl

private theorem assign_cons (item : α) : flag.assign key value (item :: items) =
    if flag.key item = key then flag.set value item :: items
    else item :: flag.assign key value items := by
  rw [assign, List.findIdx_cons]
  by_cases here : flag.key item = key
  · simp [here]
  · simp [here, assign]

/-- A key that no item has changes nothing. -/
theorem assign_absent (absent : key ∉ items.map flag.key) : flag.assign key value items = items := by
  induction items with
  | nil => rfl
  | cons item rest ih =>
    rw [List.map_cons, List.mem_cons, not_or] at absent
    rw [assign_cons, if_neg (Ne.symm absent.1), ih absent.2]

/-- Where keys are distinct, the flag is set on the one item that has the key. -/
private theorem assign_eq_map (distinct : (items.map flag.key).Nodup) : flag.assign key value items =
    items.map fun item => if flag.key item = key then flag.set value item else item := by
  induction items with
  | nil => rfl
  | cons item rest ih =>
    rw [List.map_cons, List.nodup_cons] at distinct
    rw [assign_cons, List.map_cons]
    split_ifs with here
    · have others : rest.map (fun item => if flag.key item = key then flag.set value item else item) =
          rest := by
        conv_rhs => rw [← List.map_id rest]
        refine List.map_congr_left fun other member => if_neg fun same => ?_
        exact distinct.1 (List.mem_map.mpr ⟨other, member, same.trans here.symm⟩)
      rw [others]
    · rw [ih distinct.2]

/-- An answer changes flags only. -/
theorem map_clear_assign :
    (flag.assign key value items).map flag.clear = items.map flag.clear := by
  induction items with
  | nil => rfl
  | cons item rest ih =>
    rw [assign_cons]
    split_ifs
    · simp [clear, flag.set_set]
    · simp [ih]

/-- A right answer need not be waited for any more. -/
theorem Awaits.assign (awaits : flag.Awaits truth awaited items)
    (distinct : (items.map flag.key).Nodup) {later : K → Prop}
    (kept : ∀ value item, truth (flag.set value item) = truth item)
    (right : ∀ item ∈ items, flag.key item = key → truth item = value)
    (still : ∀ other, other ≠ key → awaited other → later other) :
    flag.Awaits truth later (flag.assign key value items) := by
  rw [assign_eq_map distinct]
  intro item member wrong
  obtain ⟨before, among, rfl⟩ := List.mem_map.mp member
  by_cases here : flag.key before = key
  · rw [if_pos here, flag.get_set, kept, right before among here] at wrong
    exact absurd rfl wrong
  · rw [if_neg here] at wrong ⊢
    exact ⟨(awaits before among wrong).1, still _ here (awaits before among wrong).2⟩

end Assign

end Flag

end Async
