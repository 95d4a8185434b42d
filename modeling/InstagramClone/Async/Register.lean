import Mathlib.Data.List.Basic

/-! # Pending writes to one register

A register with writes on their way settles to the last of them. Writes applied in their order
never change what it settles to; nor do writes applied in any order when all carry one value.
-/

namespace Async

variable {α : Type*}

/-- The value of the register once all the pending writes have been applied in order. -/
def settled (current : α) (pending : List α) : α := pending.foldl (fun _ value => value) current

@[simp] theorem settled_nil (current : α) : settled current [] = current := rfl

/-- Applying the oldest write leaves the settled value as it is. -/
@[simp] theorem settled_cons (current value : α) (pending : List α) :
    settled current (value :: pending) = settled value pending := rfl

theorem settled_append (current : α) (first second : List α) :
    settled current (first ++ second) = settled (settled current first) second :=
  List.foldl_append

@[simp] theorem settled_append_singleton (current value : α) (pending : List α) :
    settled current (pending ++ [value]) = value := by
  simp [settled_append]

/-- When every pending write carries the value the register already has, it keeps it. -/
private theorem settled_of_forall {current : α} {pending : List α}
    (uniform : ∀ value ∈ pending, value = current) : settled current pending = current := by
  induction pending with
  | nil => rfl
  | cons value rest ih =>
    obtain rfl := uniform value (List.mem_cons_self ..)
    exact ih fun other member => uniform other (List.mem_cons_of_mem _ member)

/-- When every pending write carries one value, and there is one, the register settles to it. -/
theorem settled_of_mem {current value : α} {pending : List α} (present : value ∈ pending)
    (uniform : ∀ other ∈ pending, other = value) : settled current pending = value := by
  cases pending with
  | nil => cases present
  | cons head rest =>
    obtain rfl := uniform head (List.mem_cons_self ..)
    exact settled_of_forall fun other member => uniform other (List.mem_cons_of_mem _ member)

/-- Applying a pending write leaves the settled value as it is, when it is the oldest or when all
the writes carry that value. -/
theorem settled_apply {current value target : α} {before after : List α}
    (order : before = [] ∨ ∀ other ∈ before ++ value :: after, other = target)
    (settles : settled current (before ++ value :: after) = target) :
    settled value (before ++ after) = target := by
  rcases order with rfl | uniform
  · exact settles
  · obtain rfl := uniform value (by simp)
    refine settled_of_forall fun other member => uniform other ?_
    simp only [List.mem_append, List.mem_cons] at member ⊢
    tauto

/-- Moving a write to the end of those before it leaves the settled value as it is, when it is the
oldest of the rest or when all the writes carry that value. -/
theorem settled_postpone {current value target : α} {front before after : List α}
    (order : before = [] ∨ ∀ other ∈ front ++ (before ++ value :: after), other = target)
    (settles : settled current (front ++ (before ++ value :: after)) = target) :
    settled current (front ++ value :: (before ++ after)) = target := by
  rcases order with rfl | uniform
  · exact settles
  · obtain rfl := uniform value (by simp)
    refine settled_of_mem (by simp) fun other member => uniform other ?_
    simp only [List.mem_append, List.mem_cons] at member ⊢
    tauto

end Async
