import InstagramClone.Async.Log
import Mathlib.Data.List.Perm.Basic

/-! # A client alone with its requests

The requests of one client are answered in any order and with any answers, until none is left and
the client's state is settled, or until the client traps. Whatever backend there is, and whatever
fails, this is what becomes of the client when nobody touches it meanwhile.
-/

namespace Async

variable {I : Interface} {σ α : Type}

/-- The requests lead from the first state to the last, if the client does not trap; the record lists
them as answered. -/
inductive Settles (succeeded : (request : I.Request) → I.Response request → Bool) :
    List (Call I σ) → Option σ → List (Served I) → Option σ → Prop
  | idle (state : σ) : Settles succeeded [] (some state) [] (some state)
  | trap (calls : List (Call I σ)) : Settles succeeded calls none [] none
  | answer {calls rest : List (Call I σ)} {call : Call I σ} {answer : I.Response call.request}
    {state : σ} {served : List (Served I)} {final : Option σ} :
      calls.Perm (call :: rest) →
      Settles succeeded (rest ++ ((call.callback answer).run state).calls)
        ((call.callback answer).run state).state served final →
      Settles succeeded calls (some state) (⟨call.request, succeeded call.request answer⟩ :: served)
        final

namespace Program

variable {asks : I.Request → Prop} {goal : σ → Prop} {program first last : Program I σ} {state : σ}

/-- Whatever is answered, the program issues only such requests, and none of its code ends the
property. -/
def Preserves (asks : I.Request → Prop) (goal : σ → Prop) : Program I σ → Prop
  | done | trap => True
  | send request callback next => (asks request ∧ ∀ answer, (callback answer).Preserves asks goal) ∧
      next.Preserves asks goal
  | listen _ callback next => (∀ event, (callback event).Preserves asks goal) ∧
      next.Preserves asks goal
  | inspect body => ∀ state, (body state).Preserves asks goal
  | update change next => (∀ state, goal state → goal (change state)) ∧ next.Preserves asks goal

theorem Preserves.seq (left : first.Preserves asks goal) (right : last.Preserves asks goal) :
    (first.seq last).Preserves asks goal := by
  induction first with
  | done => exact right
  | trap => trivial
  | send request callback next _ ih => exact ⟨left.1, ih left.2⟩
  | listen topic callback next _ ih => exact ⟨left.1, ih left.2⟩
  | inspect body ih => exact fun state => ih state (left state)
  | update change next ih => exact ⟨left.1, ih left.2⟩

theorem preserves_forEach {items : List α} {body : α → Program I σ}
    (each : ∀ item ∈ items, (body item).Preserves asks goal) :
    (forEach items body).Preserves asks goal := by
  induction items with
  | nil => trivial
  | cons item rest ih =>
    exact (each item (List.mem_cons_self ..)).seq
      (ih fun other member => each other (List.mem_cons_of_mem _ member))

/-- Running such a program keeps the property, and so will its callbacks. -/
theorem Preserves.run (preserves : program.Preserves asks goal) (valid : goal state) :
    (∀ next ∈ (program.run state).state, goal next) ∧
      ∀ call ∈ (program.run state).calls,
        asks call.request ∧ ∀ answer, (call.callback answer).Preserves asks goal := by
  induction program generalizing state with
  | done => exact ⟨by simpa using valid, by simp⟩
  | trap => exact ⟨by simp, by simp⟩
  | send request callback next _ ih =>
    have rest := ih preserves.2 valid
    refine ⟨rest.1, fun call member => ?_⟩
    rcases List.mem_cons.mp member with rfl | member
    · exact preserves.1
    · exact rest.2 call member
  | listen topic callback next _ ih => exact ih preserves.2 valid
  | inspect body ih => exact ih state (preserves state) valid
  | update change next ih => exact ih preserves.2 (preserves.1 state valid)

end Program

namespace Settles

variable {succeeded : (request : I.Request) → I.Response request → Bool}
  {calls others : List (Call I σ)} {call : Call I σ} {state : σ} {now final : Option σ}
  {served : List (Served I)}

theorem perm (settles : Settles succeeded calls now served final) (same : others.Perm calls) :
    Settles succeeded others now served final := by
  cases settles with
  | idle state =>
    obtain rfl := same.eq_nil
    exact .idle state
  | trap => exact .trap others
  | answer pick settled => exact .answer (same.trans pick) settled

theorem of_nil (settles : Settles succeeded [] (some state) served final) :
    served = [] ∧ final = some state := by
  cases settles with
  | idle => exact ⟨rfl, rfl⟩
  | answer pick settled => simpa using pick.length_eq

theorem of_none (settles : Settles succeeded calls none served final) :
    served = [] ∧ final = none := by
  cases settles with
  | trap => exact ⟨rfl, rfl⟩

theorem one (answer : I.Response call.request)
    (rest : Settles succeeded ((call.callback answer).run state).calls
      ((call.callback answer).run state).state served final) :
    Settles succeeded [call] (some state)
      (⟨call.request, succeeded call.request answer⟩ :: served) final :=
  .answer (.refl _) rest

/-- The only request in flight is answered next. -/
theorem of_single (settles : Settles succeeded [call] (some state) served final) :
    ∃ answer later, Settles succeeded ((call.callback answer).run state).calls
        ((call.callback answer).run state).state later final ∧
      served = ⟨call.request, succeeded call.request answer⟩ :: later := by
  cases settles with
  | @answer _ rest picked answer _ later _ pick settled =>
    obtain ⟨rfl, rfl⟩ := List.cons.inj (List.singleton_perm.mp pick)
    exact ⟨answer, later, settled, rfl⟩

/-- What all callbacks in flight preserve holds in the end, and only such requests are served. -/
theorem preserves {asks : I.Request → Prop} {goal : σ → Prop}
    (settles : Settles succeeded calls now served final)
    (kept : ∀ call ∈ calls, asks call.request ∧ ∀ answer, (call.callback answer).Preserves asks goal)
    (valid : ∀ state ∈ now, goal state) :
    (∀ state ∈ final, goal state) ∧ ∀ entry ∈ served, asks entry.request := by
  induction settles with
  | idle => exact ⟨valid, by simp⟩
  | trap => exact ⟨valid, by simp⟩
  | @answer calls rest call answer state later _ pick settled ih =>
    have mine := kept call (pick.mem_iff.mpr (List.mem_cons_self ..))
    have effect := (mine.2 answer).run (valid state rfl)
    have tail := ih (fun other member => ?_) effect.1
    · refine ⟨tail.1, fun entry member => ?_⟩
      rcases List.mem_cons.mp member with rfl | member
      · exact mine.1
      · exact tail.2 entry member
    · rcases List.mem_append.mp member with member | member
      · exact kept other (pick.mem_iff.mpr (List.mem_cons_of_mem _ member))
      · exact effect.2 other member

/-- Code that preserves the property, run to the end. -/
theorem preserves_run {asks : I.Request → Prop} {goal : σ → Prop} {program : Program I σ}
    (preserves : program.Preserves asks goal) (valid : goal state)
    (settles : Settles succeeded (program.run state).calls (program.run state).state served final) :
    (∀ state ∈ final, goal state) ∧ ∀ entry ∈ served, asks entry.request :=
  have effect := preserves.run valid
  settles.preserves effect.2 effect.1

/-- A request whose answer nobody reads changes nothing but the record. -/
theorem drop_post {request : I.Request} (settles : Settles succeeded others now served final)
    (same : others.Perm (⟨request, fun _ => .done⟩ :: calls)) :
    ∃ rest, Settles succeeded calls now rest final ∧ rest ⊆ served ∧
      ∀ entry ∈ served, entry.request = request ∨ entry ∈ rest := by
  induction settles generalizing calls with
  | idle => simpa using same.length_eq
  | trap => exact ⟨[], .trap calls, List.Subset.refl _, by simp⟩
  | @answer all rest call answer state later final pick settled ih =>
    have both := same.symm.trans pick
    rcases List.mem_cons.mp (both.mem_iff.mp (List.mem_cons_self ..)) with rfl | member
    · refine ⟨later, ?_, List.subset_cons_self .., fun entry member => ?_⟩
      · rw [Program.run_done, List.append_nil] at settled
        exact settled.perm both.cons_inv
      · rcases List.mem_cons.mp member with rfl | member
        · exact .inl rfl
        · exact .inr member
    · obtain ⟨before, after, rfl⟩ := List.append_of_mem member
      have apart : calls.Perm (call :: (before ++ after)) := by
        refine (both.trans ?_).cons_inv
        exact (List.perm_middle.cons call).trans (.swap ..)
      obtain ⟨last, tail, inside, split⟩ := ih
        ((List.perm_middle.append_right _).trans (.of_eq (List.cons_append ..)))
      refine ⟨_ :: last, .answer apart tail, List.cons_subset_cons _ inside, ?_⟩
      intro entry member
      rcases List.mem_cons.mp member with rfl | member
      · exact .inr (List.mem_cons_self ..)
      · exact (split entry member).imp_right (List.mem_cons_of_mem _)

/-- Requests whose answers nobody reads leave the client as it is. -/
theorem of_posts {items : List α} {request : α → I.Request}
    (settles : Settles succeeded (items.map fun item => ⟨request item, fun _ => .done⟩) (some state)
      served final) :
    final = some state ∧ ∀ entry ∈ served, ∃ item ∈ items, entry.request = request item := by
  induction items generalizing served with
  | nil =>
    obtain ⟨rfl, rfl⟩ := settles.of_nil
    exact ⟨rfl, by simp⟩
  | cons item rest ih =>
    obtain ⟨later, settled, -, split⟩ := settles.drop_post (.refl _)
    obtain ⟨same, asked⟩ := ih settled
    refine ⟨same, fun entry member => ?_⟩
    rcases split entry member with same | member
    · exact ⟨item, List.mem_cons_self .., same⟩
    · obtain ⟨other, listed, same⟩ := asked entry member
      exact ⟨other, List.mem_cons_of_mem _ listed, same⟩

end Settles

end Async
