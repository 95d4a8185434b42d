import Mathlib.Algebra.GroupWithZero.Nat
import InstagramClone.Async.Run
import InstagramClone.Async.Settlement

/-! # What actions may cost

Requests have costs, and whatever is answered, the requests that come of a program cost no more than
its budget. When serving a request makes the store grow by at most its cost, the store never grows by
more than the budgets of the actions taken, however their requests interleave and whichever fail.
-/

namespace Async

variable {I : Interface} {B : Backend I} {σ τ κ α Action : Type} {cost : I.Request → ℕ}

namespace Program

/-- Whatever is answered, the requests that come of the program cost so much at most, and listeners
cost nothing. -/
def Spends (cost : I.Request → ℕ) : Program I σ → ℕ → Prop
  | done, _ | trap, _ => True
  | send request callback next, budget => ∃ later rest,
      (∀ answer, (callback answer).Spends cost later) ∧ next.Spends cost rest ∧
      cost request + later + rest ≤ budget
  | listen _ callback next, budget =>
      (∀ event, (callback event).Spends cost 0) ∧ next.Spends cost budget
  | inspect body, budget => ∀ state, (body state).Spends cost budget
  | update _ next, budget => next.Spends cost budget

variable {program first last : Program I σ} {budget more : ℕ}

theorem Spends.mono (spends : program.Spends cost budget) (enough : budget ≤ more) :
    program.Spends cost more := by
  induction program generalizing budget more with
  | done => trivial
  | trap => trivial
  | send request callback next _ _ =>
    obtain ⟨later, rest, callbacks, following, fits⟩ := spends
    exact ⟨later, rest, callbacks, following, Nat.le_trans fits enough⟩
  | listen topic callback next _ ih => exact ⟨spends.1, ih spends.2 enough⟩
  | inspect body ih => exact fun state => ih state (spends state) enough
  | update change next ih => exact ih spends enough

theorem Spends.seq (left : first.Spends cost budget) (right : last.Spends cost more) :
    (first.seq last).Spends cost (budget + more) := by
  induction first generalizing budget with
  | done => exact right.mono (Nat.le_add_left more budget)
  | trap => trivial
  | send request callback next _ ih =>
    obtain ⟨later, rest, callbacks, following, fits⟩ := left
    exact ⟨later, rest + more, callbacks, ih following, by omega⟩
  | listen topic callback next _ ih => exact ⟨left.1, ih left.2⟩
  | inspect body ih => exact fun state => ih state (left state)
  | update change next ih => exact ih left

/-- Code that only issues requests that cost nothing. -/
theorem Preserves.spends {asks : I.Request → Prop} {goal : σ → Prop}
    (preserves : program.Preserves asks goal) (free : ∀ request, asks request → cost request = 0) :
    program.Spends cost 0 := by
  induction program with
  | done => trivial
  | trap => trivial
  | send request callback next callbacks ih =>
    refine ⟨0, 0, fun answer => callbacks answer (preserves.1.2 answer), ih preserves.2, ?_⟩
    exact Nat.le_of_eq (free request preserves.1.1)
  | listen topic callback next callbacks ih =>
    exact ⟨fun event => callbacks event (preserves.1 event), ih preserves.2⟩
  | inspect body ih => exact fun state => ih state (preserves state)
  | update change next ih => exact ih preserves.2

end Program

/-- So much the request and what comes of its callback cost at most. -/
def Call.Spends (cost : I.Request → ℕ) (call : Call I σ) (budget : ℕ) : Prop :=
  ∃ later, (∀ answer, (call.callback answer).Spends cost later) ∧ cost call.request + later ≤ budget

/-- So much a request in flight is still to cost at most; one that is answered has been paid. -/
def Pending.Spends (cost : I.Request → ℕ) (pending : Pending I σ τ) (budget : ℕ) : Prop :=
  match pending.answer with
  | none => pending.call.Spends cost budget
  | some answer => (pending.call.callback answer).Spends cost budget

/-- So much the requests are still to cost at most. -/
def Costs (cost : I.Request → ℕ) : List (Pending I σ τ) → ℕ → Prop
  | [], _ => True
  | pending :: rest, budget => ∃ mine others,
      pending.Spends cost mine ∧ Costs cost rest others ∧ mine + others ≤ budget

section Costs

variable {first second before after : List (Pending I σ τ)} {pending : Pending I σ τ}
  {budget more : ℕ} {origin : τ}

private theorem Costs.mono (costs : Costs cost first budget) (enough : budget ≤ more) :
    Costs cost first more := by
  cases first with
  | nil => trivial
  | cons pending rest =>
    obtain ⟨mine, others, spends, costs, fits⟩ := costs
    exact ⟨mine, others, spends, costs, Nat.le_trans fits enough⟩

private theorem costs_append : Costs cost (first ++ second) budget ↔
    ∃ left right, Costs cost first left ∧ Costs cost second right ∧ left + right ≤ budget := by
  induction first generalizing budget with
  | nil =>
    constructor
    · exact fun costs => ⟨0, budget, trivial, costs, by omega⟩
    · rintro ⟨left, right, -, costs, fits⟩
      exact costs.mono (Nat.le_trans (Nat.le_add_left right left) fits)
  | cons pending rest ih =>
    constructor
    · rintro ⟨mine, others, spends, costs, fits⟩
      obtain ⟨left, right, one, other, inside⟩ := ih.mp costs
      exact ⟨mine + left, right, ⟨mine, left, spends, one, by omega⟩, other, by omega⟩
    · rintro ⟨left, right, ⟨mine, others, spends, costs, inside⟩, other, fits⟩
      exact ⟨mine, others + right, spends, ih.mpr ⟨others, right, costs, other, by omega⟩, by omega⟩

/-- One request in flight, beside the others. -/
private theorem costs_split : Costs cost (before ++ pending :: after) budget ↔
    ∃ mine others, pending.Spends cost mine ∧ Costs cost (before ++ after) others ∧
      mine + others ≤ budget := by
  constructor
  · intro costs
    obtain ⟨left, right, one, ⟨mine, others, spends, other, inside⟩, fits⟩ := costs_append.mp costs
    exact ⟨mine, left + others, spends, costs_append.mpr ⟨left, others, one, other, by omega⟩,
      by omega⟩
  · rintro ⟨mine, others, spends, costs, fits⟩
    obtain ⟨left, right, one, other, inside⟩ := costs_append.mp costs
    exact costs_append.mpr ⟨left, mine + right, one, ⟨mine, right, spends, other, by omega⟩, by omega⟩

/-- What a program issues costs its budget at most. -/
theorem Program.Spends.run {program : Program I σ} (spends : program.Spends cost budget)
    (state : σ) :
    Costs cost ((program.run state).calls.map fun call => (⟨origin, call, none⟩ : Pending I σ τ))
        budget ∧
      ∀ subscription ∈ (program.run state).subscriptions,
        ∀ event, (subscription.callback event).Spends cost 0 := by
  induction program generalizing budget state with
  | done => exact ⟨trivial, by simp⟩
  | trap => exact ⟨trivial, by simp⟩
  | send request callback next _ ih =>
    obtain ⟨later, rest, callbacks, following, fits⟩ := spends
    obtain ⟨costs, quiet⟩ := ih following state
    exact ⟨⟨cost request + later, rest, ⟨later, callbacks, Nat.le_refl _⟩, costs, fits⟩, quiet⟩
  | listen topic callback next _ ih =>
    obtain ⟨costs, quiet⟩ := ih spends.2 state
    exact ⟨costs, List.forall_mem_cons.mpr ⟨spends.1, quiet⟩⟩
  | inspect body ih => exact ih state (spends state) state
  | update change next ih => exact ih spends (change state)

end Costs

namespace Network

variable {host : τ → κ} {origin : τ} {net next : Network B σ τ κ} {program : Program I σ}
  {budget more : ℕ}

/-- All that is in flight is still to cost so much at most, and listeners cost nothing. -/
structure Budgeted (cost : I.Request → ℕ) (net : Network B σ τ κ) (budget : ℕ) : Prop where
  flight : Costs cost net.flight budget
  quiet : ∀ listener ∈ net.listeners, ∀ event, (listener.subscription.callback event).Spends cost 0

theorem budgeted_of_idle (idle : net.flight = []) (quiet : net.listeners = []) : net.Budgeted cost 0 :=
  ⟨idle ▸ trivial, fun listener member => by simp [quiet] at member⟩

/-- The requests that are answered come off the budget. -/
theorem Budgeted.serve {index : ℕ} {choice : B.Choice} (budgeted : net.Budgeted cost budget)
    (served : net.serve? index choice = some next) :
    ∃ request answer rest, B.serve choice net.store request = some (next.store, answer) ∧
      next.Budgeted cost rest ∧ cost request + rest ≤ budget := by
  obtain ⟨before, after, origin, call, store, answer, split, -, resolved, rfl⟩ := serve?_cases served
  obtain ⟨mine, others, ⟨later, callbacks, inside⟩, costs, fits⟩ := costs_split.mp (split ▸ budgeted.flight)
  change cost call.request + later ≤ mine at inside
  refine ⟨call.request, answer, later + others, resolved, ⟨costs_split.mpr ?_, budgeted.quiet⟩, by omega⟩
  exact ⟨later, others, callbacks answer, costs, Nat.le_refl _⟩

variable [DecidableEq κ]

/-- An action adds its budget. -/
theorem Budgeted.launch (budgeted : net.Budgeted cost budget) (spends : program.Spends cost more) :
    (net.launch host origin program).Budgeted cost (budget + more) := by
  cases running : net.clients (host origin) with
  | none =>
    rw [launch_trapped running]
    exact ⟨budgeted.flight.mono (Nat.le_add_right budget more), budgeted.quiet⟩
  | some state =>
    rw [launch_running running]
    obtain ⟨costs, quiet⟩ := spends.run state
    refine ⟨costs_append.mpr ⟨budget, more, budgeted.flight, costs, Nat.le_refl _⟩, ?_⟩
    intro listener member
    rcases List.mem_append.mp member with member | member
    · exact budgeted.quiet listener member
    · obtain ⟨subscription, opened, rfl⟩ := List.mem_map.mp member
      exact quiet subscription opened

/-- Callbacks stay within what their requests leave of the budget. -/
theorem Budgeted.deliver {index : ℕ} (budgeted : net.Budgeted cost budget)
    (delivered : net.deliver? host index = some next) :
    next.store = net.store ∧ next.Budgeted cost budget := by
  obtain ⟨before, after, origin, call, answer, split, -, rfl⟩ := deliver?_cases delivered
  obtain ⟨mine, others, spends, costs, fits⟩ := costs_split.mp (split ▸ budgeted.flight)
  have rest : Budgeted cost { net with flight := before ++ after } others := ⟨costs, budgeted.quiet⟩
  obtain ⟨flight, quiet⟩ := rest.launch spends
  exact ⟨launch_store .., flight.mono (by omega), quiet⟩

theorem Budgeted.notify {index : ℕ} {choice : B.Choice} (budgeted : net.Budgeted cost budget)
    (notified : net.notify? host index choice = some next) :
    next.store = net.store ∧ next.Budgeted cost budget := by
  obtain ⟨before, after, origin, subscription, cursor, event, seen, split, -, rfl⟩ :=
    notify?_cases notified
  have free := budgeted.quiet ⟨origin, subscription, cursor⟩ (by simp [split])
  have rest : Budgeted cost
      { net with listeners := before ++ ⟨origin, subscription, seen⟩ :: after } budget := by
    refine ⟨budgeted.flight, fun listener member => ?_⟩
    simp only [List.mem_append, List.mem_cons] at member
    rcases member with member | rfl | member
    · exact budgeted.quiet listener (by simp [split, member])
    · exact free
    · exact budgeted.quiet listener (by simp [split, member])
  obtain ⟨flight, quiet⟩ := rest.launch (free event)
  exact ⟨launch_store .., flight, quiet⟩

section Run

variable {net next final : Network B σ κ κ} {perform : Action → Program I σ}
  {allowance : Action → ℕ} {size : B.Store → ℕ} {total : ℕ}

/-- What the event may cost: the allowance of the action that is taken. -/
def allowed (allowance : Action → ℕ) : Event B κ Action → ℕ
  | .act _ action => allowance action
  | .signal _ => 0

/-- What there is, with all that may come of what is in flight, is within the total. -/
def Paid (cost : I.Request → ℕ) (size : B.Store → ℕ) (net : Network B σ κ κ) (total : ℕ) : Prop :=
  ∃ budget, net.Budgeted cost budget ∧ size net.store + budget ≤ total

/-- One event keeps to the total, with the allowance of its action. -/
private theorem Paid.event {event : Event B κ Action} (paid : net.Paid cost size total)
    (acts : ∀ action, (perform action).Spends cost (allowance action))
    (grows : ∀ {choice store request later answer},
      B.serve choice store request = some (later, answer) → size later ≤ size store + cost request)
    (taken : net.event? perform event = some next) :
    next.Paid cost size (total + allowed allowance event) := by
  obtain ⟨budget, budgeted, fits⟩ := paid
  cases event with
  | act client action =>
    obtain rfl := Option.some.inj taken
    refine ⟨budget + allowance action, budgeted.launch (acts action), ?_⟩
    rw [launch_store, allowed]
    omega
  | signal signal =>
    cases signal with
    | serve index choice =>
      obtain ⟨request, answer, rest, served, budgeted, inside⟩ := budgeted.serve taken
      have growth := grows served
      exact ⟨rest, budgeted, by rw [allowed]; omega⟩
    | deliver index =>
      obtain ⟨same, budgeted⟩ := budgeted.deliver taken
      exact ⟨budget, budgeted, by rw [same]; exact fits⟩
    | notify index choice =>
      obtain ⟨same, budgeted⟩ := budgeted.notify taken
      exact ⟨budget, budgeted, by rw [same]; exact fits⟩

/-- Over a run the store grows by no more than what its actions may cost. -/
theorem size_run {events : List (Event B κ Action)} (idle : net.flight = [])
    (quiet : net.listeners = [])
    (acts : ∀ action, (perform action).Spends cost (allowance action))
    (grows : ∀ {choice store request later answer},
      B.serve choice store request = some (later, answer) → size later ≤ size store + cost request)
    (run : Run (fun net event next => net.event? perform event = some next) net events final) :
    size final.store ≤ size net.store + (events.map (allowed allowance)).sum := by
  have paid : final.Paid cost size (size net.store + (events.map (allowed allowance)).sum) := by
    refine run.history (fun past now => now.Paid cost size
      (size net.store + (past.map (allowed allowance)).sum)) ?_ ?_
    · exact ⟨0, budgeted_of_idle idle quiet, Nat.le_refl _⟩
    · intro past state event next taken paid
      rw [List.map_append, List.sum_append_nat, List.map_singleton, List.sum_cons, List.sum_nil,
        Nat.add_zero, ← Nat.add_assoc]
      exact paid.event acts grows taken
  obtain ⟨budget, -, fits⟩ := paid
  exact Nat.le_trans (Nat.le_add_right _ budget) fits

end Run

end Network

end Async
