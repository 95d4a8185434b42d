import InstagramClone.Async.Log
import InstagramClone.Async.Obligation

/-! # Requests that run to completion undisturbed

While no client acts, the requests in flight are served and delivered until none is left. A client
that waits for one request at a time goes through its callbacks one after the other.
-/

namespace Async.Network

variable {I : Interface} {B : Backend I} {σ τ κ : Type} [DecidableEq κ] {host : τ → κ}
  {legal : Signal B → Prop} {net final : Network B σ τ κ}

/-- By signals of the given kind alone, the first network becomes the second, with nothing left in
flight. -/
def Completes (host : τ → κ) (legal : Signal B → Prop) (net final : Network B σ τ κ) : Prop :=
  ∃ signals, Run (fun net signal next => legal signal ∧ net.signal? host signal = some next) net
    signals final ∧ final.flight = []

/-- A replay of legal signals that ends idle, and with a tested property, is a completion. -/
theorem exists_completes_of_replay? [DecidablePred legal] {signals : List (Signal B)}
    {holds : Network B σ τ κ → Prop} [DecidablePred holds]
    (success : (replay? (fun net signal => if legal signal then net.signal? host signal else none)
      net signals).any (fun final => decide (final.flight.isEmpty = true ∧ holds final)) = true) :
    ∃ final, net.Completes host legal final ∧ holds final := by
  obtain ⟨final, run, idle, tested⟩ := exists_run_of_replay? success
  refine ⟨final, ⟨signals, run.mono fun taken => ?_, List.isEmpty_iff.mp idle⟩, tested⟩
  split_ifs at taken with allowed
  exact ⟨allowed, taken⟩

theorem only_split {α : Type} {only item : α} {before after : List α}
    (split : [only] = before ++ item :: after) : before = [] ∧ after = [] ∧ item = only := by
  have lengths := congrArg List.length split
  simp only [List.length_cons, List.length_append, List.length_nil] at lengths
  obtain rfl : before = [] := List.length_eq_zero_iff.mp (by omega)
  obtain rfl : after = [] := List.length_eq_zero_iff.mp (by omega)
  exact ⟨rfl, rfl, (List.cons.inj split).1.symm⟩

/-- The only request in flight is served, then its callback runs. -/
theorem Completes.single {origin : τ} {call : Call I σ} (completes : net.Completes host legal final)
    (only : net.flight = [⟨origin, call, none⟩]) (quiet : net.listeners = []) :
    ∃ index choice store answer, legal (.serve index choice) ∧
      B.serve choice net.store call.request = some (store, answer) ∧
      (launch host { net with store := store, flight := [] } origin
        (call.callback answer)).Completes host legal final := by
  obtain ⟨signals, run, idle⟩ := completes
  cases run with
  | nil => simp [only] at idle
  | @cons _ middle _ signal _ taken rest =>
    obtain ⟨allowed, taken⟩ := taken
    cases signal with
    | deliver index =>
      obtain ⟨before, after, _, _, _, split, -, -⟩ := deliver?_cases taken
      obtain ⟨-, -, same⟩ := only_split (only ▸ split)
      cases same
    | notify index choice =>
      obtain ⟨before, after, _, _, _, _, _, split, -⟩ := notify?_cases taken
      simp [quiet] at split
    | serve index choice =>
      obtain ⟨before, after, _, _, store, answer, split, -, served, rfl⟩ := serve?_cases taken
      obtain ⟨rfl, rfl, same⟩ := only_split (only ▸ split)
      cases same
      refine ⟨index, choice, store, answer, allowed, served, ?_⟩
      cases rest with
      | nil => simp at idle
      | @cons _ last _ signal _ taken rest =>
        obtain ⟨-, taken⟩ := taken
        cases signal with
        | serve index choice =>
          obtain ⟨before, after, _, _, _, _, split, -⟩ := serve?_cases taken
          obtain ⟨-, -, same⟩ := only_split split
          cases same
        | notify index choice =>
          obtain ⟨before, after, _, _, _, _, _, split, -⟩ := notify?_cases taken
          simp [quiet] at split
        | deliver index =>
          obtain ⟨before, after, _, _, _, split, -, rfl⟩ := deliver?_cases taken
          obtain ⟨rfl, rfl, same⟩ := only_split split
          cases same
          exact ⟨_, rest, idle⟩

/-- A network with nothing in flight is complete. -/
theorem Completes.idle (completes : net.Completes host legal final) (none : net.flight = [])
    (quiet : net.listeners = []) : final = net := by
  obtain ⟨signals, run, -⟩ := completes
  cases run with
  | nil => rfl
  | @cons _ middle _ signal _ taken rest =>
    obtain ⟨-, taken⟩ := taken
    cases signal with
    | serve index choice =>
      obtain ⟨before, after, _, _, _, _, split, -⟩ := serve?_cases taken
      simp [none] at split
    | deliver index =>
      obtain ⟨before, after, _, _, _, split, -, -⟩ := deliver?_cases taken
      simp [none] at split
    | notify index choice =>
      obtain ⟨before, after, _, _, _, _, _, split, -⟩ := notify?_cases taken
      simp [quiet] at split

/-- Completing only adds to the record. -/
theorem Completes.served {succeeded : (request : I.Request) → I.Response request → Bool}
    {net final : Network (B.recorded succeeded) σ τ κ} {legal : Signal (B.recorded succeeded) → Prop}
    (completes : net.Completes host legal final) : net.store.served <+: final.store.served := by
  obtain ⟨signals, run, -⟩ := completes
  refine run.history (fun _ later => net.store.served <+: later.store.served) (List.prefix_refl _) ?_
  exact fun taken past => past.trans (signal_served taken.2)

section Lone

variable {store : B.Store} {state next : σ} {calls : List (Call I σ)} {call : Call I σ}
  {program : Program I σ} {legal : Signal B → Prop} {final : Network B σ Unit Unit}

/-- One client with these requests in flight, and nothing else. -/
def lone (store : B.Store) (state : σ) (calls : List (Call I σ)) : Network B σ Unit Unit where
  store := store
  clients _ := some state
  flight := calls.map fun call => ⟨(), call, none⟩

theorem lone_launch (ran : program.run state = ⟨some next, calls, []⟩) :
    (lone store state [] : Network B σ Unit Unit).launch id () program = lone store next calls := by
  rw [launch_running (show (lone store state [] : Network B σ Unit Unit).clients (id ()) = some state
    from rfl), ran]
  simp only [lone, List.map_nil, List.nil_append, List.append_nil]
  congr 1

/-- Code that runs alike in a state is launched alike. -/
theorem lone_launch_congr {other : Program I σ} (same : program.run state = other.run state) :
    (lone store state [] : Network B σ Unit Unit).launch id () program =
      (lone store state []).launch id () other := by
  simp only [launch, lone, same]

/-- A change of the client's state, then the rest of its code. -/
theorem launch_update (change : σ → σ) (next : Program I σ) :
    (lone store state [] : Network B σ Unit Unit).launch id () (.update change next) =
      (lone store (change state) []).launch id () next := by
  simp only [launch, lone, Program.run_update]
  congr 1

/-- The request is served, and the client goes on with its callback. -/
theorem Completes.lone_single (completes : (lone store state [call]).Completes id legal final) :
    ∃ index choice later answer, legal (.serve index choice) ∧
      B.serve choice store call.request = some (later, answer) ∧
      ((lone later state []).launch id () (call.callback answer)).Completes id legal final :=
  completes.single rfl rfl

/-- A request may be served and answered as the backend allows. -/
theorem completes_lone_single {choice : B.Choice} {later : B.Store} {answer : I.Response call.request}
    (served : B.serve choice store call.request = some (later, answer))
    (allowed : legal (.serve 0 choice)) (delivers : legal (.deliver 0))
    (rest : ((lone later state []).launch id () (call.callback answer)).Completes id legal final) :
    (lone store state [call]).Completes id legal final := by
  obtain ⟨signals, run, idle⟩ := rest
  have taken : (lone store state [call] : Network B σ Unit Unit).signal? id (.serve 0 choice) =
      some { lone later state [] with flight := [⟨(), call, some answer⟩] } := by
    simp [signal?, serve?, lone, served]
  exact ⟨_, .cons ⟨allowed, taken⟩ (.cons ⟨delivers, rfl⟩ run), idle⟩

/-- A program that issues nothing is over at once. -/
theorem Completes.launch_idle (ran : program.run state = ⟨some next, [], []⟩)
    (completes : ((lone store state []).launch id () program).Completes id legal final) :
    final = lone store next [] := by
  rw [lone_launch ran] at completes
  exact completes.idle rfl rfl

/-- A program that issues one request and then waits for it. -/
theorem Completes.launch_call (ran : program.run state = ⟨some next, [call], []⟩)
    (completes : ((lone store state []).launch id () program).Completes id legal final) :
    ∃ index choice later answer, legal (.serve index choice) ∧
      B.serve choice store call.request = some (later, answer) ∧
      ((lone later next []).launch id () (call.callback answer)).Completes id legal final := by
  rw [lone_launch ran] at completes
  exact completes.lone_single

/-- A program that traps at once issues nothing more. -/
theorem Completes.launch_trap (ran : program.run state = ⟨none, [], []⟩)
    (completes : ((lone store state []).launch id () program).Completes id legal final) :
    final.clients () = none ∧ final.store = store := by
  have trapped := launch_running (show (lone store state [] : Network B σ Unit Unit).clients (id ()) =
    some state from rfl) program
  rw [ran] at trapped
  rw [trapped] at completes
  obtain rfl := completes.idle (by simp [lone]) (by simp [lone])
  exact ⟨by simp, rfl⟩

end Lone

section Contract

variable {store : B.Store} {state : σ} {program : Program I σ} {legal : Signal B → Prop}
  {final : Network B σ Unit Unit} {C : Contract I B.Store σ Unit} {chosen : B.Choice → Prop}

private theorem lone_sound (invariant : C.invariant store) (valid : C.holds () store state) :
    (lone store state [] : Network B σ Unit Unit).Sound C id :=
  ⟨invariant, nofun, fun _ _ member => Option.some.inj member ▸ valid, by simp [lone],
    by simp [lone]⟩

/-- Code that keeps a contract leaves the store changed as allowed, and brings its goals about. -/
theorem Completes.over (completes : ((lone store state [] : Network B σ Unit Unit).launch id ()
      program).Completes id legal final)
    (lawful : B.Lawful C chosen) (legality : ∀ signal, legal signal → signal.Chosen chosen)
    (invariant : C.invariant store) (valid : C.holds () store state)
    (keeps : program.Keeps C () store) :
    final.Sound C id ∧ C.evolves store final.store ∧
      (¬ C.mayTrap → ∀ goal, C.Protects goal → program.Brings C chosen goal () store →
        goal final.store) := by
  have start := lone_sound (B := B) invariant valid
  have launched : ((Network.lone store state []).launch id () program).Sound C id :=
    start.launch (fun _ _ _ => id) keeps
  obtain ⟨signals, run, idle⟩ := completes
  obtain ⟨sound, evolves, owes⟩ : final.Sound C id ∧ C.evolves store final.store ∧
      (¬ C.mayTrap → ∀ goal, C.Protects goal → program.Brings C chosen goal () store →
        final.Owes C chosen goal) := by
    refine run.history (fun _ net => net.Sound C id ∧ C.evolves store net.store ∧
      (¬ C.mayTrap → ∀ goal, C.Protects goal → program.Brings C chosen goal () store →
        net.Owes C chosen goal)) ⟨launched, ?_, fun mayNot goal _ brings =>
        start.owes_launch mayNot keeps brings⟩ ?_
    · rw [launch_store]
      exact C.refl _
    · intro _ net signal next ⟨allowed, taken⟩ ⟨sound, evolves, owes⟩
      have event : net.event? (fun _ : Empty => .done) (.signal signal) = some next := taken
      obtain ⟨later, further⟩ := sound.event lawful
        (fun other same => by cases same; exact legality _ allowed) nofun event
      refine ⟨later, C.trans evolves further, fun mayNot goal protects brings => ?_⟩
      have owed := owes mayNot goal protects brings
      cases signal with
      | serve index choice => exact owed.serve sound protects lawful (legality _ allowed) taken
      | deliver index => exact owed.deliver sound mayNot taken
      | notify index choice => exact owed.notify taken
  exact ⟨sound, evolves, fun mayNot goal protects brings =>
    (owes mayNot goal protects brings).met idle⟩

end Contract

end Async.Network
