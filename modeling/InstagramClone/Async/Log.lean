import InstagramClone.Async.Network

/-! # A record of what a backend served

Beside the store stand the requests served so far, oldest first, each with whether it succeeded.
The backend never reads the record, so its runs are those of the backend alone.
-/

namespace Async

/-- A request that was served, and whether it succeeded. -/
structure Served (I : Interface) where
  request : I.Request
  succeeded : Bool

/-- A store with the requests it has served. -/
structure Recorded (I : Interface) (S : Type) where
  store : S
  served : List (Served I) := []

/-- The backend, recording what it serves. -/
abbrev Backend.recorded {I : Interface} (B : Backend I)
    (succeeded : (request : I.Request) → I.Response request → Bool) : Backend I where
  Store := Recorded I B.Store
  Choice := B.Choice
  serve choice state request := (B.serve choice state.store request).map fun (next, answer) =>
    (⟨next, state.served ++ [⟨request, succeeded request answer⟩]⟩, answer)
  Cursor := B.Cursor
  start := B.start
  publish choice state := B.publish choice state.store

variable {I : Interface} {B : Backend I} {succeeded : (request : I.Request) → I.Response request → Bool}

/-- Serving a request adds exactly that request to the record. -/
theorem recorded_serve {choice : B.Choice} {state next : Recorded I B.Store} {request : I.Request}
    {answer : I.Response request}
    (served : (B.recorded succeeded).serve choice state request = some (next, answer)) :
    B.serve choice state.store request = some (next.store, answer) ∧
      next.served = state.served ++ [⟨request, succeeded request answer⟩] := by
  obtain ⟨⟨store, reply⟩, resolved, same⟩ := Option.map_eq_some_iff.mp served
  obtain ⟨rfl, rfl⟩ := Prod.mk.inj same
  exact ⟨resolved, rfl⟩

/-- A signal only adds to the record. -/
theorem signal_served {σ τ κ : Type} [DecidableEq κ] {host : τ → κ}
    {net next : Network (B.recorded succeeded) σ τ κ} {signal : Signal (B.recorded succeeded)}
    (taken : net.signal? host signal = some next) :
    net.store.served <+: next.store.served := by
  cases signal with
  | serve index choice =>
    obtain ⟨_, _, _, _, store, _, -, -, served, rfl⟩ := Network.serve?_cases taken
    exact ⟨_, (recorded_serve served).2.symm⟩
  | deliver index =>
    obtain ⟨_, _, _, _, _, -, -, rfl⟩ := Network.deliver?_cases taken
    simp only [Network.launch_store, List.prefix_rfl]
  | notify index choice =>
    obtain ⟨_, _, _, _, _, _, _, -, -, rfl⟩ := Network.notify?_cases taken
    simp only [Network.launch_store, List.prefix_rfl]

section Recording

variable {σ τ κ : Type} [DecidableEq κ] {host : τ → κ} {net next : Network B σ τ κ}

/-- The signal, for the backend that records. -/
def Signal.recording : Signal B → Signal (B.recorded succeeded)
  | .serve index choice => .serve index choice
  | .deliver index => .deliver index
  | .notify index choice => .notify index choice

/-- The network, with a record of what was served. -/
def Network.recording (net : Network B σ τ κ) (served : List (Served I)) :
    Network (B.recorded succeeded) σ τ κ where
  store := ⟨net.store, served⟩
  clients := net.clients
  flight := net.flight
  listeners := net.listeners.map fun listener =>
    ⟨listener.origin, listener.subscription, listener.cursor⟩

theorem recording_launch (origin : τ) (program : Program I σ) (served : List (Served I)) :
    (net.recording served : Network (B.recorded succeeded) σ τ κ).launch host origin program =
      (net.launch host origin program).recording served := by
  unfold Network.launch
  cases running : net.clients (host origin) with
  | none => simp [Network.recording, running]
  | some state => simp [Network.recording, running]

/-- Every signal is one of the backend that records, which only adds to its record. -/
theorem recording_signal {signal : Signal B} (taken : net.signal? host signal = some next)
    (served : List (Served I)) : ∃ more,
      (net.recording served : Network (B.recorded succeeded) σ τ κ).signal? host signal.recording =
        some (next.recording more) := by
  cases signal with
  | serve index choice =>
    obtain ⟨⟨origin, call, answer⟩, present, rest⟩ := Option.bind_eq_some_iff.mp taken
    cases answer with
    | some answer => cases rest
    | none =>
      obtain ⟨⟨store, answer⟩, resolved, rfl⟩ := Option.map_eq_some_iff.mp rest
      refine ⟨served ++ [⟨call.request, succeeded call.request answer⟩], ?_⟩
      simp [Signal.recording, Network.signal?, Network.serve?, Network.recording, present, resolved]
  | deliver index =>
    obtain ⟨⟨origin, call, answer⟩, present, rest⟩ := Option.bind_eq_some_iff.mp taken
    cases answer with
    | none => cases rest
    | some answer =>
      refine ⟨served, ?_⟩
      rw [← Option.some.inj rest, ← recording_launch]
      simp [Signal.recording, Network.signal?, Network.deliver?, Network.recording, present]
  | notify index choice =>
    obtain ⟨⟨origin, subscription, cursor⟩, present, rest⟩ := Option.bind_eq_some_iff.mp taken
    obtain ⟨⟨event, seen⟩, published, same⟩ := Option.map_eq_some_iff.mp rest
    refine ⟨served, ?_⟩
    have unsent : (net.recording served : Network (B.recorded succeeded) σ τ κ).unsent host
        (host origin) = net.unsent host (host origin) := rfl
    simp only [Network.recording] at unsent
    rw [← same, ← recording_launch]
    simp [Signal.recording, Network.signal?, Network.notify?, Network.recording, present, unsent,
      published]

end Recording

/-- A store with every request it has served and the answer it gave. -/
structure Logged (I : Interface) (S : Type) where
  store : S
  log : List (Σ request : I.Request, I.Response request) := []

/-- The backend, keeping all its answers. -/
abbrev Backend.logged {I : Interface} (B : Backend I) : Backend I where
  Store := Logged I B.Store
  Choice := B.Choice
  serve choice state request := (B.serve choice state.store request).map fun (next, answer) =>
    (⟨next, state.log ++ [⟨request, answer⟩]⟩, answer)
  Cursor := B.Cursor
  start := B.start
  publish choice state := B.publish choice state.store

theorem logged_serve {choice : B.Choice} {state next : Logged I B.Store} {request : I.Request}
    {answer : I.Response request}
    (served : B.logged.serve choice state request = some (next, answer)) :
    B.serve choice state.store request = some (next.store, answer) ∧
      next.log = state.log ++ [⟨request, answer⟩] := by
  obtain ⟨⟨store, reply⟩, resolved, same⟩ := Option.map_eq_some_iff.mp served
  obtain ⟨rfl, rfl⟩ := Prod.mk.inj same
  exact ⟨resolved, rfl⟩

end Async
