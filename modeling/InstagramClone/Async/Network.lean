import InstagramClone.Async.Program
import InstagramClone.Async.Run
import Mathlib.Logic.Function.Basic

/-! # Clients of one backend, with requests in flight

A network is a store, the states of its clients, and the list of requests that were issued and
whose callback has not run yet, oldest first. The backend serves a request at one moment, which
fixes its answer, and the answer is delivered at a later one; between the two anything else may
happen. Every pending request carries the origin of the action it descends from, and `host` says
on which client that origin lives, so that its callback runs there. Answers for a client that
has trapped are dropped.
-/

namespace Async

/-- A backend resolves a request against its store. The choice supplies what the request leaves
open, and `none` rejects a choice that does not fit. A cursor remembers what a listener saw. What a
listener is told may depend on the requests that its own client still has to send. -/
structure Backend (I : Interface) where
  Store : Type
  Choice : Type
  serve : Choice → Store → (request : I.Request) → Option (Store × I.Response request)
  Cursor : Type
  start : Cursor
  publish : Choice → Store → List I.Request → Cursor → (topic : I.Topic) →
    Option (I.Event topic × Cursor)

/-- A request in flight: issued, or served and waiting for its callback. -/
structure Pending (I : Interface) (σ τ : Type) where
  origin : τ
  call : Call I σ
  answer : Option (I.Response call.request) := none

structure Listener {I : Interface} (B : Backend I) (σ τ : Type) where
  origin : τ
  subscription : Subscription I σ
  cursor : B.Cursor

structure Network {I : Interface} (B : Backend I) (σ τ κ : Type) where
  store : B.Store
  clients : κ → Option σ
  flight : List (Pending I σ τ) := []
  listeners : List (Listener B σ τ) := []

/-- What the surroundings may do without any client acting. -/
inductive Signal {I : Interface} (B : Backend I) where
  | serve (index : ℕ) (choice : B.Choice)
  | deliver (index : ℕ)
  | notify (index : ℕ) (choice : B.Choice)

/-- A client acts, or the surroundings do. -/
inductive Event {I : Interface} (B : Backend I) (κ Action : Type) where
  | act (client : κ) (action : Action)
  | signal (signal : Signal B)

/-- Serve the oldest requests in flight, as many as there are choices, then deliver them. -/
def drain {I : Interface} {B : Backend I} {κ Action : Type} (choices : List B.Choice) :
    List (Event B κ Action) :=
  choices.mapIdx (fun index choice => .signal (.serve index choice)) ++
    choices.map fun _ => .signal (.deliver 0)

namespace Network

variable {I : Interface} {B : Backend I} {σ τ κ Action : Type} [DecidableEq κ]

/-- Run code on the client that hosts the origin; a trapped client runs nothing. -/
def launch (host : τ → κ) (net : Network B σ τ κ) (origin : τ) (program : Program I σ) :
    Network B σ τ κ :=
  match net.clients (host origin) with
  | none => net
  | some state =>
    let effect := program.run state
    { net with
      clients := Function.update net.clients (host origin) effect.state
      flight := net.flight ++ effect.calls.map (fun call => ⟨origin, call, none⟩)
      listeners := net.listeners ++
        effect.subscriptions.map (fun subscription => ⟨origin, subscription, B.start⟩) }

/-- The backend resolves one request that it has not served yet. -/
def serve? (net : Network B σ τ κ) (index : ℕ) (choice : B.Choice) : Option (Network B σ τ κ) :=
  net.flight[index]?.bind fun pending =>
    match pending.answer with
    | some _ => none
    | none => (B.serve choice net.store pending.call.request).map fun (store, answer) =>
      { net with
        store := store
        flight := net.flight.set index { pending with answer := some answer } }

/-- A served request leaves the flight and its callback runs on its client. -/
def deliver? (host : τ → κ) (net : Network B σ τ κ) (index : ℕ) : Option (Network B σ τ κ) :=
  net.flight[index]?.bind fun pending => pending.answer.map fun answer =>
    launch host { net with flight := net.flight.eraseIdx index } pending.origin
      (pending.call.callback answer)

/-- The requests of a client that have not been served yet, oldest first. -/
def unsent (host : τ → κ) (net : Network B σ τ κ) (client : κ) : List I.Request :=
  net.flight.filterMap fun pending =>
    if host pending.origin = client ∧ pending.answer.isNone then some pending.call.request else none

/-- An open subscription reports to its callback what its client sees of the present store. -/
def notify? (host : τ → κ) (net : Network B σ τ κ) (index : ℕ) (choice : B.Choice) :
    Option (Network B σ τ κ) :=
  net.listeners[index]?.bind fun listener =>
    (B.publish choice net.store (net.unsent host (host listener.origin)) listener.cursor
      listener.subscription.topic).map fun (event, cursor) =>
        launch host { net with listeners := net.listeners.set index { listener with cursor } }
          listener.origin (listener.subscription.callback event)

def signal? (host : τ → κ) (net : Network B σ τ κ) : Signal B → Option (Network B σ τ κ)
  | .serve index choice => net.serve? index choice
  | .deliver index => net.deliver? host index
  | .notify index choice => net.notify? host index choice

/-- One event of a network in which every request originates from its client. -/
def event? (perform : Action → Program I σ) (net : Network B σ κ κ) :
    Event B κ Action → Option (Network B σ κ κ)
  | .act client action => some (net.launch id client (perform action))
  | .signal signal => net.signal? id signal

/-- The signal respects the order in which the client concerned issued its requests: they are
served in that order and answered in that order. -/
def InOrder (host : τ → κ) (net : Network B σ τ κ) : Signal B → Prop
  | .serve index _ => ∀ mine ∈ net.flight[index]?.toList, ∀ other ∈ net.flight.take index,
      host other.origin = host mine.origin → other.answer.isSome = true
  | .deliver index => ∀ mine ∈ net.flight[index]?.toList, ∀ other ∈ net.flight.take index,
      host other.origin ≠ host mine.origin
  | .notify .. => True

instance (host : τ → κ) (net : Network B σ τ κ) (signal : Signal B) :
    Decidable (net.InOrder host signal) :=
  match signal with
  | .serve index _ => inferInstanceAs (Decidable (∀ mine ∈ net.flight[index]?.toList,
      ∀ other ∈ net.flight.take index,
        host other.origin = host mine.origin → other.answer.isSome = true))
  | .deliver index => inferInstanceAs (Decidable (∀ mine ∈ net.flight[index]?.toList,
      ∀ other ∈ net.flight.take index, host other.origin ≠ host mine.origin))
  | .notify .. => inferInstanceAs (Decidable True)

theorem launch_trapped {host : τ → κ} {net : Network B σ τ κ} {origin : τ}
    (trapped : net.clients (host origin) = none) (program : Program I σ) :
    net.launch host origin program = net := by
  simp [launch, trapped]

theorem launch_running {host : τ → κ} {net : Network B σ τ κ} {origin : τ} {state : σ}
    (running : net.clients (host origin) = some state) (program : Program I σ) :
    net.launch host origin program =
      { net with
        clients := Function.update net.clients (host origin) (program.run state).state
        flight := net.flight ++ (program.run state).calls.map (fun call => ⟨origin, call, none⟩)
        listeners := net.listeners ++ (program.run state).subscriptions.map
          (fun subscription => ⟨origin, subscription, B.start⟩) } := by
  simp [launch, running]

theorem mem_unsent {host : τ → κ} {net : Network B σ τ κ} {client : κ} {request : I.Request} :
    request ∈ net.unsent host client ↔ ∃ origin call, ⟨origin, call, none⟩ ∈ net.flight ∧
      host origin = client ∧ call.request = request := by
  rw [unsent, List.mem_filterMap]
  constructor
  · rintro ⟨⟨origin, call, answer⟩, member, same⟩
    split_ifs at same with waits
    cases answer with
    | some answer => cases waits.2
    | none => exact ⟨origin, call, member, waits.1, Option.some.inj same⟩
  · rintro ⟨origin, call, member, mine, rfl⟩
    exact ⟨_, member, if_pos ⟨mine, rfl⟩⟩

@[simp] theorem launch_done (host : τ → κ) (net : Network B σ τ κ) (origin : τ) :
    net.launch host origin .done = net := by
  cases running : net.clients (host origin) with
  | none => exact launch_trapped running _
  | some state => simp [launch_running running, ← running]

@[simp] theorem launch_store (host : τ → κ) (net : Network B σ τ κ) (origin : τ)
    (program : Program I σ) : (net.launch host origin program).store = net.store := by
  unfold launch
  split <;> rfl

omit [DecidableEq κ] in
/-- Everything a successful serve says: the request stood unserved at its place in the flight. -/
theorem serve?_cases {net next : Network B σ τ κ} {index : ℕ} {choice : B.Choice}
    (served : net.serve? index choice = some next) :
    ∃ before after origin call store answer,
      net.flight = before ++ ⟨origin, call, none⟩ :: after ∧ before.length = index ∧
      B.serve choice net.store call.request = some (store, answer) ∧
      next = { net with
        store := store
        flight := before ++ ⟨origin, call, some answer⟩ :: after } := by
  obtain ⟨pending, present, rest⟩ := Option.bind_eq_some_iff.mp served
  obtain ⟨bound, atIndex⟩ := List.getElem?_eq_some_iff.mp present
  rcases pending with ⟨origin, call, answer⟩
  cases answer with
  | some _ => cases rest
  | none =>
    obtain ⟨⟨store, answer⟩, resolved, rfl⟩ := Option.map_eq_some_iff.mp rest
    refine ⟨net.flight.take index, net.flight.drop (index + 1), origin, call, store, answer,
      ?_, List.length_take_of_le (Nat.le_of_lt bound), resolved, ?_⟩
    · rw [← atIndex, ← List.drop_eq_getElem_cons bound, List.take_append_drop]
    · simp only [List.set_eq_take_append_cons_drop, if_pos bound]

omit [DecidableEq κ] in
/-- What holds of all requests in flight, answered or not, still does when one is served. -/
theorem serve?_flight (holds : τ → Call I σ → Prop) {net next : Network B σ τ κ} {index : ℕ}
    {choice : B.Choice} (all : ∀ pending ∈ net.flight, holds pending.origin pending.call)
    (served : net.serve? index choice = some next) :
    next.clients = net.clients ∧ ∀ pending ∈ next.flight, holds pending.origin pending.call := by
  obtain ⟨before, after, origin, call, store, answer, split, -, -, rfl⟩ := serve?_cases served
  simp only [split, List.forall_mem_append, List.forall_mem_cons] at all ⊢
  exact ⟨trivial, all⟩

/-- Everything a successful delivery says: the request stood answered at its place. -/
theorem deliver?_cases {host : τ → κ} {net next : Network B σ τ κ} {index : ℕ}
    (delivered : net.deliver? host index = some next) :
    ∃ before after origin call answer,
      net.flight = before ++ ⟨origin, call, some answer⟩ :: after ∧ before.length = index ∧
      next = launch host { net with flight := before ++ after } origin (call.callback answer) := by
  obtain ⟨pending, present, rest⟩ := Option.bind_eq_some_iff.mp delivered
  obtain ⟨bound, atIndex⟩ := List.getElem?_eq_some_iff.mp present
  rcases pending with ⟨origin, call, answer⟩
  cases answer with
  | none => cases rest
  | some answer =>
    obtain rfl := Option.some.inj rest
    refine ⟨net.flight.take index, net.flight.drop (index + 1), origin, call, answer,
      ?_, List.length_take_of_le (Nat.le_of_lt bound), ?_⟩
    · rw [← atIndex, ← List.drop_eq_getElem_cons bound, List.take_append_drop]
    · rw [List.eraseIdx_eq_take_drop_succ]

/-- Everything a successful notification says. -/
theorem notify?_cases {host : τ → κ} {net next : Network B σ τ κ} {index : ℕ} {choice : B.Choice}
    (notified : net.notify? host index choice = some next) :
    ∃ before after origin subscription cursor event seen,
      net.listeners = before ++ ⟨origin, subscription, cursor⟩ :: after ∧
      B.publish choice net.store (net.unsent host (host origin)) cursor subscription.topic =
        some (event, seen) ∧
      next = launch host
        { net with listeners := before ++ ⟨origin, subscription, seen⟩ :: after } origin
        (subscription.callback event) := by
  obtain ⟨⟨origin, subscription, cursor⟩, present, rest⟩ := Option.bind_eq_some_iff.mp notified
  obtain ⟨bound, atIndex⟩ := List.getElem?_eq_some_iff.mp present
  obtain ⟨⟨event, seen⟩, published, rfl⟩ := Option.map_eq_some_iff.mp rest
  refine ⟨net.listeners.take index, net.listeners.drop (index + 1), origin, subscription, cursor,
    event, seen, ?_, published, ?_⟩
  · rw [← atIndex, ← List.drop_eq_getElem_cons bound, List.take_append_drop]
  · simp only [List.set_eq_take_append_cons_drop, if_pos bound]

omit [DecidableEq κ] in
/-- Serving in order: the client's earlier requests have all been served. -/
theorem InOrder.serve {host : τ → κ} {net : Network B σ τ κ} {choice : B.Choice}
    {before after : List (Pending I σ τ)} {pending : Pending I σ τ}
    (ordered : net.InOrder host (.serve before.length choice))
    (split : net.flight = before ++ pending :: after) :
    ∀ other ∈ before, host other.origin = host pending.origin → other.answer.isSome = true := by
  simpa [InOrder, split] using ordered

omit [DecidableEq κ] in
/-- Delivering in order: the client has no earlier request in flight. -/
theorem InOrder.deliver {host : τ → κ} {net : Network B σ τ κ}
    {before after : List (Pending I σ τ)} {pending : Pending I σ τ}
    (ordered : net.InOrder host (.deliver before.length))
    (split : net.flight = before ++ pending :: after) :
    ∀ other ∈ before, host other.origin ≠ host pending.origin := by
  simpa [InOrder, split] using ordered

end Network

end Async
