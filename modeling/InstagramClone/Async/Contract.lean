import InstagramClone.Async.Network

/-! # Rely and guarantee for callback programs

A contract says how the store may evolve, what every client state satisfies, which requests an
origin may issue and which topics it may follow, and what an answer tells about the store that
gave it. A program keeps the
contract when everything it will ever issue does, whatever the answers, in every later store.
The network rule turns this into an invariant of all interleavings: once every launched program
keeps the contract and the backend is lawful for it, it holds in every state.
-/

namespace Async

structure Contract (I : Interface) (S σ τ : Type) where
  /-- What every reachable store satisfies. -/
  invariant : S → Prop
  /-- How a store may change over time, by any client. -/
  evolves : S → S → Prop
  /-- What the state of the client that hosts the origin satisfies. -/
  holds : τ → S → σ → Prop
  allows : τ → S → I.Request → Prop
  opens : τ → S → I.Topic → Prop
  replies : S → (request : I.Request) → I.Response request → Prop
  reports : S → (topic : I.Topic) → I.Event topic → Prop
  /-- Whether clients may trap. -/
  mayTrap : Prop
  refl : ∀ store, evolves store store
  trans : ∀ {first second third}, evolves first second → evolves second third →
    evolves first third
  holds_mono : ∀ {origin first second state}, evolves first second → holds origin first state →
    holds origin second state
  allows_mono : ∀ {origin first second request}, evolves first second →
    allows origin first request → allows origin second request
  opens_mono : ∀ {origin first second topic}, evolves first second →
    opens origin first topic → opens origin second topic

variable {I : Interface} {S σ τ κ α : Type} {C : Contract I S σ τ} {origin : τ} {store later : S}

namespace Program

/-- Everything the program will issue keeps the contract, from this store on. -/
def Keeps (C : Contract I S σ τ) (origin : τ) : Program I σ → S → Prop
  | done, _ => True
  | trap, _ => C.mayTrap
  | send request callback next, store =>
    (C.allows origin store request ∧ ∀ later answer, C.evolves store later →
      C.replies later request answer → (callback answer).Keeps C origin later) ∧
    next.Keeps C origin store
  | listen topic callback next, store =>
    (C.opens origin store topic ∧ ∀ later event, C.evolves store later →
      C.reports later topic event → (callback event).Keeps C origin later) ∧
    next.Keeps C origin store
  | inspect body, store => ∀ later state, C.evolves store later → C.holds origin later state →
    (body state).Keeps C origin later
  | update change next, store =>
    (∀ later state, C.evolves store later → C.holds origin later state →
      C.holds origin later (change state)) ∧ next.Keeps C origin store

@[simp] theorem keeps_done : (done : Program I σ).Keeps C origin store := trivial

@[simp] theorem keeps_trap : (trap : Program I σ).Keeps C origin store ↔ C.mayTrap := Iff.rfl

theorem keeps_post {request : I.Request} :
    (post request : Program I σ).Keeps C origin store ↔ C.allows origin store request := by
  simp [post, Keeps]

/-- A program that keeps the contract still does after the store has evolved. -/
theorem Keeps.mono {program : Program I σ} (keeps : program.Keeps C origin store)
    (evolves : C.evolves store later) : program.Keeps C origin later := by
  induction program with
  | done => trivial
  | trap => exact keeps
  | send request callback next _ ih =>
    refine ⟨⟨C.allows_mono evolves keeps.1.1, ?_⟩, ih keeps.2⟩
    intro last answer after
    exact keeps.1.2 last answer (C.trans evolves after)
  | listen topic callback next _ ih =>
    refine ⟨⟨C.opens_mono evolves keeps.1.1, ?_⟩, ih keeps.2⟩
    intro last event after
    exact keeps.1.2 last event (C.trans evolves after)
  | inspect body _ =>
    intro last state after
    exact keeps last state (C.trans evolves after)
  | update change next ih =>
    refine ⟨?_, ih keeps.2⟩
    intro last state after
    exact keeps.1 last state (C.trans evolves after)

theorem Keeps.seq {first last : Program I σ} (left : first.Keeps C origin store)
    (right : last.Keeps C origin store) : (first.seq last).Keeps C origin store := by
  induction first generalizing store with
  | done => exact right
  | trap => exact left
  | send request callback next _ ih => exact ⟨left.1, ih left.2 right⟩
  | listen topic callback next _ ih => exact ⟨left.1, ih left.2 right⟩
  | inspect body ih =>
    intro later state evolves valid
    exact ih state (left later state evolves valid) (right.mono evolves)
  | update change next ih => exact ⟨left.1, ih left.2 right⟩

theorem keeps_forEach {items : List α} {body : α → Program I σ}
    (each : ∀ item ∈ items, (body item).Keeps C origin store) :
    (forEach items body).Keeps C origin store := by
  induction items with
  | nil => trivial
  | cons item rest ih =>
    exact (each item (List.mem_cons_self ..)).seq
      (ih fun other member => each other (List.mem_cons_of_mem _ member))

end Program

/-- The request may be issued, and its callback keeps the contract at any answer to come. -/
def Call.Keeps (C : Contract I S σ τ) (origin : τ) (store : S) (call : Call I σ) : Prop :=
  C.allows origin store call.request ∧ ∀ later answer, C.evolves store later →
    C.replies later call.request answer → (call.callback answer).Keeps C origin later

def Subscription.Keeps (C : Contract I S σ τ) (origin : τ) (store : S)
    (subscription : Subscription I σ) : Prop :=
  C.opens origin store subscription.topic ∧ ∀ later event, C.evolves store later →
    C.reports later subscription.topic event → (subscription.callback event).Keeps C origin later

theorem Subscription.Keeps.mono {subscription : Subscription I σ}
    (keeps : subscription.Keeps C origin store) (evolves : C.evolves store later) :
    subscription.Keeps C origin later :=
  ⟨C.opens_mono evolves keeps.1, fun last event after =>
    keeps.2 last event (C.trans evolves after)⟩

/-- What running code did keeps the contract. -/
structure Effect.Keeps (C : Contract I S σ τ) (origin : τ) (store : S) (effect : Effect I σ) :
    Prop where
  running : effect.state = none → C.mayTrap
  state : ∀ state ∈ effect.state, C.holds origin store state
  calls : ∀ call ∈ effect.calls, call.Keeps C origin store
  subscriptions : ∀ subscription ∈ effect.subscriptions, subscription.Keeps C origin store

/-- Running a program that keeps the contract, in a state that satisfies it. -/
theorem Program.Keeps.run {program : Program I σ} {state : σ}
    (keeps : program.Keeps C origin store) (valid : C.holds origin store state) :
    (program.run state).Keeps C origin store := by
  induction program generalizing state with
  | done =>
    exact ⟨by simp, by simpa using valid, by simp, by simp⟩
  | trap => exact ⟨fun _ => keeps, by simp, by simp, by simp⟩
  | send request callback next _ ih =>
    have rest := ih keeps.2 valid
    refine ⟨rest.running, rest.state, ?_, rest.subscriptions⟩
    intro call member
    rcases List.mem_cons.mp member with rfl | member
    · exact keeps.1
    · exact rest.calls call member
  | listen topic callback next _ ih =>
    have rest := ih keeps.2 valid
    refine ⟨rest.running, rest.state, rest.calls, ?_⟩
    intro subscription member
    rcases List.mem_cons.mp member with rfl | member
    · exact keeps.1
    · exact rest.subscriptions subscription member
  | inspect body ih => exact ih state (keeps store state (C.refl store) valid) valid
  | update change next ih => exact ih keeps.2 (keeps.1 store state (C.refl store) valid)

/-- A request in flight keeps the contract: before it is served at any answer to come, and after
it at the answer it has. -/
def Pending.Keeps (C : Contract I S σ τ) (store : S) (pending : Pending I σ τ) : Prop :=
  C.allows pending.origin store pending.call.request ∧
    match pending.answer with
    | none => pending.call.Keeps C pending.origin store
    | some answer => (pending.call.callback answer).Keeps C pending.origin store

theorem Pending.Keeps.mono {pending : Pending I σ τ} (keeps : pending.Keeps C store)
    (evolves : C.evolves store later) : pending.Keeps C later := by
  rcases pending with ⟨origin, call, answer⟩
  refine ⟨C.allows_mono evolves keeps.1, ?_⟩
  cases answer with
  | none =>
    refine ⟨C.allows_mono evolves keeps.2.1, ?_⟩
    intro last answer after
    exact keeps.2.2 last answer (C.trans evolves after)
  | some answer => exact keeps.2.mono evolves

/-- The backend meets the contract with every choice of the given kind. -/
structure Backend.Lawful (B : Backend I) (C : Contract I B.Store σ τ) (chosen : B.Choice → Prop) :
    Prop where
  serve : ∀ {choice origin store request next answer}, chosen choice → C.invariant store →
    C.allows origin store request → B.serve choice store request = some (next, answer) →
    C.invariant next ∧ C.evolves store next ∧ C.replies next request answer
  publish : ∀ {choice store unsent cursor topic event seen}, chosen choice → C.invariant store →
    (∀ request ∈ unsent, ∃ origin, C.allows origin store request) →
    B.publish choice store unsent cursor topic = some (event, seen) → C.reports store topic event

/-- The signal's choice, if it has one, is of the given kind. -/
def Signal.Chosen {B : Backend I} (chosen : B.Choice → Prop) : Signal B → Prop
  | .serve _ choice | .notify _ choice => chosen choice
  | .deliver _ => True

namespace Network

variable {B : Backend I} {C : Contract I B.Store σ τ} {host : τ → κ} {net next : Network B σ τ κ}

/-- The contract holds of the store, of every client, and of all that is in flight. -/
structure Sound (C : Contract I B.Store σ τ) (host : τ → κ) (net : Network B σ τ κ) : Prop where
  store : C.invariant net.store
  running : ∀ origin, net.clients (host origin) = none → C.mayTrap
  clients : ∀ origin, ∀ state ∈ net.clients (host origin), C.holds origin net.store state
  flight : ∀ pending ∈ net.flight, pending.Keeps C net.store
  listeners : ∀ listener ∈ net.listeners,
    listener.subscription.Keeps C listener.origin net.store

variable [DecidableEq κ]

/-- Launching code whose effect keeps the contract keeps the network sound. -/
theorem Sound.launch_effect (sound : net.Sound C host) {origin : τ} {program : Program I σ}
    (shared : ∀ {first second}, host first = host second → ∀ {store state},
      C.holds first store state → C.holds second store state)
    (keeps : ∀ state ∈ net.clients (host origin),
      (program.run state).Keeps C origin net.store) :
    (net.launch host origin program).Sound C host := by
  cases running : net.clients (host origin) with
  | none => rwa [launch_trapped running]
  | some state =>
    have effect := keeps state running
    rw [launch_running running]
    refine ⟨sound.store, ?_, ?_, ?_, ?_⟩
    · intro other trapped
      dsimp only at trapped
      by_cases same : host other = host origin
      · rw [same, Function.update_self] at trapped
        exact effect.running trapped
      · rw [Function.update_of_ne same] at trapped
        exact sound.running other trapped
    · intro other found member
      dsimp only at member
      by_cases same : host other = host origin
      · rw [same, Function.update_self] at member
        exact shared same.symm (effect.state found member)
      · rw [Function.update_of_ne same] at member
        exact sound.clients other found member
    · intro pending member
      rcases List.mem_append.mp member with member | member
      · exact sound.flight pending member
      · obtain ⟨call, issued, rfl⟩ := List.mem_map.mp member
        exact ⟨(effect.calls call issued).1, effect.calls call issued⟩
    · intro listener member
      rcases List.mem_append.mp member with member | member
      · exact sound.listeners listener member
      · obtain ⟨subscription, opened, rfl⟩ := List.mem_map.mp member
        exact effect.subscriptions subscription opened

theorem Sound.launch (sound : net.Sound C host) {origin : τ} {program : Program I σ}
    (shared : ∀ {first second}, host first = host second → ∀ {store state},
      C.holds first store state → C.holds second store state)
    (keeps : program.Keeps C origin net.store) : (net.launch host origin program).Sound C host :=
  sound.launch_effect shared fun state running => keeps.run (sound.clients origin state running)

omit [DecidableEq κ] in
/-- Serving a request keeps the network sound, and the store has evolved as allowed. -/
theorem Sound.serve (sound : net.Sound C host) {chosen : B.Choice → Prop}
    (lawful : B.Lawful C chosen) {index : ℕ} {choice : B.Choice} (legal : chosen choice)
    (served : net.serve? index choice = some next) :
    next.Sound C host ∧ C.evolves net.store next.store := by
  obtain ⟨before, after, origin, call, store, answer, split, -, resolved, rfl⟩ :=
    serve?_cases served
  have mine := sound.flight ⟨origin, call, none⟩ (by simp [split])
  obtain ⟨invariant, evolves, replies⟩ := lawful.serve legal sound.store mine.1 resolved
  refine ⟨⟨invariant, sound.running, ?_, ?_, ?_⟩, evolves⟩
  · intro other state running
    exact C.holds_mono evolves (sound.clients other state running)
  · intro pending member
    simp only [List.mem_append, List.mem_cons] at member
    rcases member with member | rfl | member
    · exact (sound.flight pending (by simp [split, member])).mono evolves
    · exact ⟨C.allows_mono evolves mine.1, mine.2.2 _ _ evolves replies⟩
    · exact (sound.flight pending (by simp [split, member])).mono evolves
  · intro listener member
    exact (sound.listeners listener member).mono evolves

/-- Delivering an answer keeps the network sound. -/
theorem Sound.deliver (sound : net.Sound C host) {index : ℕ}
    (shared : ∀ {first second}, host first = host second → ∀ {store state},
      C.holds first store state → C.holds second store state)
    (delivered : net.deliver? host index = some next) : next.Sound C host := by
  obtain ⟨before, after, origin, call, answer, split, -, rfl⟩ := deliver?_cases delivered
  have mine := sound.flight ⟨origin, call, some answer⟩ (by simp [split])
  have rest : Sound C host { net with flight := before ++ after } := by
    refine ⟨sound.store, sound.running, sound.clients, ?_, sound.listeners⟩
    intro pending member
    exact sound.flight pending (by
      simp only [split, List.mem_append, List.mem_cons] at member ⊢
      tauto)
  exact rest.launch shared mine.2

/-- Notifying a listener keeps the network sound. -/
theorem Sound.notify (sound : net.Sound C host) {chosen : B.Choice → Prop}
    (shared : ∀ {first second}, host first = host second → ∀ {store state},
      C.holds first store state → C.holds second store state)
    (lawful : B.Lawful C chosen) {index : ℕ} {choice : B.Choice} (legal : chosen choice)
    (notified : net.notify? host index choice = some next) : next.Sound C host := by
  obtain ⟨before, after, origin, subscription, cursor, event, seen, split, published, rfl⟩ :=
    notify?_cases notified
  have mine := sound.listeners ⟨origin, subscription, cursor⟩ (by simp [split])
  have rest : Sound C host
      { net with listeners := before ++ ⟨origin, subscription, seen⟩ :: after } := by
    refine ⟨sound.store, sound.running, sound.clients, sound.flight, ?_⟩
    intro listener member
    simp only [List.mem_append, List.mem_cons] at member
    rcases member with member | rfl | member
    · exact sound.listeners listener (by simp [split, member])
    · exact mine
    · exact sound.listeners listener (by simp [split, member])
  have allowed : ∀ request ∈ net.unsent host (host origin), ∃ origin,
      C.allows origin net.store request := by
    intro request member
    obtain ⟨sender, call, among, -, rfl⟩ := mem_unsent.mp member
    exact ⟨sender, (sound.flight _ among).1⟩
  exact rest.launch shared
    (mine.2 net.store event (C.refl _) (lawful.publish legal sound.store allowed published))

/-- A signal keeps the network sound, and the store evolves as allowed. -/
theorem Sound.signal (sound : net.Sound C host) {chosen : B.Choice → Prop}
    (shared : ∀ {first second}, host first = host second → ∀ {store state},
      C.holds first store state → C.holds second store state)
    (lawful : B.Lawful C chosen) {signal : Signal B} (legal : signal.Chosen chosen)
    (taken : net.signal? host signal = some next) :
    next.Sound C host ∧ C.evolves net.store next.store := by
  cases signal with
  | serve index choice => exact sound.serve lawful legal taken
  | deliver index =>
    refine ⟨sound.deliver shared taken, ?_⟩
    obtain ⟨_, _, _, _, _, -, -, rfl⟩ := deliver?_cases taken
    rw [launch_store]
    exact C.refl _
  | notify index choice =>
    refine ⟨sound.notify shared lawful legal taken, ?_⟩
    obtain ⟨_, _, _, _, _, _, _, -, -, rfl⟩ := notify?_cases taken
    rw [launch_store]
    exact C.refl _

/-- An event keeps the network sound when the code of an action does on its client. -/
theorem Sound.event {Action : Type} {C : Contract I B.Store σ κ} {net next : Network B σ κ κ}
    {perform : Action → Program I σ} {event : Event B κ Action} (sound : net.Sound C id)
    {chosen : B.Choice → Prop} (lawful : B.Lawful C chosen)
    (legal : ∀ signal, event = .signal signal → signal.Chosen chosen)
    (acts : ∀ client action, event = .act client action → ∀ state ∈ net.clients client,
      ((perform action).run state).Keeps C client net.store)
    (taken : net.event? perform event = some next) :
    next.Sound C id ∧ C.evolves net.store next.store := by
  have shared {first second : κ} (same : id first = id second) {store : B.Store} {state : σ}
      (valid : C.holds first store state) : C.holds second store state := by
    obtain rfl : first = second := same
    exact valid
  cases event with
  | act client action =>
    obtain rfl := Option.some.inj taken
    refine ⟨sound.launch_effect shared (acts client action rfl), ?_⟩
    rw [launch_store]
    exact C.refl _
  | signal signal => exact sound.signal shared lawful (legal signal rfl) taken

end Network

end Async
