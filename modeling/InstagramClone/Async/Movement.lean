import InstagramClone.Async.Pursuit
import InstagramClone.Async.Run

/-! # How clients move along a run

When the code of every action, and all that follows from it, moves its client on in a given way, a
client that is still running has moved on in that way since the start of the run. Code is followed
through the very state it runs in, and its callbacks through every state that the client may have
moved on to by then, so what code has seen of its client stays known to its callbacks. Where a client
is also moved on by code that is not followed, a course tells the two ways apart. It also says which
topics the code may listen to.
-/

namespace Async

/-- How a client may move on in all, how the code that is followed may move it on, and what this code
may listen to. -/
structure Course (I : Interface) (σ : Type) extends Motion σ where
  own : Motion σ
  follows : ∀ {before after}, own.moves before after → moves before after
  listens : I.Topic → Prop

variable {I : Interface} {B : Backend I} {σ τ κ α Action : Type} {course : Course I σ}
  {motion : Motion σ} {start later : σ} {first last program : Program I σ}

/-- Run in this state, the code moves the client on, and so will all callbacks, whatever is answered
and however far the client has moved on by then. -/
def Program.Steers (course : Course I σ) : Program I σ → σ → Prop
  | done, _ | trap, _ => True
  | send _ callback next, start =>
    (∀ answer later, course.moves start later → (callback answer).Steers course later) ∧
      next.Steers course start
  | listen topic callback next, start =>
    (course.listens topic ∧
      ∀ event later, course.moves start later → (callback event).Steers course later) ∧
      next.Steers course start
  | inspect body, start => (body start).Steers course start
  | update change next, start =>
    course.own.moves start (change start) ∧ next.Steers course (change start)

namespace Program

theorem Steers.seq (left : first.Steers course start)
    (right : ∀ later, course.moves start later → last.Steers course later) :
    (first.seq last).Steers course start := by
  induction first generalizing start with
  | done => exact right start (course.refl start)
  | trap => trivial
  | send request callback next _ ih => exact ⟨left.1, ih left.2 right⟩
  | listen topic callback next _ ih => exact ⟨left.1, ih left.2 right⟩
  | inspect body ih => exact ih start left right
  | update change next ih =>
    refine ⟨left.1, ih left.2 fun later moved => right later ?_⟩
    exact course.trans (course.follows left.1) moved

theorem steers_forEach {items : List α} {body : α → Program I σ}
    (each : ∀ item ∈ items, ∀ later, course.moves start later → (body item).Steers course later) :
    (forEach items body).Steers course start := by
  induction items generalizing start with
  | nil => trivial
  | cons item rest ih =>
    apply (each item (List.mem_cons_self ..) start (course.refl start)).seq
    intro later moved
    apply ih
    intro other member last beyond
    exact each other (List.mem_cons_of_mem _ member) last (course.trans moved beyond)

end Program

/-- What the call's callback does moves the client on, from wherever it has moved to. -/
def Call.Steers (course : Course I σ) (start : σ) (call : Call I σ) : Prop :=
  ∀ answer later, course.moves start later → (call.callback answer).Steers course later

def Subscription.Steers (course : Course I σ) (start : σ) (subscription : Subscription I σ) : Prop :=
  course.listens subscription.topic ∧
    ∀ event later, course.moves start later → (subscription.callback event).Steers course later

theorem Call.Steers.mono {call : Call I σ} (steers : call.Steers course start)
    (moved : course.moves start later) : call.Steers course later :=
  fun answer last beyond => steers answer last (course.trans moved beyond)

theorem Subscription.Steers.mono {subscription : Subscription I σ}
    (steers : subscription.Steers course start) (moved : course.moves start later) :
    subscription.Steers course later :=
  ⟨steers.1, fun event last beyond => steers.2 event last (course.trans moved beyond)⟩

/-- Running such code moves the client on, and so will all that it starts. -/
theorem Program.Steers.run (steers : program.Steers course start) {next : σ}
    (ran : (program.run start).state = some next) :
    course.own.moves start next ∧ (∀ call ∈ (program.run start).calls, call.Steers course next) ∧
      ∀ opened ∈ (program.run start).subscriptions, opened.Steers course next := by
  induction program generalizing start with
  | done =>
    obtain rfl := Option.some.inj ran
    exact ⟨course.own.refl start, by simp, by simp⟩
  | trap => cases ran
  | send request callback rest _ ih =>
    obtain ⟨moved, calls, opened⟩ := ih steers.2 ran
    refine ⟨moved, fun call issued => ?_, opened⟩
    rcases List.mem_cons.mp issued with rfl | issued
    · intro answer later beyond
      exact steers.1 answer later (course.trans (course.follows moved) beyond)
    · exact calls call issued
  | listen topic callback rest _ ih =>
    obtain ⟨moved, calls, opened⟩ := ih steers.2 ran
    refine ⟨moved, calls, fun subscription new => ?_⟩
    rcases List.mem_cons.mp new with rfl | new
    · refine ⟨steers.1.1, fun event later beyond => ?_⟩
      exact steers.1.2 event later (course.trans (course.follows moved) beyond)
    · exact opened subscription new
  | inspect body ih => exact ih start steers ran
  | update change rest ih =>
    obtain ⟨moved, calls, opened⟩ := ih steers.2 ran
    exact ⟨course.own.trans steers.1 moved, calls, opened⟩

/-- Such code listens to nothing else, even if it traps. -/
theorem Program.Steers.listens (steers : program.Steers course start) :
    ∀ opened ∈ (program.run start).subscriptions, course.listens opened.topic := by
  induction program generalizing start with
  | done => simp
  | trap => simp
  | send request callback rest _ ih => exact ih steers.2
  | listen topic callback rest _ ih =>
    intro opened member
    rcases List.mem_cons.mp member with rfl | member
    · exact steers.1.1
    · exact ih steers.2 opened member
  | inspect body ih => exact ih start steers
  | update change rest ih => exact ih steers.2

namespace Network

variable {host : τ → κ} {net next : Network B σ τ κ} {origin : τ}

/-- All that is in flight will move its client on, as the client stands. -/
def Bound (course : Course I σ) (host : τ → κ) (net : Network B σ τ κ) : Prop :=
  ∀ pending ∈ net.flight, ∀ state ∈ net.clients (host pending.origin),
    pending.call.Steers course state

/-- So will all that is listened to. -/
structure Steered (course : Course I σ) (host : τ → κ) (net : Network B σ τ κ) : Prop where
  flight : net.Bound course host
  listeners : ∀ listener ∈ net.listeners, ∀ state ∈ net.clients (host listener.origin),
    listener.subscription.Steers course state

/-- Every client that runs now ran before, and has moved on from there. -/
def Moved (motion : Motion σ) (net next : Network B σ τ κ) : Prop :=
  ∀ client after, next.clients client = some after →
    ∃ before, net.clients client = some before ∧ motion.moves before after

theorem Moved.refl (net : Network B σ τ κ) : net.Moved motion net :=
  fun _ after running => ⟨after, running, motion.refl after⟩

theorem Moved.trans {middle : Network B σ τ κ} (left : net.Moved motion middle)
    (right : middle.Moved motion next) : net.Moved motion next := by
  intro client after running
  obtain ⟨between, known, later⟩ := right client after running
  obtain ⟨before, first, earlier⟩ := left client between known
  exact ⟨before, first, motion.trans earlier later⟩

theorem Moved.mono {other : Motion σ} (moved : net.Moved motion next)
    (weaker : ∀ {before after}, motion.moves before after → other.moves before after) :
    net.Moved other next := by
  intro client after running
  obtain ⟨before, known, beyond⟩ := moved client after running
  exact ⟨before, known, weaker beyond⟩

/-- What is in flight stays bound as its clients move on, whoever moves them. -/
theorem Bound.mono (bound : net.Bound course host) (same : next.flight = net.flight)
    (moved : net.Moved course.toMotion next) : next.Bound course host := by
  intro pending member state running
  obtain ⟨before, known, beyond⟩ := moved _ state running
  exact (bound pending (same ▸ member) before known).mono beyond

theorem Steered.of_idle (idle : net.flight = []) (quiet : net.listeners = []) :
    net.Steered course host :=
  ⟨fun pending member => by simp [idle] at member, fun listener member => by simp [quiet] at member⟩

theorem Bound.serve (bound : net.Bound course host) {index : ℕ} {choice : B.Choice}
    (served : net.serve? index choice = some next) : next.Bound course host := by
  obtain ⟨same, kept⟩ := serve?_flight (fun origin call => ∀ state ∈ net.clients (host origin),
    call.Steers course state) bound served
  rwa [← same] at kept

variable [DecidableEq κ]

/-- Code of this kind moves its client on, and what it sends will. -/
theorem Bound.launch (bound : net.Bound course host)
    (steers : ∀ state ∈ net.clients (host origin), program.Steers course state) :
    (net.launch host origin program).Bound course host ∧
      net.Moved course.own (net.launch host origin program) := by
  have moved : net.Moved course.own (net.launch host origin program) :=
    fun client after running =>
      launch_moves net (fun state running next ran => ((steers state running).run ran).1) running
  refine ⟨?_, moved⟩
  cases running : net.clients (host origin) with
  | none => rwa [launch_trapped running]
  | some state =>
    rw [launch_running running] at moved ⊢
    intro pending member after now
    rcases List.mem_append.mp member with member | member
    · obtain ⟨before, known, beyond⟩ := moved _ after now
      exact (bound pending member before known).mono (course.follows beyond)
    · obtain ⟨call, issued, rfl⟩ := List.mem_map.mp member
      have ran : after ∈ (program.run state).state := by
        simpa only [Function.update_self] using now
      exact ((steers state running).run ran).2.1 call issued

/-- On a course that listens to nothing, no listener is added. -/
theorem listeners_launch (steers : ∀ state ∈ net.clients (host origin), program.Steers course state)
    (silent : ∀ topic, ¬ course.listens topic) :
    (net.launch host origin program).listeners = net.listeners := by
  cases running : net.clients (host origin) with
  | none => rw [launch_trapped running]
  | some state =>
    have none : (program.run state).subscriptions = [] := by
      refine List.eq_nil_iff_forall_not_mem.mpr fun opened member => ?_
      exact silent _ ((steers state running).listens opened member)
    rw [launch_running running, none, List.map_nil, List.append_nil]

/-- A delivery runs code that moves its client on. -/
theorem Bound.deliver (bound : net.Bound course host) {index : ℕ}
    (delivered : net.deliver? host index = some next) :
    ∃ flight origin program, next = Network.launch host { net with flight } origin program ∧
      Bound course host { net with flight } ∧
      ∀ state ∈ net.clients (host origin), program.Steers course state := by
  obtain ⟨before, after, origin, call, answer, split, -, rfl⟩ := deliver?_cases delivered
  have mine := bound ⟨origin, call, some answer⟩ (by simp [split])
  refine ⟨before ++ after, origin, call.callback answer, rfl, fun pending member => ?_, ?_⟩
  · refine bound pending ?_
    simp only [split, List.mem_append, List.mem_cons] at member ⊢
    tauto
  · exact fun state running => mine state running answer state (course.refl state)

theorem Steered.launch (steered : net.Steered course host)
    (steers : ∀ state ∈ net.clients (host origin), program.Steers course state) :
    (net.launch host origin program).Steered course host ∧
      net.Moved course.own (net.launch host origin program) := by
  obtain ⟨bound, moved⟩ := steered.flight.launch steers
  refine ⟨⟨bound, ?_⟩, moved⟩
  cases running : net.clients (host origin) with
  | none =>
    rw [launch_trapped running]
    exact steered.listeners
  | some state =>
    rw [launch_running running] at moved ⊢
    intro listener member after now
    rcases List.mem_append.mp member with member | member
    · obtain ⟨before, known, beyond⟩ := moved _ after now
      exact (steered.listeners listener member before known).mono (course.follows beyond)
    · obtain ⟨subscription, opened, rfl⟩ := List.mem_map.mp member
      have ran : after ∈ (program.run state).state := by
        simpa only [Function.update_self] using now
      exact ((steers state running).run ran).2.2 subscription opened

omit [DecidableEq κ] in
theorem Steered.serve (steered : net.Steered course host) {index : ℕ} {choice : B.Choice}
    (served : net.serve? index choice = some next) :
    next.Steered course host ∧ net.Moved course.own next := by
  have bound := steered.flight.serve served
  obtain ⟨before, after, origin, call, store, answer, -, -, -, rfl⟩ := serve?_cases served
  exact ⟨⟨bound, steered.listeners⟩, Moved.refl net⟩

theorem Steered.deliver (steered : net.Steered course host) {index : ℕ}
    (delivered : net.deliver? host index = some next) :
    next.Steered course host ∧ net.Moved course.own next := by
  obtain ⟨flight, origin, program, rfl, bound, steers⟩ := steered.flight.deliver delivered
  exact Steered.launch ⟨bound, steered.listeners⟩ steers

theorem Steered.notify (steered : net.Steered course host) {index : ℕ} {choice : B.Choice}
    (notified : net.notify? host index choice = some next) :
    next.Steered course host ∧ net.Moved course.own next := by
  obtain ⟨before, after, origin, subscription, cursor, event, seen, split, -, rfl⟩ :=
    notify?_cases notified
  have mine := steered.listeners ⟨origin, subscription, cursor⟩ (by simp [split])
  have rest : Steered course host
      { net with listeners := before ++ ⟨origin, subscription, seen⟩ :: after } := by
    refine ⟨steered.flight, fun listener member => ?_⟩
    simp only [List.mem_append, List.mem_cons] at member
    rcases member with member | rfl | member
    · exact steered.listeners listener (by simp [split, member])
    · exact mine
    · exact steered.listeners listener (by simp [split, member])
  exact rest.launch fun state running => (mine state running).2 event state (course.refl state)

variable {net next final : Network B σ κ κ} {perform : Action → Program I σ}

theorem Steered.event {event : Event B κ Action} (steered : net.Steered course id)
    (acts : ∀ client state, net.clients client = some state → ∀ action,
      (perform action).Steers course state)
    (taken : net.event? perform event = some next) :
    next.Steered course id ∧ net.Moved course.own next := by
  cases event with
  | act client action =>
    obtain rfl := Option.some.inj taken
    exact steered.launch fun state running => acts client state running action
  | signal signal =>
    cases signal with
    | serve index choice => exact steered.serve taken
    | deliver index => exact steered.deliver taken
    | notify index choice => exact steered.notify taken

/-- When every action steers the clients that have a property which moving on keeps, every client
has moved on from where a run started. -/
theorem Steered.run {events : List (Event B κ Action)} {holds : σ → Prop}
    (steered : net.Steered course id)
    (known : ∀ client state, net.clients client = some state → holds state)
    (kept : ∀ {first second}, course.own.moves first second → holds first → holds second)
    (acts : ∀ state, holds state → ∀ action, (perform action).Steers course state)
    (run : Run (fun net event next => net.event? perform event = some next) net events final) :
    final.Steered course id ∧ net.Moved course.own final := by
  apply run.invariant ⟨steered, Moved.refl net⟩
  rintro state event next taken ⟨steered, moved⟩
  have held (client : κ) (now : σ) (running : state.clients client = some now) : holds now := by
    obtain ⟨before, first, beyond⟩ := moved client now running
    exact kept beyond (known client before first)
  obtain ⟨still, beyond⟩ := steered.event
    (fun client now running => acts now (held client now running)) taken
  exact ⟨still, moved.trans beyond⟩

end Network

end Async
