import Mathlib.Data.List.Basic

/-! # Callback programs

A program is what one piece of client code does when it runs: it reads and changes the client's
own state, issues requests whose answers reach a callback later, subscribes to topics, and may
trap. Running it changes only the client and lists what it issued; the answers are the business
of a network (`Async.Network`). Callbacks are programs again, so a chain of dependent requests is
one tree, in the shape of the nested completion handlers it stands for.
-/

namespace Async

/-- What clients may ask of a backend, and the answer each request receives. -/
structure Interface where
  Request : Type
  Response : Request → Type
  Topic : Type
  Event : Topic → Type

/-- Client code over a client state: the completion handlers are the callbacks. -/
inductive Program (I : Interface) (σ : Type) : Type
  | done
  | trap
  | send (request : I.Request) (callback : I.Response request → Program I σ) (next : Program I σ)
  | listen (topic : I.Topic) (callback : I.Event topic → Program I σ) (next : Program I σ)
  | inspect (body : σ → Program I σ)
  | update (change : σ → σ) (next : Program I σ)

/-- An issued request with the code awaiting its answer. -/
structure Call (I : Interface) (σ : Type) where
  request : I.Request
  callback : I.Response request → Program I σ

/-- An open subscription with the code run at each of its events. -/
structure Subscription (I : Interface) (σ : Type) where
  topic : I.Topic
  callback : I.Event topic → Program I σ

/-- The client after a program ran (`none` once it has trapped), and what the program issued. -/
structure Effect (I : Interface) (σ : Type) where
  state : Option σ
  calls : List (Call I σ) := []
  subscriptions : List (Subscription I σ) := []

namespace Program

variable {I : Interface} {σ α : Type}

/-- Issue a request whose answer nobody reads. -/
def post (request : I.Request) : Program I σ := send request (fun _ => done) done

/-- First one program, then, unless it traps, another. -/
def seq : Program I σ → Program I σ → Program I σ
  | done, last => last
  | trap, _ => trap
  | send request callback next, last => send request callback (next.seq last)
  | listen topic callback next, last => listen topic callback (next.seq last)
  | inspect body, last => inspect fun state => (body state).seq last
  | update change next, last => update change (next.seq last)

/-- Run a body for every item of a list, in order. -/
def forEach (items : List α) (body : α → Program I σ) : Program I σ :=
  items.foldr (fun item rest => (body item).seq rest) done

/-- Run client code on the client's state. -/
def run : Program I σ → σ → Effect I σ
  | done, state => ⟨some state, [], []⟩
  | trap, _ => ⟨none, [], []⟩
  | send request callback next, state =>
    { next.run state with calls := ⟨request, callback⟩ :: (next.run state).calls }
  | listen topic callback next, state =>
    { next.run state with subscriptions := ⟨topic, callback⟩ :: (next.run state).subscriptions }
  | inspect body, state => (body state).run state
  | update change next, state => next.run (change state)

@[simp] theorem run_done (state : σ) : (done : Program I σ).run state = ⟨some state, [], []⟩ := rfl

@[simp] theorem run_trap (state : σ) : (trap : Program I σ).run state = ⟨none, [], []⟩ := rfl

@[simp] theorem run_send (request : I.Request) (callback : I.Response request → Program I σ)
    (next : Program I σ) (state : σ) : (send request callback next).run state =
      { next.run state with calls := ⟨request, callback⟩ :: (next.run state).calls } := rfl

@[simp] theorem run_listen (topic : I.Topic) (callback : I.Event topic → Program I σ)
    (next : Program I σ) (state : σ) : (listen topic callback next).run state =
      { next.run state with
        subscriptions := ⟨topic, callback⟩ :: (next.run state).subscriptions } := rfl

@[simp] theorem run_inspect (body : σ → Program I σ) (state : σ) :
    (inspect body).run state = (body state).run state := rfl

@[simp] theorem run_update (change : σ → σ) (next : Program I σ) (state : σ) :
    (update change next).run state = next.run (change state) := rfl

@[simp] theorem run_post (request : I.Request) (state : σ) :
    (post request).run state = ⟨some state, [⟨request, fun _ => done⟩], []⟩ := rfl

@[simp] theorem done_seq (last : Program I σ) : done.seq last = last := rfl

@[simp] theorem seq_done (program : Program I σ) : program.seq done = program := by
  induction program with
  | done => rfl
  | trap => rfl
  | send request callback next _ ih => exact congrArg (send request callback) ih
  | listen topic callback next _ ih => exact congrArg (listen topic callback) ih
  | inspect body ih => exact congrArg inspect (funext ih)
  | update change next ih => exact congrArg (update change) ih

@[simp] theorem post_seq (request : I.Request) (last : Program I σ) :
    (post request).seq last = send request (fun _ => done) last := rfl

@[simp] theorem send_seq (request : I.Request) (callback : I.Response request → Program I σ)
    (next last : Program I σ) :
    (send request callback next).seq last = send request callback (next.seq last) := rfl

@[simp] theorem inspect_seq (body : σ → Program I σ) (last : Program I σ) :
    (inspect body).seq last = inspect fun state => (body state).seq last := rfl

@[simp] theorem update_seq (change : σ → σ) (next last : Program I σ) :
    (update change next).seq last = update change (next.seq last) := rfl

@[simp] theorem forEach_nil (body : α → Program I σ) : forEach [] body = done := rfl

@[simp] theorem forEach_cons (item : α) (items : List α) (body : α → Program I σ) :
    forEach (item :: items) body = (body item).seq (forEach items body) := rfl

/-- One program after another that left the client in this state. -/
theorem run_seq {first : Program I σ} {state later : σ} {calls : List (Call I σ)}
    (ran : first.run state = ⟨some later, calls, []⟩) (last : Program I σ) :
    (first.seq last).run state =
      { last.run later with calls := calls ++ (last.run later).calls } := by
  induction first generalizing state calls with
  | done =>
    cases ran
    rfl
  | trap => cases ran
  | send request callback next _ ih =>
    simp only [run_send, Effect.mk.injEq] at ran
    obtain ⟨ended, rfl, quiet⟩ := ran
    have rest : next.run state = ⟨some later, (next.run state).calls, []⟩ := by
      rw [← ended, ← quiet]
    simp only [send_seq, run_send, ih rest]
    rfl
  | listen topic callback next _ ih => simp at ran
  | inspect body ih => exact ih state ran
  | update change next ih => exact ih ran

/-- A loop whose passes leave the client as it is issues what the passes issue, in list order. -/
theorem run_forEach {items : List α} {body : α → Program I σ} {state : σ}
    {calls : α → List (Call I σ)}
    (each : ∀ item ∈ items, (body item).run state = ⟨some state, calls item, []⟩) :
    (forEach items body).run state = ⟨some state, items.flatMap calls, []⟩ := by
  induction items with
  | nil => rfl
  | cons item rest ih =>
    have last := ih fun other member => each other (List.mem_cons_of_mem _ member)
    rw [forEach_cons, run_seq (each item (List.mem_cons_self ..)), last]
    rfl

/-- A loop that only posts requests issues them in list order and changes nothing. -/
theorem run_forEach_post (items : List α) (request : α → I.Request) (state : σ) :
    (forEach items fun item => post (I := I) (request item)).run state =
      ⟨some state, items.map fun item => ⟨request item, fun _ => done⟩, []⟩ := by
  induction items with
  | nil => rfl
  | cons item rest ih => simp [ih]

end Program

end Async
