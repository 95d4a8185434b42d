import InstagramClone.Async.Settlement

/-! # What requests in flight will come to

A client's state only moves on in a given way while its code runs, so what code is bound to do can
be told from any state it may be resumed in. A call abides by a rule when it and all calls that
follow from it do; it leads to an aim when, with good answers, one of them is aimed at. Both are
told of the client as it stands, and stay true as it moves on.
-/

namespace Async

variable {I : Interface} {B : Backend I} {σ τ κ : Type}

/-- How a client's state may move on. -/
structure Motion (σ : Type) where
  moves : σ → σ → Prop
  refl : ∀ state, moves state state
  trans : ∀ {first second third}, moves first second → moves second third → moves first third

/-- The call and all that follow from it are within the rule, and their callbacks move the
client on, from the given state on. -/
inductive Call.Abides (motion : Motion σ) (rule : σ → Call I σ → Prop) (start : σ) :
    Call I σ → Prop
  | intro {call : Call I σ} : rule start call →
    (∀ answer state, motion.moves start state →
      ∀ next ∈ ((call.callback answer).run state).state, motion.moves state next) →
    (∀ answer state, motion.moves start state →
      ∀ new ∈ ((call.callback answer).run state).calls, new.Abides motion rule start) →
    call.Abides motion rule start

/-- The call, or one that follows from it when the answers are good, is of the kind aimed at,
unless the client traps. -/
inductive Call.LeadsTo (motion : Motion σ)
    (good : (request : I.Request) → I.Response request → Prop) (aim : I.Request → Prop)
    (start : σ) : Call I σ → Prop
  | aimed {call : Call I σ} : aim call.request → call.LeadsTo motion good aim start
  | through {call : Call I σ} (next : I.Response call.request → σ → Call I σ) :
    (∀ answer state, good call.request answer → motion.moves start state →
      ((call.callback answer).run state).state.isSome = true →
      next answer state ∈ ((call.callback answer).run state).calls) →
    (∀ answer state, good call.request answer → motion.moves start state →
      ((call.callback answer).run state).state.isSome = true →
      (next answer state).LeadsTo motion good aim start) →
    call.LeadsTo motion good aim start

variable {motion : Motion σ} {rule : σ → Call I σ → Prop} {aim : I.Request → Prop}
  {good : (request : I.Request) → I.Response request → Prop} {start later : σ} {call : Call I σ}

namespace Call

theorem Abides.fits (abides : call.Abides motion rule start) : rule start call := by
  cases abides
  assumption

theorem Abides.moves (abides : call.Abides motion rule start) (answer : I.Response call.request)
    {state next : σ} (moved : motion.moves start state)
    (ran : ((call.callback answer).run state).state = some next) : motion.moves state next := by
  cases abides with
  | intro _ moves _ => exact moves answer state moved next ran

private theorem Abides.new (abides : call.Abides motion rule start) (answer : I.Response call.request)
    {state : σ} (moved : motion.moves start state) {new : Call I σ}
    (issued : new ∈ ((call.callback answer).run state).calls) : new.Abides motion rule start := by
  cases abides with
  | intro _ _ follow => exact follow answer state moved new issued

theorem Abides.mono (kept : ∀ {start later call}, motion.moves start later → rule start call →
      rule later call) (abides : call.Abides motion rule start)
    (moved : motion.moves start later) : call.Abides motion rule later := by
  induction abides with
  | intro fits moves follow ih =>
    refine .intro (kept moved fits) ?_ ?_
    · exact fun answer state beyond => moves answer state (motion.trans moved beyond)
    · exact fun answer state beyond => ih answer state (motion.trans moved beyond)

theorem LeadsTo.mono (leads : call.LeadsTo motion good aim start)
    (moved : motion.moves start later) : call.LeadsTo motion good aim later := by
  induction leads with
  | aimed hit => exact .aimed hit
  | through next issued leads ih =>
    refine .through next ?_ ?_
    · exact fun answer state well beyond => issued answer state well (motion.trans moved beyond)
    · exact fun answer state well beyond => ih answer state well (motion.trans moved beyond)

/-- A call leads where its callback goes on to. -/
theorem LeadsTo.after (each : ∀ answer state, good call.request answer → motion.moves start state →
      ((call.callback answer).run state).state.isSome = true →
      ∃ new ∈ ((call.callback answer).run state).calls, new.LeadsTo motion good aim start) :
    call.LeadsTo motion good aim start := by
  classical
  choose next issued leads using each
  refine .through (fun answer state =>
    if fine : good call.request answer ∧ motion.moves start state ∧
        ((call.callback answer).run state).state.isSome = true then
      next answer state fine.1 fine.2.1 fine.2.2 else call) ?_ ?_
  · intro answer state well moved running
    rw [dif_pos ⟨well, moved, running⟩]
    exact issued answer state well moved running
  · intro answer state well moved running
    rw [dif_pos ⟨well, moved, running⟩]
    exact leads answer state well moved running

/-- What a call leads to, once it has a good answer and was not aimed at itself. -/
private theorem LeadsTo.next (leads : call.LeadsTo motion good aim start)
    (other : ¬ aim call.request) {answer : I.Response call.request}
    (well : good call.request answer) {state : σ} (moved : motion.moves start state)
    (running : ((call.callback answer).run state).state.isSome = true) :
    ∃ new ∈ ((call.callback answer).run state).calls, new.LeadsTo motion good aim start := by
  cases leads with
  | aimed hit => exact (other hit).elim
  | through next issued leads =>
    exact ⟨_, issued answer state well moved running, leads answer state well moved running⟩

end Call

/-- Code that preserves every way the client has moved issues only calls that abide. -/
theorem Program.Preserves.abides {asks : I.Request → Prop} {program : Program I σ}
    (fits : ∀ call : Call I σ, asks call.request → rule start call)
    (preserves : ∀ base, program.Preserves asks (motion.moves base)) (state : σ) :
    ∀ call ∈ (program.run state).calls, call.Abides motion rule start := by
  induction program generalizing state with
  | done => simp
  | trap => simp
  | send request callback next each rest =>
    intro call issued
    rcases List.mem_cons.mp issued with rfl | issued
    · refine .intro (fits _ (preserves start).1.1) ?_ ?_
      · intro answer state _ next ran
        exact (((preserves state).1.2 answer).run (motion.refl state)).1 next ran
      · intro answer state _ new issued
        exact each answer (fun base => (preserves base).1.2 answer) state new issued
    · exact rest (fun base => (preserves base).2) state call issued
  | listen topic callback next _ rest => exact rest (fun base => (preserves base).2) state
  | inspect body each => exact each state (fun base => preserves base state) state
  | update change next rest => exact rest (fun base => (preserves base).2) (change state)

theorem Program.Preserves.moves {asks : I.Request → Prop} {program : Program I σ} {state next : σ}
    (preserves : program.Preserves asks (motion.moves state))
    (ran : (program.run state).state = some next) : motion.moves state next :=
  (preserves.run (motion.refl state)).1 next ran

/-- Whatever is answered, the code asks only such requests and moves every client on. -/
def Program.Within (motion : Motion σ) (asks : I.Request → Prop) (program : Program I σ) : Prop :=
  ∀ base, program.Preserves asks (motion.moves base)

def Call.Within (motion : Motion σ) (asks : I.Request → Prop) (call : Call I σ) : Prop :=
  asks call.request ∧ ∀ answer, (call.callback answer).Within motion asks

def Subscription.Within (motion : Motion σ) (asks : I.Request → Prop)
    (subscription : Subscription I σ) : Prop :=
  ∀ event, (subscription.callback event).Within motion asks

/-- Running such code moves the client on, and all that it starts is such code again. -/
theorem Program.Within.run {asks : I.Request → Prop} {program : Program I σ}
    (within : program.Within motion asks) (state : σ) :
    (∀ next ∈ (program.run state).state, motion.moves state next) ∧
      (∀ call ∈ (program.run state).calls, call.Within motion asks) ∧
      ∀ subscription ∈ (program.run state).subscriptions, subscription.Within motion asks := by
  refine ⟨fun next ran => (within state).moves ran, ?_⟩
  induction program generalizing state with
  | done => simp
  | trap => simp
  | send request callback next _ rest =>
    obtain ⟨calls, subscriptions⟩ := rest (fun base => (within base).2) state
    refine ⟨fun call issued => ?_, subscriptions⟩
    rcases List.mem_cons.mp issued with rfl | issued
    · exact ⟨(within state).1.1, fun answer base => (within base).1.2 answer⟩
    · exact calls call issued
  | listen topic callback next _ rest =>
    obtain ⟨calls, subscriptions⟩ := rest (fun base => (within base).2) state
    refine ⟨calls, fun subscription opened => ?_⟩
    rcases List.mem_cons.mp opened with rfl | opened
    · exact fun event base => (within base).1 event
    · exact subscriptions subscription opened
  | inspect body each => exact each state (fun base => within base state) state
  | update change next rest => exact rest (fun base => (within base).2) (change state)

/-- What a request in flight leads to: itself before it is served, then its callback. -/
def Pending.LeadsTo (motion : Motion σ) (good : (request : I.Request) → I.Response request → Prop)
    (aim : I.Request → Prop) (start : σ) (pending : Pending I σ τ) : Prop :=
  match pending.answer with
  | none => pending.call.LeadsTo motion good aim start
  | some answer => ∀ state, motion.moves start state →
    ((pending.call.callback answer).run state).state.isSome = true →
    ∃ new ∈ ((pending.call.callback answer).run state).calls, new.LeadsTo motion good aim start

theorem Pending.LeadsTo.mono {pending : Pending I σ τ}
    (leads : pending.LeadsTo motion good aim start) (moved : motion.moves start later) :
    pending.LeadsTo motion good aim later := by
  rcases pending with ⟨origin, call, answer⟩
  cases answer with
  | none => exact Call.LeadsTo.mono leads moved
  | some answer =>
    intro state beyond running
    obtain ⟨new, issued, leads⟩ := leads state (motion.trans moved beyond) running
    exact ⟨new, issued, leads.mono moved⟩

namespace Network

variable {host : τ → κ} {net next : Network B σ τ κ} {origin : τ} {program : Program I σ}

/-- All that is in flight abides by the rule, as its clients stand. -/
def Abiding (motion : Motion σ) (rule : σ → Call I σ → Prop) (host : τ → κ)
    (net : Network B σ τ κ) : Prop :=
  ∀ pending ∈ net.flight, ∀ state ∈ net.clients (host pending.origin),
    pending.call.Abides motion rule state

/-- Something in flight leads to the aim, as its client stands. -/
def Heads (motion : Motion σ) (good : (request : I.Request) → I.Response request → Prop)
    (aim : I.Request → Prop) (host : τ → κ) (net : Network B σ τ κ) : Prop :=
  ∃ pending ∈ net.flight, ∀ state ∈ net.clients (host pending.origin),
    pending.LeadsTo motion good aim state

variable [DecidableEq κ]

/-- Running code moves its client on and no other. -/
theorem launch_moves (net : Network B σ τ κ) (moves : ∀ state ∈ net.clients (host origin),
      ∀ next ∈ (program.run state).state, motion.moves state next)
    {client : κ} {after : σ} (now : (net.launch host origin program).clients client = some after) :
    ∃ before, net.clients client = some before ∧ motion.moves before after := by
  cases running : net.clients (host origin) with
  | none =>
    rw [launch_trapped running] at now
    exact ⟨after, now, motion.refl after⟩
  | some state =>
    rw [launch_running running] at now
    dsimp only at now
    by_cases same : client = host origin
    · subst same
      rw [Function.update_self] at now
      exact ⟨state, running, moves state running after now⟩
    · rw [Function.update_of_ne same] at now
      exact ⟨after, now, motion.refl after⟩

theorem Abiding.launch (abiding : net.Abiding motion rule host)
    (kept : ∀ {start later call}, motion.moves start later → rule start call → rule later call)
    (moves : ∀ state ∈ net.clients (host origin),
      ∀ next ∈ (program.run state).state, motion.moves state next)
    (issued : ∀ state ∈ net.clients (host origin), ∀ call ∈ (program.run state).calls,
      call.Abides motion rule state) : (net.launch host origin program).Abiding motion rule host := by
  intro pending member after now
  obtain ⟨before, known, moved⟩ := launch_moves net moves now
  cases running : net.clients (host origin) with
  | none =>
    rw [launch_trapped running] at member
    exact (abiding pending member before known).mono kept moved
  | some state =>
    rw [launch_running running] at member
    rcases List.mem_append.mp member with member | member
    · exact (abiding pending member before known).mono kept moved
    · obtain ⟨call, new, rfl⟩ := List.mem_map.mp member
      exact (issued before known call (by
        obtain rfl := Option.some.inj (running.symm.trans known)
        exact new)).mono kept moved

omit [DecidableEq κ] in
theorem Abiding.serve (abiding : net.Abiding motion rule host) {index : ℕ} {choice : B.Choice}
    (served : net.serve? index choice = some next) : next.Abiding motion rule host := by
  obtain ⟨same, kept⟩ := serve?_flight (fun origin call => ∀ state ∈ net.clients (host origin),
    call.Abides motion rule state) abiding served
  rwa [← same] at kept

/-- A callback moves its client on, and what it issues abides in turn. -/
theorem Abiding.deliver (abiding : net.Abiding motion rule host)
    (kept : ∀ {start later call}, motion.moves start later → rule start call → rule later call)
    {index : ℕ} (delivered : net.deliver? host index = some next) :
    next.Abiding motion rule host ∧ ∀ client after, next.clients client = some after →
      ∃ before, net.clients client = some before ∧ motion.moves before after := by
  obtain ⟨before, after, origin, call, answer, split, -, rfl⟩ := deliver?_cases delivered
  have mine := abiding ⟨origin, call, some answer⟩ (by simp [split])
  have rest : Abiding motion rule host { net with flight := before ++ after } := by
    intro pending member
    exact abiding pending (by
      simp only [split, List.mem_append, List.mem_cons] at member ⊢
      tauto)
  have moves : ∀ state ∈ net.clients (host origin),
      ∀ next ∈ ((call.callback answer).run state).state, motion.moves state next :=
    fun state running next ran => (mine state running).moves answer (motion.refl state) ran
  refine ⟨rest.launch kept moves fun state running new issued => ?_, fun client last now => ?_⟩
  · exact (mine state running).new answer (motion.refl state) issued
  · exact launch_moves { net with flight := before ++ after } moves now

theorem Heads.launch (heads : net.Heads motion good aim host)
    (moves : ∀ state ∈ net.clients (host origin),
      ∀ next ∈ (program.run state).state, motion.moves state next) :
    (net.launch host origin program).Heads motion good aim host := by
  obtain ⟨pending, member, leads⟩ := heads
  refine ⟨pending, ?_, fun after now => ?_⟩
  · cases running : net.clients (host origin) with
    | none => rwa [launch_trapped running]
    | some state =>
      rw [launch_running running]
      exact List.mem_append_left _ member
  · obtain ⟨before, known, moved⟩ := launch_moves net moves now
    exact (leads before known).mono moved

/-- Starting code that issues a call that leads to the aim. -/
private theorem heads_launch {state after : σ} {call : Call I σ}
    (running : net.clients (host origin) = some state)
    (ran : (program.run state).state = some after) (moved : motion.moves state after)
    (issued : call ∈ (program.run state).calls) (leads : call.LeadsTo motion good aim state) :
    (net.launch host origin program).Heads motion good aim host := by
  rw [launch_running running]
  refine ⟨⟨origin, call, none⟩, List.mem_append_right _ (List.mem_map_of_mem issued), ?_⟩
  intro last now
  dsimp only at now
  rw [Function.update_self, ran] at now
  obtain rfl := Option.some.inj now
  exact leads.mono moved

omit [DecidableEq κ] in
/-- A request with a good answer was aimed at, or the way leads on. -/
theorem Heads.serve (heads : net.Heads motion good aim host)
    {before after : List (Pending I σ τ)} {call : Call I σ} {store : B.Store}
    {answer : I.Response call.request} (split : net.flight = before ++ ⟨origin, call, none⟩ :: after)
    (other : ¬ aim call.request) (well : good call.request answer) :
    Heads motion good aim host { net with
      store := store
      flight := before ++ ⟨origin, call, some answer⟩ :: after } := by
  obtain ⟨pending, member, leads⟩ := heads
  simp only [split, List.mem_append, List.mem_cons] at member
  rcases member with member | rfl | member
  · exact ⟨pending, by simp [member], leads⟩
  · refine ⟨⟨origin, call, some answer⟩, by simp, fun state running last moved ran => ?_⟩
    exact (leads state running : call.LeadsTo motion good aim state).next other well moved ran
  · exact ⟨pending, by simp [member], leads⟩

/-- While no client traps, deliveries lead on. -/
theorem Heads.deliver (heads : net.Heads motion good aim host)
    (abiding : net.Abiding motion rule host) {index : ℕ}
    (running : ∀ client, (next.clients client).isSome = true)
    (delivered : net.deliver? host index = some next) : next.Heads motion good aim host := by
  obtain ⟨before, after, origin, call, answer, split, -, rfl⟩ := deliver?_cases delivered
  have mine := abiding ⟨origin, call, some answer⟩ (by simp [split])
  have moves : ∀ state ∈ net.clients (host origin),
      ∀ next ∈ ((call.callback answer).run state).state, motion.moves state next :=
    fun state running next ran => (mine state running).moves answer (motion.refl state) ran
  obtain ⟨pending, member, leads⟩ := heads
  have elsewhere (left : pending ∈ before ++ after) :
      Heads motion good aim host { net with flight := before ++ after } := ⟨pending, left, leads⟩
  simp only [split, List.mem_append, List.mem_cons] at member
  rcases member with member | rfl | member
  · exact (elsewhere (List.mem_append_left _ member)).launch moves
  · obtain ⟨last, now⟩ := Option.isSome_iff_exists.mp (running (host origin))
    obtain ⟨state, known, -⟩ := launch_moves { net with flight := before ++ after } moves now
    have ran : ((call.callback answer).run state).state = some last := by
      rw [launch_running known] at now
      simpa using now
    obtain ⟨new, issued, leads⟩ := leads state known state (motion.refl state) (by simp [ran])
    exact heads_launch known ran (moves state known last ran) issued leads
  · exact (elsewhere (List.mem_append_right _ member)).launch moves

end Network

end Async
