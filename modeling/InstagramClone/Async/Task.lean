import InstagramClone.Async.Obligation

/-! # Actions that run to completion

When a client acts only while nothing is in flight, each action can be given a contract of its
own, with goals that its program brings about. Once it has run to completion the store has
evolved as the contract allows and the goals are met.
-/

namespace Async

variable {I : Interface} {B : Backend I} {σ τ κ : Type}

/-- A contract for one action, with what the action brings about. -/
structure Task (B : Backend I) (chosen : B.Choice → Prop) (host : τ → κ) (ready : κ → σ → Prop)
    where
  contract : Contract I B.Store σ τ
  goals : Set (B.Store → Prop)
  lawful : B.Lawful contract chosen
  mayNot : ¬ contract.mayTrap
  holds_iff : ∀ origin store state, contract.holds origin store state ↔ ready (host origin) state
  closed : ∀ origin store topic, ¬ contract.opens origin store topic
  protects : ∀ goal ∈ goals, contract.Protects goal

variable {chosen : B.Choice → Prop} {host : τ → κ} {ready : κ → σ → Prop}
  {task : Task B chosen host ready} {start : B.Store} {net next : Network B σ τ κ}

/-- A network in which every client is ready, and nothing is in flight or listened to. -/
structure Network.Quiescent (host : τ → κ) (ready : κ → σ → Prop) (net : Network B σ τ κ) :
    Prop where
  clients : ∀ origin, ∃ state, net.clients (host origin) = some state ∧ ready (host origin) state
  flight : net.flight = []
  listeners : net.listeners = []

namespace Task

/-- The action is under way since the given store. -/
structure Progress (task : Task B chosen host ready) (start : B.Store) (net : Network B σ τ κ) :
    Prop where
  sound : net.Sound task.contract host
  evolves : task.contract.evolves start net.store
  owes : ∀ goal ∈ task.goals, net.Owes task.contract chosen goal

/-- An action that is over leaves the network quiescent, within its contract, its goals met. -/
theorem Progress.over (progress : task.Progress start net) (idle : net.flight = []) :
    net.Quiescent host ready ∧ task.contract.evolves start net.store ∧
      ∀ goal ∈ task.goals, goal net.store := by
  refine ⟨⟨fun origin => ?_, idle, ?_⟩, progress.evolves, fun goal member =>
    (progress.owes goal member).met idle⟩
  · cases running : net.clients (host origin) with
    | none => exact (task.mayNot (progress.sound.running origin running)).elim
    | some state =>
      exact ⟨state, rfl, (task.holds_iff ..).mp (progress.sound.clients origin state running)⟩
  · refine List.eq_nil_iff_forall_not_mem.mpr fun listener member => ?_
    exact task.closed _ _ _ (progress.sound.listeners listener member).1

private theorem shared {first second : τ} (same : host first = host second) {store : B.Store}
    {state : σ} (valid : task.contract.holds first store state) : task.contract.holds second store state := by
  rw [task.holds_iff] at valid ⊢
  rwa [← same]

/-- A quiescent network is sound for any action. -/
theorem sound_of_quiescent (quiescent : net.Quiescent host ready)
    (invariant : task.contract.invariant net.store) : net.Sound task.contract host := by
  refine ⟨invariant, fun other trapped => ?_, fun other state running => ?_, ?_, ?_⟩
  · obtain ⟨state, running, -⟩ := quiescent.clients other
    simp [running] at trapped
  · obtain ⟨found, present, valid⟩ := quiescent.clients other
    obtain rfl := Option.some.inj (present.symm.trans running)
    exact (task.holds_iff ..).mpr valid
  · simp [quiescent.flight]
  · simp [quiescent.listeners]

/-- An action whose goals are met has made its progress. -/
theorem progress_of_quiescent (quiescent : net.Quiescent host ready)
    (invariant : task.contract.invariant net.store) (met : ∀ goal ∈ task.goals, goal net.store) :
    task.Progress net.store net :=
  ⟨sound_of_quiescent quiescent invariant, task.contract.refl _, fun goal member =>
    .inl (met goal member)⟩

variable [DecidableEq κ]

/-- Starting an action on a quiescent network. -/
theorem progress_launch {origin : τ} {program : Program I σ}
    (quiescent : net.Quiescent host ready) (invariant : task.contract.invariant net.store)
    (keeps : program.Keeps task.contract origin net.store)
    (brings : ∀ goal ∈ task.goals, program.Brings task.contract chosen goal origin net.store) :
    task.Progress net.store (net.launch host origin program) := by
  have sound : net.Sound task.contract host := sound_of_quiescent quiescent invariant
  refine ⟨sound.launch shared keeps, ?_, fun goal member =>
    sound.owes_launch task.mayNot keeps (brings goal member)⟩
  rw [Network.launch_store]
  exact task.contract.refl _

omit [DecidableEq κ] in
theorem Progress.serve (progress : task.Progress start net) {index : ℕ} {choice : B.Choice}
    (legal : chosen choice) (served : net.serve? index choice = some next) :
    task.Progress start next := by
  obtain ⟨sound, evolves⟩ := progress.sound.serve task.lawful legal served
  exact ⟨sound, task.contract.trans progress.evolves evolves, fun goal member =>
    (progress.owes goal member).serve progress.sound (task.protects goal member) task.lawful legal
      served⟩

theorem Progress.deliver (progress : task.Progress start net) {index : ℕ}
    (delivered : net.deliver? host index = some next) : task.Progress start next := by
  have store : next.store = net.store := by
    obtain ⟨_, _, _, _, _, -, -, rfl⟩ := Network.deliver?_cases delivered
    exact Network.launch_store ..
  exact ⟨progress.sound.deliver shared delivered, store ▸ progress.evolves, fun goal member =>
    (progress.owes goal member).deliver progress.sound task.mayNot delivered⟩

/-- Nothing is listened to while an action is under way. -/
theorem Progress.not_notify (progress : task.Progress start net) {index : ℕ} {choice : B.Choice} :
    net.notify? host index choice ≠ some next := by
  intro notified
  obtain ⟨_, _, origin, subscription, cursor, _, _, split, -⟩ := Network.notify?_cases notified
  have opened := (progress.sound.listeners ⟨origin, subscription, cursor⟩ (by simp [split])).1
  exact task.closed _ _ _ opened

end Task

end Async
