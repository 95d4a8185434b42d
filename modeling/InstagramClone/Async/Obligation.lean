import InstagramClone.Async.Contract

/-! # What a program brings about

Under a contract that protects a goal once it holds, a program brings the goal about when it holds
already, or some request it issues does so: the request itself when it is served, or in turn its
callback. The obligation is then met or carried by something in flight in every later state, so
it is met as soon as nothing is in flight.
-/

namespace Async

variable {I : Interface} {B : Backend I} {σ τ κ α : Type}

/-- The goal stays true as the store evolves. -/
def Contract.Protects (C : Contract I B.Store σ τ) (goal : B.Store → Prop) : Prop :=
  ∀ {store later}, C.evolves store later → goal store → goal later

/-- Once the program has run and everything it issues has been answered, the goal holds. -/
def Program.Brings (C : Contract I B.Store σ τ) (chosen : B.Choice → Prop)
    (goal : B.Store → Prop) (origin : τ) : Program I σ → B.Store → Prop
  | .done, store => goal store
  | .trap, store => goal store
  | .send request callback next, store => next.Brings C chosen goal origin store ∨
    ∀ later choice after answer, C.evolves store later → C.invariant later → chosen choice →
      B.serve choice later request = some (after, answer) →
      (callback answer).Brings C chosen goal origin after
  | .listen _ _ next, store => next.Brings C chosen goal origin store
  | .inspect body, store => ∀ later state, C.evolves store later → C.holds origin later state →
    (body state).Brings C chosen goal origin later
  | .update _ next, store => next.Brings C chosen goal origin store

/-- Serving the request brings the goal about, at once or through its callback. -/
def Call.Carries (C : Contract I B.Store σ τ) (chosen : B.Choice → Prop) (goal : B.Store → Prop)
    (origin : τ) (store : B.Store) (call : Call I σ) : Prop :=
  ∀ later choice after answer, C.evolves store later → C.invariant later → chosen choice →
    B.serve choice later call.request = some (after, answer) →
    (call.callback answer).Brings C chosen goal origin after

def Pending.Carries (C : Contract I B.Store σ τ) (chosen : B.Choice → Prop)
    (goal : B.Store → Prop) (store : B.Store) (pending : Pending I σ τ) : Prop :=
  match pending.answer with
  | none => pending.call.Carries C chosen goal pending.origin store
  | some answer => (pending.call.callback answer).Brings C chosen goal pending.origin store

variable {C : Contract I B.Store σ τ} {chosen : B.Choice → Prop} {goal : B.Store → Prop}
  {origin : τ} {store later : B.Store} {program : Program I σ}

/-- A goal that holds is brought about by any program. -/
theorem Program.Brings.of_goal (protects : C.Protects goal) (met : goal store) :
    program.Brings C chosen goal origin store := by
  induction program generalizing store with
  | done => exact met
  | trap => exact met
  | send request callback next _ ih => exact .inl (ih met)
  | listen topic callback next _ ih => exact ih met
  | inspect body ih =>
    intro later state evolves _
    exact ih state (protects evolves met)
  | update change next ih => exact ih met

theorem Program.Brings.mono (protects : C.Protects goal)
    (brings : program.Brings C chosen goal origin store) (evolves : C.evolves store later) :
    program.Brings C chosen goal origin later := by
  induction program with
  | done => exact protects evolves brings
  | trap => exact protects evolves brings
  | send request callback next _ ih =>
    refine brings.imp ih fun carries last choice after answer beyond => ?_
    exact carries last choice after answer (C.trans evolves beyond)
  | listen topic callback next _ ih => exact ih brings
  | inspect body _ =>
    intro last state beyond
    exact brings last state (C.trans evolves beyond)
  | update change next ih => exact ih brings

/-- A sequence brings about what its second part does, provided the first does not trap. -/
theorem Program.Brings.seq {first last : Program I σ} (mayNot : ¬ C.mayTrap)
    (protects : C.Protects goal) (keeps : first.Keeps C origin store)
    (brings : last.Brings C chosen goal origin store) :
    (first.seq last).Brings C chosen goal origin store := by
  induction first generalizing store with
  | done => exact brings
  | trap => exact (mayNot keeps).elim
  | send request callback next _ ih => exact .inl (ih keeps.2 brings)
  | listen topic callback next _ ih => exact ih keeps.2 brings
  | inspect body ih =>
    intro later state evolves valid
    exact ih state (keeps later state evolves valid) (brings.mono protects evolves)
  | update change next ih => exact ih keeps.2 brings

/-- A sequence brings about what its first part does. -/
theorem Program.Brings.seq_left {first last : Program I σ} (protects : C.Protects goal)
    (brings : first.Brings C chosen goal origin store) :
    (first.seq last).Brings C chosen goal origin store := by
  induction first generalizing store with
  | done => exact .of_goal protects brings
  | trap => exact brings
  | send request callback next _ ih => exact brings.imp ih id
  | listen topic callback next _ ih => exact ih brings
  | inspect body ih =>
    intro later state evolves valid
    exact ih state (brings later state evolves valid)
  | update change next ih => exact ih brings

/-- A loop brings about what its body does for one of the items. -/
theorem Program.brings_forEach {items : List α} {body : α → Program I σ} {item : α}
    (mayNot : ¬ C.mayTrap) (protects : C.Protects goal) (member : item ∈ items)
    (keeps : ∀ other ∈ items, (body other).Keeps C origin store)
    (brings : (body item).Brings C chosen goal origin store) :
    (forEach items body).Brings C chosen goal origin store := by
  induction items with
  | nil => cases member
  | cons head rest ih =>
    rcases List.mem_cons.mp member with rfl | member
    · exact brings.seq_left protects
    · exact .seq mayNot protects (keeps head (List.mem_cons_self ..))
        (ih member fun other present => keeps other (List.mem_cons_of_mem _ present))

/-- Running a program that brings the goal about: it holds, or a request issued carries it. -/
theorem Program.Brings.run {state : σ} (keeps : program.Keeps C origin store)
    (brings : program.Brings C chosen goal origin store) (valid : C.holds origin store state) :
    goal store ∨ ∃ call ∈ (program.run state).calls, call.Carries C chosen goal origin store := by
  induction program generalizing state with
  | done => exact .inl brings
  | trap => exact .inl brings
  | send request callback next _ ih =>
    rcases brings with later | carries
    · refine (ih keeps.2 later valid).imp id fun ⟨call, member, carries⟩ => ?_
      exact ⟨call, List.mem_cons_of_mem _ member, carries⟩
    · exact .inr ⟨_, List.mem_cons_self .., carries⟩
  | listen topic callback next _ ih => exact ih keeps.2 brings valid
  | inspect body ih =>
    exact ih state (keeps store state (C.refl store) valid) (brings store state (C.refl store) valid)
      valid
  | update change next ih =>
    exact ih keeps.2 brings (keeps.1 store state (C.refl store) valid)

theorem Pending.Carries.mono {pending : Pending I σ τ} (protects : C.Protects goal)
    (carries : pending.Carries C chosen goal store) (evolves : C.evolves store later) :
    pending.Carries C chosen goal later := by
  rcases pending with ⟨origin, call, answer⟩
  cases answer with
  | none =>
    intro last choice after answer beyond
    exact carries last choice after answer (C.trans evolves beyond)
  | some answer => exact Program.Brings.mono protects carries evolves

namespace Network

variable {net next : Network B σ τ κ} {host : τ → κ}

/-- The goal holds, or something in flight brings it about. -/
def Owes (C : Contract I B.Store σ τ) (chosen : B.Choice → Prop) (goal : B.Store → Prop)
    (net : Network B σ τ κ) : Prop :=
  goal net.store ∨ ∃ pending ∈ net.flight, pending.Carries C chosen goal net.store

theorem Owes.met (owes : net.Owes C chosen goal) (idle : net.flight = []) : goal net.store := by
  rcases owes with met | ⟨pending, member, -⟩
  · exact met
  · simp [idle] at member

variable [DecidableEq κ]

/-- Launching more code leaves an obligation as it is. -/
theorem Owes.launch (owes : net.Owes C chosen goal) (origin : τ) (program : Program I σ) :
    (net.launch host origin program).Owes C chosen goal := by
  cases running : net.clients (host origin) with
  | none => rwa [launch_trapped running]
  | some state =>
    rw [launch_running running]
    refine owes.imp id fun ⟨pending, member, carries⟩ => ?_
    exact ⟨pending, List.mem_append_left _ member, carries⟩

/-- Launching a program that brings the goal about. -/
theorem Sound.owes_launch (sound : net.Sound C host) (mayNot : ¬ C.mayTrap)
    (keeps : program.Keeps C origin net.store)
    (brings : program.Brings C chosen goal origin net.store) :
    (net.launch host origin program).Owes C chosen goal := by
  cases running : net.clients (host origin) with
  | none => exact (mayNot (sound.running origin running)).elim
  | some state =>
    rw [launch_running running]
    refine (brings.run keeps (sound.clients origin state running)).imp id
      fun ⟨call, issued, carries⟩ => ⟨⟨origin, call, none⟩, ?_, carries⟩
    exact List.mem_append_right _ (List.mem_map_of_mem issued)

omit [DecidableEq κ] in
/-- Serving a request meets the obligations it carries, or hands them to its callback. -/
theorem Owes.serve (owes : net.Owes C chosen goal) (sound : net.Sound C host)
    (protects : C.Protects goal) (lawful : B.Lawful C chosen) {index : ℕ} {choice : B.Choice}
    (legal : chosen choice) (served : net.serve? index choice = some next) :
    next.Owes C chosen goal := by
  have evolves := (sound.serve lawful legal served).2
  obtain ⟨before, after, origin, call, store, answer, split, -, resolved, rfl⟩ :=
    serve?_cases served
  rcases owes with met | ⟨pending, member, carries⟩
  · exact .inl (protects evolves met)
  · right
    simp only [split, List.mem_append, List.mem_cons] at member
    rcases member with member | rfl | member
    · exact ⟨pending, by simp [member], carries.mono protects evolves⟩
    · exact ⟨⟨origin, call, some answer⟩, by simp,
        carries net.store choice store answer (C.refl _) sound.store legal resolved⟩
    · exact ⟨pending, by simp [member], carries.mono protects evolves⟩

/-- Delivering an answer runs the callback that carries the obligation on. -/
theorem Owes.deliver (owes : net.Owes C chosen goal) (sound : net.Sound C host)
    (mayNot : ¬ C.mayTrap) {index : ℕ} (delivered : net.deliver? host index = some next) :
    next.Owes C chosen goal := by
  obtain ⟨before, after, origin, call, answer, split, -, rfl⟩ := deliver?_cases delivered
  have kept : ∀ pending ∈ before ++ after, pending ∈ net.flight := by
    intro pending member
    simp only [split, List.mem_append, List.mem_cons] at member ⊢
    tauto
  have rest : Sound C host { net with flight := before ++ after } :=
    ⟨sound.store, sound.running, sound.clients,
      fun pending member => sound.flight pending (kept pending member), sound.listeners⟩
  rcases owes with met | ⟨pending, member, carries⟩
  · have still : Owes C chosen goal { net with flight := before ++ after } := .inl met
    exact still.launch origin _
  · simp only [split, List.mem_append, List.mem_cons] at member
    have elsewhere (left : pending ∈ before ++ after) :
        Owes C chosen goal { net with flight := before ++ after } := .inr ⟨pending, left, carries⟩
    rcases member with member | rfl | member
    · exact (elsewhere (List.mem_append_left _ member)).launch origin _
    · exact rest.owes_launch mayNot
        (sound.flight ⟨origin, call, some answer⟩ (by simp [split])).2 carries
    · exact (elsewhere (List.mem_append_right _ member)).launch origin _

theorem Owes.notify (owes : net.Owes C chosen goal) {index : ℕ} {choice : B.Choice}
    (notified : net.notify? host index choice = some next) : next.Owes C chosen goal := by
  obtain ⟨before, after, origin, subscription, cursor, event, seen, -, -, rfl⟩ :=
    notify?_cases notified
  have same : Owes C chosen goal
      { net with listeners := before ++ ⟨origin, subscription, seen⟩ :: after } := owes
  exact same.launch origin _

end Network

end Async
