import InstagramClone.Async.Completion

/-! # Answers that stop a client

Code may trap when it is given one of certain answers, and never otherwise. A client that runs such
code alone has trapped in the end exactly when one of these answers was served.
-/

namespace Async

variable {I : Interface} {B : Backend I} {σ α : Type}
  {succeeded : (request : I.Request) → I.Response request → Bool} {fatal : Served I → Prop}

namespace Program

variable {program first last : Program I σ}

/-- The code traps when it is given a fatal answer, and at no other time. -/
def TrapsAt (succeeded : (request : I.Request) → I.Response request → Bool)
    (fatal : Served I → Prop) : Program I σ → Prop
  | done => True
  | trap => False
  | send request callback next =>
    (∀ answer, (fatal ⟨request, succeeded request answer⟩ → callback answer = trap) ∧
        (¬ fatal ⟨request, succeeded request answer⟩ →
          (callback answer).TrapsAt succeeded fatal)) ∧
      next.TrapsAt succeeded fatal
  | listen _ callback next =>
    (∀ event, (callback event).TrapsAt succeeded fatal) ∧ next.TrapsAt succeeded fatal
  | inspect body => ∀ state, (body state).TrapsAt succeeded fatal
  | update _ next => next.TrapsAt succeeded fatal

theorem TrapsAt.seq (left : first.TrapsAt succeeded fatal) (right : last.TrapsAt succeeded fatal) :
    (first.seq last).TrapsAt succeeded fatal := by
  induction first with
  | done => exact right
  | trap => cases left
  | send request callback next answers ih =>
    refine ⟨fun answer => ⟨fun deadly => ?_, fun harmless => ?_⟩, ih left.2⟩
    · exact (left.1 answer).1 deadly
    · exact (left.1 answer).2 harmless
  | listen topic callback next _ ih => exact ⟨left.1, ih left.2⟩
  | inspect body ih => exact fun state => ih state (left state)
  | update change next ih => exact ih left

/-- Requests whose answers nobody reads, when none of their answers is fatal. -/
theorem trapsAt_posts {items : List α} {request : α → I.Request}
    (harmless : ∀ item ∈ items, ∀ outcome, ¬ fatal ⟨request item, outcome⟩) :
    (forEach items fun item => post (request item) : Program I σ).TrapsAt succeeded fatal := by
  induction items with
  | nil => trivial
  | cons item rest ih =>
    refine TrapsAt.seq ⟨fun answer => ⟨fun deadly => ?_, fun _ => trivial⟩, trivial⟩ (ih ?_)
    · exact absurd deadly (harmless item (List.mem_cons_self ..) _)
    · exact fun other member => harmless other (List.mem_cons_of_mem _ member)

end Program

/-- The callback traps at fatal answers only. -/
def Call.TrapsAt (succeeded : (request : I.Request) → I.Response request → Bool)
    (fatal : Served I → Prop) (call : Call I σ) : Prop :=
  ∀ answer, (fatal ⟨call.request, succeeded call.request answer⟩ → call.callback answer = .trap) ∧
    (¬ fatal ⟨call.request, succeeded call.request answer⟩ →
      (call.callback answer).TrapsAt succeeded fatal)

/-- Such code does not trap before it is given an answer. -/
theorem Program.TrapsAt.run {program : Program I σ} (traps : program.TrapsAt succeeded fatal)
    (state : σ) : (program.run state).state ≠ none ∧
      (∀ call ∈ (program.run state).calls, call.TrapsAt succeeded fatal) ∧
      ∀ subscription ∈ (program.run state).subscriptions,
        ∀ event, (subscription.callback event).TrapsAt succeeded fatal := by
  induction program generalizing state with
  | done => exact ⟨by simp, by simp, by simp⟩
  | trap => cases traps
  | send request callback next _ ih =>
    obtain ⟨running, calls, subscriptions⟩ := ih traps.2 state
    exact ⟨running, List.forall_mem_cons.mpr ⟨traps.1, calls⟩, subscriptions⟩
  | listen topic callback next _ ih =>
    obtain ⟨running, calls, subscriptions⟩ := ih traps.2 state
    exact ⟨running, calls, List.forall_mem_cons.mpr ⟨traps.1, subscriptions⟩⟩
  | inspect body ih => exact ih state (traps state) state
  | update change next ih => exact ih traps (change state)

namespace Network

/-- The entry that the record has of a served request. -/
def entry? (succeeded : (request : I.Request) → I.Response request → Bool)
    (pending : Pending I σ Unit) : Option (Served I) :=
  pending.answer.map fun answer => ⟨pending.call.request, succeeded pending.call.request answer⟩

/-- The client has trapped at a fatal answer, or all fatal ones are still to be delivered. -/
structure Wary (fatal : Served I → Prop) (net : Network (B.recorded succeeded) σ Unit Unit) :
    Prop where
  calls : ∀ pending ∈ net.flight, pending.call.TrapsAt succeeded fatal
  listeners : ∀ listener ∈ net.listeners,
    ∀ event, (listener.subscription.callback event).TrapsAt succeeded fatal
  recorded : ∀ pending ∈ net.flight, ∀ entry ∈ entry? succeeded pending, entry ∈ net.store.served
  trapped : net.clients () = none → ∃ entry ∈ net.store.served, fatal entry
  running : net.clients () ≠ none → ∀ entry ∈ net.store.served, fatal entry →
    ∃ pending ∈ net.flight, entry? succeeded pending = some entry

variable {net next final : Network (B.recorded succeeded) σ Unit Unit} {program : Program I σ}

private theorem Wary.launch (wary : net.Wary fatal) (traps : program.TrapsAt succeeded fatal) :
    (net.launch id () program).Wary fatal := by
  cases running : net.clients (id ()) with
  | none => rwa [launch_trapped running]
  | some state =>
    rw [launch_running running]
    obtain ⟨alive, calls, subscriptions⟩ := traps.run state
    refine ⟨fun pending member => ?_, fun listener member => ?_, fun pending member entry named => ?_,
      fun trapped => ?_, fun _ entry served deadly => ?_⟩
    · rcases List.mem_append.mp member with member | member
      · exact wary.calls pending member
      · obtain ⟨call, issued, rfl⟩ := List.mem_map.mp member
        exact calls call issued
    · rcases List.mem_append.mp member with member | member
      · exact wary.listeners listener member
      · obtain ⟨subscription, opened, rfl⟩ := List.mem_map.mp member
        exact subscriptions subscription opened
    · rcases List.mem_append.mp member with member | member
      · exact wary.recorded pending member entry named
      · obtain ⟨call, issued, rfl⟩ := List.mem_map.mp member
        cases named
    · simp only [id, Function.update_self] at trapped
      exact absurd trapped alive
    · have shown : net.clients () ≠ none := running ▸ Option.some_ne_none state
      obtain ⟨pending, member, same⟩ := wary.running shown entry served deadly
      exact ⟨pending, List.mem_append_left _ member, same⟩

private theorem Wary.serve (wary : net.Wary fatal) {index : ℕ} {choice : B.Choice}
    (served : net.serve? index choice = some next) : next.Wary fatal := by
  obtain ⟨before, after, origin, call, store, answer, split, -, resolved, rfl⟩ := serve?_cases served
  obtain ⟨-, grown⟩ := recorded_serve resolved
  have kept {entry : Served I} (old : entry ∈ net.store.served) : entry ∈ store.served :=
    grown ▸ List.mem_append_left _ old
  have mine : (⟨call.request, succeeded call.request answer⟩ : Served I) ∈ store.served :=
    grown ▸ List.mem_append_right _ (List.mem_singleton.mpr rfl)
  refine ⟨fun pending member => ?_, wary.listeners, fun pending member entry named => ?_,
    fun trapped => ?_, fun running entry member deadly => ?_⟩
  · simp only [List.mem_append, List.mem_cons] at member
    rcases member with member | rfl | member
    · exact wary.calls pending (by simp [split, member])
    · exact wary.calls ⟨origin, call, none⟩ (by simp [split])
    · exact wary.calls pending (by simp [split, member])
  · simp only [List.mem_append, List.mem_cons] at member
    rcases member with member | rfl | member
    · exact kept (wary.recorded pending (by simp [split, member]) entry named)
    · obtain rfl := Option.some.inj named
      exact mine
    · exact kept (wary.recorded pending (by simp [split, member]) entry named)
  · obtain ⟨entry, member, deadly⟩ := wary.trapped trapped
    exact ⟨entry, kept member, deadly⟩
  · dsimp only at member
    rw [grown] at member
    rcases List.mem_append.mp member with member | member
    · obtain ⟨pending, among, same⟩ := wary.running running entry member deadly
      simp only [split, List.mem_append, List.mem_cons] at among
      rcases among with among | rfl | among
      · exact ⟨pending, by simp [among], same⟩
      · cases same
      · exact ⟨pending, by simp [among], same⟩
    · obtain rfl := List.mem_singleton.mp member
      exact ⟨⟨origin, call, some answer⟩, by simp, rfl⟩

/-- A fatal answer ends the client; any other leaves it as wary as it was. -/
private theorem Wary.deliver (wary : net.Wary fatal) {index : ℕ}
    (delivered : net.deliver? id index = some next) : next.Wary fatal := by
  obtain ⟨before, after, origin, call, answer, split, -, rfl⟩ := deliver?_cases delivered
  have mine : (⟨origin, call, some answer⟩ : Pending I σ Unit) ∈ net.flight := by simp [split]
  have other {pending : Pending I σ Unit} (member : pending ∈ before ++ after) :
      pending ∈ net.flight := by
    simp only [split, List.mem_append, List.mem_cons] at member ⊢
    tauto
  have recorded := wary.recorded _ mine _ rfl
  by_cases deadly : fatal ⟨call.request, succeeded call.request answer⟩
  · cases running : net.clients () with
    | none =>
      rw [launch_trapped (show clients { net with flight := before ++ after } (id origin) = none from
        running)]
      exact ⟨fun pending member => wary.calls pending (other member), wary.listeners,
        fun pending member => wary.recorded pending (other member), wary.trapped,
        fun alive => absurd running alive⟩
    | some state =>
      rw [launch_running (show clients { net with flight := before ++ after } (id origin) =
        some state from running), (wary.calls _ mine answer).1 deadly]
      simp only [Program.run_trap, List.map_nil, List.append_nil]
      exact ⟨fun pending member => wary.calls pending (other member), wary.listeners,
        fun pending member => wary.recorded pending (other member),
        fun _ => ⟨_, recorded, deadly⟩, fun alive => absurd (by simp) alive⟩
  · have left : Wary fatal { net with flight := before ++ after } := by
      refine ⟨fun pending member => wary.calls pending (other member), wary.listeners,
        fun pending member => wary.recorded pending (other member), wary.trapped,
        fun running entry member fatal => ?_⟩
      obtain ⟨pending, among, same⟩ := wary.running running entry member fatal
      simp only [split, List.mem_append, List.mem_cons] at among
      rcases among with among | rfl | among
      · exact ⟨pending, List.mem_append_left _ among, same⟩
      · obtain rfl := Option.some.inj same
        exact absurd fatal deadly
      · exact ⟨pending, List.mem_append_right _ among, same⟩
    exact left.launch ((wary.calls _ mine answer).2 deadly)

private theorem Wary.notify (wary : net.Wary fatal) {index : ℕ} {choice : B.Choice}
    (notified : net.notify? id index choice = some next) : next.Wary fatal := by
  obtain ⟨before, after, origin, subscription, cursor, event, seen, split, -, rfl⟩ :=
    notify?_cases notified
  have quiet := wary.listeners ⟨origin, subscription, cursor⟩ (by simp [split])
  have told : Wary fatal { net with listeners := before ++ ⟨origin, subscription, seen⟩ :: after } := by
    refine ⟨wary.calls, fun listener member => ?_, wary.recorded, wary.trapped, wary.running⟩
    simp only [List.mem_append, List.mem_cons] at member
    rcases member with member | rfl | member
    · exact wary.listeners listener (by simp [split, member])
    · exact quiet
    · exact wary.listeners listener (by simp [split, member])
  exact told.launch (quiet event)

variable {store : (B.recorded succeeded).Store} {state : σ}
  {legal : Signal (B.recorded succeeded) → Prop}

/-- Alone with its requests, the client has trapped in the end exactly when a fatal answer was
served. -/
theorem Completes.trapped_iff
    (completes : ((lone store state [] : Network (B.recorded succeeded) σ Unit Unit).launch id ()
      program).Completes id legal final)
    (traps : program.TrapsAt succeeded fatal) (nothing : ∀ entry ∈ store.served, ¬ fatal entry) :
    final.clients () = none ↔ ∃ entry ∈ final.store.served, fatal entry := by
  have start : (lone store state [] : Network (B.recorded succeeded) σ Unit Unit).Wary fatal := by
    refine ⟨by simp [lone], by simp [lone], by simp [lone], fun trapped => ?_,
      fun _ entry member deadly => absurd deadly (nothing entry member)⟩
    cases trapped
  obtain ⟨signals, run, idle⟩ := completes
  have wary : final.Wary fatal := by
    refine run.invariant (start.launch traps) fun {_ signal _} taken wary => ?_
    cases signal with
    | serve index choice => exact wary.serve taken.2
    | deliver index => exact wary.deliver taken.2
    | notify index choice => exact wary.notify taken.2
  refine ⟨wary.trapped, ?_⟩
  rintro ⟨entry, member, deadly⟩
  by_contra running
  obtain ⟨pending, among, -⟩ := wary.running running entry member deadly
  rw [idle] at among
  cases among

end Network

end Async
