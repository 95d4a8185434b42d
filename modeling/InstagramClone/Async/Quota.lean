import InstagramClone.Async.Settlement

/-! # At most one request of a kind

A program may be such that at most one request of some kind ever comes of it, directly or through
callbacks, whatever is answered. When an action runs such a program while none of its requests is in
flight, at most one request of the kind is served for it. The count is kept beside the network.
-/

namespace Async

variable {I : Interface} {B : Backend I} {σ τ κ : Type} {kind : I.Request → Bool}

namespace Program

/-- No request of the kind ever comes of the program. -/
def Never (kind : I.Request → Bool) (program : Program I σ) : Prop :=
  program.Preserves (fun request => kind request = false) fun _ => True

/-- At most one request of the kind ever comes of the program. -/
def Once (kind : I.Request → Bool) : Program I σ → Prop
  | done | trap => True
  | send request callback next =>
    ((∀ answer, (callback answer).Once kind) ∧
        (kind request = true → ∀ answer, (callback answer).Never kind)) ∧ next.Never kind ∨
      (kind request = false ∧ ∀ answer, (callback answer).Never kind) ∧ next.Once kind
  | listen _ callback next => (∀ event, (callback event).Never kind) ∧ next.Once kind
  | inspect body => ∀ state, (body state).Once kind
  | update _ next => next.Once kind

theorem Never.once {program : Program I σ} (never : program.Never kind) : program.Once kind := by
  induction program with
  | done => trivial
  | trap => trivial
  | send request callback next _ ih => exact .inr ⟨never.1, ih never.2⟩
  | listen topic callback next _ ih => exact ⟨never.1, ih never.2⟩
  | inspect body ih => exact fun state => ih state (never state)
  | update change next ih => exact ih never.2

end Program

/-- No request of the kind is issued, nor will be by the callback. -/
def Call.Spent (kind : I.Request → Bool) (call : Call I σ) : Prop :=
  kind call.request = false ∧ ∀ answer, (call.callback answer).Never kind

/-- The request is of the kind, or the callback may issue one that is. -/
def Call.Single (kind : I.Request → Bool) (call : Call I σ) : Prop :=
  (∀ answer, (call.callback answer).Once kind) ∧
    (kind call.request = true → ∀ answer, (call.callback answer).Never kind)

theorem Call.Spent.single {call : Call I σ} (spent : call.Spent kind) : call.Single kind :=
  ⟨fun answer => (spent.2 answer).once, fun _ => spent.2⟩

/-- What a program issues that issues at most one request of the kind. -/
structure Program.IssuesOnce (kind : I.Request → Bool) (effect : Effect I σ) : Prop where
  single : ∀ call ∈ effect.calls, call.Single kind
  apart : effect.calls.Pairwise fun first second => first.Spent kind ∨ second.Spent kind
  quiet : ∀ subscription ∈ effect.subscriptions, ∀ event, (subscription.callback event).Never kind

namespace Program

variable {program : Program I σ}

theorem Never.run (never : program.Never kind) (state : σ) :
    (∀ call ∈ (program.run state).calls, call.Spent kind) ∧
      ∀ subscription ∈ (program.run state).subscriptions,
        ∀ event, (subscription.callback event).Never kind := by
  induction program generalizing state with
  | done => exact ⟨by simp, by simp⟩
  | trap => exact ⟨by simp, by simp⟩
  | send request callback next _ ih =>
    obtain ⟨spent, quiet⟩ := ih never.2 state
    exact ⟨List.forall_mem_cons.mpr ⟨never.1, spent⟩, quiet⟩
  | listen topic callback next _ ih =>
    obtain ⟨spent, quiet⟩ := ih never.2 state
    exact ⟨spent, List.forall_mem_cons.mpr ⟨never.1, quiet⟩⟩
  | inspect body ih => exact ih state (never state) state
  | update change next ih => exact ih never.2 (change state)

theorem Once.run (once : program.Once kind) (state : σ) : IssuesOnce kind (program.run state) := by
  induction program generalizing state with
  | done => exact ⟨by simp, by simp, by simp⟩
  | trap => exact ⟨by simp, by simp, by simp⟩
  | send request callback next _ ih =>
    obtain ⟨single, never⟩ | ⟨spent, rest⟩ := once
    · obtain ⟨spent, quiet⟩ := never.run state
      obtain ⟨singles, apart, -⟩ := ih never.once state
      exact ⟨List.forall_mem_cons.mpr ⟨single, singles⟩,
        List.pairwise_cons.mpr ⟨fun call member => .inr (spent call member), apart⟩, quiet⟩
    · obtain ⟨singles, apart, quiet⟩ := ih rest state
      exact ⟨List.forall_mem_cons.mpr ⟨Call.Spent.single spent, singles⟩,
        List.pairwise_cons.mpr ⟨fun call member => .inl spent, apart⟩, quiet⟩
  | listen topic callback next _ ih =>
    obtain ⟨singles, apart, quiet⟩ := ih once.2 state
    exact ⟨singles, apart, List.forall_mem_cons.mpr ⟨once.1, quiet⟩⟩
  | inspect body ih => exact ih state (once state) state
  | update change next ih => exact ih once (change state)

end Program

section Flight

/-- Nothing of the kind will come of the request in flight. -/
def Pending.Spent (kind : I.Request → Bool) (pending : Pending I σ τ) : Prop :=
  match pending.answer with
  | none => pending.call.Spent kind
  | some answer => (pending.call.callback answer).Never kind

/-- At most one request of the kind will come of the request in flight. -/
def Pending.Single (kind : I.Request → Bool) (pending : Pending I σ τ) : Prop :=
  match pending.answer with
  | none => pending.call.Single kind
  | some answer => (pending.call.callback answer).Once kind

theorem Pending.Spent.single {pending : Pending I σ τ} (spent : pending.Spent kind) :
    pending.Single kind := by
  rcases pending with ⟨origin, call, _ | answer⟩
  · exact Call.Spent.single spent
  · exact Program.Never.once spent

/-- So many requests of the kind were served for the origin: none, or one and no more will be. -/
structure Network.Quota (kind : I.Request → Bool) (origin : τ) (count : ℕ)
    (net : Network B σ τ κ) : Prop where
  single : ∀ pending ∈ net.flight, pending.origin = origin → pending.Single kind
  apart : net.flight.Pairwise fun first second => first.origin = origin → second.origin = origin →
    first.Spent kind ∨ second.Spent kind
  count : count = 0 ∨
    count = 1 ∧ ∀ pending ∈ net.flight, pending.origin = origin → pending.Spent kind
  quiet : ∀ listener ∈ net.listeners, listener.origin = origin →
    ∀ event, (listener.subscription.callback event).Never kind

/-- The origin has nothing in flight. -/
def Network.Idle (origin : τ) (net : Network B σ τ κ) : Prop :=
  ∀ pending ∈ net.flight, pending.origin ≠ origin

end Flight

namespace Network.Quota

variable [DecidableEq κ] {host : τ → κ} {origin other : τ} {count : ℕ}
  {net next : Network B σ τ κ} {program : Program I σ}

omit [DecidableEq κ] in
theorem le_one (quota : net.Quota kind origin count) : count ≤ 1 := by
  obtain rfl | ⟨rfl, -⟩ := quota.count <;> omega

/-- Code of another origin, or code that issues nothing of the kind. -/
theorem launch (quota : net.Quota kind origin count)
    (safe : other = origin → program.Never kind) :
    (net.launch host other program).Quota kind origin count := by
  cases running : net.clients (host other) with
  | none => rwa [launch_trapped running]
  | some state =>
    rw [launch_running running]
    have issued : ∀ pending ∈ (program.run state).calls.map
        fun call => (⟨other, call, none⟩ : Pending I σ τ),
          pending.origin = origin → pending.Spent kind := by
      rintro _ member rfl
      obtain ⟨call, asked, rfl⟩ := List.mem_map.mp member
      exact ((safe rfl).run state).1 call asked
    refine ⟨?_, ?_, ?_, ?_⟩
    · intro pending member same
      rcases List.mem_append.mp member with member | member
      · exact quota.single pending member same
      · exact (issued pending member same).single
    · refine List.pairwise_append.mpr ⟨quota.apart, ?_, ?_⟩
      · exact List.pairwise_of_forall_mem_list fun first member _ _ same _ =>
          .inl (issued first member same)
      · exact fun first _ second member _ same => .inr (issued second member same)
    · refine quota.count.imp_right fun ⟨one, spent⟩ => ⟨one, fun pending member same => ?_⟩
      rcases List.mem_append.mp member with member | member
      · exact spent pending member same
      · exact issued pending member same
    · intro listener member same
      rcases List.mem_append.mp member with member | member
      · exact quota.quiet listener member same
      · obtain ⟨subscription, opened, rfl⟩ := List.mem_map.mp member
        exact ((safe same).run state).2 subscription opened

/-- An action that may issue one request of the kind, when nothing else will. -/
theorem launch_once (quota : net.Quota kind origin 0)
    (spent : ∀ pending ∈ net.flight, pending.origin = origin → pending.Spent kind)
    (once : program.Once kind) : (net.launch host origin program).Quota kind origin 0 := by
  cases running : net.clients (host origin) with
  | none => rwa [launch_trapped running]
  | some state =>
    rw [launch_running running]
    obtain ⟨singles, apart, quiet⟩ := once.run state
    refine ⟨?_, ?_, .inl rfl, ?_⟩
    · intro pending member same
      rcases List.mem_append.mp member with member | member
      · exact quota.single pending member same
      · obtain ⟨call, asked, rfl⟩ := List.mem_map.mp member
        exact singles call asked
    · refine List.pairwise_append.mpr ⟨quota.apart, ?_, ?_⟩
      · exact List.pairwise_map.mpr (apart.imp fun apart _ _ => apart)
      · exact fun first member _ _ same _ => .inl (spent first member same)
    · intro listener member same
      rcases List.mem_append.mp member with member | member
      · exact quota.quiet listener member same
      · obtain ⟨subscription, opened, rfl⟩ := List.mem_map.mp member
        exact quiet subscription opened

omit [DecidableEq κ] in
/-- The store and the clients do not matter. -/
theorem congr (quota : net.Quota kind origin count) (flight : next.flight = net.flight)
    (listeners : next.listeners = net.listeners) : next.Quota kind origin count where
  single := flight ▸ quota.single
  apart := flight ▸ quota.apart
  count := flight ▸ quota.count
  quiet := listeners ▸ quota.quiet

section Split

variable {before after : List (Pending I σ τ)} {mine : Pending I σ τ}

omit [DecidableEq κ] in
/-- Beside a request that may still be one of the kind there is none. -/
private theorem others_spent (quota : net.Quota kind origin count)
    (split : net.flight = before ++ mine :: after) (same : mine.origin = origin)
    (unspent : ¬ mine.Spent kind) :
    count = 0 ∧ ∀ pending ∈ before ++ after, pending.origin = origin → pending.Spent kind := by
  have apart := quota.apart
  rw [split, List.pairwise_append, List.pairwise_cons] at apart
  obtain ⟨-, ⟨later, -⟩, across⟩ := apart
  refine ⟨?_, fun pending member also => ?_⟩
  · refine quota.count.resolve_right fun ⟨_, spent⟩ => unspent ?_
    exact spent mine (by simp [split]) same
  · rcases List.mem_append.mp member with member | member
    · exact (across pending member mine (List.mem_cons_self ..) also same).resolve_right unspent
    · exact (later pending member same also).resolve_left unspent

omit [DecidableEq κ] in
/-- A request in flight leaves. -/
private theorem erase (quota : net.Quota kind origin count)
    (split : net.flight = before ++ mine :: after) :
    ({ net with flight := before ++ after } : Network B σ τ κ).Quota kind origin count := by
  have kept : (before ++ after).Sublist net.flight := by
    rw [split]
    exact (List.Sublist.refl before).append (List.sublist_cons_self mine after)
  exact ⟨fun pending member => quota.single pending (kept.subset member), quota.apart.sublist kept,
    quota.count.imp_right fun ⟨one, spent⟩ =>
      ⟨one, fun pending member => spent pending (kept.subset member)⟩, quota.quiet⟩

omit [DecidableEq κ] in
/-- A request in flight is answered. -/
theorem answer {call : Call I σ} {answer : I.Response call.request} {later : ℕ} {store : B.Store}
    (quota : net.Quota kind origin count)
    (split : net.flight = before ++ ⟨other, call, none⟩ :: after)
    (counts : later = count ∨
      other = origin ∧ kind call.request = true ∧ later = count + 1) :
    ({ net with store, flight := before ++ ⟨other, call, some answer⟩ :: after } :
      Network B σ τ κ).Quota kind origin later := by
  have spends : Pending.Spent kind (⟨other, call, none⟩ : Pending I σ τ) →
      Pending.Spent kind (⟨other, call, some answer⟩ : Pending I σ τ) := fun spent => spent.2 answer
  have others {goal : Pending I σ τ → Prop} (mine : goal ⟨other, call, some answer⟩)
      (each : ∀ pending ∈ before ++ after, goal pending) :
      ∀ pending ∈ before ++ ⟨other, call, some answer⟩ :: after, goal pending := by
    intro pending member
    rcases List.mem_append.mp member with member | member
    · exact each pending (List.mem_append_left _ member)
    rcases List.mem_cons.mp member with rfl | member
    · exact mine
    · exact each pending (List.mem_append_right _ member)
  have rest := quota.erase split
  have apart := quota.apart
  rw [split, List.pairwise_append, List.pairwise_cons] at apart
  refine ⟨others (fun same => ?_) rest.single, ?_, ?_, quota.quiet⟩
  · exact (quota.single ⟨other, call, none⟩ (by simp [split]) same).1 answer
  · obtain ⟨early, ⟨behind, late⟩, across⟩ := apart
    refine List.pairwise_append.mpr ⟨early, List.pairwise_cons.mpr ⟨?_, late⟩, ?_⟩
    · exact fun pending member same also => (behind pending member same also).imp_left spends
    · intro first one second member same also
      rcases List.mem_cons.mp member with rfl | member
      · exact (across first one _ (List.mem_cons_self ..) same also).imp_right spends
      · exact across first one second (List.mem_cons_of_mem _ member) same also
  · obtain rfl | ⟨rfl, asked, rfl⟩ := counts
    · refine rest.count.imp_right fun ⟨one, spent⟩ => ⟨one, others (fun same => spends ?_) spent⟩
      obtain rfl | ⟨-, all⟩ := quota.count
      · omega
      · exact all ⟨other, call, none⟩ (by simp [split]) same
    · have unspent : ¬ Pending.Spent kind (⟨other, call, none⟩ : Pending I σ τ) := fun spent => by
        simp [spent.1] at asked
      obtain ⟨rfl, spent⟩ := quota.others_spent split rfl unspent
      refine .inr ⟨rfl, others (fun same => ?_) spent⟩
      exact (quota.single ⟨other, call, none⟩ (by simp [split]) same).2 asked answer

/-- An answer is delivered. -/
theorem deliver (quota : net.Quota kind origin count) {index : ℕ}
    (delivered : net.deliver? host index = some next) : next.Quota kind origin count := by
  obtain ⟨before, after, other, call, answer, split, -, rfl⟩ := deliver?_cases delivered
  by_cases same : other = origin
  · subst same
    by_cases spent : Pending.Spent kind (⟨other, call, some answer⟩ : Pending I σ τ)
    · exact (quota.erase split).launch fun _ => spent
    · obtain ⟨rfl, others⟩ := quota.others_spent split rfl spent
      refine (quota.erase split).launch_once others ?_
      exact quota.single ⟨other, call, some answer⟩ (by simp [split]) rfl
  · exact (quota.erase split).launch fun also => absurd also same

/-- A listener hears of the store. -/
theorem notify (quota : net.Quota kind origin count) {index : ℕ} {choice : B.Choice}
    (notified : net.notify? host index choice = some next) : next.Quota kind origin count := by
  obtain ⟨before, after, other, subscription, cursor, event, seen, split, -, rfl⟩ :=
    notify?_cases notified
  have silent (same : other = origin) (event) : (subscription.callback event).Never kind :=
    quota.quiet ⟨other, subscription, cursor⟩ (by simp [split]) same event
  have heard : ({ net with listeners := before ++ ⟨other, subscription, seen⟩ :: after } :
      Network B σ τ κ).Quota kind origin count := by
    refine ⟨quota.single, quota.apart, quota.count, fun listener member same => ?_⟩
    rcases List.mem_append.mp member with member | member
    · exact quota.quiet listener (by simp [split, member]) same
    rcases List.mem_cons.mp member with rfl | member
    · exact silent same
    · exact quota.quiet listener (by simp [split, member]) same
  exact heard.launch fun same => silent same event

end Split

end Network.Quota

end Async
