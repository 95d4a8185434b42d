import InstagramClone.Async.Contract
import InstagramClone.Async.Register

/-! # Two registers kept equal by chained writes

Clients write a first register and, once that write is acknowledged, the same value to a second
one. Many such chains may be in flight. What the two registers settle to stays common as long as
no two clients have chains with different values in flight at once.
-/

namespace Async

/-- Two registers of a store, and which requests write them. Regular requests change neither
register in any other way. -/
structure Mirror {I : Interface} (B : Backend I) (α : Type) where
  chosen : B.Choice → Prop
  regular : I.Request → Prop
  first : B.Store → α
  second : B.Store → α
  writeFirst? : I.Request → Option α
  writeSecond? : I.Request → Option α
  serve_first : ∀ {choice store request next answer}, chosen choice → regular request →
    B.serve choice store request = some (next, answer) →
    first next = (writeFirst? request).getD (first store)
  serve_second : ∀ {choice store request next answer}, chosen choice → regular request →
    B.serve choice store request = some (next, answer) →
    second next = (writeSecond? request).getD (second store)

namespace Mirror

variable {I : Interface} {B : Backend I} {α σ τ κ : Type}

section Pending

variable (M : Mirror B α)

/-- Code that writes neither register. It relies on what `holds` of its client and keeps it. -/
def quiet (host : τ → κ) (holds : κ → σ → Prop) : Contract I B.Store σ τ where
  invariant _ := True
  evolves _ _ := True
  holds origin _ state := holds (host origin) state
  allows _ _ request :=
    M.regular request ∧ M.writeFirst? request = none ∧ M.writeSecond? request = none
  opens _ _ _ := True
  replies _ _ _ := True
  reports _ _ _ := True
  mayTrap := False
  refl _ := trivial
  trans _ _ := trivial
  holds_mono _ valid := valid
  allows_mono _ allowed := allowed
  opens_mono _ opened := opened

/-- Code that writes the value to the second register and is quiet after. -/
def Continues (C : Contract I B.Store σ τ) (origin : τ) (value : α) (program : Program I σ) :
    Prop :=
  ∃ next : Call I σ, program = .send next.request next.callback .done ∧ M.regular next.request ∧
    M.writeFirst? next.request = none ∧ M.writeSecond? next.request = some value ∧
    ∀ store answer, (next.callback answer).Keeps C origin store

/-- A request of a chain, or a quiet one. -/
structure Chained (C : Contract I B.Store σ τ) (origin : τ) (call : Call I σ) : Prop where
  regular : M.regular call.request
  first : ∀ value ∈ M.writeFirst? call.request, M.writeSecond? call.request = none ∧
    ∀ answer, M.Continues C origin value (call.callback answer)
  last : M.writeFirst? call.request = none → ∀ store answer,
    (call.callback answer).Keeps C origin store

/-- The write of the second register that a pending request still has to bring about. -/
def outstanding? (pending : Pending I σ τ) : Option α :=
  (M.writeFirst? pending.call.request).or
    (if pending.answer.isNone then M.writeSecond? pending.call.request else none)

end Pending

/-- The writes of a register that the backend has not served. -/
def unserved (write? : I.Request → Option α) (flight : List (Pending I σ τ)) : List α :=
  flight.filterMap fun pending =>
    if pending.answer.isNone then write? pending.call.request else none

/-- The writes of a register whose callback has not run. -/
def unacknowledged (write? : I.Request → Option α) (flight : List (Pending I σ τ)) : List α :=
  flight.filterMap fun pending => write? pending.call.request

section Lists

variable {write? : I.Request → Option α} {flight before after : List (Pending I σ τ)}
  {pending : Pending I σ τ} {origin : τ} {call : Call I σ} {answer : I.Response call.request}

@[simp] theorem unserved_nil : unserved write? ([] : List (Pending I σ τ)) = [] := rfl

@[simp] theorem unserved_append :
    unserved write? (before ++ after) = unserved write? before ++ unserved write? after :=
  List.filterMap_append

@[simp] theorem unserved_cons_none : unserved write? (⟨origin, call, none⟩ :: flight) =
    (write? call.request).toList ++ unserved write? flight := by
  unfold unserved
  cases written : write? call.request <;> simp [written]

@[simp] theorem unserved_cons_some :
    unserved write? (⟨origin, call, some answer⟩ :: flight) = unserved write? flight := by
  simp [unserved]

@[simp] theorem unacknowledged_nil : unacknowledged write? ([] : List (Pending I σ τ)) = [] := rfl

@[simp] theorem unacknowledged_append : unacknowledged write? (before ++ after) =
    unacknowledged write? before ++ unacknowledged write? after :=
  List.filterMap_append

@[simp] theorem unacknowledged_cons : unacknowledged write? (pending :: flight) =
    (write? pending.call.request).toList ++ unacknowledged write? flight := by
  unfold unacknowledged
  cases written : write? pending.call.request <;> simp [written]

private theorem mem_unserved {value : α} : value ∈ unserved write? flight ↔
    ∃ pending ∈ flight, pending.answer = none ∧ write? pending.call.request = some value := by
  simp only [unserved, List.mem_filterMap]
  refine exists_congr fun pending => and_congr_right fun _ => ?_
  cases pending.answer <;> simp

private theorem mem_unacknowledged {value : α} : value ∈ unacknowledged write? flight ↔
    ∃ pending ∈ flight, write? pending.call.request = some value :=
  List.mem_filterMap

end Lists

variable {M : Mirror B α} {host : τ → κ} {holds : κ → σ → Prop} {mine : κ → Prop}
  {desired value : α} {net next : Network B σ τ κ}

/-- All outstanding writes belong to one client, or carry the desired value. -/
def Undivided (M : Mirror B α) (host : τ → κ) (desired : α) (flight : List (Pending I σ τ)) :
    Prop :=
  (∃ client, ∀ pending ∈ flight, (M.outstanding? pending).isSome → host pending.origin = client) ∨
    ∀ pending ∈ flight, ∀ value ∈ M.outstanding? pending, value = desired

/-- Both registers settle to the desired value. Only `mine` clients write them. -/
structure Tracks (M : Mirror B α) (host : τ → κ) (holds : κ → σ → Prop) (mine : κ → Prop)
    (desired : α) (net : Network B σ τ κ) : Prop where
  clients : ∀ client, ∃ state, net.clients client = some state ∧ holds client state
  chained : ∀ pending ∈ net.flight, M.Chained (M.quiet host holds) pending.origin pending.call
  listeners : ∀ listener ∈ net.listeners,
    listener.subscription.Keeps (M.quiet host holds) listener.origin net.store
  origins : ∀ pending ∈ net.flight, (M.outstanding? pending).isSome → mine (host pending.origin)
  first : settled (M.first net.store) (unserved M.writeFirst? net.flight) = desired
  second : settled (M.second net.store)
    (unserved M.writeSecond? net.flight ++ unacknowledged M.writeFirst? net.flight) = desired
  undivided : M.Undivided host desired net.flight

/-- With no write outstanding both registers hold the desired value. -/
theorem Tracks.settles (tracks : M.Tracks host holds mine desired net)
    (idle : ∀ pending ∈ net.flight, M.outstanding? pending = none) :
    M.first net.store = desired ∧ M.second net.store = desired := by
  have noFirst : ∀ pending ∈ net.flight, M.writeFirst? pending.call.request = none :=
    fun pending member => (Option.or_eq_none_iff.mp (idle pending member)).1
  have first : unserved M.writeFirst? net.flight = [] := by
    refine List.eq_nil_iff_forall_not_mem.mpr fun value member => ?_
    obtain ⟨pending, inFlight, -, written⟩ := mem_unserved.mp member
    simp [noFirst pending inFlight] at written
  have second : unserved M.writeSecond? net.flight = [] := by
    refine List.eq_nil_iff_forall_not_mem.mpr fun value member => ?_
    obtain ⟨pending, inFlight, waiting, written⟩ := mem_unserved.mp member
    have none := idle pending inFlight
    simp [outstanding?, waiting, written] at none
  have acknowledged : unacknowledged M.writeFirst? net.flight = [] := by
    refine List.eq_nil_iff_forall_not_mem.mpr fun value member => ?_
    obtain ⟨pending, inFlight, written⟩ := mem_unacknowledged.mp member
    simp [noFirst pending inFlight] at written
  have one := tracks.first
  have two := tracks.second
  simp only [first, second, acknowledged, List.append_nil, settled_nil] at one two
  exact ⟨one, two⟩

/-- A value written by another client than this one is in flight only if it is this value. -/
def Undisputed (M : Mirror B α) (host : τ → κ) (flight : List (Pending I σ τ)) (client : κ)
    (value : α) : Prop :=
  ∀ pending ∈ flight, host pending.origin ≠ client → ∀ other ∈ M.outstanding? pending,
    other = value

private theorem unserved_issued (write? : I.Request → Option α) (origin : τ)
    (calls : List (Call I σ)) :
    unserved write? (calls.map fun call => (⟨origin, call, none⟩ : Pending I σ τ)) =
      calls.filterMap fun call => write? call.request := by
  simp only [unserved, List.filterMap_map]
  rfl

private theorem unacknowledged_issued (write? : I.Request → Option α) (origin : τ)
    (calls : List (Call I σ)) :
    unacknowledged write? (calls.map fun call => (⟨origin, call, none⟩ : Pending I σ τ)) =
      calls.filterMap fun call => write? call.request := by
  simp only [unacknowledged, List.filterMap_map]
  rfl

/-- A quiet call is a part of no chain. -/
private theorem Chained.of_quiet {origin : τ} {call : Call I σ} {store : B.Store}
    (keeps : call.Keeps (M.quiet host holds) origin store) :
    M.Chained (M.quiet host holds) origin call := by
  refine ⟨keeps.1.1, ?_, ?_⟩
  · intro value written
    rw [keeps.1.2.1] at written
    cases written
  · intro _ later answer
    exact keeps.2 later answer trivial trivial

variable [DecidableEq κ]

/-- Running code that issues first writes of chains among quiet requests. -/
private theorem Tracks.issued (tracks : M.Tracks host holds mine desired net) {origin : τ}
    {program : Program I σ} {state after : σ} {calls : List (Call I σ)}
    {subscriptions : List (Subscription I σ)} {settledTo : α}
    (running : net.clients (host origin) = some state)
    (ran : program.run state = ⟨some after, calls, subscriptions⟩)
    (valid : holds (host origin) after)
    (chained : ∀ call ∈ calls, M.Chained (M.quiet host holds) origin call)
    (fresh : ∀ call ∈ calls, M.writeSecond? call.request = none)
    (owned : ∀ call ∈ calls, (M.writeFirst? call.request).isSome → mine (host origin))
    (listening : ∀ subscription ∈ subscriptions,
      subscription.Keeps (M.quiet host holds) origin net.store)
    (settles : settled desired (calls.filterMap fun call => M.writeFirst? call.request) = settledTo)
    (undivided : M.Undivided host settledTo
      (net.flight ++ calls.map fun call => ⟨origin, call, none⟩)) :
    M.Tracks host holds mine settledTo (net.launch host origin program) := by
  rw [Network.launch_running running, ran]
  have noSecond : calls.filterMap (fun call => M.writeSecond? call.request) = [] :=
    List.filterMap_eq_nil_iff.mpr fresh
  refine ⟨?_, ?_, ?_, ?_, ?_, ?_, undivided⟩
  · intro client
    dsimp only
    by_cases same : client = host origin
    · subst same
      exact ⟨after, Function.update_self .., valid⟩
    · rw [Function.update_of_ne same]
      exact tracks.clients client
  · intro pending member
    rcases List.mem_append.mp member with member | member
    · exact tracks.chained pending member
    · obtain ⟨call, issued, rfl⟩ := List.mem_map.mp member
      exact chained call issued
  · intro listener member
    rcases List.mem_append.mp member with member | member
    · exact tracks.listeners listener member
    · obtain ⟨subscription, opened, rfl⟩ := List.mem_map.mp member
      exact listening subscription opened
  · intro pending member
    rcases List.mem_append.mp member with member | member
    · exact tracks.origins pending member
    · obtain ⟨call, issued, rfl⟩ := List.mem_map.mp member
      intro writes
      refine owned call issued ?_
      simpa [outstanding?, fresh call issued] using writes
  · rw [unserved_append, unserved_issued, settled_append, tracks.first, settles]
  · rw [unserved_append, unserved_issued, noSecond, List.append_nil, unacknowledged_append,
      unacknowledged_issued, ← List.append_assoc, settled_append, tracks.second, settles]

/-- Quiet code changes nothing that is tracked. -/
theorem Tracks.launch (tracks : M.Tracks host holds mine desired net) {origin : τ}
    {program : Program I σ} (keeps : program.Keeps (M.quiet host holds) origin net.store) :
    M.Tracks host holds mine desired (net.launch host origin program) := by
  obtain ⟨state, running, valid⟩ := tracks.clients (host origin)
  have effect := keeps.run valid
  rcases ran : program.run state with ⟨_ | after, calls, subscriptions⟩
  · rw [ran] at effect
    exact (effect.running rfl).elim
  rw [ran] at effect
  have silent : ∀ call ∈ calls, M.writeFirst? call.request = none := fun call member =>
    (effect.calls call member).1.2.1
  have quiet : ∀ call ∈ calls, M.writeSecond? call.request = none := fun call member =>
    (effect.calls call member).1.2.2
  refine tracks.issued running ran (effect.state after rfl)
    (fun call member => .of_quiet (effect.calls call member)) quiet ?_ effect.subscriptions ?_ ?_
  · intro call member writes
    simp [silent call member] at writes
  · rw [List.filterMap_eq_nil_iff.mpr silent, settled_nil]
  · have nothing : ∀ pending ∈ calls.map fun call => (⟨origin, call, none⟩ : Pending I σ τ),
        M.outstanding? pending = none := by
      intro pending member
      obtain ⟨call, issued, rfl⟩ := List.mem_map.mp member
      simp [outstanding?, silent call issued, quiet call issued]
    rcases tracks.undivided with ⟨client, alone⟩ | uniform
    · refine .inl ⟨client, fun pending member writes => ?_⟩
      rcases List.mem_append.mp member with member | member
      · exact alone pending member writes
      · simp [nothing pending member] at writes
    · refine .inr fun pending member value written => ?_
      rcases List.mem_append.mp member with member | member
      · exact uniform pending member value written
      · simp [nothing pending member] at written

omit [DecidableEq κ] in
/-- A new chain that no other client disputes leaves the outstanding writes undivided. -/
private theorem Undivided.issue {flight issued : List (Pending I σ τ)} {client : κ}
    (undivided : M.Undivided host desired flight)
    (undisputed : M.Undisputed host flight client value)
    (own : ∀ pending ∈ issued, host pending.origin = client)
    (same : ∀ pending ∈ issued, ∀ other ∈ M.outstanding? pending, other = value) :
    M.Undivided host value (flight ++ issued) := by
  by_cases uniform : ∀ pending ∈ flight, ∀ other ∈ M.outstanding? pending, other = value
  · refine .inr fun pending member => ?_
    rcases List.mem_append.mp member with member | member
    · exact uniform pending member
    · exact same pending member
  -- some write in flight carries another value, so it is this client's, and so are all others
  push Not at uniform
  obtain ⟨odd, oddIn, other, written, differs⟩ := uniform
  have oddOwn : host odd.origin = client := by
    by_contra foreign
    exact differs (undisputed odd oddIn foreign other written)
  have alone : ∀ pending ∈ flight, (M.outstanding? pending).isSome →
      host pending.origin = client := by
    intro pending member writes
    rcases undivided with ⟨only, single⟩ | agreed
    · rw [single pending member writes, ← oddOwn,
        single odd oddIn (Option.isSome_iff_exists.mpr ⟨other, written⟩)]
    · by_contra foreign
      obtain ⟨mine, carried⟩ := Option.isSome_iff_exists.mp writes
      have first := undisputed pending member foreign mine carried
      rw [agreed pending member mine carried, ← agreed odd oddIn other written] at first
      exact differs first
  refine .inl ⟨client, fun pending member writes => ?_⟩
  rcases List.mem_append.mp member with member | member
  · exact alone pending member writes
  · exact own pending member

/-- Starting a chain moves the tracked value to the chain's, unless another client disputes it. -/
theorem Tracks.start (tracks : M.Tracks host holds mine desired net) {origin : τ}
    {program : Program I σ} {state after : σ} {front : List (Call I σ)} {call : Call I σ}
    (running : net.clients (host origin) = some state)
    (ran : program.run state = ⟨some after, front ++ [call], []⟩)
    (valid : holds (host origin) after)
    (quiet : ∀ other ∈ front, other.Keeps (M.quiet host holds) origin net.store)
    (chained : M.Chained (M.quiet host holds) origin call)
    (writes : M.writeFirst? call.request = some value) (owned : mine (host origin))
    (undisputed : M.Undisputed host net.flight (host origin) value) :
    M.Tracks host holds mine value (net.launch host origin program) := by
  have silent : front.filterMap (fun other => M.writeFirst? other.request) = [] :=
    List.filterMap_eq_nil_iff.mpr fun other member => (quiet other member).1.2.1
  have noSecond := (chained.first value writes).1
  refine tracks.issued running ran valid ?_ ?_ (fun _ _ _ => owned) (by simp) ?_ ?_
  · intro other member
    rcases List.mem_append.mp member with member | member
    · exact .of_quiet (quiet other member)
    · obtain rfl := List.mem_singleton.mp member
      exact chained
  · intro other member
    rcases List.mem_append.mp member with member | member
    · exact (quiet other member).1.2.2
    · obtain rfl := List.mem_singleton.mp member
      exact noSecond
  · rw [List.filterMap_append, silent, List.nil_append]
    simp [writes]
  · refine tracks.undivided.issue undisputed ?_ ?_
    · intro pending member
      obtain ⟨other, -, rfl⟩ := List.mem_map.mp member
      rfl
    · intro pending member carried written
      obtain ⟨other, issued, rfl⟩ := List.mem_map.mp member
      rcases List.mem_append.mp issued with issued | issued
      · simp [outstanding?, (quiet other issued).1.2.1, (quiet other issued).1.2.2] at written
      · obtain rfl := List.mem_singleton.mp issued
        simpa [outstanding?, writes, eq_comm] using written

omit [DecidableEq κ] in
/-- Outstanding writes that were there before, on the same clients, are undivided still. -/
private theorem Undivided.carried {flight left : List (Pending I σ τ)}
    (undivided : M.Undivided host desired flight)
    (carried : ∀ pending ∈ left, (M.outstanding? pending).isSome → ∃ source ∈ flight,
      source.origin = pending.origin ∧ M.outstanding? source = M.outstanding? pending) :
    M.Undivided host desired left := by
  rcases undivided with ⟨client, alone⟩ | uniform
  · refine .inl ⟨client, fun pending member writes => ?_⟩
    obtain ⟨source, present, origin, same⟩ := carried pending member writes
    rw [← origin]
    exact alone source present (same ▸ writes)
  · refine .inr fun pending member other written => ?_
    obtain ⟨source, present, -, same⟩ :=
      carried pending member (Option.isSome_iff_exists.mpr ⟨other, written⟩)
    exact uniform source present other (same ▸ written)

omit [DecidableEq κ] in
/-- Either the earlier outstanding writes come from the client of this one, or all agree. -/
private theorem Undivided.earlier {before after : List (Pending I σ τ)} {pending : Pending I σ τ}
    (undivided : M.Undivided host desired (before ++ pending :: after))
    (writes : (M.outstanding? pending).isSome) :
    (∀ other ∈ before, (M.outstanding? other).isSome → host other.origin = host pending.origin) ∨
      ∀ other ∈ before ++ pending :: after, ∀ value ∈ M.outstanding? other, value = desired := by
  rcases undivided with ⟨client, alone⟩ | uniform
  · refine .inl fun other member carries => ?_
    rw [alone other (by simp [member]) carries, alone pending (by simp) writes]
  · exact .inr uniform

private theorem uniform_first {flight : List (Pending I σ τ)}
    (agreed : ∀ pending ∈ flight, ∀ value ∈ M.outstanding? pending, value = desired) :
    ∀ value ∈ unserved M.writeFirst? flight, value = desired := by
  intro value member
  obtain ⟨pending, present, -, written⟩ := mem_unserved.mp member
  exact agreed pending present value (by simp [outstanding?, written])

omit [DecidableEq κ] in
/-- When all outstanding writes carry one value, so do those of the second register. -/
private theorem Tracks.uniform (tracks : M.Tracks host holds mine desired net)
    (agreed : ∀ pending ∈ net.flight, ∀ value ∈ M.outstanding? pending, value = desired) :
    ∀ value ∈ unserved M.writeSecond? net.flight ++ unacknowledged M.writeFirst? net.flight,
      value = desired := by
  intro value member
  rcases List.mem_append.mp member with member | member
  · obtain ⟨pending, present, waiting, written⟩ := mem_unserved.mp member
    refine agreed pending present value ?_
    cases first : M.writeFirst? pending.call.request with
    | none => simp [outstanding?, first, waiting, written]
    | some other =>
      have none := ((tracks.chained pending present).first other first).1
      simp [none] at written
  · obtain ⟨pending, present, written⟩ := mem_unacknowledged.mp member
    exact agreed pending present value (by simp [outstanding?, written])

omit [DecidableEq κ] in
/-- Serving a request in its client's order keeps what is tracked. -/
theorem Tracks.serve (tracks : M.Tracks host holds mine desired net) {index : ℕ}
    {choice : B.Choice} (legal : M.chosen choice)
    (ordered : net.InOrder host (.serve index choice))
    (served : net.serve? index choice = some next) : M.Tracks host holds mine desired next := by
  obtain ⟨before, after, origin, call, store, answer, split, rfl, resolved, rfl⟩ :=
    Network.serve?_cases served
  have earlier := ordered.serve split
  have chained := tracks.chained ⟨origin, call, none⟩ (by simp [split])
  have undivided := tracks.undivided
  rw [split] at undivided
  -- earlier writes of the same kind have been served, unless all writes agree
  have oldest {write? : I.Request → Option α} {value : α} (written : write? call.request = some value)
      (counts : ∀ pending : Pending I σ τ, pending.answer = none →
        (write? pending.call.request).isSome → (M.outstanding? pending).isSome) :
      unserved write? before = [] ∨ ∀ pending ∈ net.flight, ∀ other ∈ M.outstanding? pending,
        other = desired := by
    rcases undivided.earlier (counts ⟨origin, call, none⟩ rfl (by simp [written])) with
      same | uniform
    · refine .inl (List.eq_nil_iff_forall_not_mem.mpr fun other member => ?_)
      obtain ⟨pending, present, waiting, carries⟩ := mem_unserved.mp member
      have answered := earlier pending present
        (same pending present (counts pending waiting (by simp [carries])))
      simp [waiting] at answered
    · exact .inr (by rwa [split])
  have firstLaw := M.serve_first legal chained.regular resolved
  have secondLaw := M.serve_second legal chained.regular resolved
  have carried : ∀ pending ∈ before ++ ⟨origin, call, some answer⟩ :: after,
      (M.outstanding? pending).isSome → ∃ source ∈ net.flight,
        source.origin = pending.origin ∧ M.outstanding? source = M.outstanding? pending := by
    intro pending member writes
    simp only [List.mem_append, List.mem_cons] at member
    rcases member with member | rfl | member
    · exact ⟨pending, by simp [split, member], rfl, rfl⟩
    · refine ⟨⟨origin, call, none⟩, by simp [split], rfl, ?_⟩
      cases written : M.writeFirst? call.request with
      | none => simp [outstanding?, written] at writes
      | some value => simp [outstanding?, written]
    · exact ⟨pending, by simp [split, member], rfl, rfl⟩
  have first := tracks.first
  have second := tracks.second
  refine ⟨tracks.clients, ?_, ?_, ?_, ?_, ?_, ?_⟩
  · intro pending member
    simp only [List.mem_append, List.mem_cons] at member
    rcases member with member | rfl | member
    · exact tracks.chained pending (by simp [split, member])
    · exact chained
    · exact tracks.chained pending (by simp [split, member])
  · exact tracks.listeners
  · intro pending member writes
    obtain ⟨source, present, origin, same⟩ := carried pending member writes
    rw [← origin]
    exact tracks.origins source present (same ▸ writes)
  · rw [split, unserved_append, unserved_cons_none] at first
    rw [unserved_append, unserved_cons_some, firstLaw]
    cases written : M.writeFirst? call.request with
    | none => simpa [written] using first
    | some value =>
      rw [written] at first
      refine settled_apply ?_ first
      refine (oldest written fun pending _ writes => ?_).imp id fun agreed other member => ?_
      · obtain ⟨value, writes⟩ := Option.isSome_iff_exists.mp writes
        simp [outstanding?, writes]
      · refine uniform_first agreed other ?_
        rwa [split, unserved_append, unserved_cons_none, written]
  · rw [split, unserved_append, unserved_cons_none, List.append_assoc] at second
    have same : unacknowledged M.writeFirst? (before ++ ⟨origin, call, some answer⟩ :: after) =
        unacknowledged M.writeFirst? net.flight := by
      rw [split, unacknowledged_append, unacknowledged_append]
      rfl
    rw [← split] at second
    rw [same, unserved_append, unserved_cons_some, List.append_assoc, secondLaw]
    cases written : M.writeSecond? call.request with
    | none => simpa [written] using second
    | some value =>
      rw [written] at second
      refine settled_apply ?_ second
      refine (oldest written fun pending waiting writes => ?_).imp id fun agreed other member => ?_
      · obtain ⟨value, writes⟩ := Option.isSome_iff_exists.mp writes
        cases first : M.writeFirst? pending.call.request <;>
          simp [outstanding?, waiting, writes, first]
      · refine tracks.uniform agreed other ?_
        rw [split, unserved_append, unserved_cons_none, written, List.append_assoc, ← split]
        exact member
  · exact tracks.undivided.carried carried

omit [DecidableEq κ] in
/-- An answered request that is not the first write of a chain leaves without a trace. -/
private theorem Tracks.drop (tracks : M.Tracks host holds mine desired net)
    {before after : List (Pending I σ τ)} {origin : τ} {call : Call I σ}
    {answer : I.Response call.request}
    (split : net.flight = before ++ ⟨origin, call, some answer⟩ :: after)
    (last : M.writeFirst? call.request = none) :
    M.Tracks host holds mine desired { net with flight := before ++ after } := by
  have kept : ∀ pending ∈ before ++ after, pending ∈ net.flight := by
    intro pending member
    simp only [split, List.mem_append, List.mem_cons] at member ⊢
    tauto
  have first := tracks.first
  have second := tracks.second
  rw [split] at first second
  refine ⟨tracks.clients, fun pending member => tracks.chained pending (kept pending member),
    tracks.listeners, fun pending member => tracks.origins pending (kept pending member), ?_, ?_,
    tracks.undivided.carried fun pending member _ => ⟨pending, kept pending member, rfl, rfl⟩⟩
  · simpa using first
  · simpa [last] using second

/-- Delivering in order keeps what is tracked: a first write hands its value on to the second
register, and anything else is quiet. -/
theorem Tracks.deliver (tracks : M.Tracks host holds mine desired net) {index : ℕ}
    (ordered : net.InOrder host (.deliver index))
    (delivered : net.deliver? host index = some next) : M.Tracks host holds mine desired next := by
  obtain ⟨before, after, origin, call, answer, split, rfl, rfl⟩ :=
    Network.deliver?_cases delivered
  have chained := tracks.chained ⟨origin, call, some answer⟩ (by simp [split])
  cases written : M.writeFirst? call.request with
  | none => exact (tracks.drop split written).launch (chained.last written net.store answer)
  | some value =>
    obtain ⟨last, continues, regular, noFirst, writes, quiet⟩ :=
      (chained.first value written).2 answer
    obtain ⟨state, running, valid⟩ := tracks.clients (host origin)
    have still : Network.clients { net with flight := before ++ after } (host origin) =
        some state := running
    have ran : (call.callback answer).run state = ⟨some state, [last], []⟩ := by
      rw [continues, Program.run_send, Program.run_done]
    rw [Network.launch_running still, ran]
    have undivided := tracks.undivided
    rw [split] at undivided
    have mineCarries : (M.outstanding? ⟨origin, call, some answer⟩).isSome := by
      simp [outstanding?, written]
    have carried : ∀ pending ∈ before ++ after ++
          [⟨origin, last, none⟩], (M.outstanding? pending).isSome →
        ∃ source ∈ net.flight,
          source.origin = pending.origin ∧ M.outstanding? source = M.outstanding? pending := by
      intro pending member _
      simp only [List.mem_append, List.mem_singleton] at member
      rcases member with (member | member) | rfl
      · exact ⟨pending, by simp [split, member], rfl, rfl⟩
      · exact ⟨pending, by simp [split, member], rfl, rfl⟩
      · exact ⟨⟨origin, call, some answer⟩, by simp [split], rfl,
          by simp [outstanding?, written, noFirst, writes]⟩
    have first := tracks.first
    have second := tracks.second
    refine ⟨?_, ?_, ?_, ?_, ?_, ?_, tracks.undivided.carried carried⟩
    · intro client
      dsimp only
      by_cases same : client = host origin
      · subst same
        exact ⟨state, Function.update_self .., valid⟩
      · rw [Function.update_of_ne same]
        exact tracks.clients client
    · intro pending member
      simp only [List.mem_append, List.map_cons, List.map_nil, List.mem_singleton] at member
      rcases member with (member | member) | rfl
      · exact tracks.chained pending (by simp [split, member])
      · exact tracks.chained pending (by simp [split, member])
      · refine ⟨regular, fun other writes => ?_, fun _ store answer => quiet store answer⟩
        rw [noFirst] at writes
        cases writes
    · intro listener member
      exact tracks.listeners listener (by simpa using member)
    · intro pending member writes
      obtain ⟨source, present, origin, same⟩ := carried pending member writes
      rw [← origin]
      exact tracks.origins source present (same ▸ writes)
    · rw [split] at first
      simpa [noFirst] using first
    · rw [split, unacknowledged_append, unacknowledged_cons, written] at second
      have issued : unserved M.writeSecond? (before ++ after ++
          [(⟨origin, last, none⟩ : Pending I σ τ)]) =
            unserved M.writeSecond? net.flight ++ [value] := by
        simp [split, writes]
      have acknowledged : unacknowledged M.writeFirst? (before ++ after ++
          [(⟨origin, last, none⟩ : Pending I σ τ)]) =
            unacknowledged M.writeFirst? before ++ unacknowledged M.writeFirst? after := by
        simp [noFirst]
      rw [← split] at second
      change settled (M.second net.store)
        (unserved M.writeSecond? (before ++ after ++ [⟨origin, last, none⟩]) ++
          unacknowledged M.writeFirst? (before ++ after ++ [⟨origin, last, none⟩])) = desired
      rw [issued, acknowledged, List.append_assoc, List.singleton_append]
      refine settled_postpone ?_ second
      rcases undivided.earlier mineCarries with same | agreed
      · refine .inl (List.eq_nil_iff_forall_not_mem.mpr fun other member => ?_)
        obtain ⟨pending, present, carries⟩ := mem_unacknowledged.mp member
        refine ordered.deliver split pending present ?_
        exact same pending present (by simp [outstanding?, carries])
      · refine .inr fun other member => ?_
        rw [← split] at agreed
        refine tracks.uniform agreed other ?_
        rwa [split, unacknowledged_append, unacknowledged_cons, written, ← split]

/-- Notifying a listener keeps what is tracked: listeners are quiet. -/
theorem Tracks.notify (tracks : M.Tracks host holds mine desired net) {index : ℕ}
    {choice : B.Choice} (notified : net.notify? host index choice = some next) :
    M.Tracks host holds mine desired next := by
  obtain ⟨before, after, origin, subscription, cursor, event, seen, split, -, rfl⟩ :=
    Network.notify?_cases notified
  have quiet := tracks.listeners ⟨origin, subscription, cursor⟩ (by simp [split])
  have seenAll : M.Tracks host holds mine desired
      { net with listeners := before ++ ⟨origin, subscription, seen⟩ :: after } := by
    refine ⟨tracks.clients, tracks.chained, ?_, tracks.origins, tracks.first, tracks.second,
      tracks.undivided⟩
    intro listener member
    simp only [List.mem_append, List.mem_cons] at member
    rcases member with member | rfl | member
    · exact tracks.listeners listener (by simp [split, member])
    · exact quiet
    · exact tracks.listeners listener (by simp [split, member])
  exact seenAll.launch (quiet.2 net.store event trivial trivial)

end Mirror

end Async
