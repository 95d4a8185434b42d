import InstagramClone.Async.Completion

/-! # A client that waits while errands run

Beside the one request whose answer a client goes on with, it may have issued errands: requests
that, with all that follows from them, leave the client as it is. Until nothing is left in flight
they are served and answered in any order with the request and its successors, and all they do is
move the store in a way of their own.
-/

namespace Async

variable {I : Interface} {B : Backend I} {σ : Type}

/-- The call and all that follow from it ask only such requests, and leave every client as it is. -/
inductive Call.Errand (asks : I.Request → Prop) : Call I σ → Prop
  | intro {call : Call I σ} : asks call.request →
    (∀ answer state, ((call.callback answer).run state).state = some state ∧
      ((call.callback answer).run state).subscriptions = []) →
    (∀ answer state, ∀ new ∈ ((call.callback answer).run state).calls, new.Errand asks) →
    call.Errand asks

/-- Serving such requests moves the store in this way. -/
structure Backend.Moves (B : Backend I) (asks : I.Request → Prop)
    (evolves : B.Store → B.Store → Prop) : Prop where
  refl : ∀ store, evolves store store
  trans : ∀ {first second third}, evolves first second → evolves second third → evolves first third
  serve : ∀ {choice store later request answer}, asks request →
    B.serve choice store request = some (later, answer) → evolves store later

variable {asks : I.Request → Prop}

private theorem Call.Errand.asked {call : Call I σ} (errand : call.Errand asks) :
    asks call.request := by
  cases errand
  assumption

/-- The callback of an errand, as it runs: the client is left alone, with more errands to run. -/
theorem Call.Errand.run {call : Call I σ} (errand : call.Errand asks)
    (answer : I.Response call.request) (state : σ) :
    ∃ calls, (call.callback answer).run state = ⟨some state, calls, []⟩ ∧
      ∀ new ∈ calls, new.Errand asks := by
  cases errand with
  | intro _ leaves follow =>
    obtain ⟨same, quiet⟩ := leaves answer state
    exact ⟨_, by rw [← same, ← quiet], follow answer state⟩

/-- A request whose answer nobody reads is an errand. -/
theorem Call.errand_post {request : I.Request} (asked : asks request) :
    (⟨request, fun _ => .done⟩ : Call I σ).Errand asks :=
  .intro asked (fun _ _ => ⟨rfl, rfl⟩) fun _ _ _ issued => by cases issued

namespace Network

/-- One client in this state, with the awaited requests in flight and errands beside them. -/
structure Awaits (asks : I.Request → Prop) (state : σ) (net : Network B σ Unit Unit)
    (wanted : List (Pending I σ Unit)) : Prop where
  clients : net.clients = fun _ => some state
  listeners : net.listeners = []
  flight : ∃ errands, net.flight.Perm (wanted ++ errands) ∧
    ∀ pending ∈ errands, pending.call.Errand asks

variable {state next : σ} {net : Network B σ Unit Unit} {wanted : List (Pending I σ Unit)}

theorem lone_awaits (store : B.Store) (state : σ) : (lone store state []).Awaits (B := B) asks state [] :=
  ⟨rfl, rfl, [], .refl _, by simp⟩

/-- Code that issues what is awaited from now on, and errands. -/
theorem Awaits.launch {program : Program I σ} {calls errands : List (Call I σ)}
    (awaits : net.Awaits asks state [])
    (ran : program.run state = ⟨some next, calls, []⟩) {call : List (Call I σ)}
    (issued : calls.Perm (call ++ errands)) (each : ∀ errand ∈ errands, errand.Errand asks) :
    (net.launch id () program).Awaits asks next (call.map fun call => ⟨(), call, none⟩) := by
  obtain ⟨others, same, all⟩ := awaits.flight
  rw [launch_running (show net.clients (id ()) = some state from congrFun awaits.clients ()), ran]
  refine ⟨funext fun _ => by simp, by simpa using awaits.listeners,
    errands.map (fun call => ⟨(), call, none⟩) ++ others, ?_, fun pending member => ?_⟩
  · dsimp only
    refine ((issued.map _).append_left _).trans ?_
    rw [List.map_append]
    refine (List.perm_append_comm.trans (.of_eq (List.append_assoc ..))).trans ?_
    exact ((same.append_left _).append_left _)
  · rcases List.mem_append.mp member with member | member
    · obtain ⟨errand, issued, rfl⟩ := List.mem_map.mp member
      exact each errand issued
    · exact all pending member

section Steps

variable {later : Network B σ Unit Unit} {evolves : B.Store → B.Store → Prop}
  {legal : Signal B → Prop}

/-- What may happen while a client waits: an errand moves on, or something awaited does. -/
private theorem Awaits.signal (awaits : net.Awaits asks state wanted) {signal : Signal B}
    (moves : B.Moves asks evolves) (taken : net.signal? id signal = some later) :
    (later.Awaits asks state wanted ∧ evolves net.store later.store) ∨
    (∃ rest call choice store answer, wanted.Perm (⟨(), call, none⟩ :: rest) ∧
      B.serve choice net.store call.request = some (store, answer) ∧ later.store = store ∧
      later.Awaits asks state (⟨(), call, some answer⟩ :: rest)) ∨
    ∃ (between : Network B σ Unit Unit) (rest : _) (call : Call I σ) (answer : _),
      wanted.Perm (⟨(), call, some answer⟩ :: rest) ∧ between.Awaits asks state rest ∧
      between.store = net.store ∧ later = between.launch id () (call.callback answer) := by
  obtain ⟨errands, same, all⟩ := awaits.flight
  cases signal with
  | notify index choice =>
    obtain ⟨before, after, _, _, _, _, _, split, -⟩ := notify?_cases taken
    simp [awaits.listeners] at split
  | serve index choice =>
    obtain ⟨before, after, _, call, store, answer, split, -, served, rfl⟩ := serve?_cases taken
    have apart : (⟨(), call, none⟩ :: (before ++ after)).Perm (wanted ++ errands) := by
      refine List.perm_middle.symm.trans ?_
      rwa [← split]
    rcases List.mem_append.mp (apart.mem_iff.mp (List.mem_cons_self ..)) with member | member
    · right; left
      obtain ⟨first, last, rfl⟩ := List.append_of_mem member
      refine ⟨first ++ last, call, choice, store, answer, List.perm_middle, served, rfl,
        awaits.clients, awaits.listeners, errands, ?_, all⟩
      refine List.perm_middle.trans ((apart.trans ?_).cons_inv.cons _)
      exact (List.perm_middle.append_right _)
    · left
      obtain ⟨first, last, rfl⟩ := List.append_of_mem member
      have mine := all _ member
      refine ⟨⟨awaits.clients, awaits.listeners, ⟨(), call, some answer⟩ :: (first ++ last), ?_, ?_⟩,
        moves.serve mine.asked served⟩
      · refine List.perm_middle.trans (.trans (.cons _ (apart.trans ?_).cons_inv)
          List.perm_middle.symm)
        exact (List.perm_middle.append_left _).trans List.perm_middle
      · intro pending among
        rcases List.mem_cons.mp among with rfl | among
        · exact mine
        · exact all pending (by
            simp only [List.mem_append, List.mem_cons] at among ⊢
            tauto)
  | deliver index =>
    obtain ⟨before, after, _, call, answer, split, -, rfl⟩ := deliver?_cases taken
    have apart : (⟨(), call, some answer⟩ :: (before ++ after)).Perm (wanted ++ errands) := by
      refine List.perm_middle.symm.trans ?_
      rwa [← split]
    rcases List.mem_append.mp (apart.mem_iff.mp (List.mem_cons_self ..)) with member | member
    · right; right
      obtain ⟨first, last, rfl⟩ := List.append_of_mem member
      refine ⟨{ net with flight := before ++ after }, first ++ last, call, answer, List.perm_middle,
        ⟨awaits.clients, awaits.listeners, errands, ?_, all⟩, rfl, rfl⟩
      exact (apart.trans (List.perm_middle.append_right _)).cons_inv
    · left
      obtain ⟨first, last, rfl⟩ := List.append_of_mem member
      obtain ⟨calls, ran, follow⟩ := (all _ member).run answer state
      refine ⟨?_, by rw [launch_store]; exact moves.refl _⟩
      rw [launch_running (show _ = some state from congrFun awaits.clients ()), ran]
      refine ⟨funext fun _ => by simp, by simpa using awaits.listeners,
        first ++ last ++ calls.map (fun call => ⟨(), call, none⟩), ?_, ?_⟩
      · dsimp only
        rw [← List.append_assoc wanted]
        refine List.Perm.append_right _ (apart.trans ?_).cons_inv
        exact (List.perm_middle.append_left _).trans List.perm_middle
      · intro pending among
        rcases List.mem_append.mp among with among | among
        · exact all pending (by
            simp only [List.mem_append, List.mem_cons] at among ⊢
            tauto)
        · obtain ⟨new, issued, rfl⟩ := List.mem_map.mp among
          exact follow new issued

variable {call : Call I σ} {answer : I.Response call.request} {final : Network B σ Unit Unit}

/-- Errands alone leave the client as it is. -/
theorem Completes.errands (completes : net.Completes id legal final)
    (awaits : net.Awaits asks state []) (moves : B.Moves asks evolves) :
    final.clients () = some state ∧ evolves net.store final.store := by
  obtain ⟨signals, run, -⟩ := completes
  have all : final.Awaits asks state [] ∧ evolves net.store final.store := by
    refine run.history (fun _ later => later.Awaits asks state [] ∧ evolves net.store later.store)
      ⟨awaits, moves.refl _⟩ ?_
    rintro _ between signal later ⟨-, taken⟩ ⟨awaits, moved⟩
    rcases awaits.signal moves taken with ⟨awaits, further⟩ | ⟨_, _, _, _, _, one, -⟩ |
      ⟨_, _, _, _, one, -⟩
    · exact ⟨awaits, moves.trans moved further⟩
    · exact absurd one.length_eq (by simp)
    · exact absurd one.length_eq (by simp)
  exact ⟨congrFun all.1.clients (), all.2⟩

/-- The answer awaited arrives, and the client goes on. -/
theorem Completes.answered (completes : net.Completes id legal final)
    (awaits : net.Awaits asks state [⟨(), call, some answer⟩]) (moves : B.Moves asks evolves) :
    ∃ between : Network B σ Unit Unit, between.Awaits asks state [] ∧
      evolves net.store between.store ∧
      (between.launch id () (call.callback answer)).Completes id legal final := by
  obtain ⟨signals, run, idle⟩ := completes
  induction run with
  | nil net =>
    obtain ⟨errands, same, -⟩ := awaits.flight
    rw [idle] at same
    exact absurd same.length_eq (by simp)
  | @cons net middle _ signal _ taken rest ih =>
    rcases awaits.signal moves taken.2 with ⟨awaits, further⟩ | ⟨_, _, _, _, _, one, -⟩ |
      ⟨between, rest', other, reply, one, awaits, same, rfl⟩
    · obtain ⟨between, waits, moved, goes⟩ := ih awaits idle
      exact ⟨between, waits, moves.trans further moved, goes⟩
    · obtain ⟨same, -⟩ := List.cons.inj (List.singleton_perm.mp one)
      cases same
    · obtain ⟨equal, rfl⟩ := List.cons.inj (List.singleton_perm.mp one)
      cases equal
      exact ⟨between, awaits, by rw [same]; exact moves.refl _, _, rest, idle⟩

/-- The request awaited is served and answered, and the client goes on. -/
theorem Completes.awaited (completes : net.Completes id legal final)
    (awaits : net.Awaits asks state [⟨(), call, none⟩]) (moves : B.Moves asks evolves) :
    ∃ (before after : B.Store) (choice : B.Choice) (answer : _) (between : Network B σ Unit Unit),
      evolves net.store before ∧ B.serve choice before call.request = some (after, answer) ∧
      evolves after between.store ∧ between.Awaits asks state [] ∧
      (between.launch id () (call.callback answer)).Completes id legal final := by
  obtain ⟨signals, run, idle⟩ := completes
  induction run with
  | nil net =>
    obtain ⟨errands, same, -⟩ := awaits.flight
    rw [idle] at same
    exact absurd same.length_eq (by simp)
  | @cons net middle _ signal _ taken rest ih =>
    rcases awaits.signal moves taken.2 with ⟨awaits, further⟩ |
      ⟨_, other, choice, store, answer, one, served, same, awaits⟩ | ⟨_, _, _, _, one, -⟩
    · obtain ⟨before, after, choice, answer, between, moved, served, goes⟩ := ih awaits idle
      exact ⟨before, after, choice, answer, between, moves.trans further moved, served, goes⟩
    · obtain ⟨equal, rfl⟩ := List.cons.inj (List.singleton_perm.mp one)
      cases equal
      obtain ⟨between, waits, moved, goes⟩ := Completes.answered ⟨_, rest, idle⟩ awaits moves
      exact ⟨_, store, choice, answer, between, moves.refl _, served, same ▸ moved, waits, goes⟩
    · obtain ⟨equal, -⟩ := List.cons.inj (List.singleton_perm.mp one)
      cases equal

end Steps

end Network

end Async
