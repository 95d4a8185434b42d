import InstagramClone.Async.Network
import Mathlib.Data.List.Perm.Basic

/-! # The passage of one call through a run

A call whose origin nothing else in flight goes on for is served at one step of a run and answered
at a later one, whatever else happens between them, if at the end nothing of its origin is in
flight. What its callback issues then passes through the rest of the run in turn.
-/

namespace Async

variable {I : Interface} {B : Backend I} {σ τ κ : Type}

/-- Nobody with this origin reads an answer. -/
def Idle (origin : τ) (flight : List (Pending I σ τ)) : Prop :=
  ∀ pending ∈ flight, pending.origin = origin → ∀ answer, pending.call.callback answer = .done

namespace Network

/-- The call is in flight, and nothing else of its origin goes on. -/
structure Tracks (origin : τ) (call : Call I σ) (answer : Option (I.Response call.request))
    (net : Network B σ τ κ) : Prop where
  flight : ∃ others, net.flight.Perm (⟨origin, call, answer⟩ :: others) ∧ Idle origin others
  listeners : ∀ listener ∈ net.listeners, listener.origin ≠ origin

variable {net next : Network B σ τ κ} {origin : τ} {call : Call I σ}
  {answer : Option (I.Response call.request)}

private theorem Tracks.mem (tracks : net.Tracks origin call answer) :
    ⟨origin, call, answer⟩ ∈ net.flight := by
  obtain ⟨others, same, -⟩ := tracks.flight
  exact same.mem_iff.mpr (List.mem_cons_self ..)

variable [DecidableEq κ] {host : τ → κ}

/-- Code of another origin leaves the call where it is. -/
theorem Tracks.launch (tracks : net.Tracks origin call answer) {other : τ} (apart : other ≠ origin)
    (program : Program I σ) : (net.launch host other program).Tracks origin call answer := by
  cases running : net.clients (host other) with
  | none =>
    rw [launch_trapped running]
    exact tracks
  | some state =>
    rw [launch_running running]
    obtain ⟨others, same, idle⟩ := tracks.flight
    refine ⟨⟨others ++ (program.run state).calls.map fun call => ⟨other, call, none⟩, ?_, ?_⟩, ?_⟩
    · exact same.append_right _
    · intro pending member mine
      rcases List.mem_append.mp member with member | member
      · exact idle pending member mine
      · obtain ⟨_, -, rfl⟩ := List.mem_map.mp member
        exact absurd mine apart
    · intro listener member
      rcases List.mem_append.mp member with member | member
      · exact tracks.listeners listener member
      · obtain ⟨_, -, rfl⟩ := List.mem_map.mp member
        exact apart

/-- Code whose other requests nobody waits for leaves its call to be tracked. -/
theorem Tracks.of_launch {state : σ} {after : Option σ} (first last : List (Call I σ))
    {program : Program I σ} (running : net.clients (host origin) = some state)
    (ran : program.run state = ⟨after, first ++ call :: last, []⟩)
    (posted : ∀ other ∈ first ++ last, ∀ answer, other.callback answer = .done)
    (idle : Idle origin net.flight) (quiet : ∀ listener ∈ net.listeners, listener.origin ≠ origin) :
    (net.launch host origin program).Tracks origin call none := by
  rw [launch_running running, ran]
  refine ⟨⟨net.flight ++ (first ++ last).map fun call => ⟨origin, call, none⟩, ?_, ?_⟩, ?_⟩
  · simp only [List.map_append, List.map_cons]
    refine .trans (.append_left _ List.perm_middle) List.perm_middle
  · intro pending member mine
    rcases List.mem_append.mp member with member | member
    · exact idle pending member mine
    · obtain ⟨other, listed, rfl⟩ := List.mem_map.mp member
      exact posted other listed
  · simpa using quiet

/-- A signal leaves the call where it is, or serves it, or answers it. -/
theorem Tracks.signal (tracks : net.Tracks origin call answer) {signal : Signal B}
    (taken : net.signal? host signal = some next) :
    next.Tracks origin call answer ∨
    (∃ index choice reply, signal = .serve index choice ∧ answer = none ∧
      B.serve choice net.store call.request = some (next.store, reply) ∧
      next.Tracks origin call (some reply)) ∨
    ∃ (reply : _) (between : Network B σ τ κ), answer = some reply ∧ Idle origin between.flight ∧
      between.clients = net.clients ∧
      (∀ listener ∈ between.listeners, listener.origin ≠ origin) ∧
      next = between.launch host origin (call.callback reply) := by
  obtain ⟨others, same, idle⟩ := tracks.flight
  cases signal with
  | notify index choice =>
    obtain ⟨before, after, other, subscription, cursor, event, seen, split, -, rfl⟩ :=
      notify?_cases taken
    have apart : other ≠ origin := tracks.listeners ⟨other, subscription, cursor⟩ (by simp [split])
    have shown : Tracks origin call answer
        { net with listeners := before ++ ⟨other, subscription, seen⟩ :: after } := by
      refine ⟨tracks.flight, fun listener member => ?_⟩
      simp only [List.mem_append, List.mem_cons] at member
      rcases member with member | rfl | member
      · exact tracks.listeners listener (by simp [split, member])
      · exact apart
      · exact tracks.listeners listener (by simp [split, member])
    exact .inl (shown.launch apart _)
  | serve index choice =>
    obtain ⟨before, after, from', served, store, reply, split, -, resolved, rfl⟩ :=
      serve?_cases taken
    have moved : (⟨from', served, none⟩ :: (before ++ after)).Perm
        (⟨origin, call, answer⟩ :: others) := by
      refine List.perm_middle.symm.trans ?_
      rwa [← split]
    rcases List.mem_cons.mp (moved.mem_iff.mp (List.mem_cons_self ..)) with mine | member
    · cases mine
      refine .inr (.inl ⟨index, choice, reply, rfl, rfl, resolved, ⟨others, ?_, idle⟩,
        tracks.listeners⟩)
      exact List.perm_middle.trans (moved.cons_inv.cons _)
    · obtain ⟨first, last, rfl⟩ := List.append_of_mem member
      refine .inl ⟨⟨⟨from', served, some reply⟩ :: (first ++ last), ?_, ?_⟩, tracks.listeners⟩
      · refine List.perm_middle.trans (.trans (.cons _ (moved.trans ?_).cons_inv) (.swap ..))
        exact (List.perm_middle.cons _).trans (.swap ..)
      · intro pending among mine
        rcases List.mem_cons.mp among with rfl | among
        · exact idle ⟨from', served, none⟩ member mine
        · exact idle pending (by
            simp only [List.mem_append, List.mem_cons] at among ⊢
            tauto) mine
  | deliver index =>
    obtain ⟨before, after, from', served, reply, split, -, rfl⟩ := deliver?_cases taken
    have moved : (⟨from', served, some reply⟩ :: (before ++ after)).Perm
        (⟨origin, call, answer⟩ :: others) := by
      refine List.perm_middle.symm.trans ?_
      rwa [← split]
    rcases List.mem_cons.mp (moved.mem_iff.mp (List.mem_cons_self ..)) with mine | member
    · cases mine
      refine .inr (.inr ⟨reply, { net with flight := before ++ after }, rfl, ?_, rfl,
        tracks.listeners, rfl⟩)
      exact fun pending among => idle pending (moved.cons_inv.mem_iff.mp among)
    · obtain ⟨first, last, rfl⟩ := List.append_of_mem member
      have rest : Tracks origin call answer { net with flight := before ++ after } := by
        refine ⟨⟨first ++ last, (moved.trans ?_).cons_inv, fun pending among => ?_⟩,
          tracks.listeners⟩
        · exact (List.perm_middle.cons _).trans (.swap ..)
        · exact idle pending (by
            simp only [List.mem_append, List.mem_cons] at among ⊢
            tauto)
      left
      by_cases mine : from' = origin
      · rw [idle _ member mine reply, launch_done]
        exact rest
      · exact rest.launch mine _

end Network

section Run

variable [DecidableEq κ] {Label : Type} {host : τ → κ} {origin : τ} {call : Call I σ}
  {legal : Signal B → Prop}
  {step : Network B σ τ κ → Label → Network B σ τ κ → Prop} {net final : Network B σ τ κ}
  {labels : List Label}

/-- Every step is such a signal, or code of an origin that nothing in flight has. -/
def Marked (host : τ → κ) (legal : Signal B → Prop)
    (step : Network B σ τ κ → Label → Network B σ τ κ → Prop) : Prop :=
  ∀ {net label next}, step net label next →
    (∃ signal, legal signal ∧ net.signal? host signal = some next) ∨
    ∃ origin program, (∀ pending ∈ net.flight, pending.origin ≠ origin) ∧
      next = net.launch host origin program

/-- An answered call whose origin is gone at the end went on with its callback on the way. -/
theorem Run.answered {reply : I.Response call.request} (run : Run step net labels final)
    (marked : Marked host legal step) (tracks : net.Tracks origin call (some reply))
    (gone : ∀ pending ∈ final.flight, pending.origin ≠ origin) :
    ∃ (past future : List Label) (between : Network B σ τ κ), labels = past ++ future ∧
      Idle origin between.flight ∧
      (∀ listener ∈ between.listeners, listener.origin ≠ origin) ∧
      Run step net past (between.launch host origin (call.callback reply)) ∧
      Run step (between.launch host origin (call.callback reply)) future final := by
  induction run with
  | nil => exact absurd rfl (gone _ tracks.mem)
  | @cons net middle final label labels taken rest ih =>
    have later (kept : middle.Tracks origin call (some reply)) :
        ∃ (past future : List Label) (between : Network B σ τ κ),
          label :: labels = past ++ future ∧ Idle origin between.flight ∧
          (∀ listener ∈ between.listeners, listener.origin ≠ origin) ∧
          Run step net past (between.launch host origin (call.callback reply)) ∧
          Run step (between.launch host origin (call.callback reply)) future final := by
      obtain ⟨past, future, between, rfl, idle, quiet, first, last⟩ := ih kept gone
      exact ⟨label :: past, future, between, rfl, idle, quiet, .cons taken first, last⟩
    rcases marked taken with ⟨signal, allowed, taken'⟩ | ⟨other, program, fresh, rfl⟩
    · rcases tracks.signal taken' with kept | ⟨_, _, _, -, impossible, -⟩ |
        ⟨_, between, same, idle, -, quiet, rfl⟩
      · exact later kept
      · cases impossible
      · obtain rfl := Option.some.inj same
        exact ⟨[label], labels, between, rfl, idle, quiet, .single taken, rest⟩
    · exact later (tracks.launch (fresh _ tracks.mem).symm program)

/-- A call whose origin is gone at the end was served on the way, and answered after that. -/
theorem Run.served (run : Run step net labels final) (marked : Marked host legal step)
    (tracks : net.Tracks origin call none)
    (gone : ∀ pending ∈ final.flight, pending.origin ≠ origin) :
    ∃ (past future : List Label) (before after : Network B σ τ κ) (index : ℕ) (choice : B.Choice)
      (reply : I.Response call.request), labels = past ++ future ∧ legal (.serve index choice) ∧
      B.serve choice before.store call.request = some (after.store, reply) ∧
      after.Tracks origin call (some reply) ∧ Run step net past after ∧
      Run step after future final := by
  induction run with
  | nil => exact absurd rfl (gone _ tracks.mem)
  | @cons net middle final label labels taken rest ih =>
    have later (kept : middle.Tracks origin call none) :
        ∃ (past future : List Label) (before after : Network B σ τ κ) (index : ℕ)
          (choice : B.Choice) (reply : I.Response call.request), label :: labels = past ++ future ∧
          legal (.serve index choice) ∧
          B.serve choice before.store call.request = some (after.store, reply) ∧
          after.Tracks origin call (some reply) ∧ Run step net past after ∧
          Run step after future final := by
      obtain ⟨past, future, before, after, index, choice, reply, rfl, allowed, served, tracks,
        first, last⟩ := ih kept gone
      exact ⟨label :: past, future, before, after, index, choice, reply, rfl, allowed, served,
        tracks, .cons taken first, last⟩
    rcases marked taken with ⟨signal, allowed, taken'⟩ | ⟨other, program, fresh, rfl⟩
    · rcases tracks.signal taken' with kept |
        ⟨index, choice, reply, rfl, -, served, answered⟩ |
        ⟨_, _, impossible, -⟩
      · exact later kept
      · exact ⟨[label], labels, net, middle, index, choice, reply, rfl, allowed, served, answered,
          .single taken, rest⟩
      · cases impossible
    · exact later (tracks.launch (fresh _ tracks.mem).symm program)

end Run

end Async
