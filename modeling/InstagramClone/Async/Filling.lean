import InstagramClone.Async.Contract
import InstagramClone.Async.Work

/-! # Filling slots by reading

A client loads values of several slots from a store at rest. Each job is for one slot: its answer
fills the slot with the right content, or makes way for another job of the slot, and no job spoils a
slot that is filled. Then, however many loads overlap and in whatever order the answers come, every
slot that was asked for is filled once nothing is in flight.
-/

namespace Async

variable {I : Interface} {B : Backend I} {σ J K : Type} {call : J → Call I σ} {store : B.Store}

/-- Jobs that fill slots from a store that they leave as it is. -/
structure Filling (B : Backend I) (call : J → Call I σ) (store : B.Store) (K : Type) where
  /-- The slot that a job is for. -/
  slot : J → K
  /-- How requests may be resolved. -/
  chosen : B.Choice → Prop
  /-- What holds of the client meanwhile. -/
  valid : σ → Prop
  filled : K → σ → Prop
  /-- What a job brings with it is right, and so is its answer. -/
  right : Posted call → Prop
  serve : ∀ {choice job later answer}, chosen choice → right ⟨job, none⟩ →
    B.serve choice store (call job).request = some (later, answer) →
    later = store ∧ right ⟨job, some answer⟩
  deliver : ∀ {state job answer}, valid state → right ⟨job, some answer⟩ →
    ∃ later jobs, ((call job).callback answer).run state = ⟨some later, jobs.map call, []⟩ ∧
      valid later ∧ (∀ slot, filled slot state → filled slot later) ∧
      (∀ other ∈ jobs, slot other = slot job ∧ right ⟨other, none⟩) ∧
      (jobs = [] → filled (slot job) later)

namespace Filling

variable {filling : Filling B call store K} {asked asks : K → Prop}
  {net next : Network B σ Unit Unit} {state : σ}

/-- The slots asked for are filled or under way. -/
structure Progress (filling : Filling B call store K) (asked : K → Prop) (state : σ)
    (work : List (Posted call)) : Prop where
  valid : filling.valid state
  right : ∀ posted ∈ work, filling.right posted
  slots : ∀ slot, asked slot → filling.filled slot state ∨
    Underway (fun job => filling.slot job = slot) work

/-- The client is at work on its slots, and on nothing else. -/
def Works (filling : Filling B call store K) (asked : K → Prop) (net : Network B σ Unit Unit) : Prop :=
  ∃ state work, net = .working (fun _ => ()) store state work ∧ filling.Progress asked state work

theorem works_of_idle (running : net.clients () = some state) (idle : net.flight = [])
    (quiet : net.listeners = []) (rests : net.store = store) (valid : filling.valid state)
    (unasked : ∀ slot, ¬ asked slot) : filling.Works asked net := by
  subst rests
  refine ⟨state, [], Network.eq_working call _ running idle quiet, valid, by simp, ?_⟩
  exact fun slot wanted => absurd wanted (unasked slot)

theorem Works.mono (works : filling.Works asked net) (fewer : ∀ slot, asks slot → asked slot) :
    filling.Works asks net := by
  obtain ⟨state, work, same, valid, right, slots⟩ := works
  exact ⟨state, work, same, valid, right, fun slot wanted => slots slot (fewer slot wanted)⟩

/-- The store is at rest, and once nothing is in flight, what was asked for is filled. -/
theorem Works.over (works : filling.Works asked net) : net.store = store ∧
    ∃ state, net.clients () = some state ∧ filling.valid state ∧
      (net.flight = [] → ∀ slot, asked slot → filling.filled slot state) := by
  obtain ⟨state, work, rfl, progress⟩ := works
  refine ⟨rfl, state, rfl, progress.valid, fun idle slot wanted => ?_⟩
  obtain rfl := Network.working_idle.mp idle
  exact (progress.slots slot wanted).resolve_right not_underway_nil

/-- An action that keeps what is filled asks for the slots of its jobs. -/
theorem Works.launch (works : filling.Works asked net) {program : Program I σ}
    (ran : ∀ state, filling.valid state → ∃ (later : σ) (jobs : List J),
      program.run state = ⟨some later, jobs.map call, []⟩ ∧ filling.valid later ∧
      (∀ slot, filling.filled slot state → filling.filled slot later) ∧
      (∀ job ∈ jobs, filling.right ⟨job, none⟩) ∧
      ∀ slot, asks slot → ∃ job ∈ jobs, filling.slot job = slot) :
    filling.Works (fun slot => asked slot ∨ asks slot) (net.launch id () program) := by
  obtain ⟨state, work, rfl, valid, right, slots⟩ := works
  obtain ⟨later, jobs, ran, still, kept, issued, covered⟩ := ran state valid
  refine ⟨later, _, Network.launch_working ran fun _ _ => rfl, still, ?_, ?_⟩
  · rintro ⟨job, answer⟩ member
    rcases List.mem_append.mp member with member | member
    · exact right _ member
    · obtain ⟨asked, fresh⟩ := mem_issue.mp member
      obtain rfl : answer = none := fresh
      exact issued job asked
  · rintro slot (wanted | wanted)
    · exact (slots slot wanted).imp (kept slot) fun underway => underway.append _
    · obtain ⟨job, asked, mine⟩ := covered slot wanted
      exact .inr (underway_issue asked mine)

section Signal

variable {before after : List (Posted call)} {job : J}

theorem Progress.serve {choice : B.Choice} {later : B.Store} {answer}
    (progress : filling.Progress asked state (before ++ ⟨job, none⟩ :: after))
    (legal : filling.chosen choice)
    (served : B.serve choice store (call job).request = some (later, answer)) :
    later = store ∧ filling.Progress asked state (before ++ ⟨job, some answer⟩ :: after) := by
  obtain ⟨valid, right, slots⟩ := progress
  obtain ⟨rfl, answered⟩ := filling.serve legal (right ⟨job, none⟩ (by simp)) served
  exact ⟨rfl, valid, forall_served right answered,
    fun slot wanted => (slots slot wanted).imp_right Underway.serve⟩

theorem Progress.deliver {answer : I.Response (call job).request}
    (progress : filling.Progress asked state (before ++ ⟨job, some answer⟩ :: after)) :
    ∃ later jobs, ((call job).callback answer).run state = ⟨some later, jobs.map call, []⟩ ∧
      filling.Progress asked later (before ++ after ++ issue call jobs) := by
  obtain ⟨valid, right, slots⟩ := progress
  obtain ⟨later, jobs, ran, still, kept, issued, fills⟩ :=
    filling.deliver valid (right ⟨job, some answer⟩ (by simp))
  refine ⟨later, jobs, ran, still, ?_, fun slot wanted => ?_⟩
  · rintro ⟨other, reply⟩ member
    rcases List.mem_append.mp member with member | member
    · apply right
      simp only [List.mem_append, List.mem_cons] at member ⊢
      tauto
    · obtain ⟨asked, fresh⟩ := mem_issue.mp member
      obtain rfl : reply = none := fresh
      exact (issued other asked).2
  · rcases slots slot wanted with done | underway
    · exact .inl (kept slot done)
    by_cases mine : filling.slot job = slot
    · -- the job of the slot has ended: it has filled the slot or handed it to the next job
      cases jobs with
      | nil => exact .inl (mine ▸ fills rfl)
      | cons following rest =>
        have first := List.mem_cons_self (a := following) (l := rest)
        exact .inr (underway_issue first ((issued following first).1.trans mine))
    · exact .inr ((underway.rest mine).append _)

/-- A signal keeps the client at work on its slots. -/
theorem Works.signal {signal : Signal B} (works : filling.Works asked net)
    (legal : signal.Chosen filling.chosen) (taken : net.signal? id signal = some next) :
    filling.Works asked next := by
  obtain ⟨state, work, rfl, progress⟩ := works
  rcases Network.signal_working taken with
    ⟨before, job, after, choice, later, answer, rfl, rfl, served, rfl⟩ |
    ⟨before, job, answer, after, rfl, rfl, rfl⟩
  · obtain ⟨rfl, served⟩ := progress.serve legal served
    exact ⟨state, _, rfl, served⟩
  · obtain ⟨later, jobs, ran, delivered⟩ := progress.deliver
    exact ⟨later, _, Network.launch_working ran fun _ _ => rfl, delivered⟩

end Signal

end Filling

end Async
