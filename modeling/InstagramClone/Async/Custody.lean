import InstagramClone.Async.Network

/-! # Names in the custody of requests

An answer may tell a name that only the program it is given to knows: a fresh object, say. The
program hands the name on, in the requests that ask for it and through their answers, to one
callback at a time. As long as the backend tells only fresh names, no two requests in flight hold
the same one. Beside the names, a request may pursue an aim: when it and the requests it leads to
succeed, one of them is of the kind aimed at.
-/

namespace Async

variable {I : Interface} {B : Backend I} {σ τ κ α : Type}

/-- The name that a request asks about, and the name that an answer tells. -/
structure Names (I : Interface) (α : Type) where
  asks : I.Request → Option α
  tells : (request : I.Request) → I.Response request → Option α

variable {names : Names I α} {only aim : I.Request → Prop}
  {good : (request : I.Request) → I.Response request → Prop}

namespace Program

/-- The program asks at most once about the name in its hand, and about no other, issues only
such requests, and so will its callbacks with the names told to them. -/
def Threads (names : Names I α) (only : I.Request → Prop) : Program I σ → Option α → Prop
  | .done, _ => True
  | .trap, _ => True
  | .send request callback next, hand => only request ∧
      (names.asks request = none ∧ next.Threads names only hand ∨
        names.asks request = hand ∧ next.Threads names only none) ∧
      ∀ answer, (callback answer).Threads names only (names.tells request answer)
  | .listen _ _ next, hand => next.Threads names only hand
  | .inspect body, hand => ∀ state, (body state).Threads names only hand
  | .update _ next, hand => next.Threads names only hand

/-- A request of the kind aimed at is issued, at once or after good answers. -/
def Pursues (good : (request : I.Request) → I.Response request → Prop) (aim : I.Request → Prop) :
    Program I σ → Prop
  | .done => False
  | .trap => False
  | .send request callback next => aim request ∨
      (∀ answer, good request answer → (callback answer).Pursues good aim) ∨ next.Pursues good aim
  | .listen _ _ next => next.Pursues good aim
  | .inspect body => ∀ state, (body state).Pursues good aim
  | .update _ next => next.Pursues good aim

end Program

/-- The callback hands the name told to it on. -/
def Call.Threads (names : Names I α) (only : I.Request → Prop) (call : Call I σ) : Prop :=
  ∀ answer, (call.callback answer).Threads names only (names.tells call.request answer)

def Call.Pursues (good : (request : I.Request) → I.Response request → Prop)
    (aim : I.Request → Prop) (call : Call I σ) : Prop :=
  aim call.request ∨ ∀ answer, good call.request answer → (call.callback answer).Pursues good aim

/-- Two calls do not ask about the same name. -/
def Call.Apart (names : Names I α) (first second : Call I σ) : Prop :=
  ∀ name, names.asks first.request = some name → names.asks second.request ≠ some name

namespace Program

variable {program first last : Program I σ} {hand : Option α} {state : σ}

/-- What running a program issues when it hands a name on. -/
structure Issues (names : Names I α) (only : I.Request → Prop) (hand : Option α)
    (calls : List (Call I σ)) : Prop where
  threads : ∀ call ∈ calls, call.Threads names only
  only : ∀ call ∈ calls, only call.request
  hand : ∀ call ∈ calls, ∀ name, names.asks call.request = some name → hand = some name
  apart : calls.Pairwise (Call.Apart names)

theorem Issues.cons {rest : Option α} {call : Call I σ} {calls : List (Call I σ)}
    (issued : Issues names only rest calls) (legal : only call.request)
    (threads : call.Threads names only)
    (split : names.asks call.request = none ∧ rest = hand ∨
      names.asks call.request = hand ∧ rest = none) : Issues names only hand (call :: calls) := by
  have taken (name : α) (asked : names.asks call.request = some name) :
      hand = some name ∧ rest = none := by
    rcases split with ⟨silent, -⟩ | ⟨same, none⟩
    · rw [silent] at asked
      cases asked
    · exact ⟨same ▸ asked, none⟩
  have left (name : α) (held : rest = some name) : hand = some name := by
    rcases split with ⟨-, rfl⟩ | ⟨-, rfl⟩
    · exact held
    · cases held
  refine ⟨?_, ?_, ?_, List.pairwise_cons.mpr ⟨?_, issued.apart⟩⟩
  · simpa [threads] using issued.threads
  · simpa [legal] using issued.only
  · intro other member name asked
    rcases List.mem_cons.mp member with rfl | member
    · exact (taken name asked).1
    · exact left name (issued.hand other member name asked)
  · intro other member name asked again
    have held := issued.hand other member name again
    rw [(taken name asked).2] at held
    cases held

theorem Threads.run (threads : program.Threads names only hand) :
    Issues names only hand (program.run state).calls := by
  induction program generalizing hand state with
  | done => exact ⟨by simp, by simp, by simp, by simp⟩
  | trap => exact ⟨by simp, by simp, by simp, by simp⟩
  | send request callback next _ ih =>
    obtain ⟨legal, asked, answers⟩ := threads
    rcases asked with ⟨silent, rest⟩ | ⟨asked, rest⟩
    · exact (ih rest).cons legal answers (.inl ⟨silent, rfl⟩)
    · exact (ih rest).cons legal answers (.inr ⟨asked, rfl⟩)
  | listen topic callback next _ ih => exact ih threads
  | inspect body ih => exact ih state (threads state)
  | update change next ih => exact ih threads

theorem Threads.seq (left : first.Threads names only none) (right : last.Threads names only none) :
    (first.seq last).Threads names only none := by
  induction first with
  | done => exact right
  | trap => trivial
  | send request callback next _ ih =>
    obtain ⟨legal, asked, answers⟩ := left
    exact ⟨legal, asked.imp (fun rest => ⟨rest.1, ih rest.2⟩) (fun rest => ⟨rest.1, ih rest.2⟩),
      answers⟩
  | listen topic callback next _ ih => exact ih left
  | inspect body ih => exact fun state => ih state (left state)
  | update change next ih => exact ih left

theorem threads_forEach {ι : Type} {items : List ι} {body : ι → Program I σ}
    (each : ∀ item ∈ items, (body item).Threads names only none) :
    (forEach items body).Threads names only none := by
  induction items with
  | nil => trivial
  | cons item rest ih =>
    exact (each item (List.mem_cons_self ..)).seq
      (ih fun other member => each other (List.mem_cons_of_mem _ member))

theorem Pursues.run (pursues : program.Pursues good aim) :
    ∃ call ∈ (program.run state).calls, call.Pursues good aim := by
  induction program generalizing state with
  | done => exact pursues.elim
  | trap => exact pursues.elim
  | send request callback next _ ih =>
    rcases pursues with aimed | leads | later
    · exact ⟨_, List.mem_cons_self .., .inl aimed⟩
    · exact ⟨_, List.mem_cons_self .., .inr leads⟩
    · obtain ⟨call, issued, pursues⟩ := ih later
      exact ⟨call, List.mem_cons_of_mem _ issued, pursues⟩
  | listen topic callback next _ ih => exact ih pursues
  | inspect body ih => exact ih state (pursues state)
  | update change next ih => exact ih pursues

end Program

/-- The name in the custody of a request in flight: the one it asks about, or was told. -/
def Pending.held? (names : Names I α) (pending : Pending I σ τ) : Option α :=
  match pending.answer with
  | none => names.asks pending.call.request
  | some answer => names.tells pending.call.request answer

def Pending.Threads (names : Names I α) (only : I.Request → Prop) (pending : Pending I σ τ) : Prop :=
  match pending.answer with
  | none => pending.call.Threads names only
  | some answer => (pending.call.callback answer).Threads names only
      (names.tells pending.call.request answer)

def Pending.Pursues (good : (request : I.Request) → I.Response request → Prop)
    (aim : I.Request → Prop) (pending : Pending I σ τ) : Prop :=
  match pending.answer with
  | none => pending.call.Pursues good aim
  | some answer => (pending.call.callback answer).Pursues good aim

/-- Two requests in flight do not hold the same name. -/
def Pending.Apart (names : Names I α) (first second : Pending I σ τ) : Prop :=
  ∀ name, first.held? names = some name → second.held? names ≠ some name

namespace Network

/-- Every request in flight hands its name on, and no two hold the same. -/
structure Custody (names : Names I α) (only : I.Request → Prop) (net : Network B σ τ κ) : Prop where
  threads : ∀ pending ∈ net.flight, pending.Threads names only
  apart : net.flight.Pairwise (Pending.Apart names)

variable {net next : Network B σ τ κ} {host : τ → κ}

theorem Pending.Apart.symm {first second : Pending I σ τ} (apart : first.Apart names second) :
    second.Apart names first :=
  fun name held again => apart name again held

/-- No other request in flight holds the name of this one. -/
theorem Custody.others {before after : List (Pending I σ τ)} {pending : Pending I σ τ}
    (custody : net.Custody names only) (split : net.flight = before ++ pending :: after) :
    ∀ other ∈ before ++ after, pending.Apart names other := by
  have apart := custody.apart
  rw [split, List.pairwise_append, List.pairwise_cons] at apart
  intro other member
  rcases List.mem_append.mp member with member | member
  · exact Pending.Apart.symm (apart.2.2 other member pending (List.mem_cons_self ..))
  · exact apart.2.1.1 other member

/-- An answer tells the name that was asked about, or one that no request in flight holds. -/
theorem Custody.serve {before after : List (Pending I σ τ)} {origin : τ} {call : Call I σ}
    {store : B.Store} {answer : I.Response call.request} (custody : net.Custody names only)
    (split : net.flight = before ++ ⟨origin, call, none⟩ :: after)
    (told : ∀ name, names.tells call.request answer = some name →
      names.asks call.request = some name ∨
        ∀ pending ∈ net.flight, pending.held? names ≠ some name) :
    Custody names only { net with
      store := store
      flight := before ++ ⟨origin, call, some answer⟩ :: after } := by
  have mine := custody.threads ⟨origin, call, none⟩ (by simp [split])
  have kept : ∀ other ∈ before ++ after,
      Pending.Apart names ⟨origin, call, some answer⟩ other := by
    intro other member name held
    rcases told name held with asked | fresh
    · exact custody.others split other member name asked
    · refine fresh other ?_
      rcases List.mem_append.mp member with member | member <;> simp [split, member]
  have apart := custody.apart
  rw [split, List.pairwise_append, List.pairwise_cons] at apart
  obtain ⟨apartBefore, ⟨-, apartAfter⟩, across⟩ := apart
  refine ⟨?_, ?_⟩
  · intro pending member
    rcases List.mem_append.mp member with member | member
    · exact custody.threads pending (by simp [split, member])
    · rcases List.mem_cons.mp member with rfl | member
      · exact mine answer
      · exact custody.threads pending (by simp [split, member])
  · refine List.pairwise_append.mpr ⟨apartBefore, List.pairwise_cons.mpr ⟨?_, apartAfter⟩, ?_⟩
    · exact fun other member => kept other (List.mem_append_right _ member)
    · intro first firstIn second secondIn
      rcases List.mem_cons.mp secondIn with rfl | secondIn
      · exact Pending.Apart.symm (kept first (List.mem_append_left _ firstIn))
      · exact across first firstIn second (List.mem_cons_of_mem _ secondIn)

variable [DecidableEq κ] {origin : τ} {program : Program I σ}

/-- New requests hand their names on, and hold none that another request in flight does. -/
theorem Custody.launch (custody : net.Custody names only)
    (issues : ∀ state ∈ net.clients (host origin),
      (∀ call ∈ (program.run state).calls, call.Threads names only) ∧
      (program.run state).calls.Pairwise (Call.Apart names) ∧
      ∀ call ∈ (program.run state).calls, ∀ name, names.asks call.request = some name →
        ∀ pending ∈ net.flight, pending.held? names ≠ some name) :
    (net.launch host origin program).Custody names only := by
  cases running : net.clients (host origin) with
  | none => rwa [launch_trapped running]
  | some state =>
    obtain ⟨threads, apart, others⟩ := issues state running
    rw [launch_running running]
    refine ⟨fun pending member => ?_, ?_⟩
    · rcases List.mem_append.mp member with member | member
      · exact custody.threads pending member
      · obtain ⟨call, issued, rfl⟩ := List.mem_map.mp member
        exact threads call issued
    · refine List.pairwise_append.mpr ⟨custody.apart, List.pairwise_map.mpr apart, ?_⟩
      intro pending member new added name held again
      obtain ⟨call, issued, rfl⟩ := List.mem_map.mp added
      exact others call issued name again pending member held

/-- A delivered answer hands its name on to the requests its callback issues. -/
theorem Custody.deliver {index : ℕ} (custody : net.Custody names only)
    (delivered : net.deliver? host index = some next) : next.Custody names only := by
  obtain ⟨before, after, origin, call, answer, split, -, rfl⟩ := deliver?_cases delivered
  have mine := custody.threads ⟨origin, call, some answer⟩ (by simp [split])
  have rest : Custody names only { net with flight := before ++ after } := by
    have apart := custody.apart
    rw [split] at apart
    refine ⟨fun pending member => custody.threads pending ?_, ?_⟩
    · rcases List.mem_append.mp member with member | member <;> simp [split, member]
    · exact apart.sublist ((List.sublist_cons_self _ after).append_left before)
  refine rest.launch fun state _ => ?_
  have issued : Program.Issues names only _ ((call.callback answer).run state).calls :=
    Program.Threads.run mine
  refine ⟨issued.threads, issued.apart, fun new member name asked pending others held => ?_⟩
  exact custody.others split pending others name (issued.hand new member name asked) held

omit [DecidableEq κ] in
/-- Some request of an able origin pursues the aim. -/
def Pursued (able : τ → Prop) (good : (request : I.Request) → I.Response request → Prop)
    (aim : I.Request → Prop) (net : Network B σ τ κ) : Prop :=
  ∃ pending ∈ net.flight, able pending.origin ∧ pending.Pursues good aim

variable {able : τ → Prop}

theorem Pursued.launch (pursued : net.Pursued able good aim) (origin : τ) (program : Program I σ) :
    (net.launch host origin program).Pursued able good aim := by
  obtain ⟨pending, member, rest⟩ := pursued
  cases running : net.clients (host origin) with
  | none =>
    rw [launch_trapped running]
    exact ⟨pending, member, rest⟩
  | some state =>
    rw [launch_running running]
    exact ⟨pending, List.mem_append_left _ member, rest⟩

/-- Starting a program that pursues the aim. -/
theorem pursued_launch {state : σ} (running : net.clients (host origin) = some state)
    (may : able origin) {call : Call I σ} (issued : call ∈ (program.run state).calls)
    (pursues : call.Pursues good aim) :
    (net.launch host origin program).Pursued able good aim := by
  rw [launch_running running]
  exact ⟨⟨origin, call, none⟩, List.mem_append_right _ (List.mem_map_of_mem issued), may, pursues⟩

omit [DecidableEq κ] in
/-- A request that is answered well was aimed at, or the pursuit goes on. -/
theorem Pursued.serve (pursued : net.Pursued able good aim)
    {before after : List (Pending I σ τ)} {origin : τ} {call : Call I σ} {store : B.Store}
    {answer : I.Response call.request} (split : net.flight = before ++ ⟨origin, call, none⟩ :: after)
    (well : able origin → good call.request answer) :
    (able origin ∧ aim call.request) ∨ Pursued able good aim { net with
      store := store
      flight := before ++ ⟨origin, call, some answer⟩ :: after } := by
  obtain ⟨pending, member, may, pursues⟩ := pursued
  simp only [split, List.mem_append, List.mem_cons] at member
  rcases member with member | rfl | member
  · exact .inr ⟨pending, by simp [member], may, pursues⟩
  · rcases pursues with aimed | leads
    · exact .inl ⟨may, aimed⟩
    · exact .inr ⟨⟨origin, call, some answer⟩, by simp, may, leads answer (well may)⟩
  · exact .inr ⟨pending, by simp [member], may, pursues⟩

/-- While no client has trapped, deliveries go on with the pursuit. -/
theorem Pursued.deliver {index : ℕ} (pursued : net.Pursued able good aim)
    (running : ∀ client, ∃ state, net.clients client = some state)
    (delivered : net.deliver? host index = some next) : next.Pursued able good aim := by
  obtain ⟨before, after, origin, call, answer, split, -, rfl⟩ := deliver?_cases delivered
  obtain ⟨pending, member, may, pursues⟩ := pursued
  have elsewhere (left : pending ∈ before ++ after) :
      Pursued able good aim { net with flight := before ++ after } := ⟨pending, left, may, pursues⟩
  simp only [split, List.mem_append, List.mem_cons] at member
  rcases member with member | rfl | member
  · exact (elsewhere (List.mem_append_left _ member)).launch origin _
  · obtain ⟨state, running⟩ := running (host origin)
    obtain ⟨new, issued, pursues⟩ : ∃ new ∈ ((call.callback answer).run state).calls,
        new.Pursues good aim := Program.Pursues.run pursues
    exact pursued_launch running may issued pursues
  · exact (elsewhere (List.mem_append_right _ member)).launch origin _

end Network

end Async
