import InstagramClone.Async.Network
import InstagramClone.Async.Register

/-! # The requests of one client as jobs

When all that a client has in flight are the calls of jobs of some kind, the network is told by its
store, the state of the client and the list of these jobs, each with its answer once it has one.
A signal then answers one job, or takes an answered job out and runs its callback. A job knows the
origin it descends from.
-/

namespace Async

variable {I : Interface} {B : Backend I} {σ τ J : Type} {call : J → Call I σ}

/-- A job in flight, with its answer once it has one. -/
structure Posted (call : J → Call I σ) where
  job : J
  answer : Option (I.Response (call job).request) := none

/-- The request of the job, in flight. -/
def Posted.pending (origin : J → τ) (posted : Posted call) : Pending I σ τ :=
  ⟨origin posted.job, call posted.job, posted.answer⟩

/-- Jobs that have just been issued. -/
def issue (call : J → Call I σ) (jobs : List J) : List (Posted call) := jobs.map fun job => ⟨job, none⟩

@[simp] theorem issue_nil : issue call [] = [] := rfl

@[simp] theorem issue_cons (job : J) (jobs : List J) :
    issue call (job :: jobs) = ⟨job, none⟩ :: issue call jobs := rfl

@[simp] theorem issue_append (first second : List J) :
    issue call (first ++ second) = issue call first ++ issue call second :=
  List.map_append

@[simp] theorem mem_issue {jobs : List J} {posted : Posted call} :
    posted ∈ issue call jobs ↔ posted.job ∈ jobs ∧ posted.answer = none := by
  constructor
  · intro member
    obtain ⟨job, listed, rfl⟩ := List.mem_map.mp member
    exact ⟨listed, rfl⟩
  · rintro ⟨listed, fresh⟩
    rcases posted with ⟨job, answer⟩
    obtain rfl : answer = none := fresh
    exact List.mem_map_of_mem listed

@[simp] theorem jobs_issue (jobs : List J) : (issue call jobs).map Posted.job = jobs := by
  simp [issue, Function.comp_def]

section Owed

variable {α : Type*} {value? : J → Option α} {before after : List (Posted call)} {job : J}

/-- The values that unserved jobs are still to write, oldest first. -/
def owed (value? : J → Option α) (work : List (Posted call)) : List α :=
  work.filterMap fun posted => if posted.answer.isNone then value? posted.job else none

/-- The values that jobs in flight carry, oldest first. -/
def carried (value? : J → Option α) (work : List (Posted call)) : List α :=
  work.filterMap fun posted => value? posted.job

@[simp] theorem owed_nil : owed value? ([] : List (Posted call)) = [] := rfl

@[simp] theorem carried_nil : carried value? ([] : List (Posted call)) = [] := rfl

@[simp] theorem owed_append (first second : List (Posted call)) :
    owed value? (first ++ second) = owed value? first ++ owed value? second :=
  List.filterMap_append

@[simp] theorem carried_append (first second : List (Posted call)) :
    carried value? (first ++ second) = carried value? first ++ carried value? second :=
  List.filterMap_append

@[simp] theorem owed_cons (posted : Posted call) (work : List (Posted call)) :
    owed value? (posted :: work) =
      (if posted.answer.isNone then value? posted.job else none).toList ++ owed value? work := by
  rw [owed, List.filterMap_cons]
  split <;> next same => rw [same]; rfl

@[simp] theorem carried_cons (posted : Posted call) (work : List (Posted call)) :
    carried value? (posted :: work) = (value? posted.job).toList ++ carried value? work := by
  cases here : value? posted.job <;> simp [carried, here]

@[simp] theorem owed_issue (jobs : List J) : owed value? (issue call jobs) = jobs.filterMap value? := by
  simp [owed, issue, List.filterMap_map]

@[simp] theorem carried_issue (jobs : List J) :
    carried value? (issue call jobs) = jobs.filterMap value? := by
  simp [carried, issue, List.filterMap_map]

/-- Jobs that have been served owe nothing. -/
theorem owed_answered (answered : ∀ posted ∈ before, posted.answer.isSome = true) :
    owed value? before = [] := by
  refine List.filterMap_eq_nil_iff.mpr fun posted member => if_neg ?_
  simp [Option.isNone_iff_eq_none, Option.isSome_iff_ne_none.mp (answered posted member)]

/-- What no job carries, none owes. -/
theorem owed_of_carried (none : carried value? before = []) : owed value? before = [] := by
  refine List.filterMap_eq_nil_iff.mpr fun posted member => ?_
  rw [List.filterMap_eq_nil_iff.mp none posted member, ite_self]

/-- When a job is served that no earlier one owes a value before, the register settles as before. -/
theorem settled_serve {answer} {current : α} (first : (value? job).isSome → owed value? before = []) :
    settled ((value? job).getD current)
        (owed value? (before ++ (⟨job, some answer⟩ : Posted call) :: after)) =
      settled current (owed value? (before ++ ⟨job, none⟩ :: after)) := by
  cases writes : value? job with
  | none => simp [writes]
  | some value => simp [writes, first (by simp [writes])]

/-- So does a register of which the values are read off what is owed. -/
theorem settled_serve_map {β : Type*} {change : α → β} {answer} {current : β}
    (first : (value? job).isSome → owed value? before = []) :
    settled (((value? job).map change).getD current)
        ((owed value? (before ++ (⟨job, some answer⟩ : Posted call) :: after)).map change) =
      settled current ((owed value? (before ++ ⟨job, none⟩ :: after)).map change) := by
  cases writes : value? job with
  | none => simp [writes]
  | some value => simp [writes, first (by simp [writes])]

end Owed

section Served

variable {before after work : List (Posted call)} {posted : Posted call} {job : J} {kind : J → Prop}

/-- What holds of all jobs still does when one of them is served, if it holds of that. -/
theorem forall_served {holds : Posted call → Prop} {answer}
    (all : ∀ posted ∈ before ++ ⟨job, none⟩ :: after, holds posted) (served : holds ⟨job, some answer⟩) :
    ∀ posted ∈ before ++ ⟨job, some answer⟩ :: after, holds posted := by
  simp only [List.forall_mem_append, List.forall_mem_cons] at all ⊢
  exact ⟨all.1, served, all.2.2⟩

/-- A job of the kind is under way. -/
def Underway (kind : J → Prop) (work : List (Posted call)) : Prop :=
  ∃ posted ∈ work, kind posted.job

@[simp] theorem not_underway_nil : ¬ Underway kind ([] : List (Posted call)) := by
  simp [Underway]

theorem Underway.append (underway : Underway kind work) (more : List (Posted call)) :
    Underway kind (work ++ more) := by
  obtain ⟨posted, member, is⟩ := underway
  exact ⟨posted, List.mem_append_left _ member, is⟩

theorem underway_issue {jobs : List J} (issued : job ∈ jobs) (is : kind job) :
    Underway kind (work ++ issue call jobs) :=
  ⟨⟨job, none⟩, List.mem_append_right _ (mem_issue.mpr ⟨issued, rfl⟩), is⟩

/-- A job that is served stays under way. -/
theorem Underway.serve {answer} (underway : Underway kind (before ++ ⟨job, none⟩ :: after)) :
    Underway kind (before ++ (⟨job, some answer⟩ : Posted call) :: after) := by
  obtain ⟨posted, member, is⟩ := underway
  rcases List.mem_append.mp member with member | member
  · exact ⟨posted, by simp [member], is⟩
  rcases List.mem_cons.mp member with rfl | member
  · exact ⟨⟨job, some answer⟩, by simp, is⟩
  · exact ⟨posted, by simp [member], is⟩

/-- When a job ends, those of another kind stay under way. -/
theorem Underway.rest (underway : Underway kind (before ++ posted :: after))
    (other : ¬ kind posted.job) : Underway kind (before ++ after) := by
  obtain ⟨staying, member, is⟩ := underway
  refine ⟨staying, ?_, is⟩
  simp only [List.mem_append, List.mem_cons] at member ⊢
  rcases member with member | rfl | member
  · exact .inl member
  · exact absurd is other
  · exact .inr member

end Served

namespace Network

/-- One client at work on these jobs, and nothing else. -/
def working (origin : J → τ) (store : B.Store) (state : σ) (work : List (Posted call)) :
    Network B σ τ Unit where
  store := store
  clients _ := some state
  flight := work.map (Posted.pending origin)

variable {origin : J → τ} {host : τ → Unit} {store : B.Store} {state later : σ}
  {work : List (Posted call)} {net next : Network B σ τ Unit}

@[simp] theorem working_store : (working origin store state work : Network B σ τ Unit).store = store :=
  rfl

@[simp] theorem working_clients (client : Unit) :
    (working origin store state work : Network B σ τ Unit).clients client = some state := rfl

@[simp] theorem working_flight : (working origin store state work : Network B σ τ Unit).flight =
    work.map (Posted.pending origin) := rfl

theorem working_idle :
    (working origin store state work : Network B σ τ Unit).flight = [] ↔ work = [] :=
  List.map_eq_nil_iff

section Place

variable {before after : List (Posted call)} {posted : Posted call}

theorem working_getElem? : (working origin store state (before ++ posted :: after) :
    Network B σ τ Unit).flight[before.length]? = some (posted.pending origin) := by
  simp

theorem working_eraseIdx : (working origin store state (before ++ posted :: after) :
    Network B σ τ Unit).flight.eraseIdx before.length =
      (before ++ after).map (Posted.pending origin) := by
  rw [working_flight, List.map_append, List.map_cons, ← List.length_map (Posted.pending origin),
    List.eraseIdx_append_of_length_le (Nat.le_refl _), Nat.sub_self, List.eraseIdx_cons_zero,
    List.map_append]

end Place

/-- A client with nothing in flight works on no jobs. -/
theorem eq_working (call : J → Call I σ) (origin : J → τ) (running : net.clients () = some state)
    (idle : net.flight = []) (quiet : net.listeners = []) :
    net = working origin net.store state ([] : List (Posted call)) := by
  rcases net with ⟨store, clients, flight, listeners⟩
  obtain rfl : flight = [] := idle
  obtain rfl : listeners = [] := quiet
  obtain rfl : clients = fun _ => some state := funext fun _ => running
  rfl

/-- Code that issues jobs of its origin adds them to the work. -/
theorem launch_working {program : Program I σ} {jobs : List J} {cause : τ}
    (ran : program.run state = ⟨some later, jobs.map call, []⟩)
    (mine : ∀ job ∈ jobs, origin job = cause) :
    (working origin store state work : Network B σ τ Unit).launch host cause program =
      working origin store later (work ++ issue call jobs) := by
  have pending : jobs.map (fun job => (⟨cause, call job, none⟩ : Pending I σ τ)) =
      (issue call jobs).map (Posted.pending origin) := by
    rw [issue, List.map_map]
    refine List.map_congr_left fun job member => ?_
    rw [← mine job member]
    rfl
  rw [launch_running (working_clients (host cause)), ran]
  simp only [working, List.map_append, List.map_map, List.map_nil, List.append_nil, ← pending]
  congr 1

private theorem append_of_map_eq {α β : Type*} {change : α → β} {items : List α}
    {before after : List β} {item : β} (split : items.map change = before ++ item :: after) :
    ∃ first middle last, items = first ++ middle :: last ∧ first.map change = before ∧
      change middle = item ∧ last.map change = after := by
  obtain ⟨first, rest, rfl, same, split⟩ := List.map_eq_append_iff.mp split
  obtain ⟨middle, last, rfl, here, rest⟩ := List.map_eq_cons_iff.mp split
  exact ⟨first, middle, last, rfl, same, here, rest⟩

/-- A signal answers a job, or ends one whose callback then runs. -/
theorem signal_working {signal : Signal B}
    (taken : (working origin store state work : Network B σ τ Unit).signal? host signal =
      some next) :
    (∃ before job after choice answered answer, signal = .serve before.length choice ∧
      work = before ++ ⟨job, none⟩ :: after ∧
      B.serve choice store (call job).request = some (answered, answer) ∧
      next = working origin answered state (before ++ ⟨job, some answer⟩ :: after)) ∨
    ∃ before job answer after, signal = .deliver before.length ∧
      work = before ++ ⟨job, some answer⟩ :: after ∧
      next = (working origin store state (before ++ after) : Network B σ τ Unit).launch host
        (origin job) ((call job).callback answer) := by
  cases signal with
  | serve index choice =>
    obtain ⟨before, after, cause, issued, answered, answer, split, rfl, served, rfl⟩ :=
      serve?_cases taken
    obtain ⟨first, ⟨job, reply⟩, last, rfl, rfl, here, rfl⟩ := append_of_map_eq split
    rcases reply with _ | _ <;> cases here
    refine .inl ⟨first, job, last, choice, answered, answer, by simp, rfl, served, ?_⟩
    simp [working, Posted.pending]
  | deliver index =>
    obtain ⟨before, after, cause, issued, answer, split, rfl, rfl⟩ := deliver?_cases taken
    obtain ⟨first, ⟨job, reply⟩, last, rfl, rfl, here, rfl⟩ := append_of_map_eq split
    rcases reply with _ | answer <;> cases here
    refine .inr ⟨first, job, answer, last, by simp, rfl, ?_⟩
    simp [working, Posted.pending]
  | notify index choice =>
    obtain ⟨before, after, _, _, _, _, _, split, -⟩ := notify?_cases taken
    simp [working] at split

/-- In order, the jobs before one that is answered have been answered. -/
theorem InOrder.working_serve {before after : List (Posted call)} {posted : Posted call}
    {choice : B.Choice}
    (ordered : (working origin store state (before ++ posted :: after) :
      Network B σ τ Unit).InOrder host (.serve before.length choice)) :
    ∀ other ∈ before, other.answer.isSome = true := by
  intro other member
  have split : (working origin store state (before ++ posted :: after) :
      Network B σ τ Unit).flight = before.map (Posted.pending origin) ++
        posted.pending origin :: after.map (Posted.pending origin) := by simp
  rw [← List.length_map (Posted.pending origin)] at ordered
  exact ordered.serve split (other.pending origin) (List.mem_map_of_mem member) rfl

/-- In order, the oldest job is ended first. -/
theorem InOrder.working_deliver {before after : List (Posted call)} {posted : Posted call}
    (ordered : (working origin store state (before ++ posted :: after) :
      Network B σ τ Unit).InOrder host (.deliver before.length)) : before = [] := by
  have split : (working origin store state (before ++ posted :: after) :
      Network B σ τ Unit).flight = before.map (Posted.pending origin) ++
        posted.pending origin :: after.map (Posted.pending origin) := by simp
  rw [← List.length_map (Posted.pending origin)] at ordered
  refine List.eq_nil_iff_forall_not_mem.mpr fun other member => ?_
  exact ordered.deliver split (other.pending origin) (List.mem_map_of_mem member) rfl

end Network

end Async
