import Mathlib.Data.List.Basic

/-! # Finite labelled runs

A run takes exactly its listed labels. Runs compose and split at any step; an invariant of one
step holds along a whole run, also when it speaks about the labels taken so far. A partial step
function gives runs by replay, so a concrete run is found by computation.
-/

namespace Async

variable {State Label : Type*}

/-- A finite run from the first to the second state, taking exactly the listed labels. -/
inductive Run (step : State → Label → State → Prop) : State → List Label → State → Prop
  | nil (state : State) : Run step state [] state
  | cons {source middle target : State} {label : Label} {labels : List Label} :
      step source label middle → Run step middle labels target →
      Run step source (label :: labels) target

namespace Run

variable {step : State → Label → State → Prop} {source middle target : State}
  {first second : List Label}

theorem single {label : Label} (taken : step source label target) :
    Run step source [label] target := .cons taken (.nil _)

/-- Runs compose at their shared state. -/
theorem append (left : Run step source first middle) (right : Run step middle second target) :
    Run step source (first ++ second) target := by
  induction left with
  | nil => exact right
  | cons taken _ ih => exact .cons taken (ih right)

/-- Any cut of the labels is a state the run passes through. -/
theorem passes : ∀ {source : State} {first : List Label}, Run step source (first ++ second) target →
    ∃ middle, Run step source first middle ∧ Run step middle second target
  | source, [], run => ⟨source, .nil source, run⟩
  | _, _ :: _, .cons taken rest =>
    have ⟨middle, left, right⟩ := passes rest
    ⟨middle, .cons taken left, right⟩

/-- A property of the labels taken so far and the state reached, kept by every step. -/
theorem history_from {holds : List Label → State → Prop} (run : Run step source first target)
    (keeps : ∀ {past state label next}, step state label next → holds past state →
      holds (past ++ [label]) next) (past : List Label) (start : holds past source) :
    holds (past ++ first) target := by
  induction run generalizing past with
  | nil => simpa using start
  | cons taken _ ih => simpa using ih _ (keeps taken start)

theorem history (holds : List Label → State → Prop) (run : Run step source first target)
    (start : holds [] source)
    (keeps : ∀ {past state label next}, step state label next → holds past state →
      holds (past ++ [label]) next) : holds first target :=
  run.history_from keeps [] start

/-- What holds at the start and is kept by every step holds along the whole run. -/
theorem invariant {holds : State → Prop} (run : Run step source first target)
    (start : holds source)
    (keeps : ∀ {state label next}, step state label next → holds state → holds next) :
    holds target :=
  run.history (fun _ state => holds state) start keeps

/-- A run whose labels all meet a condition is a run of steps that meet it. -/
theorem restrict {legal : Label → Prop} (run : Run step source first target)
    (all : ∀ label ∈ first, legal label) :
    Run (fun state label next => legal label ∧ step state label next) source first target := by
  induction run with
  | nil => exact .nil _
  | cons taken _ ih =>
    exact .cons ⟨all _ (List.mem_cons_self ..), taken⟩
      (ih fun label member => all label (List.mem_cons_of_mem _ member))

/-- A run of steps that all meet a condition is a run. -/
theorem mono {weaker : State → Label → State → Prop} (run : Run step source first target)
    (weaken : ∀ {state label next}, step state label next → weaker state label next) :
    Run weaker source first target := by
  induction run with
  | nil => exact .nil _
  | cons taken _ ih => exact .cons (weaken taken) ih

/-- Each step of a run is taken where the invariant holds. -/
theorem within {holds : State → Prop} (run : Run step source first target) (start : holds source)
    (keeps : ∀ {state label next}, step state label next → holds state → holds next) :
    Run (fun state label next => holds state ∧ step state label next) source first target := by
  induction run with
  | nil => exact .nil _
  | cons taken _ ih => exact .cons ⟨start, taken⟩ (ih (keeps taken start))

/-- Two conditions on steps allow the same runs, when they agree wherever an invariant holds that
the steps of one of them keep. -/
theorem congr {left right : State → Label → Prop} (holds : State → Prop) (start : holds source)
    (same : ∀ {state label next}, step state label next → holds state →
      (left state label ↔ right state label))
    (keeps : ∀ {state label next}, step state label next → right state label → holds state →
      holds next) :
    Run (fun state label next => step state label next ∧ left state label) source first target ↔
      Run (fun state label next => step state label next ∧ right state label) source first target := by
  constructor
  · intro run
    induction run with
    | nil => exact .nil _
    | cons taken _ ih =>
      have right := (same taken.1 start).mp taken.2
      exact .cons ⟨taken.1, right⟩ (ih (keeps taken.1 right start))
  · intro run
    induction run with
    | nil => exact .nil _
    | cons taken _ ih =>
      exact .cons ⟨taken.1, (same taken.1 start).mpr taken.2⟩ (ih (keeps taken.1 taken.2 start))

/-- The run passes through a state with the property. -/
def Visits (step : State → Label → State → Prop) (source : State) (labels : List Label)
    (target : State) (holds : State → Prop) : Prop :=
  ∃ past future middle, labels = past ++ future ∧ Run step source past middle ∧ holds middle ∧
    Run step middle future target

/-- What a run meets after a first part of it, it meets. -/
theorem Visits.append {holds : State → Prop} (left : Run step source first middle)
    (visits : Visits step middle second target holds) :
    Visits step source (first ++ second) target holds := by
  obtain ⟨past, future, between, rfl, started, met, rest⟩ := visits
  exact ⟨first ++ past, future, between, by simp, left.append started, met, rest⟩

theorem Visits.start {holds : State → Prop} (run : Run step source first target)
    (met : holds source) : Visits step source first target holds :=
  ⟨[], first, source, rfl, .nil _, met, run⟩

/-- Whatever holds in a state that a run takes a step from, the run visits. -/
theorem visited (run : Run step source first target) :
    Run (fun state label next => step state label next ∧
        ∀ holds : State → Prop, holds state → Visits step source first target holds)
      source first target := by
  induction run with
  | nil => exact .nil _
  | cons taken rest ih =>
    refine .cons ⟨taken, fun holds met => .start (.cons taken rest) met⟩ (ih.mono ?_)
    rintro state label next ⟨later, visits⟩
    exact ⟨later, fun holds met => .append (.single taken) (visits holds met)⟩

end Run

/-- Follow a partial step function along the labels. -/
def replay? (step? : State → Label → Option State) (source : State) : List Label → Option State
  | [] => some source
  | label :: labels => (step? source label).bind fun next => replay? step? next labels

/-- A successful replay is a run. -/
theorem replay?_run {step? : State → Label → Option State} {source target : State}
    {labels : List Label} (success : replay? step? source labels = some target) :
    Run (fun state label next => step? state label = some next) source labels target := by
  induction labels generalizing source with
  | nil =>
    obtain rfl := Option.some.inj success
    exact .nil _
  | cons label rest ih =>
    obtain ⟨middle, taken, tail⟩ := Option.bind_eq_some_iff.mp success
    exact .cons taken (ih tail)

/-- A replay whose end passes a test exhibits a run to a state with the tested property. -/
theorem exists_run_of_replay? {step? : State → Label → Option State} {source : State}
    {labels : List Label} {holds : State → Prop} [DecidablePred holds]
    (success : (replay? step? source labels).any (fun state => decide (holds state)) = true) :
    ∃ target, Run (fun state label next => step? state label = some next) source labels target ∧
      holds target := by
  cases reached : replay? step? source labels with
  | none => simp [reached] at success
  | some target =>
    rw [reached] at success
    exact ⟨target, replay?_run reached, of_decide_eq_true success⟩

/-- So does a replay that stops at the first step that is not legal. -/
theorem exists_legal_run_of_replay? {step? : State → Label → Option State}
    {legal : State → Label → Prop} [∀ state label, Decidable (legal state label)] {source : State}
    {labels : List Label} {holds : State → Prop} [DecidablePred holds]
    (success : (replay? (fun state label => if legal state label then step? state label else none)
      source labels).any (fun state => decide (holds state)) = true) :
    ∃ target, Run (fun state label next => legal state label ∧ step? state label = some next) source
      labels target ∧ holds target := by
  obtain ⟨target, run, met⟩ := exists_run_of_replay? success
  exact ⟨target, run.mono Option.ite_none_right_eq_some.mp, met⟩

end Async
