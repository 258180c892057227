import Mathlib.Data.List.Basic
import Mathlib.Data.List.Induction
import Mathlib.Tactic.Common

/-!
# Labelled transition systems and their runs

A system is a set of initial states and a labelled step relation.  A run is
read as the trace of its labels together with the state it ends in, so that a
property of histories is a property of lists.  The rules below are the only
inductions over runs that the rest of the development needs.
-/

namespace Interleaving

universe u v

/-- A labelled transition system. -/
structure System (State : Type u) (Label : Type v) where
  initial : State → Prop
  step : State → Label → State → Prop

namespace System

variable {State : Type u} {Label : Type v} {system : System State Label}

/-- The labels of the trace, taken in order, lead from the first state to the
second one. -/
inductive Path (system : System State Label) :
    State → List Label → State → Prop
  | refl (state : State) : Path system state [] state
  | snoc {source middle target : State} {trace : List Label} {label : Label} :
      Path system source trace middle →
      system.step middle label target →
      Path system source (trace ++ [label]) target

/-- A path that starts in an initial state. -/
def Run (system : System State Label)
    (trace : List Label) (state : State) : Prop :=
  ∃ start, system.initial start ∧ system.Path start trace state

theorem Path.single {source target : State} {label : Label}
    (step : system.step source label target) :
    system.Path source [label] target := by
  simpa using Path.snoc (Path.refl source) step

theorem Path.append {source middle target : State} {before after : List Label}
    (first : system.Path source before middle)
    (second : system.Path middle after target) :
    system.Path source (before ++ after) target := by
  induction second with
  | refl =>
      simpa using first
  | snoc _ step inductionHypothesis =>
      rw [← List.append_assoc]
      exact inductionHypothesis.snoc step

theorem Path.cons {source middle target : State} {label : Label}
    {after : List Label}
    (step : system.step source label middle)
    (rest : system.Path middle after target) :
    system.Path source (label :: after) target := by
  simpa using (Path.single step).append rest

theorem Path.nil_inv {source target : State}
    (path : system.Path source [] target) : source = target := by
  generalize traceEq : ([] : List Label) = trace at path
  cases path with
  | refl =>
      rfl
  | snoc _ _ =>
      simp at traceEq

theorem Path.snoc_inv {source target : State} {trace : List Label}
    {label : Label}
    (path : system.Path source (trace ++ [label]) target) :
    ∃ middle, system.Path source trace middle ∧
      system.step middle label target := by
  generalize traceEq : trace ++ [label] = whole at path
  cases path with
  | refl =>
      simp at traceEq
  | snoc first step =>
      obtain ⟨rfl, labelEq⟩ := List.append_inj' traceEq rfl
      obtain rfl := List.cons.inj labelEq |>.1
      exact ⟨_, first, step⟩

theorem Path.split {source target : State} {before : List Label} :
    ∀ {after : List Label},
      system.Path source (before ++ after) target →
      ∃ middle, system.Path source before middle ∧
        system.Path middle after target := by
  intro after
  induction after using List.reverseRecOn generalizing target with
  | nil =>
      intro path
      exact ⟨target, by simpa using path, Path.refl target⟩
  | append_singleton labels label inductionHypothesis =>
      intro path
      rw [← List.append_assoc] at path
      obtain ⟨last, earlier, step⟩ := path.snoc_inv
      obtain ⟨middle, first, second⟩ := inductionHypothesis earlier
      exact ⟨middle, first, second.snoc step⟩

theorem Path.cons_inv {source target : State} {label : Label}
    {after : List Label}
    (path : system.Path source (label :: after) target) :
    ∃ middle, system.step source label middle ∧
      system.Path middle after target := by
  have parts : system.Path source ([label] ++ after) target := path
  obtain ⟨middle, first, second⟩ := parts.split
  have single : system.Path source ([] ++ [label]) middle := first
  obtain ⟨start, empty, step⟩ := single.snoc_inv
  obtain rfl := empty.nil_inv
  exact ⟨middle, step, second⟩

theorem Run.nil {state : State} (start : system.initial state) :
    system.Run [] state :=
  ⟨state, start, Path.refl state⟩

theorem Run.snoc {trace : List Label} {state next : State} {label : Label}
    (run : system.Run trace state)
    (step : system.step state label next) :
    system.Run (trace ++ [label]) next := by
  obtain ⟨start, starts, path⟩ := run
  exact ⟨start, starts, path.snoc step⟩

theorem Run.append {before after : List Label} {state next : State}
    (run : system.Run before state)
    (path : system.Path state after next) :
    system.Run (before ++ after) next := by
  obtain ⟨start, starts, first⟩ := run
  exact ⟨start, starts, first.append path⟩

/-- A run seen from the moment one of its labels was performed. -/
theorem Run.split_at {before after : List Label} {label : Label}
    {state : State}
    (run : system.Run (before ++ label :: after) state) :
    ∃ source target, system.Run before source ∧
      system.step source label target ∧
      system.Path target after state := by
  obtain ⟨start, starts, path⟩ := run
  obtain ⟨source, first, rest⟩ := path.split
  obtain ⟨target, step, second⟩ := rest.cons_inv
  exact ⟨source, target, ⟨start, starts, first⟩, step, second⟩

/-- The invariant rule: what holds initially and survives every step of a run
holds of every run, trace and state together. -/
theorem Run.invariant (holds : List Label → State → Prop)
    (start : ∀ state, system.initial state → holds [] state)
    (preserve : ∀ trace state label next,
      system.Run trace state → holds trace state →
      system.step state label next → holds (trace ++ [label]) next)
    {trace : List Label} {state : State}
    (run : system.Run trace state) : holds trace state := by
  obtain ⟨first, starts, path⟩ := run
  induction path with
  | refl =>
      exact start _ starts
  | snoc earlier step inductionHypothesis =>
      exact preserve _ _ _ _ ⟨first, starts, earlier⟩
        inductionHypothesis step

/-- The stability rule: a property of states that every step of an admitted
label preserves survives every later path of such labels. -/
theorem Run.stable (holds : State → Prop) (admits : Label → Prop)
    (preserve : ∀ trace state label next,
      system.Run trace state → admits label → holds state →
      system.step state label next → holds next)
    {before after : List Label} {state next : State}
    (run : system.Run before state)
    (path : system.Path state after next)
    (admitted : ∀ label ∈ after, admits label)
    (now : holds state) : holds next := by
  induction path with
  | refl =>
      exact now
  | @snoc middle target trace label first step inductionHypothesis =>
      have firstAdmitted : ∀ label ∈ trace, admits label := by
        intro tested member
        exact admitted tested (List.mem_append_left _ member)
      have labelAdmitted : admits label :=
        admitted label (by simp)
      exact preserve _ _ _ _ (run.append first) labelAdmitted
        (inductionHypothesis firstAdmitted) step

/-- The runs of a system whose steps are all admitted. -/
def restrict (system : System State Label)
    (admits : State → Label → Prop) : System State Label where
  initial := system.initial
  step := fun state label next =>
    admits state label ∧ system.step state label next

theorem Run.unrestricted {admits : State → Label → Prop}
    {trace : List Label} {state : State}
    (run : (system.restrict admits).Run trace state) :
    system.Run trace state := by
  obtain ⟨start, starts, path⟩ := run
  refine ⟨start, starts, ?_⟩
  induction path with
  | refl =>
      exact Path.refl start
  | snoc _ step inductionHypothesis =>
      exact inductionHypothesis.snoc step.2

end System

universe u' v'

/-- How an abstract state answers what became visible: it stays when nothing
did, and otherwise performs the action. -/
def System.Answers {Abstract : Type u} {Action : Type v}
    (abstract : System Abstract Action) (image : Abstract)
    (related : Abstract → Prop) : Option Action → Prop
  | none => related image
  | some action => ∃ moved, abstract.step image action moved ∧ related moved

/-- Every step of the concrete system is either invisible or answered by one
step of the abstract system. -/
structure Simulation {State : Type u} {Label : Type v}
    {Abstract : Type u'} {Action : Type v'}
    (concrete : System State Label) (abstract : System Abstract Action)
    (visible : Label → Option Action) where
  related : State → Abstract → Prop
  start : ∀ state, concrete.initial state →
    ∃ image, abstract.initial image ∧ related state image
  advance : ∀ trace state image label next,
    concrete.Run trace state →
    abstract.Run (trace.filterMap visible) image →
    related state image → concrete.step state label next →
    abstract.Answers image (related next) (visible label)

namespace Simulation

variable {State : Type u} {Label : Type v}
variable {Abstract : Type u'} {Action : Type v'}
variable {concrete : System State Label} {abstract : System Abstract Action}
variable {visible : Label → Option Action}

/-- Runs of the concrete system are runs of the abstract one once the
invisible labels are dropped. -/
theorem run (simulation : Simulation concrete abstract visible)
    {trace : List Label} {state : State}
    (concreteRun : concrete.Run trace state) :
    ∃ image, abstract.Run (trace.filterMap visible) image ∧
      simulation.related state image := by
  refine System.Run.invariant
    (fun trace state =>
      ∃ image, abstract.Run (trace.filterMap visible) image ∧
        simulation.related state image)
    ?_ ?_ concreteRun
  · intro first starts
    obtain ⟨image, imageStarts, relates⟩ := simulation.start first starts
    exact ⟨image, System.Run.nil imageStarts, relates⟩
  · intro earlier middle label next middleRun ⟨image, imageRun, relates⟩ step
    have answered :=
      simulation.advance earlier middle image label next
        middleRun imageRun relates step
    cases seen : visible label with
    | none =>
        rw [seen] at answered
        exact ⟨image, by simpa [seen] using imageRun, answered⟩
    | some action =>
        rw [seen] at answered
        obtain ⟨moved, moves, relatesNext⟩ := answered
        exact ⟨moved, by simpa [seen] using imageRun.snoc moves, relatesNext⟩

end Simulation

end Interleaving
