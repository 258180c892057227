import RustJsi.Interleaving.System

/-!
# Systems whose steps are computed

An executable system is given by a function from a state and what a scheduler
picks to the next state and the label of the step, so that a list of actions
is a run.
-/

namespace Interleaving

universe u v w

variable {State : Type u} {Action : Type v} {Label : Type w}

/-- The system of an executable step. -/
def executable (exec : State → Action → Option (State × Label))
    (initial : State → Prop) : System State Label where
  initial := initial
  step := fun state label next =>
    ∃ action, exec state action = some (next, label)

/-- Perform the actions in order and collect their labels. -/
def execAll (exec : State → Action → Option (State × Label))
    (state : State) : List Action → Option (State × List Label)
  | [] => some (state, [])
  | action :: actions =>
      match exec state action with
      | none => none
      | some (next, label) =>
          match execAll exec next actions with
          | none => none
          | some (last, labels) => some (last, label :: labels)

variable {exec : State → Action → Option (State × Label)}
  {initial : State → Prop}

theorem path_of_execAll {actions : List Action} :
    ∀ {state last : State} {labels : List Label},
      execAll exec state actions = some (last, labels) →
      (executable exec initial).Path state labels last := by
  induction actions with
  | nil =>
      intro state last labels executed
      cases executed
      exact .refl state
  | cons action actions inductionHypothesis =>
      intro state last labels executed
      simp only [execAll] at executed
      split at executed
      · cases executed
      · rename_i next label performed
        split at executed
        · cases executed
        · rename_i final rest executedRest
          cases executed
          have step : (executable exec initial).step state label next :=
            ⟨action, performed⟩
          exact .cons step (inductionHypothesis executedRest)

/-- Actions that can be performed from an initial state are a run. -/
theorem exists_run_of_execAll
    (exec : State → Action → Option (State × Label))
    (initial : State → Prop) {state : State} (actions : List Action) (starts : initial state)
    (executes : (execAll exec state actions).isSome = true) :
    ∃ last trace, execAll exec state actions = some (last, trace) ∧
      (executable exec initial).Run trace last := by
  obtain ⟨⟨last, trace⟩, executed⟩ := Option.isSome_iff_exists.mp executes
  exact ⟨last, trace, executed, state, starts, path_of_execAll executed⟩

end Interleaving
