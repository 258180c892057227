import RustJsi.Interleaving.System

/-!
# Components driven by one caller

Where every operation runs to its end before the next one starts, a component
is a partial function from a state and an operation to a reply and the next
state.  An operation without an outcome is one its caller cannot name, such as
the use of a guard that is gone.
-/

namespace Interleaving

/-- A component whose operations run one after another. -/
structure Component (State Op Reply : Type*) where
  perform : State → Op → Option (Reply × State)

/-- An operation and the reply it got. -/
structure Exchange (Op Reply : Type*) where
  op : Op
  reply : Reply
  deriving DecidableEq, Repr

namespace Component

variable {State Op Reply : Type*} (component : Component State Op Reply)

/-- The runs of the component from the states it may start in. -/
def system (initial : State → Prop) : System State (Exchange Op Reply) where
  initial := initial
  step := fun before label after =>
    component.perform before label.op = some (label.reply, after)

/-- Perform a list of operations in order. -/
def performAll (state : State) :
    List Op → Option (List (Exchange Op Reply) × State)
  | [] => some ([], state)
  | op :: rest =>
      match component.perform state op with
      | none => none
      | some (reply, next) =>
          match performAll next rest with
          | none => none
          | some (trace, last) => some (⟨op, reply⟩ :: trace, last)

variable {component} {initial : State → Prop}

theorem path_of_performAll {ops : List Op} :
    ∀ {state last : State} {trace : List (Exchange Op Reply)},
      component.performAll state ops = some (trace, last) →
      (component.system initial).Path state trace last := by
  induction ops with
  | nil =>
      intro state last trace performed
      cases performed
      exact .refl state
  | cons op rest inductionHypothesis =>
      intro state last trace performed
      simp only [performAll] at performed
      split at performed
      · cases performed
      · rename_i reply next firstPerformed
        split at performed
        · cases performed
        · rename_i laterTrace final restPerformed
          cases performed
          have step : (component.system initial).step
              state ⟨op, reply⟩ next := firstPerformed
          exact .cons step (inductionHypothesis restPerformed)

/-- Operations that can be performed from an initial state are a run. -/
theorem exists_run_of_performAll (initial : State → Prop) {state : State}
    (ops : List Op) (starts : initial state)
    (performs : (component.performAll state ops).isSome = true) :
    ∃ trace last,
      component.performAll state ops = some (trace, last) ∧
      (component.system initial).Run trace last := by
  obtain ⟨⟨trace, last⟩, performed⟩ := Option.isSome_iff_exists.mp performs
  exact ⟨trace, last, performed, state, starts,
    path_of_performAll performed⟩

/-- The component, where it performs what is admitted. -/
def within (component : Component State Op Reply)
    (admits : State → Exchange Op Reply → Prop)
    [∀ state exchange, Decidable (admits state exchange)] :
    Component State Op Reply where
  perform := fun state op =>
    (component.perform state op).filter fun outcome =>
      admits state ⟨op, outcome.1⟩

variable {admits : State → Exchange Op Reply → Prop}
  [∀ state exchange, Decidable (admits state exchange)]

end Component

end Interleaving
