import RustJsi.Interleaving.System

/-!
# Systems with a call stack

A call pushes a frame, and the frames below it wait for its return.  What is
done between a call and its return therefore leaves them as they were.
-/

namespace Nested

open Interleaving

variable {State Label Frame : Type*}

/-- One step of a stack: only its top frame is at hand, and a frame that is
left may hand something to the one below it. -/
inductive Turns : List Frame → List Frame → Prop
  | kept (frames : List Frame) : Turns frames frames
  | called (frame : Frame) (frames : List Frame) :
      Turns frames (frame :: frames)
  | changed (old new : Frame) (frames : List Frame) :
      Turns (old :: frames) (new :: frames)
  | returned (frame : Frame) (frames : List Frame) :
      Turns (frame :: frames) frames
  | answered (frame old new : Frame) (frames : List Frame) :
      Turns (frame :: old :: frames) (new :: frames)

/-- A step that makes the stack higher is a call. -/
theorem Turns.up {frames next : List Frame} (turns : Turns frames next)
    (higher : frames.length < next.length) :
    ∃ frame, next = frame :: frames := by
  cases turns with
  | kept => exact absurd higher (Nat.lt_irrefl _)
  | called frame => exact ⟨frame, rfl⟩
  | changed old new => exact absurd higher (Nat.lt_irrefl _)
  | returned frame =>
      rw [List.length_cons] at higher
      omega
  | answered frame old new frames =>
      rw [List.length_cons, List.length_cons, List.length_cons] at higher
      omega

/-- A step above a floor that stays above it leaves the floor as it was. -/
theorem Turns.above {frames next floor : List Frame} {top : Frame}
    {rest : List Frame} (turns : Turns frames next)
    (before : frames = top :: rest ++ floor)
    (after : floor.length < next.length) :
    ∃ top rest, next = top :: rest ++ floor := by
  cases turns with
  | kept => exact ⟨top, rest, before⟩
  | called frame => exact ⟨frame, top :: rest, congrArg (frame :: ·) before⟩
  | changed old new frames =>
      obtain ⟨_, below⟩ := List.cons.inj before
      exact ⟨new, rest, congrArg (new :: ·) below⟩
  | returned frame =>
      obtain ⟨_, below⟩ := List.cons.inj before
      cases rest with
      | nil =>
          rw [below] at after
          exact absurd after (Nat.lt_irrefl _)
      | cons next rest => exact ⟨next, rest, below⟩
  | answered frame old new frames =>
      obtain ⟨_, below⟩ := List.cons.inj before
      cases rest with
      | nil =>
          -- The frame that took the answer would be one of the floor.
          have whole : old :: frames = floor := below
          rw [← whole] at after
          exact absurd after (Nat.lt_irrefl _)
      | cons next rest =>
          obtain ⟨_, below⟩ := List.cons.inj below
          exact ⟨new, rest, congrArg (new :: ·) below⟩

/-- A step from above a floor down to it ends the last frame above it. -/
theorem Turns.down {frames next floor : List Frame} {top : Frame}
    {rest : List Frame} (turns : Turns frames next)
    (before : frames = top :: rest ++ floor)
    (after : next.length = floor.length) : rest = [] := by
  have length := congrArg List.length before
  rw [List.length_append, List.length_cons] at length
  apply List.eq_nil_of_length_eq_zero
  cases turns with
  | kept => omega
  | called frame =>
      rw [List.length_cons] at after
      omega
  | changed old new frames =>
      rw [List.length_cons] at after length
      omega
  | returned frame =>
      rw [List.length_cons] at length
      omega
  | answered frame old new frames =>
      rw [List.length_cons] at after
      rw [List.length_cons, List.length_cons] at length
      omega

section Spans

variable (system : System State Label) (stack : State → List Frame)

/-- Steps from a state, each of which leaves the stack higher than the
floor. -/
inductive Deeper (floor : Nat) (before : State) :
    List Label → State → Prop
  | refl : Deeper floor before [] before
  | snoc {trace : List Label} {middle after : State} {label : Label} :
      Deeper floor before trace middle →
      system.step middle label after →
      floor < (stack after).length →
      Deeper floor before (trace ++ [label]) after

/-- One call from its first step to its last one: the stack is higher in
between, and as high as before at the end. -/
def Span (before : State) (during : List Label) (last : Label)
    (after : State) : Prop :=
  ∃ middle, Deeper system stack (stack before).length before during middle ∧
    system.step middle last after ∧
    (stack after).length = (stack before).length

variable {system stack}

theorem Deeper.path {floor : Nat} {before after : State}
    {trace : List Label} (deeper : Deeper system stack floor before trace after) :
    system.Path before trace after := by
  induction deeper with
  | refl => exact .refl before
  | snoc _ step _ inductionHypothesis => exact inductionHypothesis.snoc step

/-- A step that rises above the floor may come first. -/
theorem Deeper.cons {floor : Nat} {before middle after : State}
    {label : Label} {trace : List Label} (step : system.step before label middle)
    (high : floor < (stack middle).length)
    (deeper : Deeper system stack floor middle trace after) :
    Deeper system stack floor before (label :: trace) after := by
  induction deeper with
  | refl => exact .snoc .refl step high
  | snoc _ last above inductionHypothesis =>
      exact inductionHypothesis.snoc last above

theorem Deeper.append {floor : Nat} {first second third : State}
    {early late : List Label}
    (earlier : Deeper system stack floor first early second)
    (later : Deeper system stack floor second late third) :
    Deeper system stack floor first (early ++ late) third := by
  induction later with
  | refl =>
      rw [List.append_nil]
      exact earlier
  | snoc _ step high inductionHypothesis =>
      rw [← List.append_assoc]
      exact inductionHypothesis.snoc step high

theorem Span.path {before after : State} {during : List Label} {last : Label}
    (span : Span system stack before during last after) :
    system.Path before (during ++ [last]) after := by
  obtain ⟨middle, deeper, step, _⟩ := span
  exact deeper.path.snoc step

/-- The frames that were there before a call wait below it. -/
theorem Deeper.floor {before after : State} {trace during : List Label}
    (run : system.Run trace before)
    (turns : ∀ trace state label next, system.Run trace state →
      system.step state label next → Turns (stack state) (stack next))
    (deeper : Deeper system stack (stack before).length before during after) :
    (during = [] ∧ after = before) ∨
      ∃ top rest, stack after = top :: rest ++ stack before := by
  induction deeper with
  | refl => exact Or.inl ⟨rfl, rfl⟩
  | snoc earlier step high inductionHypothesis =>
      have turned := turns _ _ _ _ (run.append earlier.path) step
      cases inductionHypothesis with
      | inl same =>
          obtain ⟨_, same⟩ := same
          rw [same] at turned
          obtain ⟨frame, called⟩ := turned.up high
          exact Or.inr ⟨frame, [], called⟩
      | inr above =>
          obtain ⟨top, rest, above⟩ := above
          exact Or.inr (turned.above above high)

/-- What a frame keeps whenever it is changed holds of the frame that stands
on the floor, as long as that is not left. -/
theorem Deeper.bottom {floor : List Frame} {before after : State}
    {trace during : List Label} {holds : Frame → Prop}
    (run : system.Run trace before)
    (turns : ∀ trace state label next, system.Run trace state →
      system.step state label next → Turns (stack state) (stack next))
    (keeps : ∀ trace state label next, system.Run trace state →
      system.step state label next → ∀ old new rest,
      (stack state = old :: rest ∨
        ∃ frame, stack state = frame :: old :: rest) →
      stack next = new :: rest → holds old → holds new)
    (deeper : Deeper system stack floor.length before during after)
    (bottom : ∃ upper frame, stack before = upper ++ frame :: floor ∧
      holds frame) :
    ∃ upper frame, stack after = upper ++ frame :: floor ∧ holds frame := by
  induction deeper with
  | refl => exact bottom
  | @snoc during middle after label earlier step high inductionHypothesis =>
      obtain ⟨upper, frame, above, held⟩ := inductionHypothesis
      have inside := run.append earlier.path
      have keep := keeps _ _ _ _ inside step
      have turned := turns _ _ _ _ inside step
      generalize stack middle = old at above keep turned
      generalize stack after = new at high keep turned
      cases turned with
      | kept => exact ⟨upper, frame, above, held⟩
      | called call => exact ⟨call :: upper, frame, congrArg (call :: ·) above, held⟩
      | changed former latter rest =>
          cases upper with
          | nil =>
              obtain ⟨rfl, rfl⟩ := List.cons.inj above
              exact ⟨[], latter, rfl,
                keep former latter rest (Or.inl rfl) rfl held⟩
          | cons top upper =>
              obtain ⟨_, rfl⟩ := List.cons.inj above
              exact ⟨latter :: upper, frame, rfl, held⟩
      | returned gone =>
          cases upper with
          | nil =>
              obtain ⟨_, rfl⟩ := List.cons.inj above
              exact absurd high (Nat.lt_irrefl _)
          | cons top upper =>
              obtain ⟨_, rfl⟩ := List.cons.inj above
              exact ⟨upper, frame, rfl, held⟩
      | answered gone former latter rest =>
          cases upper with
          | nil =>
              obtain ⟨_, rfl⟩ := List.cons.inj above
              exact absurd high (Nat.lt_irrefl _)
          | cons top upper =>
              obtain ⟨_, below⟩ := List.cons.inj above
              cases upper with
              | nil =>
                  obtain ⟨rfl, rfl⟩ := List.cons.inj below
                  exact ⟨[], latter, rfl,
                    keep former latter rest (Or.inr ⟨gone, rfl⟩) rfl held⟩
              | cons second upper =>
                  obtain ⟨_, rfl⟩ := List.cons.inj below
                  exact ⟨latter :: upper, frame, rfl, held⟩

/-- A call is one step, or ends with the step that leaves its frame. -/
theorem Span.inv {before after : State} {trace during : List Label}
    {last : Label} (run : system.Run trace before)
    (turns : ∀ trace state label next, system.Run trace state →
      system.step state label next → Turns (stack state) (stack next))
    (span : Span system stack before during last after) :
    (during = [] ∧ system.step before last after ∧
      (stack after).length = (stack before).length) ∨
    ∃ middle frame, system.Run (trace ++ during) middle ∧
      system.step middle last after ∧
      stack middle = frame :: stack before ∧
      (stack after).length = (stack before).length := by
  obtain ⟨middle, deeper, step, level⟩ := span
  cases deeper.floor run turns with
  | inl same =>
      obtain ⟨none, same⟩ := same
      rw [same] at step
      exact Or.inl ⟨none, step, level⟩
  | inr above =>
      obtain ⟨top, rest, above⟩ := above
      have inside := run.append deeper.path
      have turned := turns _ _ _ _ inside step
      have last := turned.down above level
      rw [last] at above
      exact Or.inr ⟨middle, top, inside, step, above, level⟩

end Spans

end Nested
