import Mathlib.Tactic.Common

/-!
# Retry loops over one atomic word

A lock-free operation reads a word, decides from the value it read, and either
returns at once or tries to exchange the value, going round again when the
exchange fails.  Load and exchange are separate steps and a weak exchange may
fail although the word is unchanged.

The point of the module is `loopStep_cases`: whatever happened between the
load and the exchange, a step that ends the loop acts on the word of that very
step.
-/

namespace Interleaving

universe u v w x

/-- What an iteration does with the value it has read. -/
inductive Decision (Word : Type u) (Result : Type v) where
  /-- Return without touching the word. -/
  | answer (result : Result)
  /-- Try to replace the value by `next`; return `result` on success. -/
  | exchange (next : Word) (result : Result)
  /-- The value is one the code calls unreachable. -/
  | unreachable

/-- The word and the result left behind when the iteration succeeds at once. -/
def Decision.commit {Word : Type u} {Result : Type v} (word : Word) :
    Decision Word Result → Option (Word × Result)
  | .answer result => some (word, result)
  | .exchange next result => some (next, result)
  | .unreachable => none

/-- The point a running loop has reached. -/
inductive LoopPoint (Word : Type u) where
  | load
  | exchange (current : Word)
  deriving DecidableEq, Repr

/-- What one step of a loop leaves its caller with. -/
inductive LoopOutcome (Word : Type u) (Result : Type v) where
  | again (point : LoopPoint Word)
  | finished (result : Result)
  | crashed

variable {Word : Type u} {Result : Type v} [DecidableEq Word]

/-- One atomic access of the loop: the load, or the weak exchange.  The
exchange point is only entered with a value whose decision is an exchange, so
the last arm does not run. -/
def loopStep (decision : Word → Decision Word Result) (spurious : Bool)
    (word : Word) : LoopPoint Word → Word × LoopOutcome Word Result
  | .load =>
      match decision word with
      | .answer result => (word, .finished result)
      | .exchange _ _ => (word, .again (.exchange word))
      | .unreachable => (word, .crashed)
  | .exchange current =>
      match decision current with
      | .exchange next result =>
          if word = current ∧ spurious = false then
            (next, .finished result)
          else
            (word, .again .load)
      | _ => (word, .again .load)

/-- The three things one step of a loop can do: leave the word alone and go
on, commit the decision for the word it finds, or reach the unreachable arm. -/
theorem loopStep_cases (decision : Word → Decision Word Result)
    (spurious : Bool) (word : Word) (point : LoopPoint Word) :
    (∃ next, loopStep decision spurious word point = (word, .again next)) ∨
    (∃ next result, (decision word).commit word = some (next, result) ∧
      loopStep decision spurious word point = (next, .finished result)) ∨
    ((decision word).commit word = none ∧
      loopStep decision spurious word point = (word, .crashed)) := by
  cases point with
  | load =>
      cases decided : decision word with
      | answer result =>
          exact Or.inr (Or.inl ⟨word, result, rfl, by
            simp [loopStep, decided]⟩)
      | exchange next result =>
          exact Or.inl ⟨.exchange word, by simp [loopStep, decided]⟩
      | unreachable =>
          exact Or.inr (Or.inr ⟨rfl, by simp [loopStep, decided]⟩)
  | exchange current =>
      cases decided : decision current with
      | answer result =>
          exact Or.inl ⟨.load, by simp [loopStep, decided]⟩
      | exchange next result =>
          by_cases succeeds : word = current ∧ spurious = false
          · refine Or.inr (Or.inl ⟨next, result, ?_, ?_⟩)
            · rw [succeeds.1, decided]
              rfl
            · simp [loopStep, decided, succeeds]
          · exact Or.inl ⟨.load, by simp [loopStep, decided, succeeds]⟩
      | unreachable =>
          exact Or.inl ⟨.load, by simp [loopStep, decided]⟩

section Embedding

variable {Shared : Type w} {Continuation : Type x}

/-- One access of a loop that runs inside a larger call: `store` puts the word
back into the shared state, and the three continuations say where the call
stands afterwards. -/
def runLoop (decision : Word → Decision Word Result) (spurious : Bool)
    (word : Word) (point : LoopPoint Word) (store : Word → Shared)
    (again : LoopPoint Word → Continuation)
    (finished : Result → Continuation) (crashed : Continuation) :
    Shared × Continuation :=
  match loopStep decision spurious word point with
  | (next, .again point) => (store next, again point)
  | (next, .finished result) => (store next, finished result)
  | (next, .crashed) => (store next, crashed)

/-- To know something of an embedded access it is enough to know it of a loop
that goes on, of a commit of the decision for the present word, and of a
crash. -/
theorem runLoop_induction {decision : Word → Decision Word Result}
    {spurious : Bool} {word : Word} {point : LoopPoint Word}
    {store : Word → Shared} {again : LoopPoint Word → Continuation}
    {finished : Result → Continuation} {crashed : Continuation}
    (holds : Shared × Continuation → Prop)
    (goesOn : ∀ point, holds (store word, again point))
    (commits : ∀ next result,
      (decision word).commit word = some (next, result) →
      holds (store next, finished result))
    (crashes : (decision word).commit word = none →
      holds (store word, crashed)) :
    holds
      (runLoop decision spurious word point store again finished crashed) := by
  unfold runLoop
  rcases loopStep_cases decision spurious word point with
    ⟨next, stepEq⟩ | ⟨next, result, decided, stepEq⟩ | ⟨decided, stepEq⟩
  · rw [stepEq]
    exact goesOn next
  · rw [stepEq]
    exact commits next result decided
  · rw [stepEq]
    exact crashes decided

/-- The same rule at a word for which the decision is known to commit. -/
theorem runLoop_of_commit {decision : Word → Decision Word Result}
    {spurious : Bool} {word : Word} {point : LoopPoint Word}
    {store : Word → Shared} {again : LoopPoint Word → Continuation}
    {finished : Result → Continuation} {crashed : Continuation}
    (holds : Shared × Continuation → Prop) {next : Word} {result : Result}
    (committed : (decision word).commit word = some (next, result))
    (goesOn : ∀ point, holds (store word, again point))
    (commits : holds (store next, finished result)) :
    holds
      (runLoop decision spurious word point store again finished crashed) := by
  refine runLoop_induction holds goesOn ?_ ?_
  · intro other answer decided
    rw [committed] at decided
    cases decided
    exact commits
  · intro decided
    rw [committed] at decided
    cases decided

/-- A load that answers at once. -/
theorem runLoop_of_answer {decision : Word → Decision Word Result}
    {word : Word} {result : Result} (answers : decision word = .answer result)
    (spurious : Bool) (store : Word → Shared)
    (again : LoopPoint Word → Continuation) (finished : Result → Continuation)
    (crashed : Continuation) :
    runLoop decision spurious word .load store again finished crashed =
      (store word, finished result) := by
  simp only [runLoop, loopStep, answers]

end Embedding

end Interleaving
