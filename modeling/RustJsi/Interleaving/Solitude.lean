import RustJsi.Interleaving.Pool
import RustJsi.Interleaving.RetryLoop

/-!
# A call left to itself

On one thread a call runs until it has nothing left to do before the next one
begins.  `Settles` says where it ends.  While nobody else acts, a retry loop
ends with the decision for the word it starts from, however often its weak
exchange fails, so each rule below is an equivalence: the end of a call is
computed by rewriting.
-/

namespace Interleaving

namespace Machine

variable {Shared Call Op Choice Effect : Type*}

/-- The call makes plain accesses and nobody else does anything. -/
inductive Alone (machine : Machine Shared Call Op Choice Effect)
    (plain : Choice → Prop) : Shared → Call → Shared → Call → Prop
  | refl (shared : Shared) (call : Call) :
      Alone machine plain shared call shared call
  | cons {shared middle last : Shared} {call next after : Call}
      {choice : Choice} {effect : Effect} (allowed : plain choice)
      (accessed : machine.step shared choice call =
        some (middle, next, effect))
      (later : Alone machine plain middle next last after) :
      Alone machine plain shared call last after

/-- The call has no plain access left. -/
def AtRest (machine : Machine Shared Call Op Choice Effect)
    (plain : Choice → Prop) (shared : Shared) (call : Call) : Prop :=
  ∀ choice, plain choice → machine.step shared choice call = none

/-- The call, left to itself, comes to rest here. -/
def Settles (machine : Machine Shared Call Op Choice Effect)
    (plain : Choice → Prop) (shared : Shared) (call : Call)
    (last : Shared) (after : Call) : Prop :=
  Alone machine plain shared call last after ∧ AtRest machine plain last after

variable {machine : Machine Shared Call Op Choice Effect}
  {plain : Choice → Prop} {shared last : Shared} {call after : Call}

theorem Settles.cons {middle : Shared} {next : Call} {choice : Choice}
    {effect : Effect} (allowed : plain choice)
    (accessed : machine.step shared choice call =
      some (middle, next, effect))
    (later : Settles machine plain middle next last after) :
    Settles machine plain shared call last after :=
  ⟨.cons allowed accessed later.1, later.2⟩

theorem settles_rest_iff (rests : AtRest machine plain shared call) :
    Settles machine plain shared call last after ↔
      last = shared ∧ after = call := by
  constructor
  · intro settles
    cases settles.1 with
    | refl => exact ⟨rfl, rfl⟩
    | cons allowed accessed later =>
        rw [rests _ allowed] at accessed
        cases accessed
  · intro same
    obtain ⟨rfl, rfl⟩ := same
    exact ⟨.refl _ _, rests⟩

/-- An access that is the same whatever the choice. -/
theorem settles_step_iff {choice : Choice} (allowed : plain choice)
    {middle : Shared} {next : Call}
    (steps : ∀ choice, plain choice → ∃ effect,
      machine.step shared choice call = some (middle, next, effect)) :
    Settles machine plain shared call last after ↔
      Settles machine plain middle next last after := by
  constructor
  · intro settles
    obtain ⟨alone, rests⟩ := settles
    cases alone with
    | refl =>
        obtain ⟨effect, accessed⟩ := steps choice allowed
        rw [rests choice allowed] at accessed
        cases accessed
    | cons chosen accessed later =>
        obtain ⟨effect, same⟩ := steps _ chosen
        rw [same] at accessed
        cases accessed
        exact ⟨later, rests⟩
  · intro settles
    obtain ⟨effect, accessed⟩ := steps choice allowed
    exact settles.cons allowed accessed

/-- A call that wanders between points until it moves on. -/
theorem Settles.of_wander {Point : Type} (again : Point → Call)
    {middle : Shared} {next : Call} {choice : Choice} (allowed : plain choice)
    (wanders : ∀ point choice, plain choice →
      (∃ point' effect, machine.step shared choice (again point) =
        some (shared, again point', effect)) ∨
      ∃ effect, machine.step shared choice (again point) =
        some (middle, next, effect))
    {point : Point}
    (settles : Settles machine plain shared (again point) last after) :
    Settles machine plain middle next last after := by
  obtain ⟨alone, rests⟩ := settles
  generalize sourceEq : shared = source at alone
  generalize startEq : again point = start at alone
  induction alone generalizing point with
  | refl =>
      subst sourceEq startEq
      have blocked := rests choice allowed
      rcases wanders point choice allowed with
        ⟨point', effect, goes⟩ | ⟨effect, ends⟩
      · rw [goes] at blocked
        cases blocked
      · rw [ends] at blocked
        cases blocked
  | cons chosen accessed later inductionHypothesis =>
      subst sourceEq startEq
      rcases wanders point _ chosen with
        ⟨point', effect, goes⟩ | ⟨effect, ends⟩
      · rw [goes] at accessed
        cases accessed
        exact inductionHypothesis rests rfl rfl
      · rw [ends] at accessed
        cases accessed
        exact ⟨later, rests⟩

section Loop

variable {Word Result : Type} [DecidableEq Word]
  {decision : Word → Decision Word Result} {word next : Word}
  {result : Result} (store : Word → Shared)
  (again : LoopPoint Word → Call) (goesOn : Effect)
  (finished : Result → Call × Effect) (crashed : Call × Effect)

/-- One access of a loop goes on, or ends it with its decision. -/
private theorem runLoop_settled
    (committed : (decision word).commit word = some (next, result))
    (spurious : Bool) (point : LoopPoint Word) :
    (∃ point', runLoop decision spurious word point store
      (fun point => (again point, goesOn)) finished crashed =
        (store word, again point', goesOn)) ∨
    runLoop decision spurious word point store
      (fun point => (again point, goesOn)) finished crashed =
        (store next, finished result) := by
  refine runLoop_of_commit
    (fun outcome => (∃ point', outcome =
        (store word, again point', goesOn)) ∨
      outcome = (store next, finished result))
    committed ?_ ?_
  · intro point'
    exact Or.inl ⟨point', rfl⟩
  · exact Or.inr rfl

/-- From any point the loop ends in three accesses that do not fail. -/
private theorem runLoop_ends
    (committed : (decision word).commit word = some (next, result)) :
    runLoop decision false word .load store
        (fun point => (again point, goesOn)) finished crashed =
      (store next, finished result) ∨
    (runLoop decision false word .load store
        (fun point => (again point, goesOn)) finished crashed =
      (store word, again (.exchange word), goesOn) ∧
    runLoop decision false word (.exchange word) store
        (fun point => (again point, goesOn)) finished crashed =
      (store next, finished result)) := by
  cases decided : decision word with
  | answer answered =>
      rw [decided] at committed
      cases committed
      exact Or.inl (by simp [runLoop, loopStep, decided])
  | exchange stored answered =>
      rw [decided] at committed
      cases committed
      exact Or.inr ⟨by simp [runLoop, loopStep, decided],
        by simp [runLoop, loopStep, decided]⟩
  | unreachable =>
      rw [decided] at committed
      cases committed

/-- An exchange that does not fail by itself ends the loop or goes round. -/
private theorem runLoop_exchanges
    (committed : (decision word).commit word = some (next, result))
    (current : Word) :
    runLoop decision false word (.exchange current) store
        (fun point => (again point, goesOn)) finished crashed =
      (store next, finished result) ∨
    runLoop decision false word (.exchange current) store
        (fun point => (again point, goesOn)) finished crashed =
      (store word, again .load, goesOn) := by
  cases decided : decision current with
  | answer answered =>
      exact Or.inr (by simp [runLoop, loopStep, decided])
  | unreachable =>
      exact Or.inr (by simp [runLoop, loopStep, decided])
  | exchange stored answered =>
      by_cases same : word = current
      · subst same
        rw [decided] at committed
        cases committed
        exact Or.inl (by simp [runLoop, loopStep, decided])
      · exact Or.inr (by simp [runLoop, loopStep, decided, same])

variable {store again goesOn finished crashed}

/-- A loop run alone ends with the decision for the word it started from. -/
theorem settles_loop_iff {choose : Bool → Choice}
    (plainIff : ∀ choice, plain choice ↔ ∃ spurious, choice = choose spurious)
    (committed : (decision word).commit word = some (next, result))
    (keeps : store word = shared)
    (steps : ∀ spurious point,
      machine.step shared (choose spurious) (again point) =
        some (runLoop decision spurious word point store
          (fun point => (again point, goesOn)) finished crashed))
    (point : LoopPoint Word) :
    Settles machine plain shared (again point) last after ↔
      Settles machine plain (store next) (finished result).1 last after := by
  have allowed : ∀ spurious, plain (choose spurious) := by
    intro spurious
    exact (plainIff _).mpr ⟨spurious, rfl⟩
  subst keeps
  constructor
  · intro settles
    refine settles.of_wander again (allowed false) ?_
    intro point choice chosen
    obtain ⟨spurious, rfl⟩ := (plainIff choice).mp chosen
    rw [steps]
    rcases runLoop_settled store again goesOn finished crashed
        committed spurious point with ⟨point', goes⟩ | ends
    · exact Or.inl ⟨point', goesOn, congrArg some goes⟩
    · exact Or.inr ⟨(finished result).2, congrArg some ends⟩
  · intro settles
    have fromLoad : Settles machine plain (store word) (again .load)
        last after := by
      rcases runLoop_ends store again goesOn finished crashed
          committed with ends | ⟨goes, ends⟩
      · apply settles.cons (allowed false)
        rw [steps, ends]
      · apply Settles.cons (allowed false)
        · rw [steps, goes]
        · apply settles.cons (allowed false)
          rw [steps, ends]
    cases point with
    | load => exact fromLoad
    | exchange current =>
        rcases runLoop_exchanges store again goesOn finished crashed
            committed current with ends | goes
        · apply settles.cons (allowed false)
          rw [steps, ends]
        · apply fromLoad.cons (allowed false)
          rw [steps, goes]

end Loop

end Machine

end Interleaving
