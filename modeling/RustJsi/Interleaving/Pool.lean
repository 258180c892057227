import RustJsi.Interleaving.System
import RustJsi.Interleaving.Counting

/-!
# Calls in flight over one shared object

Any number of threads use a shared object through calls.  A call is a value
that records where its code stands; the pool lists every call ever made, so
that its index names it for good.  A step either begins a new call or lets one
call perform its next atomic access.  Nothing ties a call to a thread: a thread
that calls back into the object from inside a call is one more entry of the
pool, and a call that is never advanced again is one whose owner leaked it.
-/

namespace Interleaving

/-- The code of a shared object: where each operation starts, and what the
next atomic access of a call does.  `Choice` resolves what the code does not
determine, and `Effect` names what the access did. -/
structure Machine (Shared Call Op Choice Effect : Type*) where
  start : Op → Call
  step : Shared → Choice → Call → Option (Shared × Call × Effect)

/-- The shared object and every call made on it so far. -/
structure Pool (Shared Call : Type*) where
  shared : Shared
  calls : List Call

/-- What a step of the pool was: a new call, or an access of an earlier one. -/
inductive PoolLabel (Op Effect : Type*) where
  | invoked (call : Nat) (op : Op)
  | stepped (call : Nat) (effect : Effect)

/-- What a scheduler picks. -/
inductive PoolAction (Op Choice : Type*) where
  | invoke (op : Op)
  | advance (call : Nat) (choice : Choice)

namespace PoolLabel

variable {Op Effect : Type*}

/-- The access a label reports, if it is one. -/
def effect? : PoolLabel Op Effect → Option Effect
  | .invoked _ _ => none
  | .stepped _ effect => some effect

@[simp]
theorem effect?_invoked (call : Nat) (op : Op) :
    (PoolLabel.invoked call op : PoolLabel Op Effect).effect? = none := rfl

@[simp]
theorem effect?_stepped (call : Nat) (effect : Effect) :
    (PoolLabel.stepped call effect : PoolLabel Op Effect).effect? =
      some effect := rfl

end PoolLabel

namespace Machine

variable {Shared Call Op Choice Effect : Type*}
variable (machine : Machine Shared Call Op Choice Effect)

/-- The pool after one action, with the label that reports it. -/
def exec (pool : Pool Shared Call) : PoolAction Op Choice →
    Option (Pool Shared Call × PoolLabel Op Effect)
  | .invoke op =>
      some (⟨pool.shared, pool.calls ++ [machine.start op]⟩,
        .invoked pool.calls.length op)
  | .advance index choice =>
      match pool.calls[index]? with
      | none => none
      | some call =>
          match machine.step pool.shared choice call with
          | none => none
          | some (shared, next, effect) =>
              some (⟨shared, pool.calls.set index next⟩,
                .stepped index effect)

/-- The pools reached from an object that nobody has called yet. -/
def system (initial : Shared → Prop) :
    System (Pool Shared Call) (PoolLabel Op Effect) where
  initial := fun pool => initial pool.shared ∧ pool.calls = []
  step := fun pool label next =>
    ∃ action, machine.exec pool action = some (next, label)

/-- Perform the actions in order and collect their labels. -/
def execAll (pool : Pool Shared Call) : List (PoolAction Op Choice) →
    Option (Pool Shared Call × List (PoolLabel Op Effect))
  | [] => some (pool, [])
  | action :: actions =>
      match machine.exec pool action with
      | none => none
      | some (next, label) =>
          match execAll next actions with
          | none => none
          | some (last, labels) => some (last, label :: labels)

variable {machine} {initial : Shared → Prop}

theorem path_of_execAll {actions : List (PoolAction Op Choice)} :
    ∀ {pool last : Pool Shared Call} {labels : List (PoolLabel Op Effect)},
      machine.execAll pool actions = some (last, labels) →
      (machine.system initial).Path pool labels last := by
  induction actions with
  | nil =>
      intro pool last labels executed
      simp only [execAll, Option.some.injEq, Prod.mk.injEq] at executed
      obtain ⟨rfl, rfl⟩ := executed
      exact System.Path.refl _
  | cons action actions inductionHypothesis =>
      intro pool last labels executed
      simp only [execAll] at executed
      split at executed
      · cases executed
      · rename_i next label performed
        split at executed
        · cases executed
        · rename_i end' rest executedRest
          simp only [Option.some.injEq, Prod.mk.injEq] at executed
          obtain ⟨rfl, rfl⟩ := executed
          exact System.Path.cons ⟨action, performed⟩
            (inductionHypothesis executedRest)

/-- A schedule that can be executed from a fresh object is a run. -/
theorem exists_run_of_execAll (initial : Shared → Prop) {shared : Shared}
    (actions : List (PoolAction Op Choice)) (starts : initial shared)
    (executes : (machine.execAll ⟨shared, []⟩ actions).isSome = true) :
    ∃ pool trace,
      machine.execAll ⟨shared, []⟩ actions = some (pool, trace) ∧
      (machine.system initial).Run trace pool := by
  obtain ⟨⟨pool, trace⟩, executed⟩ := Option.isSome_iff_exists.mp executes
  exact ⟨pool, trace, executed, _, ⟨starts, rfl⟩, path_of_execAll executed⟩

/-- What the pool can do: begin a call, or let one call make an access. -/
inductive PoolStep (machine : Machine Shared Call Op Choice Effect)
    (pool : Pool Shared Call) :
    PoolLabel Op Effect → Pool Shared Call → Prop
  | invoked (op : Op) :
      PoolStep machine pool (.invoked pool.calls.length op)
        ⟨pool.shared, pool.calls ++ [machine.start op]⟩
  | stepped (index : Nat) (choice : Choice) (call : Call)
      (shared : Shared) (next : Call) (effect : Effect)
      (present : pool.calls[index]? = some call)
      (accessed : machine.step pool.shared choice call =
        some (shared, next, effect)) :
      PoolStep machine pool (.stepped index effect)
        ⟨shared, pool.calls.set index next⟩

theorem step_cases {pool next : Pool Shared Call}
    {label : PoolLabel Op Effect}
    (step : (machine.system initial).step pool label next) :
    PoolStep machine pool label next := by
  obtain ⟨action, performed⟩ := step
  cases action with
  | invoke op =>
      simp only [exec, Option.some.injEq, Prod.mk.injEq] at performed
      obtain ⟨rfl, rfl⟩ := performed
      exact .invoked op
  | advance index choice =>
      simp only [exec] at performed
      split at performed
      · cases performed
      · rename_i call present
        split at performed
        · cases performed
        · rename_i shared after effect accessed
          simp only [Option.some.injEq, Prod.mk.injEq] at performed
          obtain ⟨rfl, rfl⟩ := performed
          exact .stepped index choice call shared after effect
            present accessed

end Machine

section History

variable {Shared Call Op Choice Effect : Type*}

/-- The effect a label reports of the call with the given index. -/
def PoolLabel.effectOf? (index : Nat) : PoolLabel Op Effect → Option Effect
  | .invoked _ _ => none
  | .stepped call effect => if call = index then some effect else none

/-- The effects of one call, in order. -/
def effectsOf (index : Nat) (trace : List (PoolLabel Op Effect)) :
    List Effect :=
  trace.filterMap (PoolLabel.effectOf? index)

@[simp]
theorem effectsOf_append (index : Nat)
    (before after : List (PoolLabel Op Effect)) :
    effectsOf index (before ++ after) =
      effectsOf index before ++ effectsOf index after :=
  List.filterMap_append

@[simp]
theorem effectsOf_invoked (index call : Nat) (op : Op) :
    effectsOf index [(.invoked call op : PoolLabel Op Effect)] = [] := rfl

@[simp]
theorem effectsOf_own (index : Nat) (effect : Effect) :
    effectsOf index [(.stepped index effect : PoolLabel Op Effect)] =
      [effect] := by
  simp [effectsOf, PoolLabel.effectOf?]

theorem effectsOf_other {index call : Nat} (other : call ≠ index)
    (effect : Effect) :
    effectsOf index [(.stepped call effect : PoolLabel Op Effect)] = [] := by
  simp [effectsOf, PoolLabel.effectOf?, other]

/-- What the trace says about the calls of a pool: every effect is one of a
call that exists, and every call was invoked exactly once. -/
structure Recorded (trace : List (PoolLabel Op Effect))
    (pool : Pool Shared Call) : Prop where
  invokedBound : ∀ index op, .invoked index op ∈ trace →
    index < pool.calls.length
  effectBound : ∀ index, effectsOf index trace ≠ [] →
    index < pool.calls.length
  invoked : ∀ index, index < pool.calls.length →
    ∃ op, .invoked index op ∈ trace

variable {machine : Machine Shared Call Op Choice Effect}
  {initial : Shared → Prop}

theorem run_recorded {trace : List (PoolLabel Op Effect)}
    {pool : Pool Shared Call}
    (run : (machine.system initial).Run trace pool) :
    Recorded trace pool := by
  refine System.Run.invariant Recorded ?_ ?_ run
  · rintro ⟨shared, calls⟩ ⟨_, rfl⟩
    exact ⟨nofun, by simp [effectsOf], nofun⟩
  · intro trace pool label next _ recorded moved
    cases Machine.step_cases moved with
    | invoked op =>
        constructor
        · intro index tested member
          simp only [List.mem_append, List.mem_singleton] at member
          simp only [List.length_append, List.length_singleton]
          rcases member with earlier | now
          · have := recorded.invokedBound index tested earlier
            omega
          · cases now
            omega
        · intro index nonempty
          rw [effectsOf_append, effectsOf_invoked, List.append_nil] at nonempty
          have := recorded.effectBound index nonempty
          simp only [List.length_append, List.length_singleton]
          omega
        · intro index bound
          simp only [List.length_append, List.length_singleton] at bound
          by_cases earlier : index < pool.calls.length
          · obtain ⟨tested, member⟩ := recorded.invoked index earlier
            exact ⟨tested, List.mem_append_left _ member⟩
          · obtain rfl : index = pool.calls.length := by omega
            exact ⟨op, List.mem_append_right _ (List.mem_singleton.mpr rfl)⟩
    | stepped call choice before shared after effect present accessed =>
        have bound := (List.getElem?_eq_some_iff.mp present).1
        constructor
        · intro index op member
          simp only [List.mem_append, List.mem_singleton] at member
          rw [List.length_set]
          rcases member with earlier | now
          · exact recorded.invokedBound index op earlier
          · cases now
        · intro index nonempty
          rw [List.length_set]
          by_cases own : call = index
          · exact own ▸ bound
          · rw [effectsOf_append, effectsOf_other own,
              List.append_nil] at nonempty
            exact recorded.effectBound index nonempty
        · intro index earlier
          rw [List.length_set] at earlier
          obtain ⟨op, member⟩ := recorded.invoked index earlier
          exact ⟨op, List.mem_append_left _ member⟩

/-- The history rule: what holds of a call when its operation starts, and is
kept by its own accesses whatever the shared object is, holds of the call
together with all the effects it has had. -/
theorem run_history (holds : Op → List Effect → Call → Prop)
    (starts : ∀ op, holds op [] (machine.start op))
    (preserve : ∀ op effects before shared choice next after effect,
      holds op effects before →
      machine.step shared choice before = some (next, after, effect) →
      holds op (effects ++ [effect]) after)
    {trace : List (PoolLabel Op Effect)} {pool : Pool Shared Call}
    (run : (machine.system initial).Run trace pool) :
    ∀ index op call, .invoked index op ∈ trace →
      pool.calls[index]? = some call →
      holds op (effectsOf index trace) call := by
  refine System.Run.invariant
    (fun trace pool => ∀ index op call, .invoked index op ∈ trace →
      pool.calls[index]? = some call →
      holds op (effectsOf index trace) call) ?_ ?_ run
  · rintro ⟨shared, calls⟩ ⟨_, rfl⟩ index op call member
    cases member
  · intro trace pool label next earlier history moved index op call
      member present
    have recorded := run_recorded earlier
    cases Machine.step_cases moved with
    | invoked started =>
        rw [effectsOf_append, effectsOf_invoked, List.append_nil]
        simp only [List.mem_append, List.mem_singleton] at member
        rcases member with member | now
        · have bound := recorded.invokedBound index op member
          rw [List.getElem?_append_left bound] at present
          exact history index op call member present
        · cases now
          rw [List.getElem?_concat_length] at present
          cases present
          have silent : effectsOf pool.calls.length trace = [] := by
            by_contra spoke
            exact absurd (recorded.effectBound _ spoke) (Nat.lt_irrefl _)
          rw [silent]
          exact starts op
    | stepped stepping choice before shared after effect found accessed =>
        have member : .invoked index op ∈ trace := by
          simpa using member
        rw [effectsOf_append]
        by_cases own : stepping = index
        · subst own
          have bound := (List.getElem?_eq_some_iff.mp found).1
          rw [List.getElem?_set_self bound] at present
          cases present
          rw [effectsOf_own]
          exact preserve op _ before pool.shared choice shared _ effect
            (history stepping op before member found) accessed
        · rw [List.getElem?_set_ne own] at present
          rw [effectsOf_other own, List.append_nil]
          exact history index op call member present

theorem mem_effectsOf {index : Nat} {effect : Effect}
    {trace : List (PoolLabel Op Effect)} :
    effect ∈ effectsOf index trace → .stepped index effect ∈ trace := by
  intro member
  obtain ⟨label, listed, named⟩ := List.mem_filterMap.mp member
  cases label with
  | invoked call op => cases named
  | stepped call other =>
      simp only [PoolLabel.effectOf?] at named
      split at named
      · rename_i own
        cases named
        rw [← own]
        exact listed
      · cases named

/-- The rule of reports: if an access makes the call report what it decides,
or nothing, or what the call reported before, then what a call reports was
decided under its own index. -/
theorem run_reported {Event : Type*} (reported : Call → Option Event)
    (decided : Event → Effect)
    (starts : ∀ op, reported (machine.start op) = none)
    (preserve : ∀ before shared choice next after effect,
      machine.step shared choice before = some (next, after, effect) →
      (∃ event, effect = decided event ∧ reported after = some event) ∨
        reported after = none ∨ reported after = reported before)
    {trace : List (PoolLabel Op Effect)} {pool : Pool Shared Call}
    (run : (machine.system initial).Run trace pool) :
    ∀ (index : Nat) (call : Call), pool.calls[index]? = some call →
      ∀ event, reported call = some event →
        .stepped index (decided event) ∈ trace := by
  intro index call present event reports
  obtain ⟨bound, _⟩ := List.getElem?_eq_some_iff.mp present
  obtain ⟨op, member⟩ := (run_recorded run).invoked index bound
  apply mem_effectsOf
  refine run_history
    (fun _ effects call => ∀ event, reported call = some event →
      decided event ∈ effects) ?_ ?_ run index op call member present event
    reports
  · intro op event reports
    rw [starts] at reports
    cases reports
  · intro op effects before shared choice next after effect known accessed
      event reports
    rcases preserve before shared choice next after effect accessed with
      ⟨other, now, same⟩ | silent | kept
    · cases same.symm.trans reports
      rw [now]
      exact List.mem_append_right _ (List.mem_singleton.mpr rfl)
    · cases silent.symm.trans reports
    · exact List.mem_append_left _ (known event (kept.symm.trans reports))

/-- The rule of later calls: what holds of a call when its operation starts,
and is kept by its accesses while the pool stays as it is said to, holds of
every call that began meanwhile. -/
theorem path_begun (during : Pool Shared Call → Prop)
    (holds : Op → Call → Prop)
    (starts : ∀ op, holds op (machine.start op))
    (preserve : ∀ pool op before choice shared after effect,
      during pool → holds op before →
      machine.step pool.shared choice before = some (shared, after, effect) →
      holds op after)
    {earlier later : List (PoolLabel Op Effect)}
    {pool last : Pool Shared Call}
    (run : (machine.system initial).Run earlier pool)
    (path : (machine.system initial).Path pool later last)
    (stays : ∀ labels middle, (machine.system initial).Path pool labels middle →
      during middle) :
    ∀ index op call, .invoked index op ∈ later →
      last.calls[index]? = some call → holds op call := by
  induction path with
  | refl =>
      intro index op call member
      cases member
  | @snoc middle last labels label before moved inductionHypothesis =>
      intro index op call member present
      have recorded := run_recorded (run.append before)
      cases Machine.step_cases moved with
      | invoked started =>
          cases List.mem_append.mp member with
          | inl old =>
              have bound := recorded.invokedBound index op
                (List.mem_append_right _ old)
              rw [List.getElem?_append_left bound] at present
              exact inductionHypothesis index op call old present
          | inr new =>
              cases List.mem_singleton.mp new
              rw [List.getElem?_concat_length] at present
              cases present
              exact starts op
      | stepped stepping choice source shared after effect found accessed =>
          have old : .invoked index op ∈ labels := by
            simpa using member
          by_cases own : stepping = index
          · subst own
            have bound := (List.getElem?_eq_some_iff.mp found).1
            rw [List.getElem?_set_self bound] at present
            cases present
            exact preserve middle op source choice shared _ effect
              (stays _ _ before) (inductionHypothesis _ op source old found)
              accessed
          · rw [List.getElem?_set_ne own] at present
            exact inductionHypothesis index op call old present

end History

end Interleaving
