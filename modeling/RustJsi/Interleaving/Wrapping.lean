import RustJsi.Interleaving.Pool

/-!
# Machines over machines, and disciplined schedules

A wrapper adds no access of its own: each of its operations is one of the
wrapped object, and each of its accesses is one the wrapped object allows.  So
every run of the wrapper is a run of what it wraps.  A discipline restricts
what a scheduler picks; a disciplined run is a run.
-/

namespace Interleaving

/-- The label of a wrapper, read as one of the wrapped object. -/
def PoolLabel.translate {OuterOp InnerOp Effect : Type*}
    (translate : OuterOp → InnerOp) :
    PoolLabel OuterOp Effect → PoolLabel InnerOp Effect
  | .invoked call op => .invoked call (translate op)
  | .stepped call effect => .stepped call effect

namespace Machine

section Wrapping

variable {Shared Call OuterOp InnerOp OuterChoice InnerChoice Effect : Type*}

/-- The outer machine only renames operations and narrows choices. -/
structure Wraps (outer : Machine Shared Call OuterOp OuterChoice Effect)
    (inner : Machine Shared Call InnerOp InnerChoice Effect)
    (translate : OuterOp → InnerOp) : Prop where
  starts : ∀ op, outer.start op = inner.start (translate op)
  steps : ∀ shared choice call result,
    outer.step shared choice call = some result →
    ∃ chosen, inner.step shared chosen call = some result

variable {outer : Machine Shared Call OuterOp OuterChoice Effect}
  {inner : Machine Shared Call InnerOp InnerChoice Effect}
  {translate : OuterOp → InnerOp} {initial : Shared → Prop}

theorem Wraps.step (wraps : Wraps outer inner translate)
    {pool next : Pool Shared Call} {label : PoolLabel OuterOp Effect}
    (moved : (outer.system initial).step pool label next) :
    (inner.system initial).step pool (label.translate translate) next := by
  cases step_cases moved with
  | invoked op =>
      refine ⟨.invoke (translate op), ?_⟩
      rw [exec, wraps.starts]
      rfl
  | stepped index choice call shared after effect present accessed =>
      obtain ⟨chosen, innerAccessed⟩ :=
        wraps.steps _ choice call _ accessed
      refine ⟨.advance index chosen, ?_⟩
      simp only [exec, present, innerAccessed]
      rfl

theorem Wraps.path (wraps : Wraps outer inner translate)
    {trace : List (PoolLabel OuterOp Effect)} {pool next : Pool Shared Call}
    (path : (outer.system initial).Path pool trace next) :
    (inner.system initial).Path pool
      (trace.map (PoolLabel.translate translate)) next := by
  induction path with
  | refl =>
      exact System.Path.refl _
  | snoc _ moved inductionHypothesis =>
      rw [List.map_append]
      exact inductionHypothesis.snoc (wraps.step moved)

theorem Wraps.run (wraps : Wraps outer inner translate)
    {trace : List (PoolLabel OuterOp Effect)} {pool : Pool Shared Call}
    (run : (outer.system initial).Run trace pool) :
    (inner.system initial).Run
      (trace.map (PoolLabel.translate translate)) pool := by
  obtain ⟨start, starts, path⟩ := run
  exact ⟨start, starts, wraps.path path⟩

end Wrapping

section Discipline

variable {Shared Call Op Choice Effect : Type*}
variable (machine : Machine Shared Call Op Choice Effect)

/-- The runs in which the scheduler only picks actions of a discipline. -/
def disciplined (discipline : PoolAction Op Choice → Prop)
    (initial : Shared → Prop) :
    System (Pool Shared Call) (PoolLabel Op Effect) where
  initial := (machine.system initial).initial
  step := fun pool label next =>
    ∃ action, discipline action ∧ machine.exec pool action = some (next, label)

variable {machine} {discipline : PoolAction Op Choice → Prop}
  {initial : Shared → Prop}

/-- A disciplined run is a run. -/
theorem run_of_disciplined {trace : List (PoolLabel Op Effect)}
    {pool : Pool Shared Call}
    (run : (machine.disciplined discipline initial).Run trace pool) :
    (machine.system initial).Run trace pool := by
  refine System.Run.invariant
    (fun trace pool => (machine.system initial).Run trace pool) ?_ ?_ run
  · intro pool starts
    exact System.Run.nil starts
  · intro trace pool label next _ earlier moved
    obtain ⟨action, _, performed⟩ := moved
    exact earlier.snoc ⟨action, performed⟩

/-- What a disciplined step can be. -/
theorem disciplined_cases {pool next : Pool Shared Call}
    {label : PoolLabel Op Effect}
    (moved : (machine.disciplined discipline initial).step pool label next) :
    (∃ op, discipline (.invoke op) ∧
      label = .invoked pool.calls.length op ∧
      next = ⟨pool.shared, pool.calls ++ [machine.start op]⟩) ∨
    (∃ index choice call shared after effect,
      discipline (.advance index choice) ∧
      pool.calls[index]? = some call ∧
      machine.step pool.shared choice call = some (shared, after, effect) ∧
      label = .stepped index effect ∧
      next = ⟨shared, pool.calls.set index after⟩) := by
  obtain ⟨action, keeps, performed⟩ := moved
  cases action with
  | invoke op =>
      simp only [exec, Option.some.injEq, Prod.mk.injEq] at performed
      obtain ⟨rfl, rfl⟩ := performed
      exact Or.inl ⟨op, keeps, rfl, rfl⟩
  | advance index choice =>
      simp only [exec] at performed
      split at performed
      · cases performed
      · rename_i call present
        split at performed
        · cases performed
        · rename_i shared after effect accessed
          simp only [Option.some.injEq, Prod.mk.injEq] at performed
          obtain ⟨rfl, rfl⟩ := performed
          exact Or.inr ⟨index, choice, call, shared, after, effect,
            keeps, present, accessed, rfl, rfl⟩

/-- A schedule all of whose actions keep the discipline is a disciplined
run. -/
theorem path_of_execAll_disciplined {actions : List (PoolAction Op Choice)} :
    ∀ {pool last : Pool Shared Call} {labels : List (PoolLabel Op Effect)},
      (∀ action ∈ actions, discipline action) →
      machine.execAll pool actions = some (last, labels) →
      (machine.disciplined discipline initial).Path pool labels last := by
  induction actions with
  | nil =>
      intro pool last labels _ executed
      simp only [execAll, Option.some.injEq, Prod.mk.injEq] at executed
      obtain ⟨rfl, rfl⟩ := executed
      exact System.Path.refl _
  | cons action actions inductionHypothesis =>
      intro pool last labels keeps executed
      simp only [execAll] at executed
      split at executed
      · cases executed
      · rename_i next label performed
        split at executed
        · cases executed
        · rename_i end' rest executedRest
          simp only [Option.some.injEq, Prod.mk.injEq] at executed
          obtain ⟨rfl, rfl⟩ := executed
          have first := keeps action List.mem_cons_self
          have later : ∀ other ∈ actions, discipline other := by
            intro other member
            exact keeps other (List.mem_cons_of_mem action member)
          exact System.Path.cons ⟨action, first, performed⟩
            (inductionHypothesis later executedRest)

theorem exists_run_of_execAll_disciplined
    (discipline : PoolAction Op Choice → Prop) (initial : Shared → Prop)
    {shared : Shared} (actions : List (PoolAction Op Choice))
    (starts : initial shared) (keeps : ∀ action ∈ actions, discipline action)
    (executes : (machine.execAll ⟨shared, []⟩ actions).isSome = true) :
    ∃ pool trace,
      machine.execAll ⟨shared, []⟩ actions = some (pool, trace) ∧
      (machine.disciplined discipline initial).Run trace pool := by
  obtain ⟨⟨pool, trace⟩, executed⟩ := Option.isSome_iff_exists.mp executes
  exact ⟨pool, trace, executed, _, ⟨starts, rfl⟩,
    path_of_execAll_disciplined keeps executed⟩

end Discipline

end Machine

end Interleaving
