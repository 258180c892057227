import RustJsi.Interleaving.Pool

/-!
# Calls that take effect at once

An object used by many calls at a time is linearizable when it might have been
used by one call at a time: each call takes effect at one of its own accesses,
and the effects, in the order of these accesses, are those of a sequential
object.  A simulation by the sequential object says this of the effects, and
the history of a call says it of what the call returns; the order of the
accesses keeps the order in time of calls that do not overlap.
-/

namespace Interleaving

section Serial

variable {Abstract Op Answer : Type*}

/-- An object that performs one operation at a time, each with its answer. -/
def serial (perform : Abstract → Op → Abstract × Answer) (fresh : Abstract) :
    System Abstract (Op × Answer) where
  initial := fun state => state = fresh
  step := fun state done next => perform state done.1 = (next, done.2)

/-- Perform the operations in order and collect their answers. -/
def performAll (perform : Abstract → Op → Abstract × Answer)
    (state : Abstract) : List Op → Abstract × List Answer
  | [] => (state, [])
  | op :: ops =>
      let (next, answer) := perform state op
      let (last, answers) := performAll perform next ops
      (last, answer :: answers)

variable {perform : Abstract → Op → Abstract × Answer} {fresh : Abstract}

theorem performAll_snoc (op : Op) :
    ∀ (ops : List Op) (state : Abstract),
      performAll perform state (ops ++ [op]) =
        ((perform (performAll perform state ops).1 op).1,
          (performAll perform state ops).2 ++
            [(perform (performAll perform state ops).1 op).2]) := by
  intro ops
  induction ops with
  | nil =>
      intro state
      rfl
  | cons first rest inductionHypothesis =>
      intro state
      simp only [List.cons_append, performAll, inductionHypothesis]

/-- A run of a sequential object is what its operations compute. -/
theorem performAll_of_run {trace : List (Op × Answer)} {state : Abstract}
    (run : (serial perform fresh).Run trace state) :
    performAll perform fresh (trace.map Prod.fst) =
      (state, trace.map Prod.snd) := by
  refine System.Run.invariant
    (fun trace state => performAll perform fresh (trace.map Prod.fst) =
      (state, trace.map Prod.snd)) ?_ ?_ run
  · intro start starts
    cases starts
    rfl
  · intro trace state done next _ computed step
    have performed : perform state done.1 = (next, done.2) := step
    rw [List.map_append, List.map_append, List.map_singleton,
      List.map_singleton, performAll_snoc, computed, performed]

end Serial

section Order

variable {Shared Call Op Choice Effect Action Abstract : Type*}

/-- What a label shows of the sequential object. -/
def PoolLabel.action? (committed : Effect → Option Action)
    (label : PoolLabel Op Effect) : Option Action :=
  label.effect?.bind committed

/-- What a label shows, and the call that did it. -/
def PoolLabel.commit? (committed : Effect → Option Action) :
    PoolLabel Op Effect → Option (Nat × Action)
  | .invoked _ _ => none
  | .stepped call effect => (committed effect).map fun action => (call, action)

/-- The effects of the calls, in the order in which they took place. -/
def commits (committed : Effect → Option Action)
    (trace : List (PoolLabel Op Effect)) : List (Nat × Action) :=
  trace.filterMap (PoolLabel.commit? committed)

/-- What one call did. -/
def commitsOf (committed : Effect → Option Action) (index : Nat)
    (trace : List (PoolLabel Op Effect)) : List Action :=
  (effectsOf index trace).filterMap committed

variable {committed : Effect → Option Action}

theorem commits_append (before after : List (PoolLabel Op Effect)) :
    commits committed (before ++ after) =
      commits committed before ++ commits committed after :=
  List.filterMap_append

theorem commits_map_snd (trace : List (PoolLabel Op Effect)) :
    (commits committed trace).map Prod.snd =
      trace.filterMap (PoolLabel.action? committed) := by
  rw [commits, List.map_filterMap]
  apply List.filterMap_congr
  intro label _
  cases label with
  | invoked call op => rfl
  | stepped call effect =>
      simp only [PoolLabel.commit?, PoolLabel.action?,
        PoolLabel.effect?_stepped, Option.bind_some, Option.map_map]
      cases committed effect <;> rfl

/-- What a call did is its part of the whole order. -/
theorem commitsOf_eq (index : Nat) (trace : List (PoolLabel Op Effect)) :
    commitsOf committed index trace =
      ((commits committed trace).filter fun commit =>
        commit.1 = index).map Prod.snd := by
  induction trace with
  | nil => rfl
  | cons label rest inductionHypothesis =>
      have later : commitsOf committed index (label :: rest) =
          commitsOf committed index [label] ++
            commitsOf committed index rest := by
        rw [commitsOf, ← List.singleton_append, effectsOf_append,
          List.filterMap_append]
        rfl
      have split : commits committed (label :: rest) =
          commits committed [label] ++ commits committed rest :=
        commits_append [label] rest
      rw [later, split, List.filter_append, List.map_append,
        inductionHypothesis]
      congr 1
      cases label with
      | invoked call op => rfl
      | stepped call effect =>
          by_cases own : call = index
          · subst own
            rw [commitsOf, effectsOf_own]
            cases done : committed effect <;>
              simp [commits, PoolLabel.commit?, done]
          · rw [commitsOf, effectsOf_other own]
            cases done : committed effect <;>
              simp [commits, PoolLabel.commit?, done, own]

theorem commitsOf_invoked (index call : Nat) (op : Op)
    (trace : List (PoolLabel Op Effect)) :
    commitsOf committed index (trace ++ [.invoked call op]) =
      commitsOf committed index trace := by
  rw [commitsOf, effectsOf_append, effectsOf_invoked, List.append_nil]
  rfl

theorem commitsOf_own (index : Nat) (trace : List (PoolLabel Op Effect))
    (effect : Effect) :
    commitsOf committed index (trace ++ [.stepped index effect]) =
      commitsOf committed index trace ++ (committed effect).toList := by
  rw [commitsOf, effectsOf_append, effectsOf_own]
  exact filterMap_snoc _ _ _

theorem commitsOf_other {index call : Nat} (other : call ≠ index)
    (trace : List (PoolLabel Op Effect)) (effect : Effect) :
    commitsOf committed index (trace ++ [.stepped call effect]) =
      commitsOf committed index trace := by
  rw [commitsOf, effectsOf_append, effectsOf_other other, List.append_nil]
  rfl

theorem not_mem_commits {index : Nat} {trace : List (PoolLabel Op Effect)}
    (silent : effectsOf index trace = []) (action : Action) :
    (index, action) ∉ commits committed trace := by
  intro member
  have nothing : commitsOf committed index trace = [] := by
    rw [commitsOf, silent]
    rfl
  rw [commitsOf_eq, List.map_eq_nil_iff] at nothing
  have kept : (index, action) ∈ (commits committed trace).filter
      fun commit => commit.1 = index :=
    List.mem_filter.mpr ⟨member, decide_eq_true rfl⟩
  rw [nothing] at kept
  cases kept

end Order

section Runs

variable {Shared Call Op Choice Effect Action Abstract : Type*}

/-- A call that has nothing left to do. -/
def Machine.Ended (machine : Machine Shared Call Op Choice Effect)
    (call : Call) : Prop :=
  ∀ shared choice, machine.step shared choice call = none

variable {machine : Machine Shared Call Op Choice Effect}
  {initial : Shared → Prop} {committed : Effect → Option Action}

/-- A call that has ended stays as it is, and does nothing any more. -/
theorem Machine.Ended.silent {source target : Pool Shared Call}
    {trace : List (PoolLabel Op Effect)} {index : Nat} {call : Call}
    (path : (machine.system initial).Path source trace target)
    (present : source.calls[index]? = some call)
    (ended : machine.Ended call) :
    target.calls[index]? = some call ∧ effectsOf index trace = [] := by
  induction path with
  | refl => exact ⟨present, rfl⟩
  | snoc earlier step inductionHypothesis =>
      obtain ⟨stays, silent⟩ := inductionHypothesis
      rw [effectsOf_append, silent]
      cases Machine.step_cases step with
      | invoked op =>
          have bound := (List.getElem?_eq_some_iff.mp stays).1
          exact ⟨(List.getElem?_append_left bound).trans stays, rfl⟩
      | stepped stepping choice before shared after effect found accessed =>
          by_cases own : stepping = index
          · subst own
            rw [stays] at found
            cases found
            rw [ended] at accessed
            cases accessed
          · rw [List.getElem?_set_ne own, effectsOf_other own]
            exact ⟨stays, rfl⟩

/-- A call that begins later has done nothing yet. -/
theorem effectsOf_of_invoked_later {source target : Pool Shared Call}
    {before after : List (PoolLabel Op Effect)} {index : Nat} {op : Op}
    (run : (machine.system initial).Run before source)
    (path : (machine.system initial).Path source after target)
    (later : .invoked index op ∈ after) : effectsOf index before = [] := by
  obtain ⟨first, rest, rfl⟩ := List.append_of_mem later
  obtain ⟨middle, reached, onward⟩ := path.split
  obtain ⟨next, step, _⟩ := onward.cons_inv
  have begins := run.append reached
  have recorded := run_recorded begins
  have fresh : index = middle.calls.length := by
    cases Machine.step_cases step with
    | invoked _ => rfl
  have silent : effectsOf index (before ++ first) = [] := by
    by_contra spoke
    have bound := recorded.effectBound index spoke
    omega
  rw [effectsOf_append] at silent
  exact (List.append_eq_nil_iff.mp silent).1

/-- The calls of a run might have been made one at a time.  `Shows` relates the
object to the sequential one, and `Answers` says what a call of an operation
may have done by the point where its code stands. -/
structure Linearizable (machine : Machine Shared Call Op Choice Effect)
    (initial : Shared → Prop) (abstract : System Abstract Action)
    (committed : Effect → Option Action)
    (Shows : Pool Shared Call → Abstract → Prop)
    (Answers : Op → Call → List Action → Prop)
    (trace : List (PoolLabel Op Effect)) (pool : Pool Shared Call) :
    Prop where
  /-- The effects, one after the other, are a run of the sequential object. -/
  sequential : ∃ image,
    abstract.Run ((commits committed trace).map Prod.snd) image ∧
      Shows pool image
  /-- What a call did is what its operation does, and what it returns. -/
  answers : ∀ index op call, .invoked index op ∈ trace →
    pool.calls[index]? = some call →
    Answers op call (commitsOf committed index trace)
  /-- At every moment of the run, the calls that have ended have taken effect,
  and those still to begin have not. -/
  inOrder : ∀ before after middle, trace = before ++ after →
    (machine.system initial).Run before middle →
    (machine.system initial).Path middle after pool →
    commits committed trace =
        commits committed before ++ commits committed after ∧
      (∀ index call, middle.calls[index]? = some call → machine.Ended call →
        ∀ action, (index, action) ∉ commits committed after) ∧
      ∀ index op, .invoked index op ∈ after →
        ∀ action, (index, action) ∉ commits committed before

/-- The linearization rule: a simulation by the sequential object, and what
each access adds to what its call has done. -/
theorem run_linearizable {abstract : System Abstract Action}
    (simulation : Simulation (machine.system initial) abstract
      (PoolLabel.action? committed))
    (Answers : Op → Call → List Action → Prop)
    (starts : ∀ op, Answers op (machine.start op) [])
    (preserve : ∀ op done before shared choice next after effect,
      Answers op before done →
      machine.step shared choice before = some (next, after, effect) →
      Answers op after (done ++ (committed effect).toList))
    {trace : List (PoolLabel Op Effect)} {pool : Pool Shared Call}
    (run : (machine.system initial).Run trace pool) :
    Linearizable machine initial abstract committed simulation.related Answers
      trace pool := by
  refine ⟨?_, ?_, ?_⟩
  · rw [commits_map_snd]
    exact simulation.run run
  · apply run_history
      (fun op effects call => Answers op call (effects.filterMap committed))
      starts ?_ run
    intro op effects before shared choice next after effect answers accessed
    have added := preserve op _ before shared choice next after effect answers
      accessed
    rw [List.filterMap_append]
    cases done : committed effect <;> simpa [done] using added
  · intro before after middle traceEq reached path
    refine ⟨?_, ?_, ?_⟩
    · rw [traceEq, commits_append]
    · intro index call present ended action
      exact not_mem_commits (ended.silent path present).2 action
    · intro index op later action
      exact not_mem_commits (effectsOf_of_invoked_later reached path later)
        action

end Runs

end Interleaving
