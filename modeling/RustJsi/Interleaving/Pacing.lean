import RustJsi.Interleaving.Pool
import RustJsi.Interleaving.RetryLoop

/-!
# Calls that do not keep each other busy

A call that goes round its loop again does so because another call got on, or
because a weak exchange failed by itself.  A pacing measures what the calls
still have to do: an access leaves its own call with less, and it may leave
the others with more only where it uses up one of the turns of its call.  Any
number of calls then end within a number of accesses that is quadratic in
their number, whatever the scheduler does.
-/

namespace Interleaving

namespace PoolAction

variable {Op Choice : Type*}

def isInvoke : PoolAction Op Choice → Bool
  | .invoke _ => true
  | .advance _ _ => false

def isAccess : PoolAction Op Choice → Bool
  | .invoke _ => false
  | .advance _ _ => true

/-- The access is one that the choice makes fail. -/
def fails (slips : Choice → Bool) : PoolAction Op Choice → Bool
  | .invoke _ => false
  | .advance _ choice => slips choice

end PoolAction

section Schedules

variable {Op Choice : Type*}

/-- How many calls a schedule begins. -/
def invocations (actions : List (PoolAction Op Choice)) : Nat :=
  actions.countP PoolAction.isInvoke

def accesses (actions : List (PoolAction Op Choice)) : Nat :=
  actions.countP PoolAction.isAccess

/-- How many exchanges a schedule makes fail by themselves. -/
def failures (slips : Choice → Bool)
    (actions : List (PoolAction Op Choice)) : Nat :=
  actions.countP (PoolAction.fails slips)

end Schedules

/-! ## Pacings -/

/-- What the calls of an object still have to do. -/
structure Pacing {Shared Call Op Choice Effect : Type*}
    (machine : Machine Shared Call Op Choice Effect) where
  slips : Choice → Bool
  /-- The accesses a call still makes if nobody gets into its way. -/
  work : Shared → Call → Nat
  /-- The accesses that what is stored still calls for. -/
  stock : Shared → Nat
  /-- How often a call still gets into the way of the others. -/
  turns : Call → Nat
  turnStock : Shared → Nat
  /-- The work and the turns of a call that begins. -/
  first : Nat
  most : Nat
  /-- What a turn adds to the work of another call. -/
  rise : Nat
  /-- What a failure that is nobody's turn costs. -/
  slip : Nat
  starts : ∀ shared op, work shared (machine.start op) ≤ first
  begins : ∀ op, turns (machine.start op) ≤ most
  advances : ∀ {shared choice call next after effect},
    machine.step shared choice call = some (next, after, effect) →
    ∃ turn, (∀ other, work next other ≤ work shared other + rise * turn) ∧
      stock next + work next after + 1 ≤
        stock shared + work shared call + slip * (slips choice).toNat ∧
      turnStock next + turns after + turn ≤ turnStock shared + turns call

section Totals

variable {Call : Type*}

/-- Replacing one call when the weights of all may rise. -/
theorem total_set_le {before after : Call → Nat} {rise : Nat}
    (new : Call) {calls : List Call} {index : Nat} {old : Call}
    (rises : ∀ call, after call ≤ before call + rise)
    (present : calls[index]? = some old) :
    total after (calls.set index new) + before old ≤
      total before calls + after new + rise * calls.length := by
  have each : ∀ rest : List Call,
      total after rest ≤ total before rest + rise * rest.length := by
    intro rest
    induction rest with
    | nil => exact Nat.le_refl _
    | cons head tail inductionHypothesis =>
        have here := rises head
        rw [total_cons, total_cons, List.length_cons, Nat.mul_succ]
        omega
  induction calls generalizing index with
  | nil => cases present
  | cons head tail inductionHypothesis =>
      cases index with
      | zero =>
          cases present
          have rest := each tail
          rw [List.set_cons_zero, total_cons, total_cons, List.length_cons,
            Nat.mul_succ]
          omega
      | succ index =>
          have here := rises head
          have rest := inductionHypothesis
            (List.getElem?_cons_succ.symm.trans present)
          rw [List.set_cons_succ, total_cons, total_cons, List.length_cons,
            Nat.mul_succ]
          omega

end Totals

namespace Pacing

variable {Shared Call Op Choice Effect : Type*}
  {machine : Machine Shared Call Op Choice Effect}
  (pacing : Pacing machine)

/-- What the calls of a pool still have to do when there are at most `calls`
of them. -/
def potential (calls : Nat) (pool : Pool Shared Call) : Nat :=
  pacing.stock pool.shared + total (pacing.work pool.shared) pool.calls +
    pacing.rise * calls *
      (pacing.turnStock pool.shared + total pacing.turns pool.calls)

variable (calls : Nat) {pool next : Pool Shared Call}
  {label : PoolLabel Op Effect}

theorem potential_invoke {op : Op}
    (performed : machine.exec pool (.invoke op) = some (next, label)) :
    pacing.potential calls next ≤ pacing.potential calls pool +
      (pacing.first + pacing.rise * calls * pacing.most) := by
  simp only [Machine.exec, Option.some.injEq, Prod.mk.injEq] at performed
  obtain ⟨rfl, rfl⟩ := performed
  have starts := pacing.starts pool.shared op
  have turns : pacing.rise * calls * pacing.turns (machine.start op) ≤
      pacing.rise * calls * pacing.most :=
    Nat.mul_le_mul_left _ (pacing.begins op)
  simp only [potential, total_append_single, Nat.mul_add]
  omega

variable {calls}

/-- An access leaves less to do, unless its exchange fails by itself. -/
theorem potential_advance {index : Nat} {choice : Choice}
    (performed : machine.exec pool (.advance index choice) =
      some (next, label))
    (few : pool.calls.length ≤ calls) :
    pacing.potential calls next + 1 ≤ pacing.potential calls pool +
      pacing.slip * (pacing.slips choice).toNat := by
  simp only [Machine.exec] at performed
  split at performed
  · cases performed
  · rename_i call present
    split at performed
    · cases performed
    · rename_i shared after effect accessed
      cases performed
      obtain ⟨turn, rises, lowers, turns⟩ := pacing.advances accessed
      have works := total_set_le after rises present
      have moved := total_set_add pacing.turns after present
      have share : pacing.rise * turn * pool.calls.length ≤
          pacing.rise * calls * turn := by
        calc
          pacing.rise * turn * pool.calls.length ≤
              pacing.rise * turn * calls := Nat.mul_le_mul_left _ few
          _ = pacing.rise * calls * turn := Nat.mul_right_comm ..
      have used : pacing.rise * calls *
            (pacing.turnStock shared +
              total pacing.turns (pool.calls.set index after) + turn) ≤
          pacing.rise * calls *
            (pacing.turnStock pool.shared + total pacing.turns pool.calls) :=
        Nat.mul_le_mul_left _ (by omega)
      simp only [potential, Nat.mul_add] at used ⊢
      omega

theorem exec_length {action : PoolAction Op Choice}
    (performed : machine.exec pool action = some (next, label)) :
    next.calls.length = pool.calls.length + action.isInvoke.toNat := by
  cases action with
  | invoke op =>
      simp only [Machine.exec, Option.some.injEq, Prod.mk.injEq] at performed
      obtain ⟨rfl, rfl⟩ := performed
      exact List.length_append
  | advance index choice =>
      simp only [Machine.exec] at performed
      split at performed
      · cases performed
      · split at performed
        · cases performed
        · cases performed
          exact List.length_set

theorem execAll_potential (calls : Nat)
    {actions : List (PoolAction Op Choice)} :
    ∀ {pool last : Pool Shared Call} {labels : List (PoolLabel Op Effect)},
      machine.execAll pool actions = some (last, labels) →
      pool.calls.length + invocations actions ≤ calls →
      accesses actions + pacing.potential calls last ≤
        pacing.potential calls pool +
          invocations actions *
            (pacing.first + pacing.rise * calls * pacing.most) +
          pacing.slip * failures pacing.slips actions := by
  induction actions with
  | nil =>
      intro pool last labels executed _
      cases executed
      simp [accesses, invocations, failures]
  | cons action actions inductionHypothesis =>
      intro pool last labels executed few
      simp only [Machine.execAll] at executed
      split at executed
      · cases executed
      · rename_i next label performed
        split at executed
        · cases executed
        · rename_i final rest executedRest
          cases executed
          have length := exec_length performed
          cases action with
          | invoke op =>
              have lowers := pacing.potential_invoke calls performed
              have begun : invocations (.invoke op :: actions) =
                  invocations actions + 1 := List.countP_cons_of_pos rfl
              have same : accesses (.invoke op :: actions) =
                  accesses actions := List.countP_cons_of_neg Bool.noConfusion
              have none : failures pacing.slips (.invoke op :: actions) =
                  failures pacing.slips actions :=
                List.countP_cons_of_neg Bool.noConfusion
              have later := inductionHypothesis executedRest (by
                rw [length, PoolAction.isInvoke, Bool.toNat_true]
                omega)
              rw [begun, same, none, Nat.succ_mul]
              omega
          | advance index choice =>
              have lowers := pacing.potential_advance performed
                (show pool.calls.length ≤ calls by omega)
              have same : invocations (.advance index choice :: actions) =
                  invocations actions :=
                List.countP_cons_of_neg Bool.noConfusion
              have made : accesses (.advance index choice :: actions) =
                  accesses actions + 1 := List.countP_cons_of_pos rfl
              have failed : failures pacing.slips
                  (.advance index choice :: actions) =
                  failures pacing.slips actions +
                    (pacing.slips choice).toNat := by
                cases slipped : pacing.slips choice <;>
                  simp [failures, PoolAction.fails, slipped]
              have later := inductionHypothesis executedRest (by
                rw [length, PoolAction.isInvoke, Bool.toNat_false]
                omega)
              rw [same, made, failed, Nat.mul_add pacing.slip]
              omega

/-- The pacing rule: any schedule of so many calls, with so many exchanges
that fail by themselves, makes at most this many accesses. -/
theorem accesses_le {shared : Shared}
    (noStock : pacing.stock shared = 0) (noTurns : pacing.turnStock shared = 0)
    {actions : List (PoolAction Op Choice)} {last : Pool Shared Call}
    {labels : List (PoolLabel Op Effect)}
    (executed : machine.execAll ⟨shared, []⟩ actions = some (last, labels)) :
    accesses actions ≤
      invocations actions *
          (pacing.first + pacing.rise * invocations actions * pacing.most) +
        pacing.slip * failures pacing.slips actions := by
  have bounded := pacing.execAll_potential (invocations actions) executed
    (by simp)
  have nothing :
      pacing.potential (invocations actions) ⟨shared, []⟩ = 0 := by
    simp [potential, noStock, noTurns, total]
  omega

end Pacing

/-- Whatever the scheduler does, the calls of a schedule end: there is no
schedule of so many calls with more accesses than the bound, and where a call
has not ended there is an access to go on with. -/
structure LockFree {Shared Call Op Choice Effect : Type*}
    (machine : Machine Shared Call Op Choice Effect) (slips : Choice → Bool)
    (ended : Call → Bool) (bound : Nat → Nat) (slip : Nat)
    (actions : List (PoolAction Op Choice)) (pool : Pool Shared Call) :
    Prop where
  bounded : accesses actions ≤
    bound (invocations actions) + slip * failures slips actions
  goesOn : ∀ call ∈ pool.calls, ended call = false →
    ∃ choice, slips choice = false ∧
      (machine.step pool.shared choice call).isSome = true

section Loop

variable {Word Result : Type*}

def Decision.exchanges : Decision Word Result → Bool
  | .exchange _ _ => true
  | _ => false

variable [DecidableEq Word]

/-- The accesses a loop still makes on a word that stays as it is. -/
def loopWork (decision : Word → Decision Word Result) (word : Word) :
    LoopPoint Word → Nat
  | .load => if (decision word).exchanges then 2 else 1
  | .exchange current =>
      if (decision word).exchanges then
        if current = word then 1 else 3
      else 2

theorem loopWork_pos (decision : Word → Decision Word Result) (word : Word)
    (point : LoopPoint Word) : 1 ≤ loopWork decision word point := by
  unfold loopWork
  split <;> split <;> (try split) <;> omega

theorem loopWork_le (decision : Word → Decision Word Result) (word : Word)
    (point : LoopPoint Word) : loopWork decision word point ≤ 3 := by
  unfold loopWork
  split <;> split <;> (try split) <;> omega

theorem loopWork_load_le (decision : Word → Decision Word Result)
    (word : Word) : loopWork decision word .load ≤ 2 := by
  simp only [loopWork]
  split <;> omega

/-- Another word costs a loop two accesses more at most. -/
theorem loopWork_rise (decision : Word → Decision Word Result)
    (word other : Word) (point : LoopPoint Word) :
    loopWork decision other point ≤ loopWork decision word point + 2 :=
  Nat.le_trans (loopWork_le decision other point)
    (Nat.add_le_add_right (loopWork_pos decision word point) 2)

/-- An exchange that cannot succeed is one access before the load. -/
theorem loopWork_stale {decision : Word → Decision Word Result}
    {word current : Word} {spurious : Bool}
    (fails : ¬(current = word ∧ (decision current).exchanges = true)) :
    loopWork decision word .load + 1 ≤
      loopWork decision word (.exchange current) + 2 * spurious.toNat := by
  unfold loopWork
  cases exchanges : (decision word).exchanges with
  | false => simp
  | true =>
      have other : current ≠ word := by
        rintro rfl
        exact fails ⟨rfl, exchanges⟩
      simp [other]

/-- A loop that goes on has less to do, unless its exchange failed by
itself. -/
theorem loopStep_again {decision : Word → Decision Word Result}
    {spurious : Bool} {word next : Word} {point after : LoopPoint Word}
    (goesOn : loopStep decision spurious word point = (next, .again after)) :
    next = word ∧ loopWork decision word after + 1 ≤
      loopWork decision word point + 2 * spurious.toNat := by
  cases point with
  | load =>
      cases decided : decision word with
      | answer result => simp [loopStep, decided] at goesOn
      | exchange stored result =>
          simp only [loopStep, decided, Prod.mk.injEq,
            LoopOutcome.again.injEq] at goesOn
          obtain ⟨rfl, rfl⟩ := goesOn
          simp [loopWork, decided, Decision.exchanges]
      | unreachable => simp [loopStep, decided] at goesOn
  | exchange current =>
      cases decided : decision current with
      | exchange stored result =>
          simp only [loopStep, decided] at goesOn
          split at goesOn
          · cases goesOn
          · rename_i fails
            cases goesOn
            refine ⟨rfl, ?_⟩
            by_cases same : current = word
            · subst same
              cases spurious with
              | false => exact absurd ⟨rfl, rfl⟩ fails
              | true => simp [loopWork, decided, Decision.exchanges]
            · exact loopWork_stale fun both => same both.1
      | answer result =>
          simp only [loopStep, decided] at goesOn
          cases goesOn
          exact ⟨rfl, loopWork_stale (by simp [decided, Decision.exchanges])⟩
      | unreachable =>
          simp only [loopStep, decided] at goesOn
          cases goesOn
          exact ⟨rfl, loopWork_stale (by simp [decided, Decision.exchanges])⟩

section Embedding

variable {Shared Continuation : Type*}

/-- To pace an embedded access it is enough to pace a loop that goes on, and
one that ends. -/
theorem runLoop_paced {decision : Word → Decision Word Result}
    {spurious : Bool} {word : Word} {point : LoopPoint Word}
    {store : Word → Shared} {again : LoopPoint Word → Continuation}
    {finished : Result → Continuation} {crashed : Continuation}
    (holds : Shared × Continuation → Prop)
    (goesOn : ∀ after, loopWork decision word after + 1 ≤
        loopWork decision word point + 2 * spurious.toNat →
      holds (store word, again after))
    (ends : ∀ next result, holds (store next, finished result))
    (crashes : ∀ next, holds (store next, crashed)) :
    holds
      (runLoop decision spurious word point store again finished crashed) := by
  unfold runLoop
  split
  · rename_i next after goes
    obtain ⟨rfl, lowers⟩ := loopStep_again goes
    exact goesOn after lowers
  · exact ends _ _
  · exact crashes _

end Embedding

end Loop

end Interleaving
