import RustJsi.BackendJsc.RootRegistry

/-!
# The budget of local roots

Every local root of an attachment is charged to one counter.  A slot is
reserved before the engine is asked for a value, and stays charged when the
value is rooted.
-/

namespace RustJsi.BackendJsc

/-- What stops the program in an operation on an attachment. -/
inductive Fault where
  | panicked (panic : Panic)
  | expected (message : String)
  deriving DecidableEq, Repr

structure LocalBudget where
  used : Nat
  limit : Nat
  deriving DecidableEq, Repr

/-- Slots that are charged for as long as the reservation lives. -/
structure Reservation where
  held : Nat
  deriving DecidableEq, Repr

/-- `usize::checked_add` on a counter. -/
def checkedAdd (first second : Nat) : Option Nat :=
  if first + second < 2 ^ 64 then some (first + second) else none

namespace LocalBudget

def new (limit : Nat) : LocalBudget where
  used := 0
  limit := limit

def reserveMany (budget : LocalBudget) (count : Nat) :
    Except RuntimeError (LocalBudget × Reservation) :=
  if count = 0 then
    .ok (budget, ⟨0⟩)
  else
    match checkedAdd budget.used count with
    | none => .error .localRootLimitReached
    | some next =>
        if next > budget.limit then
          .error .localRootLimitReached
        else
          .ok ({ budget with used := next }, ⟨count⟩)

def reserve (budget : LocalBudget) :
    Except RuntimeError (LocalBudget × Reservation) :=
  budget.reserveMany 1

def releaseMany (budget : LocalBudget) (count : Nat) :
    Except Fault LocalBudget :=
  if count ≤ budget.used then
    .ok { budget with used := budget.used - count }
  else
    .error (.expected "balanced local admission")

def release (budget : LocalBudget) : Except Fault LocalBudget :=
  budget.releaseMany 1

end LocalBudget

namespace Reservation

def commit (_ : Reservation) : Reservation where
  held := 0

def drop (reservation : Reservation) (budget : LocalBudget) :
    Except Fault LocalBudget :=
  if reservation.held ≠ 0 then
    budget.releaseMany reservation.held
  else
    .ok budget

end Reservation

namespace LocalBudget

variable {budget next : LocalBudget} {reservation : Reservation}
  {count : Nat} {error : RuntimeError}

/-- The budget with other slots charged. -/
def charged (budget : LocalBudget) (used : Nat) : LocalBudget :=
  { budget with used := used }

@[simp] theorem charged_used (budget : LocalBudget) (used : Nat) :
    (budget.charged used).used = used :=
  rfl

theorem reserveMany_eq_ok
    (reserved : budget.reserveMany count = .ok (next, reservation)) :
    next = budget.charged (budget.used + count) ∧
      reservation = ⟨count⟩ ∧
      (budget.used ≤ budget.limit → next.used ≤ budget.limit) := by
  unfold reserveMany at reserved
  split at reserved
  · rename_i nothing
    cases reserved
    subst nothing
    exact ⟨rfl, rfl, id⟩
  · split at reserved
    · cases reserved
    · rename_i sum added
      have sum : sum = budget.used + count := by
        unfold checkedAdd at added
        split at added
        · exact (Option.some.inj added).symm
        · cases added
      subst sum
      split at reserved
      · cases reserved
      · rename_i fits
        cases reserved
        exact ⟨rfl, rfl, fun _ => Nat.le_of_not_gt fits⟩

theorem releaseMany_of_le (covered : count ≤ budget.used) :
    budget.releaseMany count = .ok (budget.charged (budget.used - count)) :=
  if_pos covered

theorem drop_of_le (covered : reservation.held ≤ budget.used) :
    reservation.drop budget =
      .ok (budget.charged (budget.used - reservation.held)) := by
  unfold Reservation.drop
  by_cases nothing : reservation.held = 0
  · rw [if_neg (not_not.mpr nothing), nothing]
    rfl
  · rw [if_pos nothing]
    exact releaseMany_of_le covered

/-- A slot reserved and given back leaves the budget as it was. -/
theorem drop_reserved
    (reserved : budget.reserveMany count = .ok (next, reservation)) :
    reservation.drop next = .ok budget := by
  obtain ⟨same, held, _⟩ := reserveMany_eq_ok reserved
  subst same held
  rw [drop_of_le (Nat.le_add_left count budget.used)]
  exact congrArg (fun used => Except.ok (budget.charged used))
    (Nat.add_sub_cancel ..)

end LocalBudget

/-- The roots of a scope: some in place, and the ones after them. -/
structure LocalRoots (Raw : Type*) where
  inline : List Raw
  spill : List Raw

def inlineLocalRoots : Nat :=
  16

namespace LocalRoots

variable {Raw : Type*}

def new : LocalRoots Raw where
  inline := []
  spill := []

def push (roots : LocalRoots Raw) (value : Raw) : LocalRoots Raw :=
  if roots.inline.length < inlineLocalRoots then
    { roots with inline := roots.inline ++ [value] }
  else
    { roots with spill := roots.spill ++ [value] }

/-- The values `drain` yields, in order. -/
def values (roots : LocalRoots Raw) : List Raw :=
  roots.inline ++ roots.spill

theorem values_push (roots : LocalRoots Raw) (value : Raw) :
    (roots.push value).values.Perm (value :: roots.values) := by
  unfold push values
  split
  · rw [List.append_assoc]
    exact List.perm_middle
  · rw [← List.append_assoc]
    exact List.perm_append_singleton value _

end LocalRoots

end RustJsi.BackendJsc
