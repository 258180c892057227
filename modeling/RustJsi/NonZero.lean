import Mathlib.Order.Basic
import Mathlib.Tactic.Common

/-!
# Non-zero counters

Identities are issued from counters of 64 bits that never pass zero again: the
successor of the last value is no value.
-/

namespace RustJsi

/-- A `NonZeroU64`. -/
structure NonZeroU64 where
  get : UInt64
  nonzero : get ≠ 0
  deriving DecidableEq, Repr

namespace NonZeroU64

def one : NonZeroU64 := ⟨1, by decide⟩

def two : NonZeroU64 := ⟨2, by decide⟩

/-- `NonZeroU64::new`. -/
def new (value : UInt64) : Option NonZeroU64 :=
  if nonzero : value = 0 then none else some ⟨value, nonzero⟩

/-- `u64::checked_add(1)` followed by `NonZeroU64::new`. -/
def checkedSucc (value : NonZeroU64) : Option NonZeroU64 :=
  if value.get.toNat + 1 < UInt64.size then new (value.get + 1) else none

instance : LT NonZeroU64 where
  lt := fun first second => first.get < second.get

instance : LE NonZeroU64 where
  le := fun first second => first.get ≤ second.get

instance (first second : NonZeroU64) : Decidable (first < second) :=
  inferInstanceAs (Decidable (first.get < second.get))

instance (first second : NonZeroU64) : Decidable (first ≤ second) :=
  inferInstanceAs (Decidable (first.get ≤ second.get))

theorem lt_iff {first second : NonZeroU64} :
    first < second ↔ first.get.toNat < second.get.toNat :=
  UInt64.lt_iff_toNat_lt

theorem le_iff {first second : NonZeroU64} :
    first ≤ second ↔ first.get.toNat ≤ second.get.toNat :=
  UInt64.le_iff_toNat_le

theorem not_le {first second : NonZeroU64} :
    ¬ first ≤ second ↔ second < first := by
  rw [le_iff, lt_iff, Nat.not_le]

theorem new_eq_some {value : UInt64} {result : NonZeroU64}
    (made : new value = some result) : result.get = value := by
  unfold new at made
  split at made
  · cases made
  · cases made
    rfl

theorem new_eq_none {value : UInt64} (none : new value = none) :
    value = 0 := by
  unfold new at none
  split at none
  · assumption
  · cases none

/-- A successor is the next number. -/
theorem checkedSucc_toNat {value next : NonZeroU64}
    (succeeds : value.checkedSucc = some next) :
    next.get.toNat = value.get.toNat + 1 := by
  unfold checkedSucc at succeeds
  split at succeeds
  · rename_i fits
    unfold new at succeeds
    split at succeeds
    · cases succeeds
    · cases succeeds
      rw [UInt64.toNat_add]
      exact Nat.mod_eq_of_lt fits
  · cases succeeds

/-- Only the last value has no successor. -/
theorem checkedSucc_eq_none {value : NonZeroU64}
    (fails : value.checkedSucc = none) :
    value.get.toNat + 1 = UInt64.size := by
  have bound := value.get.toNat_lt_size
  unfold checkedSucc at fails
  split at fails
  · rename_i fits
    have zero := congrArg UInt64.toNat (new_eq_none fails)
    rw [UInt64.toNat_add] at zero
    have sum : (value.get.toNat + 1) % UInt64.size = 0 := zero
    rw [Nat.mod_eq_of_lt fits] at sum
    cases sum
  · omega

/-- The counter is past every number issued so far. -/
def Below (issued : List NonZeroU64) (next : Option NonZeroU64) : Prop :=
  ∀ value ∈ issued, ∀ bound, next = some bound → value < bound

namespace Below

variable {issued : List NonZeroU64} {value : NonZeroU64}

theorem empty (next : Option NonZeroU64) : Below [] next :=
  nofun

theorem fresh (below : Below issued (some value)) : value ∉ issued := by
  intro member
  exact Nat.lt_irrefl _ (lt_iff.mp (below value member value rfl))

theorem issue (below : Below issued (some value)) :
    Below (issued ++ [value]) value.checkedSucc := by
  intro other member bound succeeds
  have next := checkedSucc_toNat succeeds
  apply lt_iff.mpr
  cases List.mem_append.mp member with
  | inl member =>
      have earlier := lt_iff.mp (below other member value rfl)
      omega
  | inr member =>
      rw [List.mem_singleton.mp member]
      omega

end Below

end NonZeroU64

end RustJsi
