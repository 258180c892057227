import Mathlib.Algebra.BigOperators.Group.List.Basic
import Mathlib.Algebra.Ring.Nat
import RustJsi.Counted.Heap

/-!
# The owners of external buffers

An accepted buffer is an allocation with counted references.  The counters move
when it is accepted, and once more when its last reference drops.
-/

namespace RustJsi.Testkit

open Counted

def u64Max : Nat :=
  2 ^ 64 - 1

/-- The counters are of type `u64`. -/
structure ExternalBufferStats where
  accepted : Nat
  liveBytes : Nat
  finalized : Nat
  copiedBytes : Nat
  deriving DecidableEq, Repr

def saturatingAdd (left right : Nat) : Nat :=
  min (left + right) u64Max

def byteCount (bytes : List UInt8) : Nat :=
  min bytes.length u64Max

/-- The allocations of `ModelExternalOwner`, by their number, what they hold,
and the counters they share. -/
structure ExternalOwners where
  heap : Heap
  bytes : List (List UInt8)
  stats : ExternalBufferStats

namespace ExternalOwners

def new : ExternalOwners where
  heap := .new
  bytes := []
  stats := ⟨0, 0, 0, 0⟩

def bytesOf (owners : ExternalOwners) (owner : Nat) : List UInt8 :=
  owners.bytes[owner]?.getD []

/-- `ModelExternalOwner::accept`, which makes the first reference. -/
def accept (owners : ExternalOwners) (bytes : List UInt8) :
    Nat × ExternalOwners :=
  (owners.heap.alloc.1,
    { heap := owners.heap.alloc.2
      bytes := owners.bytes ++ [bytes]
      stats := { owners.stats with
        accepted := saturatingAdd owners.stats.accepted 1
        liveBytes :=
          saturatingAdd owners.stats.liveBytes (byteCount bytes) } })

def clone (owners : ExternalOwners) (owner : Nat) : ExternalOwners :=
  { owners with heap := owners.heap.clone owner }

/-- One reference drops; the last one runs `Drop for ModelExternalOwner`. -/
def drop (owners : ExternalOwners) (owner : Nat) : ExternalOwners :=
  let dropped := { owners with heap := owners.heap.drop owner }
  if owners.heap.strong[owner]? = some 1 then
    { dropped with
      stats := { owners.stats with
        liveBytes :=
          owners.stats.liveBytes - byteCount (owners.bytesOf owner)
        finalized := saturatingAdd owners.stats.finalized 1 } }
  else dropped

def dropAll (owners : ExternalOwners) (references : List Nat) :
    ExternalOwners :=
  references.foldl drop owners

/-! ## The books -/

/-- The counters agree with the references there are. -/
structure Accounts (owners : ExternalOwners) (references : List Nat) :
    Prop where
  counted : owners.heap.Accounts references
  made : owners.heap.strong.length = owners.bytes.length
  small : ∀ bytes ∈ owners.bytes, bytes.length ≤ u64Max
  accepted : owners.stats.accepted = owners.bytes.length
  bounded : owners.bytes.length ≤ u64Max
  finalized : owners.stats.finalized = owners.heap.destroyed.length
  live : owners.stats.liveBytes +
      (owners.heap.destroyed.map fun owner =>
        (owners.bytesOf owner).length).sum =
    (owners.bytes.map List.length).sum
  copied : owners.stats.copiedBytes = 0

/-- No counter has to go beyond its type to accept a buffer. -/
structure Fits (owners : ExternalOwners) (bytes : List UInt8) : Prop where
  accepted : owners.stats.accepted + 1 ≤ u64Max
  liveBytes : owners.stats.liveBytes + bytes.length ≤ u64Max

instance (owners : ExternalOwners) (bytes : List UInt8) :
    Decidable (owners.Fits bytes) :=
  decidable_of_iff
    (owners.stats.accepted + 1 ≤ u64Max ∧
      owners.stats.liveBytes + bytes.length ≤ u64Max)
    ⟨fun fits => ⟨fits.1, fits.2⟩, fun fits => ⟨fits.1, fits.2⟩⟩

variable {owners : ExternalOwners} {references : List Nat} {owner : Nat}

theorem accounts_new : Accounts .new [] where
  counted := Heap.accounts_new
  made := rfl
  small := List.forall_mem_nil _
  accepted := rfl
  bounded := Nat.zero_le _
  finalized := rfl
  live := rfl
  copied := rfl

theorem Accounts.perm (accounts : owners.Accounts references)
    {others : List Nat} (same : references.Perm others) :
    owners.Accounts others :=
  { accounts with counted := accounts.counted.perm same }

theorem bytesOf_append (bytes : List UInt8)
    (made : owner < owners.bytes.length) :
    (owners.bytes ++ [bytes])[owner]?.getD [] = owners.bytesOf owner := by
  rw [List.getElem?_append_left made, bytesOf]

/-- What was destroyed was made. -/
theorem Accounts.made_of_destroyed (accounts : owners.Accounts references)
    (destroyed : owner ∈ owners.heap.destroyed) :
    owner < owners.bytes.length := by
  rw [← accounts.made]
  have present := (accounts.counted.destroyed_iff owner).mp destroyed
  exact (List.getElem?_eq_some_iff.mp present).1

theorem Accounts.accept (accounts : owners.Accounts references)
    {bytes : List UInt8} (fits : owners.Fits bytes) :
    (owners.accept bytes).2.Accounts
      ((owners.accept bytes).1 :: references) := by
  have size : byteCount bytes = bytes.length :=
    Nat.min_eq_left (Nat.le_trans (Nat.le_add_left _ _) fits.liveBytes)
  constructor
  · exact accounts.counted.alloc
  · change (owners.heap.strong ++ [1]).length = (owners.bytes ++ [bytes]).length
    rw [List.length_append, List.length_append, accounts.made]
    rfl
  · intro other member
    cases List.mem_append.mp member with
    | inl earlier => exact accounts.small other earlier
    | inr last =>
        rw [List.mem_singleton.mp last]
        exact Nat.le_trans (Nat.le_add_left _ _) fits.liveBytes
  · change min (owners.stats.accepted + 1) u64Max =
      (owners.bytes ++ [bytes]).length
    rw [Nat.min_eq_left fits.accepted, accounts.accepted, List.length_append]
    rfl
  · change (owners.bytes ++ [bytes]).length ≤ u64Max
    rw [List.length_append, ← accounts.accepted]
    exact fits.accepted
  · exact accounts.finalized
  · change min (owners.stats.liveBytes + byteCount bytes) u64Max +
      (owners.heap.destroyed.map fun owner =>
        ((owners.bytes ++ [bytes])[owner]?.getD []).length).sum =
          ((owners.bytes ++ [bytes]).map List.length).sum
    have same : (owners.heap.destroyed.map fun owner =>
        ((owners.bytes ++ [bytes])[owner]?.getD []).length) =
        owners.heap.destroyed.map fun owner =>
          (owners.bytesOf owner).length := by
      apply List.map_congr_left
      intro owner destroyed
      rw [bytesOf_append bytes (accounts.made_of_destroyed destroyed)]
    have live := accounts.live
    rw [same, size, Nat.min_eq_left fits.liveBytes, List.map_append,
      List.sum_append, List.map_singleton, List.sum_singleton]
    omega
  · exact accounts.copied

theorem Accounts.clone (accounts : owners.Accounts references)
    (owned : owner ∈ references) :
    (owners.clone owner).Accounts (owner :: references) where
  counted := accounts.counted.clone owned
  made := (Heap.length_clone _ _).trans accounts.made
  small := accounts.small
  accepted := accounts.accepted
  bounded := accounts.bounded
  finalized := by
    change _ = (owners.heap.clone owner).destroyed.length
    rw [Heap.destroyed_clone]
    exact accounts.finalized
  live := by
    change _ + ((owners.heap.clone owner).destroyed.map _).sum = _
    rw [Heap.destroyed_clone]
    exact accounts.live
  copied := accounts.copied

/-- The owners that something refers to. -/
def referenced (owners : ExternalOwners) (references : List Nat) :
    List Nat :=
  (List.range owners.bytes.length).filter fun owner => owner ∈ references

/-- What was accepted is referred to, or was finalized. -/
theorem referenced_perm (counted : owners.heap.Accounts references)
    (made : owners.heap.strong.length = owners.bytes.length) :
    (List.range owners.bytes.length).Perm
      (owners.referenced references ++ owners.heap.destroyed) := by
  have apart : (owners.referenced references).Disjoint
      owners.heap.destroyed := by
    intro owner member destroyed
    have owned := of_decide_eq_true (List.mem_filter.mp member).2
    exact counted.alive owned destroyed
  refine (List.perm_ext_iff_of_nodup List.nodup_range
    ((List.nodup_range.filter _).append counted.once apart)).mpr ?_
  intro owner
  rw [List.mem_append, List.mem_filter, List.mem_range]
  constructor
  · intro below
    by_cases owned : owner ∈ references
    · exact Or.inl ⟨below, decide_eq_true owned⟩
    · rw [← made] at below
      exact Or.inr (counted.settled below owned)
  · intro member
    rcases member with ⟨below, _⟩ | destroyed
    · exact below
    · have present := (counted.destroyed_iff owner).mp destroyed
      rw [← made]
      exact (List.getElem?_eq_some_iff.mp present).1

theorem sizes (owners : ExternalOwners) :
    (List.range owners.bytes.length).map
      (fun owner => (owners.bytesOf owner).length) =
        owners.bytes.map List.length := by
  apply List.ext_getElem
  · rw [List.length_map, List.length_range, List.length_map]
  · intro owner below _
    rw [List.length_map, List.length_range] at below
    rw [List.getElem_map, List.getElem_map, List.getElem_range, bytesOf,
      List.getElem?_eq_getElem below, Option.getD_some]

/-- The bytes of all owners are those of the ones referred to and of the
finalized ones. -/
theorem sizes_sum (counted : owners.heap.Accounts references)
    (made : owners.heap.strong.length = owners.bytes.length) :
    (owners.bytes.map List.length).sum =
      ((owners.referenced references).map fun owner =>
        (owners.bytesOf owner).length).sum +
      (owners.heap.destroyed.map fun owner =>
        (owners.bytesOf owner).length).sum := by
  rw [← sizes, ((referenced_perm counted made).map _).sum_eq,
    List.map_append, List.sum_append]

theorem Accounts.drop (accounts : owners.Accounts (owner :: references)) :
    (owners.drop owner).Accounts references := by
  have counted := accounts.counted.drop
  have destroyed := owners.heap.destroyed_of_drop owner
  have made : (owners.heap.drop owner).strong.length = owners.bytes.length :=
    (Heap.length_drop _ _).trans accounts.made
  unfold ExternalOwners.drop
  split
  · rename_i last
    rw [if_pos last] at destroyed
    have dropped : ({ owners with heap := owners.heap.drop owner } :
        ExternalOwners).heap.Accounts references := counted
    have total : (owners.bytes.map List.length).sum =
        ((owners.referenced references).map fun owner =>
          (owners.bytesOf owner).length).sum +
        ((owners.heap.drop owner).destroyed.map fun owner =>
          (owners.bytesOf owner).length).sum := sizes_sum dropped made
    have whole : (List.range owners.bytes.length).length =
        (owners.referenced references ++
          (owners.heap.drop owner).destroyed).length :=
      (referenced_perm dropped made).length_eq
    rw [destroyed, List.map_append, List.sum_append, List.map_singleton,
      List.sum_singleton] at total
    rw [destroyed, List.length_append, List.length_append, List.length_range,
      List.length_singleton] at whole
    have live := accounts.live
    have small : byteCount (owners.bytesOf owner) =
        (owners.bytesOf owner).length := by
      apply Nat.min_eq_left
      unfold bytesOf
      cases present : owners.bytes[owner]? with
      | none => exact Nat.zero_le _
      | some bytes =>
          exact accounts.small bytes (List.mem_of_getElem? present)
    constructor
    · exact counted
    · exact made
    · exact accounts.small
    · exact accounts.accepted
    · exact accounts.bounded
    · change min (owners.stats.finalized + 1) u64Max =
        (owners.heap.drop owner).destroyed.length
      have bounded := accounts.bounded
      rw [destroyed, List.length_append, List.length_singleton,
        ← accounts.finalized]
      rw [← accounts.finalized] at whole
      exact Nat.min_eq_left (by omega)
    · change owners.stats.liveBytes - byteCount (owners.bytesOf owner) +
        ((owners.heap.drop owner).destroyed.map fun owner =>
          (owners.bytesOf owner).length).sum =
            (owners.bytes.map List.length).sum
      rw [destroyed, List.map_append, List.sum_append, List.map_singleton,
        List.sum_singleton, small]
      omega
    · exact accounts.copied
  · rename_i more
    rw [if_neg more] at destroyed
    refine ⟨counted, made, accounts.small, accounts.accepted, accounts.bounded,
      ?_, ?_, accounts.copied⟩
    · change owners.stats.finalized = (owners.heap.drop owner).destroyed.length
      rw [destroyed]
      exact accounts.finalized
    · change owners.stats.liveBytes +
        ((owners.heap.drop owner).destroyed.map _).sum = _
      rw [destroyed]
      exact accounts.live

theorem Accounts.dropAll {gone : List Nat} :
    ∀ {owners : ExternalOwners}, owners.Accounts (gone ++ references) →
      (owners.dropAll gone).Accounts references := by
  induction gone with
  | nil => exact id
  | cons owner gone inductionHypothesis =>
      intro owners accounts
      exact inductionHypothesis accounts.drop

/-- The counters tell what is referred to. -/
theorem Accounts.exact (accounts : owners.Accounts references) :
    owners.stats.accepted =
        owners.stats.finalized + (owners.referenced references).length ∧
      owners.stats.liveBytes =
        ((owners.referenced references).map fun owner =>
          (owners.bytesOf owner).length).sum := by
  have whole := (referenced_perm accounts.counted accounts.made).length_eq
  have total := sizes_sum accounts.counted accounts.made
  have live := accounts.live
  rw [List.length_range, List.length_append] at whole
  rw [accounts.accepted, accounts.finalized]
  omega

/-- A buffer that is accepted and dropped counts once on either side. -/
theorem Accounts.accept_drop (accounts : owners.Accounts references)
    {bytes : List UInt8} (fits : owners.Fits bytes) :
    ((owners.accept bytes).2.drop (owners.accept bytes).1).stats =
        { owners.stats with
          accepted := owners.stats.accepted + 1
          finalized := owners.stats.finalized + 1 } ∧
      ((owners.accept bytes).2.drop (owners.accept bytes).1).heap.destroyed =
        owners.heap.destroyed ++ [owners.bytes.length] := by
  have number : (owners.accept bytes).1 = owners.bytes.length := accounts.made
  have single : (owners.accept bytes).2.heap.strong[
      (owners.accept bytes).1]? = some 1 := List.getElem?_concat_length
  have held : (owners.accept bytes).2.bytesOf (owners.accept bytes).1 =
      bytes := by
    rw [number]
    change (owners.bytes ++ [bytes])[owners.bytes.length]?.getD [] = bytes
    rw [List.getElem?_concat_length, Option.getD_some]
  have size : byteCount bytes = bytes.length :=
    Nat.min_eq_left (Nat.le_trans (Nat.le_add_left _ _) fits.liveBytes)
  have fewer := accounts.exact.1
  have accepted := fits.accepted
  have destroyed := (owners.accept bytes).2.heap.destroyed_of_drop
    (owners.accept bytes).1
  rw [if_pos single, number] at destroyed
  rw [ExternalOwners.drop, if_pos single, held, size]
  refine ⟨?_, ?_⟩
  · change ExternalBufferStats.mk (min (owners.stats.accepted + 1) u64Max)
      (min (owners.stats.liveBytes + byteCount bytes) u64Max - bytes.length)
      (min (owners.stats.finalized + 1) u64Max) owners.stats.copiedBytes = _
    rw [size, Nat.min_eq_left fits.accepted, Nat.min_eq_left fits.liveBytes,
      Nat.add_sub_cancel, Nat.min_eq_left (by omega)]
  · rw [number]
    exact destroyed

theorem drop_same (owners : ExternalOwners) (owner : Nat) :
    (owners.drop owner).bytes = owners.bytes ∧
      owners.heap.destroyed <+: (owners.drop owner).heap.destroyed := by
  unfold ExternalOwners.drop
  split
  · exact ⟨rfl, Heap.destroyed_drop _ _⟩
  · exact ⟨rfl, Heap.destroyed_drop _ _⟩

theorem dropAll_same (gone : List Nat) :
    ∀ owners : ExternalOwners,
      (owners.dropAll gone).bytes = owners.bytes ∧
        owners.heap.destroyed <+: (owners.dropAll gone).heap.destroyed := by
  induction gone with
  | nil => exact fun owners => ⟨rfl, List.prefix_refl _⟩
  | cons owner gone inductionHypothesis =>
      intro owners
      have first := drop_same owners owner
      have rest := inductionHypothesis (owners.drop owner)
      exact ⟨rest.1.trans first.1, first.2.trans rest.2⟩

end ExternalOwners

end RustJsi.Testkit
