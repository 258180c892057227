import Mathlib.Data.List.Basic
import Mathlib.Data.List.Count
import Mathlib.Data.List.Nodup
import Mathlib.Tactic.Common

/-!
# Counted boxes

A box counts its owners.  The last owner that gives it up destroys what is in
it, so a box whose count is exact is destroyed once and has no owner then.
-/

namespace Counted

/-- The boxes that were made, by their number, and the ones destroyed so far,
in order. -/
structure Heap where
  strong : List Nat
  destroyed : List Nat
  deriving DecidableEq, Repr

namespace Heap

def new : Heap where
  strong := []
  destroyed := []

/-- A box with one owner. -/
def alloc (heap : Heap) : Nat × Heap :=
  (heap.strong.length, { heap with strong := heap.strong ++ [1] })

/-- One more owner. -/
def clone (heap : Heap) (box : Nat) : Heap :=
  match heap.strong[box]? with
  | none => heap
  | some count => { heap with strong := heap.strong.set box (count + 1) }

/-- One owner less. -/
def drop (heap : Heap) (box : Nat) : Heap :=
  match heap.strong[box]? with
  | some 1 =>
      { strong := heap.strong.set box 0, destroyed := heap.destroyed ++ [box] }
  | some (count + 2) =>
      { heap with strong := heap.strong.set box (count + 1) }
  | _ => heap

/-- Every owner gives up its box, in order. -/
def dropAll (heap : Heap) (boxes : List Nat) : Heap :=
  boxes.foldl drop heap

/-- Every count is the number of owners, and what has none left was destroyed,
once. -/
structure Accounts (heap : Heap) (owners : List Nat) : Prop where
  counted : ∀ box, (heap.strong[box]?).getD 0 = owners.count box
  destroyed_iff : ∀ box,
    box ∈ heap.destroyed ↔ heap.strong[box]? = some 0
  once : heap.destroyed.Nodup

variable {heap : Heap} {owners : List Nat} {box : Nat}

theorem accounts_new : Accounts .new [] where
  counted := by
    intro box
    rfl
  destroyed_iff := by
    intro box
    refine iff_of_false List.not_mem_nil ?_
    intro counted
    cases counted
  once := List.nodup_nil

theorem Accounts.perm (accounts : heap.Accounts owners) {others : List Nat}
    (same : owners.Perm others) : heap.Accounts others where
  counted := fun box => (accounts.counted box).trans (same.count_eq box)
  destroyed_iff := accounts.destroyed_iff
  once := accounts.once

/-- What has an owner is there, with its count. -/
theorem Accounts.of_owned (accounts : heap.Accounts owners)
    (owned : box ∈ owners) :
    ∃ count, heap.strong[box]? = some (count + 1) ∧
      owners.count box = count + 1 := by
  have counted := accounts.counted box
  have positive := List.count_pos_iff.mpr owned
  cases present : heap.strong[box]? with
  | none =>
      rw [present, Option.getD_none] at counted
      omega
  | some strong =>
      rw [present, Option.getD_some] at counted
      exact ⟨strong - 1, by congr 1; omega, by omega⟩

/-- Nothing that has an owner was destroyed. -/
theorem Accounts.alive (accounts : heap.Accounts owners)
    (owned : box ∈ owners) : box ∉ heap.destroyed := by
  intro gone
  obtain ⟨count, present, _⟩ := accounts.of_owned owned
  rw [(accounts.destroyed_iff box).mp gone] at present
  cases present

theorem Accounts.bound (accounts : heap.Accounts owners)
    (owned : box ∈ owners) : box < heap.strong.length := by
  obtain ⟨count, present, _⟩ := accounts.of_owned owned
  exact (List.getElem?_eq_some_iff.mp present).1

/-- What was made and has no owner left was destroyed. -/
theorem Accounts.settled (accounts : heap.Accounts owners)
    (made : box < heap.strong.length) (abandoned : box ∉ owners) :
    box ∈ heap.destroyed := by
  apply (accounts.destroyed_iff box).mpr
  have counted := accounts.counted box
  rw [List.count_eq_zero_of_not_mem abandoned,
    List.getElem?_eq_getElem made, Option.getD_some] at counted
  rw [List.getElem?_eq_getElem made, counted]

/-- The counts after one of them changed. -/
private theorem counted_set {count : Nat} {others : List Nat}
    (counted : ∀ box, (heap.strong[box]?).getD 0 = owners.count box)
    (made : box < heap.strong.length) (here : others.count box = count)
    (elsewhere : ∀ other, other ≠ box →
      others.count other = owners.count other) (other : Nat) :
    ((heap.strong.set box count)[other]?).getD 0 = others.count other := by
  by_cases same : other = box
  · subst same
    rw [List.getElem?_set_self made, Option.getD_some, here]
  · rw [List.getElem?_set_ne (Ne.symm same), counted other,
      elsewhere other same]

theorem Accounts.alloc (accounts : heap.Accounts owners) :
    heap.alloc.2.Accounts (heap.alloc.1 :: owners) where
  counted := by
    intro box
    have counted := accounts.counted box
    by_cases last : box = heap.strong.length
    · subst last
      rw [List.getElem?_eq_none (Nat.le_refl _), Option.getD_none] at counted
      rw [Heap.alloc, List.getElem?_concat_length, List.count_cons_self,
        ← counted]
      rfl
    · rw [Heap.alloc, List.count_cons_of_ne (Ne.symm last), ← counted]
      by_cases below : box < heap.strong.length
      · rw [List.getElem?_append_left below]
      · rw [List.getElem?_eq_none (Nat.le_of_not_lt below),
          List.getElem?_eq_none (by rw [List.length_append,
            List.length_singleton]; omega)]
  destroyed_iff := by
    intro box
    rw [Heap.alloc, accounts.destroyed_iff]
    by_cases below : box < heap.strong.length
    · rw [List.getElem?_append_left below]
    · rw [List.getElem?_eq_none (Nat.le_of_not_lt below)]
      refine iff_of_false nofun ?_
      intro present
      obtain ⟨bound, value⟩ := List.getElem?_eq_some_iff.mp present
      rw [List.length_append, List.length_singleton] at bound
      have last : box = heap.strong.length := by omega
      subst last
      rw [List.getElem_concat_length rfl] at value
      cases value
  once := accounts.once

theorem Accounts.clone (accounts : heap.Accounts owners)
    (owned : box ∈ owners) : (heap.clone box).Accounts (box :: owners) := by
  obtain ⟨count, present, counts⟩ := accounts.of_owned owned
  have made := accounts.bound owned
  have cloned : heap.clone box =
      { heap with strong := heap.strong.set box (count + 1 + 1) } := by
    rw [Heap.clone, present]
  rw [cloned]
  constructor
  · apply counted_set accounts.counted made
    · rw [List.count_cons_self, counts]
    · intro other apart
      exact List.count_cons_of_ne (Ne.symm apart)
  · intro other
    rw [accounts.destroyed_iff]
    by_cases same : other = box
    · subst same
      rw [List.getElem?_set_self made, present]
      exact iff_of_false nofun nofun
    · rw [List.getElem?_set_ne (Ne.symm same)]
  · exact accounts.once

theorem Accounts.drop (accounts : heap.Accounts (box :: owners)) :
    (heap.drop box).Accounts owners := by
  have owned : box ∈ box :: owners := List.mem_cons_self
  obtain ⟨count, present, counts⟩ := accounts.of_owned owned
  have made := accounts.bound owned
  rw [List.count_cons_self] at counts
  have elsewhere : ∀ other, other ≠ box →
      owners.count other = (box :: owners).count other := by
    intro other apart
    exact (List.count_cons_of_ne (Ne.symm apart)).symm
  cases count with
  | zero =>
      have dropped : heap.drop box =
          { strong := heap.strong.set box 0
            destroyed := heap.destroyed ++ [box] } := by
        rw [Heap.drop, present]
      rw [dropped]
      constructor
      · exact counted_set accounts.counted made (by omega) elsewhere
      · intro other
        rw [List.mem_append, List.mem_singleton, accounts.destroyed_iff]
        by_cases same : other = box
        · subst same
          rw [List.getElem?_set_self made]
          exact iff_of_true (Or.inr rfl) rfl
        · rw [List.getElem?_set_ne (Ne.symm same)]
          exact or_iff_left same
      · apply List.Nodup.append accounts.once (List.nodup_singleton box)
        rw [List.disjoint_singleton]
        exact accounts.alive owned
  | succ count =>
      have dropped : heap.drop box =
          { heap with strong := heap.strong.set box (count + 1) } := by
        rw [Heap.drop, present]
      rw [dropped]
      constructor
      · exact counted_set accounts.counted made (by omega) elsewhere
      · intro other
        rw [accounts.destroyed_iff]
        by_cases same : other = box
        · subst same
          rw [List.getElem?_set_self made, present]
          exact iff_of_false nofun nofun
        · rw [List.getElem?_set_ne (Ne.symm same)]
      · exact accounts.once

/-- The last count of a box destroys what is in it. -/
theorem Accounts.drop_last (accounts : heap.Accounts (box :: owners))
    (alone : box ∉ owners) :
    (heap.drop box).destroyed = heap.destroyed ++ [box] := by
  obtain ⟨count, present, counts⟩ := accounts.of_owned List.mem_cons_self
  rw [List.count_cons_self, List.count_eq_zero_of_not_mem alone] at counts
  have last : count = 0 := (Nat.succ.inj counts).symm
  rw [Heap.drop, present, last]

/-- The last count goes, and nothing else destroys. -/
theorem destroyed_of_drop (heap : Heap) (box : Nat) :
    (heap.drop box).destroyed =
      if heap.strong[box]? = some 1 then heap.destroyed ++ [box]
      else heap.destroyed := by
  unfold Heap.drop
  split
  · rename_i last
    rw [if_pos last]
  · rename_i more
    rw [if_neg]
    intro last
    cases more.symm.trans last
  · rename_i none _
    exact (if_neg none).symm

theorem destroyed_drop (heap : Heap) (box : Nat) :
    heap.destroyed <+: (heap.drop box).destroyed := by
  unfold Heap.drop
  split
  · exact List.prefix_append _ _
  · exact List.prefix_refl _
  · exact List.prefix_refl _

theorem length_drop (heap : Heap) (box : Nat) :
    (heap.drop box).strong.length = heap.strong.length := by
  unfold Heap.drop
  split
  · exact List.length_set
  · exact List.length_set
  · rfl

theorem destroyed_clone (heap : Heap) (box : Nat) :
    (heap.clone box).destroyed = heap.destroyed := by
  unfold Heap.clone
  split
  · rfl
  · rfl

theorem length_clone (heap : Heap) (box : Nat) :
    (heap.clone box).strong.length = heap.strong.length := by
  unfold Heap.clone
  split
  · rfl
  · exact List.length_set

end Heap

end Counted
