import Mathlib.Data.List.Basic
import Mathlib.Tactic.Common

/-!
# The contract of strong roots

Several owners issue roots, in one common order.  A root resolves to the value
it was made from until it is released, and with the owner that issued it only.
An implementation keeps the contract if its own handles resolve as the contract
says.
-/

namespace RustJsi.Testkit

/-- A root that was issued, and the value it was made from. -/
structure IssuedRoot (Value : Type*) where
  owner : Nat
  value : Value
  released : Bool
  deriving DecidableEq

/-- The roots in the order they were issued in. -/
abbrev RootContract (Value : Type*) : Type _ :=
  List (IssuedRoot Value)

/-- What becomes of a root that one of the owners is asked for. -/
inductive RootOutcome (Value : Type*) where
  | resolved (value : Value)
  | stale
  | foreign
  deriving DecidableEq

namespace RootContract

variable {Value Own Root : Type*} {contract : RootContract Value}
  {owner : Nat} {project : Value → Own} {roots : List Root}
  {resolve next : Root → Option Own}

/-- `none` where no such root was issued yet. -/
def outcome (contract : RootContract Value) (owner root : Nat) :
    Option (RootOutcome Value) :=
  (contract[root]?).map fun issued =>
    if issued.owner ≠ owner then .foreign
    else if issued.released then .stale
    else .resolved issued.value

def persist (contract : RootContract Value) (owner : Nat) (value : Value) :
    RootContract Value :=
  contract ++ [⟨owner, value, false⟩]

def release (contract : RootContract Value) (owner root : Nat) :
    RootContract Value :=
  contract.modify root fun issued =>
    if issued.owner = owner then { issued with released := true } else issued

/-- What is left of a root of this owner. -/
def held (contract : RootContract Value) (owner root : Nat) :
    Option (Option Value) :=
  (contract[root]?).bind fun issued =>
    if issued.owner = owner then
      some (if issued.released then none else some issued.value)
    else none

/-- The owner has issued this root, with this handle. -/
def Has (contract : RootContract Value) (owner : Nat) (roots : List Root)
    (index : Nat) (root : Root) : Prop :=
  roots[index]? = some root ∧ (contract.held owner index).isSome = true

/-- The handles of one owner resolve as the contract says, and differ. -/
structure Serves (contract : RootContract Value) (owner : Nat)
    (project : Value → Own) (roots : List Root)
    (resolve : Root → Option Own) : Prop where
  answers : ∀ (index : Nat) (root : Root) (left : Option Value),
    roots[index]? = some root → contract.held owner index = some left →
    resolve root = left.map project
  apart : ∀ (first second : Nat) (root : Root),
    contract.Has owner roots first root →
    contract.Has owner roots second root → first = second

theorem outcome_cases {root : Nat} {outcome : RootOutcome Value}
    (known : contract.outcome owner root = some outcome) :
    (∃ value, outcome = .resolved value ∧
      contract.held owner root = some (some value)) ∨
    (outcome = .stale ∧ contract.held owner root = some none) ∨
    (outcome = .foreign ∧
      ∃ issued, contract[root]? = some issued ∧ issued.owner ≠ owner) := by
  obtain ⟨issued, present, same⟩ := Option.map_eq_some_iff.mp known
  rw [held, present, Option.bind_some, ← same]
  by_cases own : issued.owner = owner
  · rw [if_neg (not_not.mpr own), if_pos own]
    cases issued.released with
    | false => exact Or.inl ⟨issued.value, rfl, rfl⟩
    | true => exact Or.inr (Or.inl ⟨rfl, rfl⟩)
  · rw [if_pos own]
    exact Or.inr (Or.inr ⟨rfl, issued, rfl, own⟩)

/-- A root that does not resolve is released in vain. -/
theorem release_of_unresolved {root : Nat} {outcome : RootOutcome Value}
    (known : contract.outcome owner root = some outcome)
    (unresolved : ∀ value, outcome ≠ .resolved value) :
    contract.release owner root = contract := by
  obtain ⟨issued, present, same⟩ := Option.map_eq_some_iff.mp known
  apply List.ext_getElem?
  intro index
  rw [release, List.getElem?_modify]
  by_cases here : root = index
  · subst here
    obtain ⟨issuer, value, released⟩ := issued
    rw [present, Option.map_eq_map, Option.map_some]
    by_cases own : issuer = owner
    · cases released with
      | true => simp
      | false =>
          simp only [own, ne_eq, not_true_eq_false, if_false,
            Bool.false_eq_true] at same
          exact absurd same.symm (unresolved value)
    · simp [own]
  · simp [here]

theorem held_persist_self (contract : RootContract Value) (owner : Nat)
    (value : Value) :
    (contract.persist owner value).held owner contract.length =
      some (some value) := by
  simp [persist, held]

theorem held_persist_of_ne {issuer index : Nat} {value : Value}
    (other : index ≠ contract.length ∨ issuer ≠ owner) :
    (contract.persist issuer value).held owner index =
      contract.held owner index := by
  by_cases below : index < contract.length
  · simp only [persist, held, List.getElem?_append_left below]
  · have absent : contract[index]? = none :=
      List.getElem?_eq_none (Nat.le_of_not_lt below)
    by_cases last : index = contract.length
    · have apart := other.resolve_left (not_not.mpr last)
      subst last
      simp [persist, held, apart]
    · have beyond : (contract.persist issuer value)[index]? = none := by
        apply List.getElem?_eq_none
        rw [persist, List.length_append, List.length_singleton]
        omega
      rw [held, held, beyond, absent]

theorem held_release_self {root : Nat} {left : Option Value}
    (held : contract.held owner root = some left) :
    (contract.release owner root).held owner root = some none := by
  rw [RootContract.held] at held
  cases present : contract[root]? with
  | none =>
      rw [present] at held
      cases held
  | some issued =>
      rw [present, Option.bind_some] at held
      split at held
      · rename_i own
        simp [release, RootContract.held, present, own]
      · cases held

theorem held_release_of_ne {issuer root index : Nat}
    (other : index ≠ root ∨ issuer ≠ owner) :
    (contract.release issuer root).held owner index =
      contract.held owner index := by
  rw [held, held, release, List.getElem?_modify]
  cases contract[index]? with
  | none => rfl
  | some issued =>
      by_cases same : root = index
      · have apart := other.resolve_left (not_not.mpr same.symm)
        by_cases own : issued.owner = issuer
        · simp [same, own, apart]
        · simp [same, own]
      · simp [same]

theorem length_persist (contract : RootContract Value) (owner : Nat)
    (value : Value) :
    (contract.persist owner value).length = contract.length + 1 :=
  List.length_append

theorem length_release (contract : RootContract Value) (owner root : Nat) :
    (contract.release owner root).length = contract.length :=
  List.length_modify ..

/-- An owner has its old roots, and the one it issues. -/
theorem has_persist_iff (lengths : roots.length = contract.length)
    {issuer index : Nat} {value : Value} {new root : Root} :
    (contract.persist issuer value).Has owner (roots ++ [new]) index root ↔
      contract.Has owner roots index root ∨
        issuer = owner ∧ index = contract.length ∧ root = new := by
  by_cases last : index = contract.length
  · have absent : contract[index]? = none :=
      List.getElem?_eq_none (Nat.le_of_eq last.symm)
    have none : ¬contract.Has owner roots index root := by
      intro has
      rw [Has, held, absent] at has
      cases has.2
    have here : (roots ++ [new])[index]? = some new := by
      rw [last, ← lengths]
      exact List.getElem?_concat_length
    rw [Has, here, or_iff_right none, Option.some.injEq]
    by_cases own : issuer = owner
    · rw [own, last, held_persist_self]
      simp [eq_comm]
    · rw [held_persist_of_ne (Or.inr own), held, absent]
      simp [own]
  · rw [Has, Has, held_persist_of_ne (Or.inl last)]
    have other : ¬(issuer = owner ∧ index = contract.length ∧ root = new) :=
      fun same => last same.2.1
    rw [or_iff_left other]
    refine and_congr_left ?_
    intro isHeld
    have below : index < roots.length := by
      rw [lengths]
      by_contra beyond
      rw [held, List.getElem?_eq_none (Nat.le_of_not_lt beyond)] at isHeld
      cases isHeld
    rw [List.getElem?_append_left below]

theorem isSome_held_release {issuer root index : Nat} :
    ((contract.release issuer root).held owner index).isSome =
      (contract.held owner index).isSome := by
  by_cases here : index = root ∧ issuer = owner
  · obtain ⟨rfl, rfl⟩ := here
    cases held : contract.held issuer index with
    | some left =>
        rw [held_release_self held]
        rfl
    | none =>
        rw [RootContract.held] at held
        rw [RootContract.held, release, List.getElem?_modify]
        cases present : contract[index]? with
        | none => rfl
        | some issued =>
            rw [present, Option.bind_some] at held
            split at held
            · cases held
            · rename_i foreign
              simp [foreign]
  · rw [held_release_of_ne (not_and_or.mp here)]

theorem has_release_iff {issuer released index : Nat} {root : Root} :
    (contract.release issuer released).Has owner roots index root ↔
      contract.Has owner roots index root := by
  rw [Has, Has, isSome_held_release]

theorem Has.of_held {index : Nat} {root : Root} {left : Option Value}
    (present : roots[index]? = some root)
    (held : contract.held owner index = some left) :
    contract.Has owner roots index root :=
  ⟨present, by rw [held]; rfl⟩

theorem has_map_iff {Handle : Type*} {handle : Root → Handle}
    {index : Nat} {root : Handle} :
    contract.Has owner (roots.map handle) index root ↔
      ∃ whole, contract.Has owner roots index whole ∧ handle whole = root := by
  rw [Has, List.getElem?_map, Option.map_eq_some_iff]
  constructor
  · intro has
    obtain ⟨⟨whole, present, same⟩, held⟩ := has
    exact ⟨whole, ⟨present, held⟩, same⟩
  · intro has
    obtain ⟨whole, ⟨present, held⟩, same⟩ := has
    exact ⟨⟨whole, present, same⟩, held⟩

theorem Serves.empty : Serves [] owner project roots resolve :=
  ⟨nofun, fun _ _ _ has => nomatch has.2⟩

/-- What is done elsewhere does not matter to the handles of an owner. -/
theorem Serves.congr (serves : Serves contract owner project roots resolve)
    (same : ∀ (index : Nat) (root : Root),
      contract.Has owner roots index root → next root = resolve root) :
    Serves contract owner project roots next := by
  refine ⟨?_, serves.apart⟩
  intro index root left present held
  rw [same index root (.of_held present held)]
  exact serves.answers index root left present held

theorem Serves.persist (serves : Serves contract owner project roots resolve)
    (lengths : roots.length = contract.length) {root : Root} {value : Value}
    (fresh : ∀ index, ¬contract.Has owner roots index root)
    (issued : next root = some (project value))
    (same : ∀ (index : Nat) (other : Root),
      contract.Has owner roots index other → next other = resolve other) :
    Serves (contract.persist owner value) owner project (roots ++ [root])
      next := by
  refine ⟨?_, ?_⟩
  · intro index other left present held
    cases (has_persist_iff lengths).mp (.of_held present held) with
    | inl old =>
        rw [same index other old]
        by_cases last : index = contract.length
        · rw [Has, RootContract.held,
            List.getElem?_eq_none (Nat.le_of_eq last.symm)] at old
          cases old.2
        · rw [held_persist_of_ne (Or.inl last)] at held
          exact serves.answers index other left old.1 held
    | inr new =>
        obtain ⟨_, rfl, rfl⟩ := new
        rw [held_persist_self] at held
        cases held
        exact issued
  · intro first second other firstHas secondHas
    cases (has_persist_iff lengths).mp firstHas with
    | inl firstOld =>
        cases (has_persist_iff lengths).mp secondHas with
        | inl secondOld => exact serves.apart _ _ _ firstOld secondOld
        | inr secondNew =>
            rw [secondNew.2.2] at firstOld
            exact absurd firstOld (fresh first)
    | inr firstNew =>
        cases (has_persist_iff lengths).mp secondHas with
        | inl secondOld =>
            rw [firstNew.2.2] at secondOld
            exact absurd secondOld (fresh second)
        | inr secondNew => exact firstNew.2.1.trans secondNew.2.1.symm

/-- Another owner has issued a root. -/
theorem Serves.persist_other
    (serves : Serves contract owner project roots resolve)
    (lengths : roots.length = contract.length) {issuer : Nat}
    (apart : issuer ≠ owner) (root : Root) (value : Value) :
    Serves (contract.persist issuer value) owner project (roots ++ [root])
      resolve := by
  have old : ∀ (index : Nat) (other : Root),
      (contract.persist issuer value).Has owner (roots ++ [root]) index other →
      contract.Has owner roots index other := by
    intro index other has
    exact ((has_persist_iff lengths).mp has).resolve_right
      fun new => apart new.1
  refine ⟨?_, ?_⟩
  · intro index other left present held
    have before := old index other (.of_held present held)
    rw [held_persist_of_ne (Or.inr apart)] at held
    exact serves.answers index other left before.1 held
  · intro first second other firstHas secondHas
    exact serves.apart first second other (old first other firstHas)
      (old second other secondHas)

theorem Serves.release (serves : Serves contract owner project roots resolve)
    {index : Nat} {root : Root} (has : contract.Has owner roots index root)
    (gone : next root = none)
    (same : ∀ (place : Nat) (other : Root),
      contract.Has owner roots place other → other ≠ root →
      next other = resolve other) :
    Serves (contract.release owner index) owner project roots next := by
  refine ⟨?_, ?_⟩
  · intro place other left present held
    have other_has := has_release_iff.mp (.of_held present held)
    by_cases here : place = index
    · subst here
      rw [has.1] at present
      cases present
      obtain ⟨was, before⟩ := Option.isSome_iff_exists.mp has.2
      rw [held_release_self before] at held
      cases held
      exact gone
    · have apart : other ≠ root := by
        intro equal
        subst equal
        exact here (serves.apart place index other other_has has)
      rw [held_release_of_ne (Or.inl here)] at held
      rw [same place other other_has apart]
      exact serves.answers place other left present held
  · intro first second other firstHas secondHas
    exact serves.apart first second other (has_release_iff.mp firstHas)
      (has_release_iff.mp secondHas)

/-- Another owner has released a root of its own. -/
theorem Serves.release_other
    (serves : Serves contract owner project roots resolve) {issuer : Nat}
    (apart : issuer ≠ owner) (index : Nat) :
    Serves (contract.release issuer index) owner project roots resolve := by
  refine ⟨?_, ?_⟩
  · intro place root left present held
    rw [held_release_of_ne (Or.inr apart)] at held
    exact serves.answers place root left present held
  · intro first second root firstHas secondHas
    exact serves.apart first second root (has_release_iff.mp firstHas)
      (has_release_iff.mp secondHas)

end RootContract

end RustJsi.Testkit
