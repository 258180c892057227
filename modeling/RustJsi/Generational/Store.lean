import Mathlib.Data.List.Basic
import Mathlib.Data.List.Nodup
import Mathlib.Data.List.Perm.Basic
import Mathlib.Data.List.Sigma
import Mathlib.Data.BitVec
import Mathlib.Tactic.Common

/-!
# Generational stores

A store hands out a slot under an identity that names the slot and its
generation.  A slot that is emptied takes its next generation, and one whose
generations are exhausted is not used again, so an identity names at most one
value for as long as the store lives.
-/

namespace Generational

variable {width : Nat} {Value : Type*}

/-- No generation comes after this one. -/
abbrev exhausted (width : Nat) : BitVec width :=
  BitVec.allOnes width

/-- The generation after this one, which stays at the greatest one. -/
def succ (generation : BitVec width) : BitVec width :=
  if generation = exhausted width then generation else generation + 1

theorem succ_toNat {generation : BitVec width}
    (fresh : generation ≠ exhausted width) :
    (succ generation).toNat = generation.toNat + 1 := by
  have bound := generation.isLt
  have notLast : generation.toNat ≠ 2 ^ width - 1 := by
    intro last
    exact fresh (BitVec.eq_of_toNat_eq (by rw [last, BitVec.toNat_allOnes]))
  have room : generation.toNat + 1 < 2 ^ width := by omega
  have wide : 1 < 2 ^ width := by omega
  have one : (1 : BitVec width).toNat = 1 :=
    (BitVec.toNat_ofNat 1 width).trans (Nat.mod_eq_of_lt wide)
  rw [succ, if_neg fresh, BitVec.toNat_add, one, Nat.mod_eq_of_lt room]

theorem le_succ (generation : BitVec width) :
    generation.toNat ≤ (succ generation).toNat := by
  by_cases last : generation = exhausted width
  · rw [succ, if_pos last]
  · rw [succ_toNat last]
    omega

/-! ## Stores -/

/-- The name a value is handed out under. -/
structure Id (width : Nat) where
  slot : Nat
  generation : BitVec width
  deriving DecidableEq

structure Cell (width : Nat) (Value : Type*) where
  generation : BitVec width
  value : Option Value

/-- The cells of a store, and the cells to use again. -/
structure Store (width : Nat) (Value : Type*) where
  cells : List (Cell width Value)
  free : List Nat

namespace Store

variable {store next : Store width Value} {id : Id width} {value : Value}

/-- The value that the identity names now. -/
def get (store : Store width Value) (id : Id width) : Option Value :=
  (store.cells[id.slot]?).bind fun cell =>
    if cell.generation = id.generation then cell.value else none

/-- The value in a cell, with the identity it has in this slot. -/
def entry (cell : Cell width Value × Nat) : Option (Id width × Value) :=
  cell.1.value.map fun value => (⟨cell.2, cell.1.generation⟩, value)

/-- The values in the store, each with its identity. -/
def held (store : Store width Value) : List (Id width × Value) :=
  store.cells.zipIdx.filterMap entry

theorem get_eq_some_iff : store.get id = some value ↔
    store.cells[id.slot]? = some ⟨id.generation, some value⟩ := by
  rw [get, Option.bind_eq_some_iff]
  constructor
  · intro found
    obtain ⟨cell, present, named⟩ := found
    split at named
    · rename_i same
      rw [present, ← same, ← named]
    · cases named
  · intro present
    exact ⟨_, present, if_pos rfl⟩

theorem mem_held_iff : (id, value) ∈ store.held ↔
    store.cells[id.slot]? = some ⟨id.generation, some value⟩ := by
  rw [held, List.mem_filterMap]
  constructor
  · intro listed
    obtain ⟨⟨cell, slot⟩, member, named⟩ := listed
    have present := List.mem_zipIdx_iff_getElem?.mp member
    obtain ⟨stored, filled, same⟩ := Option.map_eq_some_iff.mp named
    cases same
    rw [← filled]
    exact present
  · intro present
    exact ⟨(⟨id.generation, some value⟩, id.slot),
      List.mem_zipIdx_iff_getElem?.mpr present, rfl⟩

theorem held_ids_nodup (store : Store width Value) :
    (store.held.map Prod.fst).Nodup := by
  have slots := List.pairwise_map.mp (List.nodup_zipIdx_map_snd store.cells)
  rw [List.Nodup, List.pairwise_map, held, List.pairwise_filterMap]
  refine slots.imp ?_
  intro first second apart entry entryEq other otherEq same
  obtain ⟨stored, _, rfl⟩ := Option.map_eq_some_iff.mp entryEq
  obtain ⟨another, _, rfl⟩ := Option.map_eq_some_iff.mp otherEq
  exact apart (congrArg Id.slot same)

theorem held_nodup (store : Store width Value) : store.held.Nodup :=
  .of_map _ store.held_ids_nodup

theorem get_eq_some_iff_held :
    store.get id = some value ↔ (id, value) ∈ store.held :=
  get_eq_some_iff.trans mem_held_iff.symm

/-- The values alone, in the order of their slots. -/
theorem held_values (store : Store width Value) :
    store.held.map Prod.snd = store.cells.filterMap Cell.value := by
  have values : ∀ cell : Cell width Value × Nat,
      (entry cell).map Prod.snd = cell.1.value := by
    intro cell
    rw [entry]
    cases cell.1.value with
    | none => rfl
    | some value => rfl
  rw [held, List.map_filterMap]
  simp only [values]
  conv_rhs => rw [← List.zipIdx_map_fst 0 store.cells, List.filterMap_map]
  rfl

/-- A cell that is emptied takes its next generation. -/
def renewed (cell : Cell width Value) : Cell width Value where
  generation := succ cell.generation
  value := none

/-- The cells of the list that can be used again, the last one first. -/
def reusable (cells : List (Cell width Value)) : List Nat :=
  ((cells.zipIdx.filter fun (cell, _) =>
    cell.generation ≠ exhausted width).map Prod.snd).reverse

/-- One thing that can happen to a store, with the values it hands out and the
values it returns. -/
inductive Step (store : Store width Value) :
    List (Id width × Value) → List (Id width × Value) →
    Store width Value → Prop
  | rested : Step store [] [] store
  | reused {slot : Nat} {free : List Nat} {generation : BitVec width}
      (value : Value) (top : store.free = slot :: free)
      (empty : store.cells[slot]? = some ⟨generation, none⟩) :
      Step store [(⟨slot, generation⟩, value)] []
        ⟨store.cells.set slot ⟨generation, some value⟩, free⟩
  | grown (generation : BitVec width) (value : Value)
      (fresh : generation ≠ exhausted width) :
      Step store [(⟨store.cells.length, generation⟩, value)] []
        { store with cells := store.cells ++ [⟨generation, some value⟩] }
  | vacated {id : Id width} {value : Value}
      (present : store.cells[id.slot]? = some ⟨id.generation, some value⟩) :
      Step store [] [(id, value)]
        ⟨store.cells.set id.slot ⟨succ id.generation, none⟩,
          if succ id.generation = exhausted width then store.free
          else id.slot :: store.free⟩
  | swept :
      Step store [] store.held
        ⟨store.cells.map renewed, reusable (store.cells.map renewed)⟩

/-- The slot is empty and has a generation left. -/
def Reusable (store : Store width Value) (slot : Nat) : Prop :=
  ∃ cell, store.cells[slot]? = some cell ∧ cell.value = none ∧
    cell.generation ≠ exhausted width

/-- The free list names the cells that can be used again, each once. -/
structure Sound (store : Store width Value) : Prop where
  freeNodup : store.free.Nodup
  mem_free_iff : ∀ slot, slot ∈ store.free ↔ store.Reusable slot
  unexhausted : ∀ (slot : Nat) (cell : Cell width Value),
    store.cells[slot]? = some cell → cell.value ≠ none →
    cell.generation ≠ exhausted width

private theorem getElem?_append_of_ne {cells : List (Cell width Value)}
    {cell : Cell width Value} {slot : Nat} (apart : slot ≠ cells.length) :
    (cells ++ [cell])[slot]? = cells[slot]? := by
  by_cases below : slot < cells.length
  · exact List.getElem?_append_left below
  · have beyond : (cells ++ [cell]).length ≤ slot := by
      rw [List.length_append, List.length_singleton]
      omega
    rw [List.getElem?_eq_none beyond,
      List.getElem?_eq_none (Nat.le_of_not_lt below)]

section Held

variable {slot : Nat} {generation : BitVec width} {free : List Nat}

/-- Two stores that differ in one slot, which only the first one fills. -/
theorem held_perm_cons {full empty : Store width Value}
    (filled : full.cells[slot]? = some ⟨generation, some value⟩)
    (vacant : ∀ cell, empty.cells[slot]? = some cell → cell.value = none)
    (elsewhere : ∀ other, other ≠ slot →
      full.cells[other]? = empty.cells[other]?) :
    full.held.Perm ((⟨slot, generation⟩, value) :: empty.held) := by
  have fresh : ((⟨slot, generation⟩, value) :: empty.held).Nodup := by
    refine List.nodup_cons.mpr ⟨?_, empty.held_nodup⟩
    intro present
    cases vacant _ (mem_held_iff.mp present)
  apply (List.perm_ext_iff_of_nodup full.held_nodup fresh).mpr
  intro entry
  obtain ⟨⟨place, era⟩, found⟩ := entry
  rw [List.mem_cons, mem_held_iff, mem_held_iff]
  by_cases same : place = slot
  · subst same
    rw [filled]
    constructor
    · intro here
      cases here
      exact Or.inl rfl
    · intro added
      cases added with
      | inl added => cases added; rfl
      | inr present => cases vacant _ present
  · rw [elsewhere place same]
    constructor
    · exact Or.inr
    · intro added
      cases added with
      | inl added => cases added; exact absurd rfl same
      | inr present => exact present

theorem held_filled
    (empty : store.cells[slot]? = some ⟨generation, none⟩) :
    (Store.mk (store.cells.set slot ⟨generation, some value⟩) free).held.Perm
      ((⟨slot, generation⟩, value) :: store.held) := by
  obtain ⟨bound, _⟩ := List.getElem?_eq_some_iff.mp empty
  apply held_perm_cons
  · exact List.getElem?_set_self bound
  · intro cell present
    rw [empty] at present
    cases present
    rfl
  · intro other apart
    exact List.getElem?_set_ne (Ne.symm apart)

theorem held_grown :
    (Store.mk (store.cells ++ [⟨generation, some value⟩]) free).held.Perm
      ((⟨store.cells.length, generation⟩, value) :: store.held) := by
  apply held_perm_cons
  · exact List.getElem?_concat_length
  · intro cell present
    rw [List.getElem?_eq_none (Nat.le_refl _)] at present
    cases present
  · intro other apart
    exact getElem?_append_of_ne apart

theorem held_vacated
    (present : store.cells[id.slot]? = some ⟨id.generation, some value⟩) :
    store.held.Perm ((id, value) ::
      (Store.mk (store.cells.set id.slot ⟨generation, none⟩) free).held) := by
  obtain ⟨bound, _⟩ := List.getElem?_eq_some_iff.mp present
  apply held_perm_cons present
  · intro cell vacated
    rw [List.getElem?_set_self bound] at vacated
    cases vacated
    rfl
  · intro other apart
    exact (List.getElem?_set_ne (Ne.symm apart)).symm

theorem held_swept :
    (Store.mk (store.cells.map renewed) free).held = [] := by
  apply List.eq_nil_iff_forall_not_mem.mpr
  intro entry present
  have here := mem_held_iff.mp (show (entry.1, entry.2) ∈ _ from present)
  rw [List.getElem?_map] at here
  obtain ⟨cell, _, emptied⟩ := Option.map_eq_some_iff.mp here
  have values := congrArg Cell.value emptied
  cases values

end Held

theorem mem_reusable_iff {cells : List (Cell width Value)} {slot : Nat} :
    slot ∈ reusable cells ↔
      ∃ cell, cells[slot]? = some cell ∧
        cell.generation ≠ exhausted width := by
  rw [reusable, List.mem_reverse, List.mem_map]
  constructor
  · intro listed
    obtain ⟨⟨cell, place⟩, member, rfl⟩ := listed
    obtain ⟨indexed, fresh⟩ := List.mem_filter.mp member
    exact ⟨cell, List.mem_zipIdx_iff_getElem?.mp indexed,
      of_decide_eq_true fresh⟩
  · intro found
    obtain ⟨cell, present, fresh⟩ := found
    exact ⟨(cell, slot), List.mem_filter.mpr
      ⟨List.mem_zipIdx_iff_getElem?.mpr present, decide_eq_true fresh⟩, rfl⟩

theorem reusable_nodup (cells : List (Cell width Value)) :
    (reusable cells).Nodup := by
  rw [reusable, List.nodup_reverse]
  exact (List.nodup_zipIdx_map_snd cells).sublist
    (List.filter_sublist.map _)

/-- What one slot has become is all that matters. -/
theorem Sound.changed (sound : Sound store) {next : Store width Value}
    (slot : Nat)
    (elsewhere : ∀ other, other ≠ slot →
      next.cells[other]? = store.cells[other]? ∧
        (other ∈ next.free ↔ other ∈ store.free))
    (nodup : next.free.Nodup) (listed : slot ∈ next.free ↔ next.Reusable slot)
    (fresh : ∀ cell, next.cells[slot]? = some cell → cell.value ≠ none →
      cell.generation ≠ exhausted width) :
    Sound next := by
  refine ⟨nodup, ?_, ?_⟩
  · intro other
    by_cases same : other = slot
    · rw [same]
      exact listed
    · obtain ⟨cellsEq, freeIff⟩ := elsewhere other same
      rw [freeIff, sound.mem_free_iff, Reusable, Reusable, cellsEq]
  · intro other cell present filled
    by_cases same : other = slot
    · subst same
      exact fresh cell present filled
    · rw [(elsewhere other same).1] at present
      exact sound.unexhausted other cell present filled

theorem Sound.reused (sound : Sound store) {slot : Nat} {free : List Nat}
    {generation : BitVec width} (top : store.free = slot :: free)
    (empty : store.cells[slot]? = some ⟨generation, none⟩) :
    Sound (Store.mk (store.cells.set slot ⟨generation, some value⟩) free) := by
  obtain ⟨bound, _⟩ := List.getElem?_eq_some_iff.mp empty
  have nodup := sound.freeNodup
  rw [top] at nodup
  obtain ⟨notFree, restNodup⟩ := List.nodup_cons.mp nodup
  have listed : slot ∈ store.free := by
    rw [top]
    exact List.mem_cons_self
  apply sound.changed slot
  · intro other apart
    rw [top, List.mem_cons]
    refine ⟨List.getElem?_set_ne (Ne.symm apart), ?_⟩
    exact (or_iff_right apart).symm
  · exact restNodup
  · refine iff_of_false notFree ?_
    intro again
    obtain ⟨cell, present, vacant, _⟩ := again
    rw [List.getElem?_set_self bound] at present
    cases present
    cases vacant
  · intro cell present _
    obtain ⟨old, before, _, fresh⟩ := (sound.mem_free_iff slot).mp listed
    rw [empty] at before
    rw [List.getElem?_set_self bound] at present
    cases before
    cases present
    exact fresh

theorem Sound.grown (sound : Sound store) {generation : BitVec width}
    (fresh : generation ≠ exhausted width) :
    Sound { store with
      cells := store.cells ++ [⟨generation, some value⟩] } := by
  have here : (store.cells ++ [⟨generation, some value⟩])[
      store.cells.length]? = some ⟨generation, some value⟩ :=
    List.getElem?_concat_length
  apply sound.changed store.cells.length
  · intro other apart
    exact ⟨getElem?_append_of_ne apart, Iff.rfl⟩
  · exact sound.freeNodup
  · refine iff_of_false ?_ ?_
    · intro listed
      obtain ⟨cell, present, _⟩ := (sound.mem_free_iff _).mp listed
      rw [List.getElem?_eq_none (Nat.le_refl _)] at present
      cases present
    · intro again
      obtain ⟨cell, present, vacant, _⟩ := again
      rw [here] at present
      cases present
      cases vacant
  · intro cell present _
    rw [here] at present
    cases present
    exact fresh

theorem Sound.vacated (sound : Sound store)
    (present : store.cells[id.slot]? = some ⟨id.generation, some value⟩) :
    Sound ⟨store.cells.set id.slot ⟨succ id.generation, none⟩,
      if succ id.generation = exhausted width then store.free
      else id.slot :: store.free⟩ := by
  obtain ⟨bound, _⟩ := List.getElem?_eq_some_iff.mp present
  have notFree : id.slot ∉ store.free := by
    intro listed
    obtain ⟨cell, same, vacant, _⟩ := (sound.mem_free_iff _).mp listed
    rw [present] at same
    cases same
    cases vacant
  apply sound.changed id.slot
  · intro other apart
    refine ⟨List.getElem?_set_ne (Ne.symm apart), ?_⟩
    split
    · exact Iff.rfl
    · rw [List.mem_cons]
      exact or_iff_right apart
  · split
    · exact sound.freeNodup
    · exact List.nodup_cons.mpr ⟨notFree, sound.freeNodup⟩
  · rw [Reusable]
    simp only [List.getElem?_set_self bound, Option.some_inj]
    split
    · rename_i last
      refine iff_of_false notFree ?_
      intro again
      obtain ⟨cell, same, _, fresh⟩ := again
      rw [← same] at fresh
      exact fresh last
    · rename_i fresh
      refine iff_of_true List.mem_cons_self ?_
      exact ⟨_, rfl, rfl, fresh⟩
  · intro cell same filled
    rw [List.getElem?_set_self bound] at same
    cases same
    exact absurd rfl filled

theorem sound_swept (store : Store width Value) :
    Sound ⟨store.cells.map renewed, reusable (store.cells.map renewed)⟩ := by
  have vacant : ∀ (slot : Nat) cell,
      (store.cells.map renewed)[slot]? = some cell → cell.value = none := by
    intro slot cell present
    rw [List.getElem?_map] at present
    obtain ⟨old, _, rfl⟩ := Option.map_eq_some_iff.mp present
    rfl
  refine ⟨reusable_nodup _, ?_, ?_⟩
  · intro slot
    rw [mem_reusable_iff]
    constructor
    · intro found
      obtain ⟨cell, present, fresh⟩ := found
      exact ⟨cell, present, vacant slot cell present, fresh⟩
    · intro found
      obtain ⟨cell, present, _, fresh⟩ := found
      exact ⟨cell, present, fresh⟩
  · intro slot cell present filled
    exact absurd (vacant slot cell present) filled

theorem Sound.step (sound : Sound store)
    {issued returned : List (Id width × Value)} {next : Store width Value}
    (moved : Step store issued returned next) : Sound next := by
  cases moved with
  | rested => exact sound
  | reused value top empty => exact sound.reused top empty
  | grown generation value fresh => exact sound.grown fresh
  | vacated present => exact sound.vacated present
  | swept => exact sound_swept store

/-- A cell moves on: it is emptied under a later generation only. -/
def Later (old new : Cell width Value) : Prop :=
  old.generation.toNat ≤ new.generation.toNat ∧
    (new.value = none →
      old.value = none ∨ old.generation.toNat < new.generation.toNat)

/-- An identity of the past, seen from the cell of its slot. -/
def Older (id : Id width) (cell : Cell width Value) : Prop :=
  id.generation.toNat ≤ cell.generation.toNat ∧
    (cell.value = none → id.generation.toNat < cell.generation.toNat)

theorem Later.refl (cell : Cell width Value) : Later cell cell :=
  ⟨Nat.le_refl _, Or.inl⟩

theorem Older.later {old new : Cell width Value} (older : Older id old)
    (later : Later old new) : Older id new := by
  refine ⟨Nat.le_trans older.1 later.1, ?_⟩
  intro vacant
  cases later.2 vacant with
  | inl before => exact Nat.lt_of_lt_of_le (older.2 before) later.1
  | inr less => exact Nat.lt_of_le_of_lt older.1 less

theorem later_renewed {cell : Cell width Value}
    (fresh : cell.value ≠ none → cell.generation ≠ exhausted width) :
    Later cell (renewed cell) := by
  refine ⟨le_succ _, ?_⟩
  intro _
  by_cases vacant : cell.value = none
  · exact Or.inl vacant
  · refine Or.inr ?_
    rw [renewed, succ_toNat (fresh vacant)]
    exact Nat.lt_succ_self _

theorem later_set {slot : Nat} {old new : Cell width Value}
    (present : store.cells[slot]? = some old) (later : Later old new)
    {other : Nat} {cell : Cell width Value}
    (here : store.cells[other]? = some cell) :
    ∃ after, (store.cells.set slot new)[other]? = some after ∧
      Later cell after := by
  by_cases same : slot = other
  · subst same
    obtain ⟨bound, _⟩ := List.getElem?_eq_some_iff.mp present
    rw [present] at here
    cases here
    exact ⟨new, List.getElem?_set_self bound, later⟩
  · exact ⟨cell, (List.getElem?_set_ne same).trans here, .refl cell⟩

theorem Sound.later (sound : Sound store)
    {issued returned : List (Id width × Value)} {next : Store width Value}
    (moved : Step store issued returned next) {slot : Nat}
    {cell : Cell width Value} (present : store.cells[slot]? = some cell) :
    ∃ after, next.cells[slot]? = some after ∧ Later cell after := by
  cases moved with
  | rested => exact ⟨cell, present, .refl cell⟩
  | @reused top free generation value _ empty =>
      have later : Later ⟨generation, none⟩ ⟨generation, some value⟩ :=
        ⟨Nat.le_refl _, fun vacant => nomatch vacant⟩
      exact later_set empty later present
  | grown generation value fresh =>
      obtain ⟨bound, _⟩ := List.getElem?_eq_some_iff.mp present
      exact ⟨cell, (List.getElem?_append_left bound).trans present,
        .refl cell⟩
  | vacated filled =>
      refine later_set filled (later_renewed ?_) present
      exact sound.unexhausted _ _ filled
  | swept =>
      refine ⟨renewed cell, ?_, later_renewed ?_⟩
      · rw [List.getElem?_map, present]
        rfl
      · exact sound.unexhausted _ _ present

/-- What is handed out is handed out for the first time, and is held from then
on. -/
theorem Step.issues {issued returned : List (Id width × Value)}
    {next : Store width Value} (moved : Step store issued returned next) :
    ∀ id value, (id, value) ∈ issued →
      issued = [(id, value)] ∧
      (∀ cell, store.cells[id.slot]? = some cell →
        cell.value = none ∧ cell.generation = id.generation) ∧
      next.cells[id.slot]? = some ⟨id.generation, some value⟩ := by
  intro id value member
  cases moved with
  | rested => cases member
  | reused stored top empty =>
      cases List.mem_singleton.mp member
      obtain ⟨bound, _⟩ := List.getElem?_eq_some_iff.mp empty
      refine ⟨rfl, ?_, List.getElem?_set_self bound⟩
      intro cell present
      rw [empty] at present
      cases present
      exact ⟨rfl, rfl⟩
  | grown generation stored fresh =>
      cases List.mem_singleton.mp member
      refine ⟨rfl, ?_, List.getElem?_concat_length⟩
      intro cell present
      rw [List.getElem?_eq_none (Nat.le_refl _)] at present
      cases present
  | vacated filled => cases member
  | swept => cases member

/-- What is handed out joins what is held, and what is returned leaves it. -/
theorem Step.balance {issued returned : List (Id width × Value)}
    {next : Store width Value} (moved : Step store issued returned next) :
    (store.held ++ issued).Perm (returned ++ next.held) := by
  cases moved with
  | rested =>
      rw [List.append_nil]
      exact .refl _
  | reused value top empty =>
      exact (List.perm_append_singleton _ _).trans (held_filled empty).symm
  | grown generation value fresh =>
      exact (List.perm_append_singleton _ _).trans held_grown.symm
  | vacated filled =>
      rw [List.append_nil]
      exact held_vacated filled
  | swept =>
      rw [List.append_nil, held_swept, List.append_nil]

/-- Afterwards an identity names what it did, or what was just handed out. -/
theorem Step.get_issuing {next : Store width Value} {other : Id width}
    {found : Value} (moved : Step store [(id, value)] [] next) :
    next.get other = some found ↔
      (other = id ∧ found = value) ∨ store.get other = some found := by
  have balance := moved.balance.mem_iff (a := (other, found))
  rw [List.nil_append, List.mem_append, List.mem_singleton, Prod.mk.injEq]
    at balance
  rw [get_eq_some_iff_held, get_eq_some_iff_held, ← balance, or_comm]

/-- Afterwards the identity names nothing, and the others what they did. -/
theorem Step.get_returning {next : Store width Value} {other : Id width}
    {found : Value} (moved : Step store [] [(id, value)] next) :
    next.get other = some found ↔
      other ≠ id ∧ store.get other = some found := by
  have balance := moved.balance
  rw [List.append_nil, List.singleton_append] at balance
  have once := (balance.map Prod.fst).nodup_iff.mp store.held_ids_nodup
  have gone := (List.nodup_cons.mp once).1
  have listed := balance.mem_iff (a := (other, found))
  rw [List.mem_cons, Prod.mk.injEq] at listed
  rw [get_eq_some_iff_held, get_eq_some_iff_held, listed]
  constructor
  · intro kept
    refine ⟨?_, Or.inr kept⟩
    intro same
    subst same
    exact gone (List.mem_map.mpr ⟨(other, found), kept, rfl⟩)
  · intro kept
    cases kept.2 with
    | inl same => exact absurd same.1 kept.1
    | inr kept => exact kept

/-- What is returned was there. -/
theorem Step.get_of_returning {next : Store width Value}
    (moved : Step store [] [(id, value)] next) :
    store.get id = some value := by
  have balance := moved.balance.mem_iff (a := (id, value))
  rw [List.append_nil] at balance
  exact get_eq_some_iff_held.mpr
    (balance.mpr (List.mem_append_left _ (List.mem_singleton.mpr rfl)))

/-- What is handed out was not there. -/
theorem Step.get_of_issuing {next : Store width Value}
    (moved : Step store [(id, value)] [] next) : store.get id = none := by
  have once := next.held_ids_nodup
  have balance := moved.balance
  rw [List.nil_append] at balance
  rw [← (balance.map Prod.fst).nodup_iff, List.map_append] at once
  refine Option.eq_none_iff_forall_ne_some.mpr ?_
  intro found named
  have listed := get_eq_some_iff_held.mp named
  exact (List.disjoint_of_nodup_append once)
    (List.mem_map.mpr ⟨_, listed, rfl⟩) List.mem_cons_self

/-- The identities that name something decide what is held. -/
theorem held_perm_of_get {other : Store width Value}
    (same : ∀ id, store.get id = other.get id) :
    store.held.Perm other.held := by
  refine (List.perm_ext_iff_of_nodup store.held_nodup other.held_nodup).mpr ?_
  intro entry
  obtain ⟨id, value⟩ := entry
  rw [← get_eq_some_iff_held, ← get_eq_some_iff_held, same id]

/-- The same, if one identity more names something. -/
theorem held_perm_cons_of_get {other : Store width Value}
    (named : other.get id = some value) (unnamed : store.get id = none)
    (same : ∀ another, another ≠ id → other.get another = store.get another) :
    other.held.Perm ((id, value) :: store.held) := by
  have absent : (id, value) ∉ store.held := by
    intro held
    cases (get_eq_some_iff_held.mpr held).symm.trans unnamed
  refine (List.perm_ext_iff_of_nodup other.held_nodup
    (List.nodup_cons.mpr ⟨absent, store.held_nodup⟩)).mpr ?_
  intro entry
  obtain ⟨another, found⟩ := entry
  rw [List.mem_cons, Prod.mk.injEq, ← get_eq_some_iff_held,
    ← get_eq_some_iff_held]
  by_cases here : another = id
  · subst here
    rw [named, unnamed, Option.some.injEq]
    constructor
    · intro value
      exact Or.inl ⟨rfl, value.symm⟩
    · intro among
      cases among with
      | inl value => exact value.2.symm
      | inr nothing => cases nothing
  · rw [same another here]
    constructor
    · exact Or.inr
    · intro among
      cases among with
      | inl equal => exact absurd equal.1 here
      | inr found => exact found

/-! ## Whole histories -/

/-- What was handed out so far, what was returned of it, and what is left. -/
structure Ledger (issued returned : List (Id width × Value))
    (store : Store width Value) : Prop extends Sound store where
  /-- No identity is handed out twice. -/
  issuedOnce : (issued.map Prod.fst).Nodup
  older : ∀ id value, (id, value) ∈ issued →
    ∃ cell, store.cells[id.slot]? = some cell ∧ Older id cell
  balanced : issued.Perm (returned ++ store.held)

theorem ledger_empty :
    Ledger [] [] (Store.mk [] [] : Store width Value) := by
  refine ⟨⟨List.nodup_nil, ?_, ?_⟩, List.nodup_nil, ?_, .refl _⟩
  · intro slot
    refine iff_of_false List.not_mem_nil ?_
    intro found
    obtain ⟨cell, present, _⟩ := found
    cases present
  · intro slot cell present
    cases present
  · intro id value member
    cases member

section Ledgers

variable {issued returned issuing returning : List (Id width × Value)}
  {next : Store width Value}

theorem Ledger.step (ledger : Ledger issued returned store)
    (moved : Step store issuing returning next) :
    Ledger (issued ++ issuing) (returned ++ returning) next := by
  refine ⟨ledger.toSound.step moved, ?_, ?_, ?_⟩
  · rw [List.map_append, List.nodup_append]
    refine ⟨ledger.issuedOnce, ?_, ?_⟩
    · cases issuing with
      | nil => exact List.nodup_nil
      | cons entry rest =>
          rw [(moved.issues entry.1 entry.2 List.mem_cons_self).1]
          exact List.nodup_singleton _
    · intro old before id issues same
      subst same
      obtain ⟨⟨id, stored⟩, earlier, rfl⟩ := List.mem_map.mp before
      obtain ⟨⟨other, value⟩, member, same⟩ := List.mem_map.mp issues
      simp only at same
      subst same
      obtain ⟨cell, present, older⟩ := ledger.older _ stored earlier
      -- The slot is empty, so it is past the identity handed out before.
      obtain ⟨vacant, reached⟩ :=
        (moved.issues other value member).2.1 cell present
      have past := older.2 vacant
      rw [reached] at past
      exact Nat.lt_irrefl _ past
  · intro id value member
    cases List.mem_append.mp member with
    | inl before =>
        obtain ⟨cell, present, older⟩ := ledger.older id value before
        obtain ⟨after, present, later⟩ := ledger.toSound.later moved present
        exact ⟨after, present, older.later later⟩
    | inr issues =>
        refine ⟨_, (moved.issues id value issues).2.2, Nat.le_refl _, ?_⟩
        intro vacant
        cases vacant
  · have moves := moved.balance
    calc
      (issued ++ issuing).Perm ((returned ++ store.held) ++ issuing) :=
        ledger.balanced.append_right issuing
      _ = returned ++ (store.held ++ issuing) := List.append_assoc ..
      List.Perm _ (returned ++ (returning ++ next.held)) :=
        moves.append_left returned
      _ = (returned ++ returning) ++ next.held := (List.append_assoc ..).symm

/-- An identity names the value that was handed out under it, if any. -/
theorem Ledger.get_issued (ledger : Ledger issued returned store)
    (named : store.get id = some value) : (id, value) ∈ issued :=
  ledger.balanced.mem_iff.mpr
    (List.mem_append_right _ (get_eq_some_iff_held.mp named))

theorem Ledger.issued_unique (ledger : Ledger issued returned store)
    {other : Value} (first : (id, value) ∈ issued)
    (second : (id, other) ∈ issued) : value = other :=
  (Prod.mk.inj (List.inj_on_of_nodup_map ledger.issuedOnce first second
    rfl)).2

/-- Every value handed out is returned once, or held still. -/
theorem Ledger.settledOnce (ledger : Ledger issued returned store) :
    ((returned ++ store.held).map Prod.fst).Nodup :=
  (ledger.balanced.map _).nodup_iff.mp ledger.issuedOnce

/-- An identity whose value was returned names nothing from then on. -/
theorem Ledger.get_returned (ledger : Ledger issued returned store)
    (gone : (id, value) ∈ returned) : store.get id = none := by
  cases named : store.get id with
  | none => rfl
  | some other =>
      have once := ledger.settledOnce
      rw [List.map_append, List.nodup_append] at once
      have held := get_eq_some_iff_held.mp named
      exact absurd rfl (once.2.2 id (List.mem_map_of_mem gone) id
        (List.mem_map_of_mem held))

end Ledgers

end Store

end Generational
