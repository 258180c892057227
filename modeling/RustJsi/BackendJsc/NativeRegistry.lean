import RustJsi.BackendJsc.RootRegistry
import RustJsi.Counted.Heap

/-!
# The registry of native states

A state that Rust code hands to JavaScript lives in a counted box, which the
registry owns together with the operations that use the state.  The slot, the
generation and the type of a handle have to agree with the registry before the
state is read.
-/

namespace RustJsi.BackendJsc

open Counted Generational

/-- `TypeId::of` a type. -/
abbrev TypeId : Type :=
  Nat

/-- A Rust value and its type. -/
structure NativeState (Payload : Type*) where
  typeId : TypeId
  payload : Payload
  deriving DecidableEq, Repr

/-- One owner of the box of a state, an `Rc<dyn Any>`. -/
structure AnyRc (Payload : Type*) where
  box : Nat
  state : NativeState Payload
  deriving DecidableEq, Repr

abbrev NativeId : Type :=
  Id 64

structure NativeSlot (Payload : Type*) where
  generation : BitVec 64
  typeId : Option TypeId
  value : Option (AnyRc Payload)

/-- The vectors grow at the end; the free list is kept with its end first. -/
structure NativeRegistry (Payload : Type*) where
  slots : List (NativeSlot Payload)
  free : List Nat
  live : Nat
  limit : Nat

variable {Payload : Type*}

namespace NativeRegistry

def new (limit : Nat) : NativeRegistry Payload where
  slots := []
  free := []
  live := 0
  limit := limit

/-- A state that finds no room is returned. -/
def insert (registry : NativeRegistry Payload) (state : NativeState Payload)
    (heap : Heap) :
    Except Panic (NativeRegistry Payload × Heap ×
      Except (NativeState Payload) NativeId) :=
  if registry.live ≥ registry.limit then
    .ok (registry, heap, .error state)
  else
    let live := registry.live + 1
    match registry.free with
    | slot :: free =>
        match registry.slots[slot]? with
        | none => .error .indexOutOfBounds
        | some entry =>
            let (box, heap) := heap.alloc
            .ok ({ registry with
              slots := registry.slots.set slot
                { entry with
                  typeId := some state.typeId, value := some ⟨box, state⟩ }
              free := free
              live := live }, heap, .ok ⟨slot, entry.generation⟩)
    | [] =>
        let (box, heap) := heap.alloc
        .ok ({ registry with
          slots := registry.slots ++
            [⟨1, some state.typeId, some ⟨box, state⟩⟩]
          live := live }, heap, .ok ⟨registry.slots.length, 1⟩)

/-- `downcast`. -/
def downcast (typeId : TypeId) (value : AnyRc Payload) :
    Option (AnyRc Payload) :=
  if value.state.typeId = typeId then some value else none

def get (registry : NativeRegistry Payload) (typeId : TypeId)
    (id : NativeId) : Option (AnyRc Payload) :=
  match registry.slots[id.slot]? with
  | none => none
  | some slot =>
      if slot.generation ≠ id.generation ∨ slot.typeId ≠ some typeId then
        none
      else
        match slot.value with
        | none => none
        | some value => downcast typeId value

/-- `slot.generation.saturating_add(1)` is `succ`. -/
def remove (registry : NativeRegistry Payload) (id : NativeId) :
    NativeRegistry Payload × Option (AnyRc Payload) :=
  match registry.slots[id.slot]? with
  | none => (registry, none)
  | some slot =>
      if slot.generation ≠ id.generation then
        (registry, none)
      else
        match slot.value with
        | none => (registry, none)
        | some value =>
            let generation := succ slot.generation
            ({ registry with
              slots := registry.slots.set id.slot
                { value := none, typeId := none, generation := generation }
              live := registry.live - 1
              free := if generation ≠ exhausted 64
                then id.slot :: registry.free else registry.free },
              some value)

/-- What the loop of a drain leaves in a slot. -/
def drained (slot : NativeSlot Payload) : NativeSlot Payload where
  value := none
  typeId := none
  generation := succ slot.generation

/-- The slots the loop of a drain lists as free, the last one first. -/
def freeSlots (slots : List (NativeSlot Payload)) : List Nat :=
  ((slots.zipIdx.filter fun (slot, _) =>
    slot.generation ≠ exhausted 64).map Prod.snd).reverse

def drain (registry : NativeRegistry Payload) :
    NativeRegistry Payload × List (AnyRc Payload) :=
  let slots := registry.slots.map drained
  ({ registry with
    free := freeSlots slots
    live := 0
    slots := slots }, registry.slots.filterMap NativeSlot.value)

end NativeRegistry

def NativeSlot.cell (slot : NativeSlot Payload) :
    Cell 64 (AnyRc Payload) where
  generation := slot.generation
  value := slot.value

/-- The type a slot was given is the type of what is in it. -/
def NativeSlot.Typed (slot : NativeSlot Payload) : Prop :=
  slot.typeId = slot.value.map fun value => value.state.typeId

namespace NativeRegistry

/-- The registry without the types of its slots. -/
def store (registry : NativeRegistry Payload) :
    Store 64 (AnyRc Payload) where
  cells := registry.slots.map NativeSlot.cell
  free := registry.free

structure Sound (registry : NativeRegistry Payload) : Prop where
  store : registry.store.Sound
  live : registry.live = registry.store.held.length
  liveFits : registry.live ≤ registry.limit
  typed : ∀ slot ∈ registry.slots, slot.Typed

section Operations

variable {registry : NativeRegistry Payload} {id : NativeId}
  {value : AnyRc Payload} {state : NativeState Payload}

theorem store_getElem? (registry : NativeRegistry Payload) (index : Nat) :
    registry.store.cells[index]? =
      (registry.slots[index]?).map NativeSlot.cell :=
  List.getElem?_map ..

theorem sound_new (limit : Nat) :
    Sound (new limit : NativeRegistry Payload) := by
  refine ⟨(Store.ledger_empty).toSound, rfl, Nat.zero_le _, ?_⟩
  intro slot member
  cases member

private theorem typed_set {slots : List (NativeSlot Payload)}
    {index : Nat} {new : NativeSlot Payload}
    (typed : ∀ slot ∈ slots, slot.Typed) (here : new.Typed) :
    ∀ slot ∈ slots.set index new, slot.Typed := by
  intro slot member
  cases List.mem_or_eq_of_mem_set member with
  | inl before => exact typed slot before
  | inr same =>
      rw [same]
      exact here

/-- Every count of the registry follows from what a step of its store moves. -/
private theorem Sound.moved (sound : registry.Sound)
    {next : NativeRegistry Payload}
    {issued returned : List (NativeId × AnyRc Payload)}
    (moved : registry.store.Step issued returned next.store)
    (live : next.live + returned.length = registry.live + issued.length)
    (fits : next.live ≤ next.limit)
    (typed : ∀ slot ∈ next.slots, slot.Typed) : next.Sound where
  store := sound.store.step moved
  live := by
    have lengths := moved.balance.length_eq
    rw [List.length_append, List.length_append] at lengths
    have before := sound.live
    omega
  liveFits := fits
  typed := typed

/-- What an insertion does. -/
theorem Sound.insert (sound : registry.Sound) (state : NativeState Payload)
    (heap : Heap) :
    (∃ next id, registry.live < registry.limit ∧
      registry.insert state heap = .ok (next, heap.alloc.2, .ok id) ∧
      next.Sound ∧
      registry.store.Step [(id, ⟨heap.alloc.1, state⟩)] [] next.store ∧
      next.live = registry.live + 1 ∧ next.limit = registry.limit) ∨
    (registry.limit ≤ registry.live ∧
      registry.insert state heap = .ok (registry, heap, .error state)) := by
  by_cases full : registry.live ≥ registry.limit
  · exact Or.inr ⟨full, if_pos full⟩
  have room : registry.live < registry.limit := Nat.lt_of_not_le full
  refine Or.inl ?_
  cases freeEq : registry.free with
  | cons index free =>
      have listed : index ∈ registry.free := by
        rw [freeEq]
        exact List.mem_cons_self
      obtain ⟨cell, cellPresent, vacant, _⟩ :=
        (sound.store.mem_free_iff index).mp listed
      rw [store_getElem?] at cellPresent
      obtain ⟨slot, present, rfl⟩ := Option.map_eq_some_iff.mp cellPresent
      let filled : NativeSlot Payload :=
        { slot with
          typeId := some state.typeId, value := some ⟨heap.alloc.1, state⟩ }
      let next : NativeRegistry Payload :=
        { registry with
          slots := registry.slots.set index filled
          free := free
          live := registry.live + 1 }
      have stored : next.store =
          ⟨registry.store.cells.set index
            ⟨slot.generation, some ⟨heap.alloc.1, state⟩⟩, free⟩ :=
        congrArg (Store.mk · free) (List.map_set ..)
      have moved : registry.store.Step
          [(⟨index, slot.generation⟩, ⟨heap.alloc.1, state⟩)] []
          next.store := by
        rw [stored]
        apply Store.Step.reused _ freeEq
        rw [store_getElem?, present, Option.map_some]
        exact congrArg (fun value => some (Cell.mk slot.generation value))
          vacant
      refine ⟨next, ⟨index, slot.generation⟩, room, ?_,
        sound.moved moved rfl room (typed_set sound.typed rfl), moved, rfl,
        rfl⟩
      simp only [NativeRegistry.insert, if_neg full, freeEq, present]
      rfl
  | nil =>
      let next : NativeRegistry Payload :=
        { registry with
          slots := registry.slots ++
            [⟨1, some state.typeId, some ⟨heap.alloc.1, state⟩⟩]
          live := registry.live + 1 }
      have stored : next.store =
          { registry.store with
            cells := registry.store.cells ++
              [⟨1, some ⟨heap.alloc.1, state⟩⟩] } :=
        congrArg (Store.mk · registry.free) List.map_append
      have lengths : registry.store.cells.length = registry.slots.length :=
        List.length_map ..
      have moved : registry.store.Step
          [(⟨registry.slots.length, 1⟩, ⟨heap.alloc.1, state⟩)] []
          next.store := by
        rw [stored, ← lengths]
        exact .grown 1 _ (by decide)
      refine ⟨next, ⟨registry.slots.length, 1⟩, room, ?_,
        sound.moved moved rfl room ?_, moved, rfl, rfl⟩
      · simp only [NativeRegistry.insert, if_neg full, freeEq, next]
      · intro slot member
        cases List.mem_append.mp member with
        | inl before => exact sound.typed slot before
        | inr same =>
            rw [List.mem_singleton.mp same]
            rfl

/-- A handle reads the state it names, if it has its type. -/
theorem Sound.get_eq_some_iff (sound : registry.Sound) {typeId : TypeId} :
    registry.get typeId id = some value ↔
      registry.store.get id = some value ∧ value.state.typeId = typeId := by
  rw [Store.get_eq_some_iff, store_getElem?]
  cases present : registry.slots[id.slot]? with
  | none =>
      rw [NativeRegistry.get, present]
      exact iff_of_false nofun (fun found => nomatch found.1)
  | some slot =>
      have reads : registry.get typeId id =
          if slot.generation ≠ id.generation ∨ slot.typeId ≠ some typeId then
            none
          else
            match slot.value with
            | none => none
            | some value => downcast typeId value := by
        rw [NativeRegistry.get, present]
      rw [reads]
      have typed := sound.typed slot (List.mem_of_getElem? present)
      rw [Option.map_some, NativeSlot.cell, Option.some.injEq, Cell.mk.injEq]
      constructor
      · intro found
        split at found
        · cases found
        · rename_i named
          rw [not_or, not_not, not_not] at named
          cases filled : slot.value with
          | none =>
              rw [filled] at found
              cases found
          | some stored =>
              rw [filled] at found
              simp only [downcast] at found
              split at found
              · rename_i same
                cases found
                exact ⟨⟨named.1, rfl⟩, same⟩
              · cases found
      · intro found
        obtain ⟨⟨same, filled⟩, ofType⟩ := found
        rw [NativeSlot.Typed, filled, Option.map_some, ofType] at typed
        have named : ¬(slot.generation ≠ id.generation ∨
            slot.typeId ≠ some typeId) := by
          rw [same, typed]
          simp
        rw [if_neg named, filled]
        exact if_pos ofType

/-- What a removal does with an identity that names a state. -/
theorem Sound.remove (sound : registry.Sound)
    (named : registry.store.get id = some value) :
    ∃ next, registry.remove id = (next, some value) ∧ next.Sound ∧
      registry.store.Step [] [(id, value)] next.store ∧
      next.live + 1 = registry.live ∧ next.limit = registry.limit := by
  have here := Store.get_eq_some_iff.mp named
  rw [store_getElem?] at here
  obtain ⟨slot, present, cell⟩ := Option.map_eq_some_iff.mp here
  have same : slot.generation = id.generation := congrArg Cell.generation cell
  have filled : slot.value = some value := congrArg Cell.value cell
  let next : NativeRegistry Payload :=
    { registry with
      slots := registry.slots.set id.slot
        { value := none, typeId := none, generation := succ slot.generation }
      live := registry.live - 1
      free := if succ slot.generation ≠ exhausted 64
        then id.slot :: registry.free else registry.free }
  have stored : next.store =
      ⟨registry.store.cells.set id.slot ⟨succ id.generation, none⟩,
        if succ id.generation = exhausted 64 then registry.store.free
        else id.slot :: registry.store.free⟩ := by
    rw [← same, ← ite_not]
    exact congrArg (Store.mk · _) (List.map_set ..)
  have moved : registry.store.Step [] [(id, value)] next.store := by
    rw [stored]
    apply Store.Step.vacated
    rw [store_getElem?, present, Option.map_some, cell]
  have occupied : next.live + 1 = registry.live := by
    have live := sound.live
    have member := Store.get_eq_some_iff_held.mp named
    have positive := List.length_pos_of_mem member
    exact Nat.sub_add_cancel (by omega)
  have fits : next.live ≤ next.limit :=
    Nat.le_trans (Nat.sub_le _ _) sound.liveFits
  refine ⟨next, ?_, sound.moved moved occupied fits
    (typed_set sound.typed rfl), moved, occupied, rfl⟩
  simp only [NativeRegistry.remove, present, same, ne_eq, not_true_eq_false,
    if_false, filled]
  rw [← same]

/-- Nothing is removed under an identity that names nothing. -/
theorem remove_of_get_none (unnamed : registry.store.get id = none) :
    registry.remove id = (registry, none) := by
  unfold NativeRegistry.remove
  split
  · rfl
  · rename_i slot present
    split
    · rfl
    · rename_i same
      rw [not_not] at same
      cases filled : slot.value with
      | none => rfl
      | some value =>
          have named : registry.store.get id = some value := by
            apply Store.get_eq_some_iff.mpr
            rw [store_getElem?, present, Option.map_some, NativeSlot.cell,
              same, filled]
          rw [named] at unnamed
          cases unnamed

theorem drain_values (registry : NativeRegistry Payload) :
    (registry.drain).2 = registry.store.held.map Prod.snd := by
  rw [Store.held_values, NativeRegistry.store, List.filterMap_map]
  rfl

theorem freeSlots_eq (slots : List (NativeSlot Payload)) :
    freeSlots slots = Store.reusable (slots.map NativeSlot.cell) := by
  rw [freeSlots, Store.reusable, List.zipIdx_map, List.filter_map,
    List.map_map]
  rfl

theorem drain_step (registry : NativeRegistry Payload) :
    registry.store.Step [] registry.store.held (registry.drain).1.store := by
  have cells : (registry.slots.map drained).map NativeSlot.cell =
      registry.store.cells.map Store.renewed := by
    rw [NativeRegistry.store, List.map_map, List.map_map]
    rfl
  have free : freeSlots (registry.slots.map drained) =
      Store.reusable (registry.store.cells.map Store.renewed) := by
    rw [← cells, freeSlots_eq]
  have stored : (registry.drain).1.store =
      ⟨registry.store.cells.map Store.renewed,
        Store.reusable (registry.store.cells.map Store.renewed)⟩ := by
    rw [← free, ← cells]
    rfl
  rw [stored]
  exact .swept

theorem Sound.drain (sound : registry.Sound) :
    (registry.drain).1.Sound := by
  apply sound.moved registry.drain_step
  · rw [List.length_nil, Nat.add_zero, sound.live]
    exact Nat.zero_add _
  · exact Nat.zero_le _
  · intro slot member
    obtain ⟨old, _, rfl⟩ := List.mem_map.mp member
    rfl

/-- A drain leaves nothing behind. -/
theorem drain_held (registry : NativeRegistry Payload) :
    (registry.drain).1.store.held = [] := by
  have balance := registry.drain_step.balance.length_eq
  rw [List.length_append, List.length_append, List.length_nil] at balance
  exact List.eq_nil_of_length_eq_zero (by omega)

end Operations

end NativeRegistry

end RustJsi.BackendJsc
