import RustJsi.BackendJsc.RootRegistry
import RustJsi.Interleaving.Counting

/-!
# The root registry as a store and a list

The slots of the registry are a generational store, and its pending slots are
threaded into one list.  Every operation keeps both, whatever identity it is
given, and moves the store as a generational store moves.
-/

namespace RustJsi.BackendJsc

open Generational Interleaving Linked

variable {Value : Type*}

/-- A slot waiting for its release leads to the next one, if there is one. -/
def RootRelease.link : RootRelease → Option (Option Nat)
  | .live => none
  | .pending next => some next

namespace RootSlot

def cell (slot : RootSlot Value) : Cell 64 Value where
  generation := slot.generation
  value := slot.value

def filled (slot : RootSlot Value) : Bool :=
  slot.value.isSome

def queued (slot : RootSlot Value) : Bool :=
  slot.release.link.isSome

/-- Only a value waits for its release. -/
def Coherent (slot : RootSlot Value) : Prop :=
  slot.release ≠ .live → slot.value ≠ none

end RootSlot

namespace RootRegistry

/-- The registry without its list of pending releases. -/
def store (registry : RootRegistry Value) : Store 64 Value where
  cells := registry.slots.map RootSlot.cell
  free := registry.free

/-- The list of pending releases, as it is threaded through the slots. -/
def links (slots : List (RootSlot Value)) (index : Nat) :
    Option (Option Nat) :=
  (slots[index]?).bind fun slot => slot.release.link

/-- The list threads exactly the pending slots. -/
def Threaded (slots : List (RootSlot Value)) (head : Option Nat) : Prop :=
  ∃ queue, Chain (links slots) head queue ∧
    ∀ index, links slots index ≠ none → index ∈ queue

structure Sound (registry : RootRegistry Value) : Prop where
  store : registry.store.Sound
  slotsFit : registry.slots.length ≤ registry.limit
  coherent : ∀ slot ∈ registry.slots, slot.Coherent
  threaded : Threaded registry.slots registry.pendingHead
  live : registry.live = registry.slots.countP RootSlot.filled
  pending : registry.pending = registry.slots.countP RootSlot.queued

section Slots

variable {slots : List (RootSlot Value)} {index : Nat}
  {old new : RootSlot Value}

theorem links_set (present : slots[index]? = some old) :
    links (slots.set index new) =
      Function.update (links slots) index new.release.link := by
  obtain ⟨bound, _⟩ := List.getElem?_eq_some_iff.mp present
  funext other
  by_cases same : other = index
  · subst same
    rw [Function.update_self, links, List.getElem?_set_self bound]
    rfl
  · rw [Function.update_of_ne same, links,
      List.getElem?_set_ne (Ne.symm same), links]

theorem links_set_same (present : slots[index]? = some old)
    (same : new.release = old.release) :
    links (slots.set index new) = links slots := by
  have here : links slots index = old.release.link := by
    rw [links, present]
    rfl
  rw [links_set present, same, ← here, Function.update_eq_self]

theorem links_append (isLive : new.release = .live) :
    links (slots ++ [new]) = links slots := by
  funext other
  by_cases below : other < slots.length
  · rw [links, links, List.getElem?_append_left below]
  · rw [links, links, List.getElem?_eq_none (Nat.le_of_not_lt below)]
    by_cases last : other = slots.length
    · subst last
      rw [List.getElem?_concat_length, Option.bind_some, isLive]
      rfl
    · have beyond : (slots ++ [new]).length ≤ other := by
        rw [List.length_append, List.length_singleton]
        omega
      rw [List.getElem?_eq_none beyond]

/-- The cells of the store, after a slot was linked or unlinked. -/
theorem cells_set_same (present : slots[index]? = some old)
    (same : new.cell = old.cell) :
    (slots.set index new).map RootSlot.cell = slots.map RootSlot.cell := by
  obtain ⟨bound, _⟩ := List.getElem?_eq_some_iff.mp present
  apply List.ext_getElem?
  intro other
  rw [List.getElem?_map, List.getElem?_map]
  by_cases here : index = other
  · subst here
    rw [List.getElem?_set_self bound, present]
    exact congrArg some same
  · rw [List.getElem?_set_ne here]

theorem Threaded.set_same {head : Option Nat} (threaded : Threaded slots head)
    (present : slots[index]? = some old) (same : new.release = old.release) :
    Threaded (slots.set index new) head := by
  rw [Threaded, links_set_same present same]
  exact threaded

theorem Threaded.append {head : Option Nat} (threaded : Threaded slots head)
    (isLive : new.release = .live) : Threaded (slots ++ [new]) head := by
  rw [Threaded, links_append isLive]
  exact threaded

/-- A slot that is not pending becomes the head of the list. -/
theorem Threaded.push {head : Option Nat} (threaded : Threaded slots head)
    (present : slots[index]? = some old) (isLive : old.release = .live)
    (waits : new.release = .pending head) :
    Threaded (slots.set index new) (some index) := by
  obtain ⟨queue, chain, complete⟩ := threaded
  have unlinked : links slots index = none := by
    rw [links, present, Option.bind_some, isLive]
    rfl
  refine ⟨index :: queue, ?_, ?_⟩
  · rw [links_set present, waits]
    exact chain.push unlinked
  · intro other linked
    rw [links_set present] at linked
    by_cases same : other = index
    · rw [same]
      exact List.mem_cons_self
    · rw [Function.update_of_ne same] at linked
      exact List.mem_cons_of_mem _ (complete other linked)

/-- The head of the list is not pending any more. -/
theorem Threaded.pop {next : Option Nat} (threaded : Threaded slots (some index))
    (present : slots[index]? = some old) (waits : old.release = .pending next)
    (isLive : new.release = .live) :
    Threaded (slots.set index new) next := by
  obtain ⟨queue, chain, complete⟩ := threaded
  have linked : links slots index = some next := by
    rw [links, present, Option.bind_some, waits]
    rfl
  obtain ⟨rest, queueEq, later⟩ := chain.pop linked
  refine ⟨rest, ?_, ?_⟩
  · rw [links_set present, isLive]
    exact later
  · intro other stillLinked
    rw [links_set present, isLive] at stillLinked
    by_cases same : other = index
    · rw [same, Function.update_self] at stillLinked
      exact absurd rfl stillLinked
    · rw [Function.update_of_ne same] at stillLinked
      have member := complete other stillLinked
      rw [queueEq] at member
      cases member with
      | head => exact absurd rfl same
      | tail _ member => exact member

/-- The head of the list is a pending slot. -/
theorem Threaded.head (threaded : Threaded slots (some index)) :
    ∃ slot next, slots[index]? = some slot ∧
      slot.release = .pending next := by
  obtain ⟨queue, chain, _⟩ := threaded
  obtain ⟨next, _, _, linked, _⟩ := Chain.some_iff.mp chain
  obtain ⟨slot, present, waits⟩ := Option.bind_eq_some_iff.mp linked
  refine ⟨slot, next, present, ?_⟩
  cases release : slot.release with
  | live =>
      rw [release] at waits
      cases waits
  | pending follower =>
      rw [release] at waits
      cases waits
      rfl

/-- An empty list leaves no slot pending. -/
theorem Threaded.countP_queued (threaded : Threaded slots none) :
    slots.countP RootSlot.queued = 0 := by
  obtain ⟨queue, chain, complete⟩ := threaded
  rw [Chain.nil_iff.mp chain] at complete
  apply List.countP_eq_zero.mpr
  intro slot member queued
  obtain ⟨index, present⟩ := List.mem_iff_getElem?.mp member
  have linked : links slots index ≠ none := by
    rw [links, present, Option.bind_some]
    exact Option.isSome_iff_ne_none.mp queued
  exact List.not_mem_nil (complete index linked)

/-- A property of every slot, after one of them was replaced. -/
theorem forall_set {holds : RootSlot Value → Prop}
    (all : ∀ slot ∈ slots, holds slot) (here : holds new) :
    ∀ slot ∈ slots.set index new, holds slot := by
  intro slot member
  cases List.mem_or_eq_of_mem_set member with
  | inl before => exact all slot before
  | inr same =>
      rw [same]
      exact here

end Slots

section Operations

variable {registry : RootRegistry Value} {id : RootId} {value : Value}

theorem store_getElem? (registry : RootRegistry Value) (index : Nat) :
    registry.store.cells[index]? =
      (registry.slots[index]?).map RootSlot.cell :=
  List.getElem?_map ..

/-- A fresh registry has room for as many roots as it may hold. -/
theorem sound_new (limit : Nat) :
    Sound (new limit : RootRegistry Value) := by
  refine ⟨(Store.ledger_empty).toSound, Nat.zero_le _, ?_, ?_, rfl, rfl⟩
  · intro slot member
    cases member
  · exact ⟨[], .nil, fun index linked => absurd rfl linked⟩

/-- A free slot is empty, and does not wait for a release. -/
theorem Sound.of_free (sound : registry.Sound) {index : Nat}
    (listed : index ∈ registry.free) :
    ∃ slot, registry.slots[index]? = some slot ∧ slot.value = none ∧
      slot.release = .live := by
  obtain ⟨cell, cellPresent, vacant, _⟩ :=
    (sound.store.mem_free_iff index).mp listed
  rw [store_getElem?] at cellPresent
  obtain ⟨slot, present, rfl⟩ := Option.map_eq_some_iff.mp cellPresent
  refine ⟨slot, present, vacant, ?_⟩
  by_contra waits
  exact sound.coherent slot (List.mem_of_getElem? present) waits vacant

/-- The registry after a value was put into a free slot. -/
def fill (registry : RootRegistry Value) (index : Nat) (free : List Nat)
    (slot : RootSlot Value) (value : Value) : RootRegistry Value :=
  { registry with
    slots := registry.slots.set index { slot with value := some value }
    free := free
    live := registry.live + 1 }

theorem fill_step {index : Nat} {free : List Nat} {slot : RootSlot Value}
    (top : registry.free = index :: free)
    (present : registry.slots[index]? = some slot)
    (empty : slot.value = none) :
    registry.store.Step [(⟨index, slot.generation⟩, value)] []
      (registry.fill index free slot value).store := by
  have stored : (registry.fill index free slot value).store =
      ⟨registry.store.cells.set index ⟨slot.generation, some value⟩, free⟩ :=
    congrArg (Store.mk · free) (List.map_set ..)
  rw [stored]
  apply Store.Step.reused value top
  rw [store_getElem?, present, Option.map_some, RootSlot.cell, empty]

theorem Sound.fill (sound : registry.Sound) {index : Nat} {free : List Nat}
    {slot : RootSlot Value} (top : registry.free = index :: free)
    (present : registry.slots[index]? = some slot)
    (empty : slot.value = none) (isLive : slot.release = .live) :
    (registry.fill index free slot value).Sound where
  store := sound.store.step (fill_step top present empty)
  slotsFit := by
    rw [RootRegistry.fill, List.length_set]
    exact sound.slotsFit
  coherent := forall_set sound.coherent fun waits => absurd isLive waits
  threaded := sound.threaded.set_same present rfl
  live := by
    have before : slot.filled = false := by
      rw [RootSlot.filled, empty]
      rfl
    rw [RootRegistry.fill, countP_set_rise present before rfl, sound.live]
  pending := by
    refine sound.pending.trans (countP_set_stay present ?_).symm
    rfl

/-- The registry after a value was put into a slot of its own. -/
def grow (registry : RootRegistry Value) (value : Value) :
    RootRegistry Value :=
  { registry with
    slots := registry.slots ++ [⟨1, some value, .live⟩]
    live := registry.live + 1 }

theorem grow_step :
    registry.store.Step [(⟨registry.slots.length, 1⟩, value)] []
      (registry.grow value).store := by
  have stored : (registry.grow value).store =
      { registry.store with
        cells := registry.store.cells ++ [⟨1, some value⟩] } :=
    congrArg (Store.mk · registry.free) List.map_append
  have lengths : registry.store.cells.length = registry.slots.length :=
    List.length_map ..
  rw [stored, ← lengths]
  exact .grown 1 value (by decide)

theorem Sound.grow (sound : registry.Sound)
    (room : registry.slots.length < registry.limit) :
    (registry.grow value).Sound where
  store := sound.store.step grow_step
  slotsFit := by
    rw [RootRegistry.grow, List.length_append, List.length_singleton]
    exact room
  coherent := by
    intro slot member
    cases List.mem_append.mp member with
    | inl before => exact sound.coherent slot before
    | inr same =>
        cases List.mem_singleton.mp same
        exact fun waits => absurd rfl waits
  threaded := sound.threaded.append rfl
  live := by
    rw [RootRegistry.grow, countP_append_single, sound.live]
    rfl
  pending := by
    rw [RootRegistry.grow, countP_append_single, sound.pending]
    rfl

/-- What an insertion does. -/
theorem Sound.insert (sound : registry.Sound) (value : Value) :
    (∃ next id, registry.insert value = .ok (next, .ok id) ∧ next.Sound ∧
      registry.store.Step [(id, value)] [] next.store ∧
      next.limit = registry.limit) ∨
    (registry.free = [] ∧ registry.slots.length = registry.limit ∧
      registry.insert value =
        .ok (registry, .error .persistentRootLimitReached)) := by
  cases freeEq : registry.free with
  | cons index free =>
      have listed : index ∈ registry.free := by
        rw [freeEq]
        exact List.mem_cons_self
      obtain ⟨slot, present, empty, isLive⟩ := sound.of_free listed
      refine Or.inl ⟨registry.fill index free slot value,
        ⟨index, slot.generation⟩, ?_, sound.fill freeEq present empty isLive,
        fill_step freeEq present empty, rfl⟩
      simp only [RootRegistry.insert, freeEq, present, RootRegistry.fill]
  | nil =>
      have fits := sound.slotsFit
      by_cases full : registry.slots.length ≥ registry.limit
      · refine Or.inr ⟨rfl, by omega, ?_⟩
        simp only [RootRegistry.insert, freeEq, if_pos full]
      · refine Or.inl ⟨registry.grow value, ⟨registry.slots.length, 1⟩, ?_,
          sound.grow (by omega), grow_step, rfl⟩
        simp only [RootRegistry.insert, freeEq, if_neg full,
          RootRegistry.grow]

theorem get_eq_some_iff : registry.get id = some value ↔
    ∃ slot, registry.slots[id.slot]? = some slot ∧
      slot.generation = id.generation ∧ slot.release = .live ∧
      slot.value = some value := by
  unfold RootRegistry.get
  constructor
  · intro found
    split at found
    · cases found
    · rename_i slot present
      split at found
      · rename_i named
        exact ⟨slot, present, named.1, named.2, found⟩
      · cases found
  · intro found
    obtain ⟨slot, present, same, isLive, filled⟩ := found
    rw [present]
    simp only [if_pos (And.intro same isLive), filled]

/-- An identity that resolves names a value of the store. -/
theorem store_of_get (resolves : registry.get id = some value) :
    registry.store.cells[id.slot]? = some ⟨id.generation, some value⟩ := by
  obtain ⟨slot, present, same, _, filled⟩ := get_eq_some_iff.mp resolves
  rw [store_getElem?, present, Option.map_some, RootSlot.cell, same, filled]

/-- The registry after the value of a slot was taken. -/
def vacate (registry : RootRegistry Value) (index : Nat)
    (slot : RootSlot Value) : RootRegistry Value :=
  { registry with
    slots := registry.slots.set index
      { slot with value := none, generation := succ slot.generation }
    live := registry.live - 1
    free := if succ slot.generation ≠ exhausted 64
      then index :: registry.free else registry.free }

theorem remove_of_get {slot : RootSlot Value}
    (present : registry.slots[id.slot]? = some slot)
    (same : slot.generation = id.generation) (isLive : slot.release = .live)
    (filled : slot.value = some value) :
    registry.remove id = (registry.vacate id.slot slot, some value) := by
  have named : ¬(slot.generation ≠ id.generation ∨ slot.release ≠ .live) := by
    rw [same, isLive]
    simp
  simp only [RootRegistry.remove, present, if_neg named, filled, vacate]

theorem remove_of_get_none (unresolved : registry.get id = none) :
    registry.remove id = (registry, none) := by
  unfold RootRegistry.remove
  split
  · rfl
  · rename_i slot present
    split
    · rfl
    · rename_i named
      have resolves : registry.get id = slot.value := by
        simp only [RootRegistry.get, present]
        rw [if_pos]
        by_contra other
        exact named (by tauto)
      rw [unresolved] at resolves
      rw [← resolves]

theorem vacate_step {slot : RootSlot Value}
    (present : registry.slots[id.slot]? = some slot)
    (same : slot.generation = id.generation)
    (filled : slot.value = some value) :
    registry.store.Step [] [(id, value)]
      (registry.vacate id.slot slot).store := by
  have stored : (registry.vacate id.slot slot).store =
      ⟨registry.store.cells.set id.slot ⟨succ id.generation, none⟩,
        if succ id.generation = exhausted 64 then registry.store.free
        else id.slot :: registry.store.free⟩ := by
    rw [← same, ← ite_not]
    exact congrArg (Store.mk · _) (List.map_set ..)
  rw [stored]
  apply Store.Step.vacated
  rw [store_getElem?, present, Option.map_some, RootSlot.cell, same, filled]

theorem Sound.vacate (sound : registry.Sound) {slot : RootSlot Value}
    (present : registry.slots[id.slot]? = some slot)
    (same : slot.generation = id.generation) (isLive : slot.release = .live)
    (filled : slot.value = some value) :
    (registry.vacate id.slot slot).Sound where
  store := sound.store.step (vacate_step present same filled)
  slotsFit := by
    rw [RootRegistry.vacate, List.length_set]
    exact sound.slotsFit
  coherent := forall_set sound.coherent fun waits => absurd isLive waits
  threaded := sound.threaded.set_same present rfl
  live := by
    have before : slot.filled = true := by
      rw [RootSlot.filled, filled]
      rfl
    have live := sound.live
    have falls : (registry.vacate id.slot slot).slots.countP RootSlot.filled +
        1 = registry.slots.countP RootSlot.filled :=
      countP_set_fall present before rfl
    rw [← falls] at live
    exact (congrArg (· - 1) live).trans (Nat.add_sub_cancel ..)
  pending := by
    refine sound.pending.trans (countP_set_stay present ?_).symm
    rfl

/-- What a removal does. -/
theorem Sound.remove (sound : registry.Sound)
    (resolves : registry.get id = some value) :
    ∃ next, registry.remove id = (next, some value) ∧ next.Sound ∧
      registry.store.Step [] [(id, value)] next.store ∧
      next.limit = registry.limit ∧ next.pending = registry.pending ∧
      next.pendingHead = registry.pendingHead := by
  obtain ⟨slot, present, same, isLive, filled⟩ := get_eq_some_iff.mp resolves
  exact ⟨_, remove_of_get present same isLive filled,
    sound.vacate present same isLive filled, vacate_step present same filled,
    rfl, rfl, rfl⟩

/-- The registry after the value of a slot was queued for its release. -/
def enqueue (registry : RootRegistry Value) (index : Nat)
    (slot : RootSlot Value) : RootRegistry Value :=
  { registry with
    slots := registry.slots.set index
      { slot with release := .pending registry.pendingHead }
    pendingHead := some index
    pending := registry.pending + 1 }

theorem requestRelease_of_get {slot : RootSlot Value}
    (present : registry.slots[id.slot]? = some slot)
    (same : slot.generation = id.generation) (isLive : slot.release = .live)
    (filled : slot.value = some value) :
    registry.requestRelease id = registry.enqueue id.slot slot := by
  have named : ¬(slot.generation ≠ id.generation ∨ slot.value.isNone ∨
      slot.release ≠ .live) := by
    rw [same, isLive, filled]
    simp
  simp only [RootRegistry.requestRelease, present, if_neg named, enqueue]

theorem requestRelease_of_get_none (unresolved : registry.get id = none) :
    registry.requestRelease id = registry := by
  unfold RootRegistry.requestRelease
  split
  · rfl
  · rename_i slot present
    split
    · rfl
    · rename_i named
      have resolves : registry.get id = slot.value := by
        simp only [RootRegistry.get, present]
        rw [if_pos]
        by_contra other
        exact named (by tauto)
      rw [unresolved] at resolves
      exact absurd (Or.inr (Or.inl (by rw [← resolves]; rfl))) named

/-- A release moves no value and uses up no identity. -/
theorem enqueue_store {index : Nat} {slot : RootSlot Value}
    (present : registry.slots[index]? = some slot) :
    (registry.enqueue index slot).store = registry.store :=
  congrArg (Store.mk · registry.free) (cells_set_same present rfl)

theorem Sound.enqueue (sound : registry.Sound) {slot : RootSlot Value}
    (present : registry.slots[id.slot]? = some slot)
    (isLive : slot.release = .live) (filled : slot.value = some value) :
    (registry.enqueue id.slot slot).Sound where
  store := by
    rw [enqueue_store present]
    exact sound.store
  slotsFit := by
    rw [RootRegistry.enqueue, List.length_set]
    exact sound.slotsFit
  coherent := forall_set sound.coherent fun _ => by simp [filled]
  threaded := sound.threaded.push present isLive rfl
  live := by
    refine sound.live.trans (countP_set_stay present ?_).symm
    rfl
  pending := by
    have before : slot.queued = false := by
      rw [RootSlot.queued, isLive]
      rfl
    rw [RootRegistry.enqueue, countP_set_rise present before rfl,
      sound.pending]

/-- What was asked for its release resolves to nothing. -/
theorem get_requestRelease : (registry.requestRelease id).get id = none := by
  cases resolves : registry.get id with
  | none => rw [requestRelease_of_get_none resolves, resolves]
  | some value =>
      obtain ⟨slot, present, same, isLive, filled⟩ :=
        get_eq_some_iff.mp resolves
      rw [requestRelease_of_get present same isLive filled]
      obtain ⟨bound, _⟩ := List.getElem?_eq_some_iff.mp present
      refine Option.eq_none_iff_forall_ne_some.mpr ?_
      intro found named
      obtain ⟨slot, here, _, isLive, _⟩ := get_eq_some_iff.mp named
      rw [enqueue, List.getElem?_set_self bound] at here
      cases here
      cases isLive

/-- A release that is requested is queued first, with its value. -/
theorem requestRelease_queued (resolves : registry.get id = some value) :
    (registry.requestRelease id).pendingHead = some id.slot ∧
      (registry.requestRelease id).pending = registry.pending + 1 ∧
      ∃ slot, (registry.requestRelease id).slots[id.slot]? = some slot ∧
        slot.generation = id.generation ∧ slot.value = some value ∧
        slot.release = .pending registry.pendingHead := by
  obtain ⟨slot, present, same, isLive, filled⟩ := get_eq_some_iff.mp resolves
  obtain ⟨bound, _⟩ := List.getElem?_eq_some_iff.mp present
  rw [requestRelease_of_get present same isLive filled]
  exact ⟨rfl, rfl, { slot with release := .pending registry.pendingHead },
    List.getElem?_set_self bound, same, filled, rfl⟩

/-- What a request for a release does. -/
theorem Sound.requestRelease (sound : registry.Sound) (id : RootId) :
    (registry.requestRelease id).Sound ∧
      (registry.requestRelease id).store = registry.store ∧
      (registry.requestRelease id).limit = registry.limit := by
  cases resolves : registry.get id with
  | none =>
      rw [requestRelease_of_get_none resolves]
      exact ⟨sound, rfl, rfl⟩
  | some value =>
      obtain ⟨slot, present, same, isLive, filled⟩ :=
        get_eq_some_iff.mp resolves
      rw [requestRelease_of_get present same isLive filled]
      exact ⟨sound.enqueue present isLive filled, enqueue_store present, rfl⟩

/-- The registry after the head of its list was unlinked. -/
def dequeue (registry : RootRegistry Value) (index : Nat)
    (slot : RootSlot Value) (next : Option Nat) : RootRegistry Value :=
  { registry with
    pendingHead := next
    slots := registry.slots.set index { slot with release := .live }
    pending := registry.pending - 1 }

theorem dequeue_store {index : Nat} {slot : RootSlot Value}
    {next : Option Nat} (present : registry.slots[index]? = some slot) :
    (registry.dequeue index slot next).store = registry.store :=
  congrArg (Store.mk · registry.free) (cells_set_same present rfl)

theorem Sound.dequeue (sound : registry.Sound) {index : Nat}
    {slot : RootSlot Value} {next : Option Nat}
    (head : registry.pendingHead = some index)
    (present : registry.slots[index]? = some slot)
    (waits : slot.release = .pending next) :
    (registry.dequeue index slot next).Sound where
  store := by
    rw [dequeue_store present]
    exact sound.store
  slotsFit := by
    rw [RootRegistry.dequeue, List.length_set]
    exact sound.slotsFit
  coherent := forall_set sound.coherent fun waits => absurd rfl waits
  threaded := by
    have threaded := sound.threaded
    rw [head] at threaded
    exact threaded.pop present waits rfl
  live := by
    refine sound.live.trans (countP_set_stay present ?_).symm
    rfl
  pending := by
    have before : slot.queued = true := by
      rw [RootSlot.queued, waits]
      rfl
    have pending := sound.pending
    have falls : (registry.dequeue index slot next).slots.countP
        RootSlot.queued + 1 = registry.slots.countP RootSlot.queued :=
      countP_set_fall present before rfl
    rw [← falls] at pending
    exact (congrArg (· - 1) pending).trans (Nat.add_sub_cancel ..)

/-- What taking a pending release does. -/
theorem Sound.takePending (sound : registry.Sound) :
    (registry.pendingHead = none ∧
      registry.takePending = .ok (registry, none)) ∨
    ∃ index slot value next, registry.pendingHead = some index ∧
      registry.slots[index]? = some slot ∧ slot.value = some value ∧
      registry.takePending = .ok (next, some value) ∧ next.Sound ∧
      registry.store.Step [] [(⟨index, slot.generation⟩, value)] next.store ∧
      next.limit = registry.limit ∧ next.pending + 1 = registry.pending := by
  cases head : registry.pendingHead with
  | none =>
      refine Or.inl ⟨rfl, ?_⟩
      simp only [RootRegistry.takePending, head]
  | some index =>
      have threaded := sound.threaded
      rw [head] at threaded
      obtain ⟨slot, next, present, waits⟩ := threaded.head
      obtain ⟨bound, _⟩ := List.getElem?_eq_some_iff.mp present
      have pends : slot.release ≠ .live := by
        rw [waits]
        exact nofun
      obtain ⟨value, filled⟩ := Option.ne_none_iff_exists'.mp
        (sound.coherent slot (List.mem_of_getElem? present) pends)
      have unlinked := sound.dequeue head present waits
      have resolves : (registry.dequeue index slot next).get
          ⟨index, slot.generation⟩ = some value :=
        get_eq_some_iff.mpr ⟨{ slot with release := .live },
          List.getElem?_set_self bound, rfl, rfl, filled⟩
      obtain ⟨last, removed, soundLast, moved, limit, pending, _⟩ :=
        unlinked.remove resolves
      rw [dequeue_store present] at moved
      refine Or.inr ⟨index, slot, value, last, rfl, present, filled, ?_,
        soundLast, moved, limit, ?_⟩
      · rw [← removed]
        simp only [RootRegistry.takePending, head, present, waits,
          RootRegistry.dequeue]
      · rw [pending]
        have queued : slot.queued = true := by
          rw [RootSlot.queued, waits]
          rfl
        have positive : 0 < registry.pending := by
          rw [sound.pending]
          exact countP_pos_of_present _ present queued
        exact Nat.sub_add_cancel positive

theorem freeSlots_eq (slots : List (RootSlot Value)) :
    freeSlots slots = Store.reusable (slots.map RootSlot.cell) := by
  rw [freeSlots, Store.reusable, List.zipIdx_map, List.filter_map,
    List.map_map]
  rfl

/-- A drain sweeps the store. -/
theorem drain_store (registry : RootRegistry Value) :
    (registry.drain).1.store =
      ⟨registry.store.cells.map Store.renewed,
        Store.reusable (registry.store.cells.map Store.renewed)⟩ := by
  have cells : (registry.slots.map drained).map RootSlot.cell =
      registry.store.cells.map Store.renewed := by
    rw [RootRegistry.store, List.map_map, List.map_map]
    rfl
  rw [← cells, ← freeSlots_eq]
  rfl

theorem drain_values (registry : RootRegistry Value) :
    (registry.drain).2 = registry.store.held.map Prod.snd := by
  rw [Store.held_values, RootRegistry.store, List.filterMap_map]
  rfl

theorem drain_step (registry : RootRegistry Value) :
    registry.store.Step [] registry.store.held (registry.drain).1.store := by
  rw [drain_store]
  exact .swept

theorem Sound.drain (sound : registry.Sound) : (registry.drain).1.Sound where
  store := sound.store.step registry.drain_step
  slotsFit := by
    rw [RootRegistry.drain, List.length_map]
    exact sound.slotsFit
  coherent := by
    intro slot member
    obtain ⟨old, _, rfl⟩ := List.mem_map.mp member
    exact fun waits => absurd rfl waits
  threaded := by
    refine ⟨[], .nil, ?_⟩
    intro index linked
    obtain ⟨next, linkedTo⟩ := Option.ne_none_iff_exists'.mp linked
    obtain ⟨slot, present, waits⟩ := Option.bind_eq_some_iff.mp linkedTo
    obtain ⟨old, _, rfl⟩ := List.mem_map.mp (List.mem_of_getElem? present)
    cases waits
  live := by
    refine (List.countP_eq_zero.mpr ?_).symm
    intro slot member
    obtain ⟨old, _, rfl⟩ := List.mem_map.mp member
    exact Bool.false_ne_true
  pending := by
    refine (List.countP_eq_zero.mpr ?_).symm
    intro slot member
    obtain ⟨old, _, rfl⟩ := List.mem_map.mp member
    exact Bool.false_ne_true

end Operations

end RootRegistry

end RustJsi.BackendJsc
