import RustJsi.Generational.Store
import RustJsi.Host.Entry
import RustJsi.Linked.Chain

/-!
# The registry of persistent roots

A root lives in a slot and is named by the slot and its generation.  A release
that may not enter the engine threads the slot into a list of pending releases,
which the maintenance of a later entry takes from its head.
-/

namespace RustJsi.BackendJsc

open Generational
open RustJsi.Host (GateError)

/-- A failure of the backend that is not a JavaScript exception. -/
inductive RuntimeError where
  | creationFailed
  | nullContext
  | invalidated
  | wrongThread
  | activeEntryConflict
  | wrongRuntime
  | staleHandle
  | identityExhausted
  | host (error : GateError)
  | scopeDepthExceeded
  | persistentRootLimitReached
  | localRootLimitReached
  | callArgumentLimitReached
  | callStringDataLimitReached
  | externalBufferAllocationLimitReached
  | externalBufferByteLimitReached
  | hostFunctionLimitReached
  | nativeStateRegistrationLimitReached
  deriving DecidableEq, Repr

/-- What stops the program instead of failing. -/
inductive Panic where
  | indexOutOfBounds
  | unreachable (message : String)
  deriving DecidableEq, Repr

/-- A slot and a generation, of 64 bits. -/
abbrev RootId : Type :=
  Id 64

inductive RootRelease where
  | live
  | pending (next : Option Nat)
  deriving DecidableEq, Repr

structure RootSlot (Value : Type*) where
  generation : BitVec 64
  value : Option Value
  release : RootRelease

/-- The vectors grow at the end; the free list is kept with its end first. -/
structure RootRegistry (Value : Type*) where
  slots : List (RootSlot Value)
  free : List Nat
  pendingHead : Option Nat
  live : Nat
  pending : Nat
  limit : Nat

namespace RootRegistry

variable {Value : Type*}

def new (limit : Nat) : RootRegistry Value where
  slots := []
  free := []
  pendingHead := none
  live := 0
  pending := 0
  limit := limit

def insert (registry : RootRegistry Value) (value : Value) :
    Except Panic (RootRegistry Value × Except RuntimeError RootId) :=
  match registry.free with
  | slot :: free =>
      match registry.slots[slot]? with
      | none => .error .indexOutOfBounds
      | some entry =>
          .ok ({ registry with
            slots := registry.slots.set slot { entry with value := some value }
            free := free
            live := registry.live + 1 }, .ok ⟨slot, entry.generation⟩)
  | [] =>
      if registry.slots.length ≥ registry.limit then
        .ok (registry, .error .persistentRootLimitReached)
      else
        .ok ({ registry with
          slots := registry.slots ++ [⟨1, some value, .live⟩]
          live := registry.live + 1 }, .ok ⟨registry.slots.length, 1⟩)

def get (registry : RootRegistry Value) (id : RootId) : Option Value :=
  match registry.slots[id.slot]? with
  | none => none
  | some slot =>
      if slot.generation = id.generation ∧ slot.release = .live then
        slot.value
      else none

/-- `slot.generation.saturating_add(1)` is `succ`. -/
def remove (registry : RootRegistry Value) (id : RootId) :
    RootRegistry Value × Option Value :=
  match registry.slots[id.slot]? with
  | none => (registry, none)
  | some slot =>
      if slot.generation ≠ id.generation ∨ slot.release ≠ .live then
        (registry, none)
      else
        match slot.value with
        | none => (registry, none)
        | some value =>
            let generation := succ slot.generation
            ({ registry with
              slots := registry.slots.set id.slot
                { slot with value := none, generation := generation }
              live := registry.live - 1
              free := if generation ≠ exhausted 64
                then id.slot :: registry.free else registry.free },
              some value)

def requestRelease (registry : RootRegistry Value) (id : RootId) :
    RootRegistry Value :=
  match registry.slots[id.slot]? with
  | none => registry
  | some slot =>
      if slot.generation ≠ id.generation ∨ slot.value.isNone ∨
          slot.release ≠ .live then
        registry
      else
        { registry with
          slots := registry.slots.set id.slot
            { slot with release := .pending registry.pendingHead }
          pendingHead := some id.slot
          pending := registry.pending + 1 }

def takePending (registry : RootRegistry Value) :
    Except Panic (RootRegistry Value × Option Value) :=
  match registry.pendingHead with
  | none => .ok (registry, none)
  | some index =>
      match registry.slots[index]? with
      | none => .error .indexOutOfBounds
      | some slot =>
          match slot.release with
          | .live =>
              .error (.unreachable "pending root list contains a live slot")
          | .pending next =>
              .ok (remove { registry with
                pendingHead := next
                slots := registry.slots.set index { slot with release := .live }
                pending := registry.pending - 1 } ⟨index, slot.generation⟩)

/-- What the loop of a drain leaves in a slot. -/
def drained (slot : RootSlot Value) : RootSlot Value where
  release := .live
  value := none
  generation := succ slot.generation

/-- The slots the loop of a drain lists as free, the last one first. -/
def freeSlots (slots : List (RootSlot Value)) : List Nat :=
  ((slots.zipIdx.filter fun (slot, _) =>
    slot.generation ≠ exhausted 64).map Prod.snd).reverse

def drain (registry : RootRegistry Value) :
    RootRegistry Value × List Value :=
  let slots := registry.slots.map drained
  ({ registry with
    free := freeSlots slots
    pendingHead := none
    live := 0
    pending := 0
    slots := slots }, registry.slots.filterMap RootSlot.value)

def counts (registry : RootRegistry Value) : Nat × Nat :=
  (registry.live, registry.pending)

end RootRegistry

end RustJsi.BackendJsc
