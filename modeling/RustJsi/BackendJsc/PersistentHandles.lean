import RustJsi.BackendJsc.AttachedRoots
import RustJsi.BackendJsc.NativeStateOwners

/-!
# Persistent handles

A `Persistent` is one of the owners of a lease, and the last of them to be
dropped asks for the release of its root.  A `JscRoot` is copied freely and is
released by name.  Both kinds of handle name slots of the same registry.
-/

namespace RustJsi.BackendJsc

open Counted Generational Interleaving

/-- An attachment with the handles that its callers have. -/
structure Handles (Raw Payload : Type*) where
  attached : Attached Raw Payload
  /-- The counts of the leases, each an `Rc<RootLease>`. -/
  counts : Heap
  leases : List RootLease
  /-- The lease of every `Persistent`, by its number. -/
  persistents : List Nat
  /-- The roots issued to the common backend. -/
  roots : List RootId

inductive HandleOp (Raw Payload : Type*) where
  /-- `Clone` of a `Persistent`. -/
  | clone (persistent : Nat)
  /-- A `Persistent` is dropped, and whether the weak reference of its lease
  can be upgraded. -/
  | drop (persistent : Nat) (upgrades : Bool)
  | resolve (persistent : Nat)
  | call (invocation : Invocation Raw Payload)

namespace Handles

variable {Raw Payload : Type*}

/-- A lease is reached through its `Persistent`s only, and a root that was not
issued here is one of another attachment. -/
def admits (handles : Handles Raw Payload) : Op Raw Payload → Bool
  | .resolve lease | .dropLease lease =>
      lease.attachment ≠ handles.attached.shared.id
  | .resolveRoot root | .release root =>
      root.attachment ≠ handles.attached.shared.id ||
        handles.roots.contains root.id
  | _ => true

/-- The handle that an operation makes. -/
def record (handles : Handles Raw Payload) (op : Op Raw Payload)
    (reply : Reply Raw Payload) (attached : Attached Raw Payload) :
    Handles Raw Payload :=
  match op, reply with
  | .persist _, .persisted id =>
      { attached := attached
        counts := handles.counts.alloc.2
        leases := handles.leases ++
          [⟨some attached.shared.address, attached.shared.id, id⟩]
        persistents := handles.persistents ++ [handles.counts.alloc.1]
        roots := handles.roots }
  | .persistValue _, .persisted id =>
      { handles with attached := attached, roots := handles.roots ++ [id] }
  | _, _ => { handles with attached := attached }

/-- The lease of a `Persistent`, with its number. -/
def leaseOf (handles : Handles Raw Payload) (persistent : Nat) :
    Option (Nat × RootLease) :=
  (handles.persistents[persistent]?).bind fun number =>
    (handles.leases[number]?).map fun lease => (number, lease)

/-- `Drop` of a lease, on the thread that its `Rc` is bound to. -/
def dropLease (attached : Attached Raw Payload) (lease : RootLease)
    (upgrades : Bool) : Attached Raw Payload :=
  { attached with
    shared := attached.shared.dropLease attached.shared.owner
      (if upgrades then lease.runtime else none) lease.attachment lease.id }

/-- One `Persistent` less.  The last one of its lease drops it. -/
def drop (handles : Handles Raw Payload) (persistent number : Nat)
    (lease : RootLease) (upgrades : Bool) : Handles Raw Payload :=
  { handles with
    attached :=
      if handles.counts.strong[number]? = some 1 then
        dropLease handles.attached lease upgrades
      else handles.attached
    counts := handles.counts.drop number
    persistents := handles.persistents.eraseIdx persistent }

variable [DecidableEq Raw]

/-- The owner of an active attachment keeps its record alive. -/
def perform (engine : Engine Raw) (handles : Handles Raw Payload) :
    HandleOp Raw Payload → Option (Reply Raw Payload × Handles Raw Payload)
  | .clone persistent =>
      (handles.leaseOf persistent).map fun (number, _) =>
        (.done, { handles with
          counts := handles.counts.clone number
          persistents := handles.persistents ++ [number] })
  | .drop persistent upgrades =>
      (handles.leaseOf persistent).bind fun (number, lease) =>
        if upgrades || handles.attached.shared.gate.state ≠ .active then
          some (.done, handles.drop persistent number lease upgrades)
        else none
  | .resolve persistent =>
      (handles.leaseOf persistent).bind fun (_, lease) =>
        (handles.attached.perform engine
          ⟨handles.attached.shared.owner, .resolve lease⟩).map
          fun (reply, attached) => (reply, { handles with attached := attached })
  | .call invocation =>
      if handles.admits invocation.op then
        (handles.attached.perform engine invocation).map
          fun (reply, attached) =>
            (reply, handles.record invocation.op reply attached)
      else none

/-- A fresh attachment, for which nobody has a handle. -/
structure Fresh (limits : JscRuntimeLimits) (handles : Handles Raw Payload) :
    Prop where
  attached : Attached.Fresh limits handles.attached
  counts : handles.counts = .new
  leases : handles.leases = []
  persistents : handles.persistents = []
  roots : handles.roots = []

end Handles

variable {Raw Payload : Type*} [DecidableEq Raw]

/-- An attachment under one caller, with the handles of this caller. -/
def handling (engine : Engine Raw) :
    Component (Handles Raw Payload) (HandleOp Raw Payload)
      (Reply Raw Payload) where
  perform := Handles.perform engine

/-- Every run of a fresh attachment and its handles. -/
def handleSystem (engine : Engine Raw) (limits : JscRuntimeLimits) :
    System (Handles Raw Payload)
      (Exchange (HandleOp Raw Payload) (Reply Raw Payload)) :=
  (handling engine).system (Handles.Fresh limits)

namespace RootRegistry

variable {Value : Type*} {registry next : RootRegistry Value}
  {id other : RootId} {value : Value}

/-- A slot that keeps its generation and its release keeps waiting. -/
theorem Waits.set (waits : registry.Waits other) {index : Nat}
    {old new : RootSlot Value}
    (present : registry.slots[index]? = some old)
    (stays : old.release ≠ .live → other.slot = index →
      new.generation = old.generation ∧ new.release ≠ .live) :
    ∃ slot, (registry.slots.set index new)[other.slot]? = some slot ∧
      slot.generation = other.generation ∧ slot.release ≠ .live := by
  obtain ⟨slot, here, same, queued⟩ := waits
  by_cases own : other.slot = index
  · subst own
    rw [here] at present
    cases present
    obtain ⟨generation, release⟩ := stays queued rfl
    obtain ⟨bound, _⟩ := List.getElem?_eq_some_iff.mp here
    exact ⟨new, List.getElem?_set_self bound, generation.trans same, release⟩
  · exact ⟨slot, (List.getElem?_set_ne (Ne.symm own)).trans here, same, queued⟩

theorem Waits.insert {result : Except RuntimeError RootId}
    (waits : registry.Waits other)
    (inserted : registry.insert value = .ok (next, result)) :
    next.Waits other := by
  unfold RootRegistry.insert at inserted
  split at inserted
  · split at inserted
    · cases inserted
    · rename_i slot _ _ entry present
      cases inserted
      exact waits.set present fun queued _ => ⟨rfl, queued⟩
  · split at inserted
    · cases inserted
      exact waits
    · cases inserted
      obtain ⟨slot, present, same, queued⟩ := waits
      obtain ⟨bound, _⟩ := List.getElem?_eq_some_iff.mp present
      exact ⟨slot, (List.getElem?_append_left bound).trans present, same,
        queued⟩

theorem Waits.remove {found : Option Value} (waits : registry.Waits other)
    (removed : registry.remove id = (next, found)) : next.Waits other := by
  unfold RootRegistry.remove at removed
  split at removed
  · cases removed
    exact waits
  · rename_i slot present
    split at removed
    · cases removed
      exact waits
    · rename_i named
      split at removed
      · cases removed
        exact waits
      · cases removed
        exact waits.set present
          fun queued _ => absurd (Or.inr queued) named

theorem Waits.requestRelease (waits : registry.Waits other) :
    (registry.requestRelease id).Waits other := by
  unfold RootRegistry.requestRelease
  split
  · exact waits
  · rename_i slot present
    split
    · exact waits
    · rename_i named
      exact waits.set present
        fun queued _ => absurd (Or.inr (Or.inr queued)) named

/-- Only the head of the list is taken. -/
theorem Waits.takePending (waits : registry.Waits other)
    (sound : registry.Sound) {index : Nat} {slot : RootSlot Value}
    (head : registry.pendingHead = some index)
    (present : registry.slots[index]? = some slot)
    {found : Option Value}
    (taken : registry.takePending = .ok (next, found)) :
    other = ⟨index, slot.generation⟩ ∨ next.Waits other := by
  have threaded := sound.threaded
  rw [head] at threaded
  obtain ⟨queued, after, here, release⟩ := threaded.head
  cases present.symm.trans here
  simp only [RootRegistry.takePending, head, present, release] at taken
  have removed := Except.ok.inj taken
  by_cases own : other = ⟨index, slot.generation⟩
  · exact Or.inl own
  · refine Or.inr (Waits.remove ?_ removed)
    refine waits.set present ?_
    intro _ same
    obtain ⟨there, present', generation, _⟩ := waits
    rw [same, present] at present'
    cases present'
    obtain ⟨otherSlot, otherGeneration⟩ := other
    simp only at same generation
    subst same
    subst generation
    exact absurd rfl own

/-- A drained registry has nothing that waits. -/
theorem not_waits_drain : ¬(registry.drain).1.Waits id := by
  intro waits
  obtain ⟨slot, present, _, queued⟩ := waits
  obtain ⟨old, _, rfl⟩ :=
    List.mem_map.mp (List.mem_of_getElem? present)
  exact queued rfl

end RootRegistry

end RustJsi.BackendJsc
