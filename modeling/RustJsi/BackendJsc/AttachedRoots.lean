import RustJsi.BackendJsc.AttachedInversion
import RustJsi.BackendJsc.AttachedSound

/-!
# The roots of an attachment at work

The common backend and the `Context` share one registry.  A root of the common
backend leaves it by its own release only: what waits for the maintenance of an
entry are the roots of leases.
-/

namespace RustJsi.BackendJsc

open Generational

namespace RootRegistry

variable {Value : Type*} {registry next : RootRegistry Value}
  {id other : RootId} {value : Value}

/-- The identity names a slot that is queued for its release. -/
def Waits (registry : RootRegistry Value) (id : RootId) : Prop :=
  ∃ slot, registry.slots[id.slot]? = some slot ∧
    slot.generation = id.generation ∧ slot.release ≠ .live

/-- An identity resolves to its value in the store, unless it waits. -/
theorem get_eq_some_iff_store : registry.get id = some value ↔
    registry.store.get id = some value ∧ ¬registry.Waits id := by
  rw [get_eq_some_iff, Store.get_eq_some_iff, store_getElem?]
  constructor
  · intro found
    obtain ⟨slot, present, same, isLive, filled⟩ := found
    refine ⟨?_, ?_⟩
    · rw [present, Option.map_some, RootSlot.cell, same, filled]
    · intro waits
      obtain ⟨other, here, _, queued⟩ := waits
      rw [present] at here
      cases here
      exact queued isLive
  · intro found
    obtain ⟨stored, calm⟩ := found
    obtain ⟨slot, present, cell⟩ := Option.map_eq_some_iff.mp stored
    obtain ⟨generation, filled⟩ := Cell.mk.inj cell
    refine ⟨slot, present, generation, ?_, filled⟩
    by_contra queued
    exact calm ⟨slot, present, generation, queued⟩

theorem waits_of_set {slots : List (RootSlot Value)} {index : Nat}
    {new : RootSlot Value}
    (waits : ∃ slot, (slots.set index new)[id.slot]? = some slot ∧
      slot.generation = id.generation ∧ slot.release ≠ .live) :
    (id = ⟨index, new.generation⟩ ∧ new.release ≠ .live) ∨
      ∃ slot, slots[id.slot]? = some slot ∧
        slot.generation = id.generation ∧ slot.release ≠ .live := by
  obtain ⟨slot, present, same, queued⟩ := waits
  by_cases here : index = id.slot
  · subst here
    obtain ⟨bound, _⟩ := List.getElem?_eq_some_iff.mp present
    rw [List.length_set] at bound
    rw [List.getElem?_set_self bound] at present
    cases present
    refine Or.inl ⟨?_, queued⟩
    rw [same]
  · rw [List.getElem?_set_ne here] at present
    exact Or.inr ⟨slot, present, same, queued⟩

theorem insert_waits {result : Except RuntimeError RootId}
    (inserted : registry.insert value = .ok (next, result))
    (waits : next.Waits id) : registry.Waits id := by
  unfold RootRegistry.insert at inserted
  split at inserted
  · split at inserted
    · cases inserted
    · rename_i index _ _ slot present
      cases inserted
      cases waits_of_set waits with
      | inl new =>
          obtain ⟨rfl, queued⟩ := new
          exact ⟨slot, present, rfl, queued⟩
      | inr old => exact old
  · split at inserted
    · cases inserted
      exact waits
    · cases inserted
      obtain ⟨slot, present, same, queued⟩ := waits
      by_cases below : id.slot < registry.slots.length
      · rw [List.getElem?_append_left below] at present
        exact ⟨slot, present, same, queued⟩
      · rw [List.getElem?_append_right (Nat.le_of_not_lt below)] at present
        cases List.mem_singleton.mp (List.mem_of_getElem? present)
        exact absurd rfl queued

theorem remove_waits {found : Option Value}
    (removed : registry.remove id = (next, found))
    (waits : next.Waits other) : registry.Waits other := by
  unfold RootRegistry.remove at removed
  split at removed
  · cases removed
    exact waits
  · split at removed
    · cases removed
      exact waits
    · rename_i slot present named
      split at removed
      · cases removed
        exact waits
      · cases removed
        cases waits_of_set waits with
        | inl new => exact absurd (Or.inr new.2) named
        | inr old => exact old

theorem requestRelease_waits
    (waits : (registry.requestRelease id).Waits other) :
    other = id ∨ registry.Waits other := by
  unfold RootRegistry.requestRelease at waits
  split at waits
  · exact Or.inr waits
  · rename_i slot present
    split at waits
    · exact Or.inr waits
    · rename_i named
      cases waits_of_set waits with
      | inl new =>
          have same : slot.generation = id.generation := by
            by_contra apart
            exact named (Or.inl apart)
          refine Or.inl (new.1.trans ?_)
          rw [same]
      | inr old => exact Or.inr old

theorem takePending_waits {found : Option Value}
    (taken : registry.takePending = .ok (next, found))
    (waits : next.Waits other) : registry.Waits other := by
  unfold RootRegistry.takePending at taken
  split at taken
  · cases taken
    exact waits
  · split at taken
    · cases taken
    · split at taken
      · cases taken
      · have removed := Except.ok.inj taken
        cases waits_of_set (remove_waits removed waits) with
        | inl new => exact absurd rfl new.2
        | inr old => exact old

/-- The root at the head of the list waits. -/
theorem Sound.waits_head (sound : registry.Sound) {index : Nat}
    {slot : RootSlot Value} (head : registry.pendingHead = some index)
    (present : registry.slots[index]? = some slot) :
    registry.Waits ⟨index, slot.generation⟩ := by
  have threaded := sound.threaded
  rw [head] at threaded
  obtain ⟨queued, after, here, waits⟩ := threaded.head
  rw [present] at here
  cases here
  refine ⟨slot, present, rfl, ?_⟩
  rw [waits]
  nofun

/-! ## Roots and leases -/

/-- The identities the registry has issued: those of roots, and those of
leases, which alone may wait. -/
structure Shares (registry : RootRegistry Value) (known : RootId → Prop)
    (leases : List RootId) : Prop where
  ledger : ∃ issued returned,
    Store.Ledger issued returned registry.store ∧
      ∀ id, known id ∨ id ∈ leases → id ∈ issued.map Prod.fst
  waits : ∀ id, registry.Waits id → id ∈ leases
  apart : ∀ id, known id → id ∉ leases

section Sharing

variable {known : RootId → Prop} {leases : List RootId}

theorem shares_new (limit : Nat) :
    Shares (new limit : RootRegistry Value) (fun _ => False) [] := by
  refine ⟨⟨[], [], Store.ledger_empty, ?_⟩, ?_, nofun⟩
  · intro id known
    exact known.elim False.elim nofun
  · intro id waits
    obtain ⟨slot, present, _⟩ := waits
    cases present

/-- A root that is known resolves to what the store has for it. -/
theorem Shares.get_known (shares : registry.Shares known leases)
    (isKnown : known id) : registry.get id = registry.store.get id := by
  have calm : ¬registry.Waits id :=
    fun waits => shares.apart id isKnown (shares.waits id waits)
  apply Option.ext
  intro value
  rw [get_eq_some_iff_store]
  exact and_iff_left calm

theorem Shares.congr (shares : registry.Shares known leases)
    {knownNext : RootId → Prop} (same : ∀ id, knownNext id ↔ known id) :
    registry.Shares knownNext leases := by
  obtain ⟨issued, returned, ledger, lists⟩ := shares.ledger
  refine ⟨⟨issued, returned, ledger, ?_⟩, shares.waits, ?_⟩
  · intro id named
    exact lists id (named.imp_left (same id).mp)
  · intro id isKnown
    exact shares.apart id ((same id).mp isKnown)

/-- An identity that is handed out is known to nobody. -/
theorem Shares.fresh (shares : registry.Shares known leases)
    (moved : registry.store.Step [(id, value)] [] next.store) :
    ¬known id ∧ id ∉ leases := by
  obtain ⟨issued, returned, ledger, lists⟩ := shares.ledger
  have once := (ledger.step moved).issuedOnce
  rw [List.map_append, List.nodup_append] at once
  have new : id ∉ issued.map Prod.fst := fun old =>
    once.2.2 id old id (List.mem_singleton.mpr rfl) rfl
  exact ⟨fun old => new (lists id (Or.inl old)),
    fun old => new (lists id (Or.inr old))⟩

theorem Shares.insert (shares : registry.Shares known leases)
    (moved : registry.store.Step [(id, value)] [] next.store)
    (calm : ∀ other, next.Waits other → registry.Waits other) :
    next.Shares known (leases ++ [id]) ∧
      next.Shares (fun other => known other ∨ other = id) leases := by
  obtain ⟨issued, returned, ledger, lists⟩ := shares.ledger
  obtain ⟨unknown, unleased⟩ := shares.fresh moved
  have ledgerNext := ledger.step moved
  have listed : ∀ other, (known other ∨ other ∈ leases) ∨ other = id →
      other ∈ (issued ++ [(id, value)]).map Prod.fst := by
    intro other named
    rw [List.map_append, List.mem_append]
    cases named with
    | inl old => exact Or.inl (lists other old)
    | inr new => exact Or.inr (List.mem_singleton.mpr new)
  refine ⟨⟨⟨_, _, ledgerNext, ?_⟩, ?_, ?_⟩, ⟨⟨_, _, ledgerNext, ?_⟩, ?_, ?_⟩⟩
  · intro other named
    rw [List.mem_append, List.mem_singleton, ← or_assoc] at named
    exact listed other named
  · intro other waits
    exact List.mem_append_left _ (shares.waits other (calm other waits))
  · intro other isKnown leased
    cases List.mem_append.mp leased with
    | inl old => exact shares.apart other isKnown old
    | inr new =>
        rw [List.mem_singleton.mp new] at isKnown
        exact unknown isKnown
  · intro other named
    rw [or_right_comm] at named
    exact listed other named
  · intro other waits
    exact shares.waits other (calm other waits)
  · intro other isKnown leased
    cases isKnown with
    | inl old => exact shares.apart other old leased
    | inr new =>
        rw [new] at leased
        exact unleased leased

theorem Shares.remove (shares : registry.Shares known leases)
    (moved : registry.store.Step [] [(id, value)] next.store)
    (calm : ∀ other, next.Waits other → registry.Waits other) :
    next.Shares known leases := by
  obtain ⟨issued, returned, ledger, lists⟩ := shares.ledger
  have ledgerNext := ledger.step moved
  rw [List.append_nil] at ledgerNext
  refine ⟨⟨_, _, ledgerNext, lists⟩, ?_, shares.apart⟩
  intro other waits
  exact shares.waits other (calm other waits)

/-- Only a lease is asked to wait. -/
theorem Shares.requestRelease (shares : registry.Shares known leases)
    (sound : registry.Sound) (leased : id ∈ leases) :
    (registry.requestRelease id).Shares known leases := by
  obtain ⟨issued, returned, ledger, lists⟩ := shares.ledger
  refine ⟨⟨issued, returned, ?_, lists⟩, ?_, shares.apart⟩
  · rw [(sound.requestRelease id).2.1]
    exact ledger
  · intro other waits
    cases requestRelease_waits waits with
    | inl same =>
        rw [same]
        exact leased
    | inr old => exact shares.waits other old

/-- What is known resolves as before. -/
structure Keeps (registry next : RootRegistry Value)
    (known : RootId → Prop) (leases : List RootId) : Prop where
  shares : next.Shares known leases
  same : ∀ id, known id → next.get id = registry.get id

theorem Shares.keeps (shares : registry.Shares known leases) :
    registry.Keeps registry known leases :=
  ⟨shares, fun _ _ => rfl⟩

theorem Shares.keeps_of_store (shares : registry.Shares known leases)
    {leasesNext : List RootId} (sharesNext : next.Shares known leasesNext)
    (same : ∀ id value, known id →
      (next.store.get id = some value ↔
        registry.store.get id = some value)) :
    registry.Keeps next known leasesNext := by
  refine ⟨sharesNext, ?_⟩
  intro id isKnown
  rw [shares.get_known isKnown, sharesNext.get_known isKnown]
  exact Option.ext fun value => same id value isKnown

/-- A lease is issued. -/
theorem Shares.keeps_insert (shares : registry.Shares known leases)
    (moved : registry.store.Step [(id, value)] [] next.store)
    (calm : ∀ other, next.Waits other → registry.Waits other) :
    registry.Keeps next known (leases ++ [id]) := by
  apply shares.keeps_of_store (shares.insert moved calm).1
  intro other found isKnown
  rw [moved.get_issuing]
  refine or_iff_right ?_
  intro new
  rw [new.1] at isKnown
  exact (shares.fresh moved).1 isKnown

/-- The maintenance of an entry takes a lease, and nothing that is known. -/
theorem Shares.keeps_takePending (shares : registry.Shares known leases)
    (sound : registry.Sound) {found : Option Value}
    (taken : registry.takePending = .ok (next, found)) :
    registry.Keeps next known leases := by
  cases sound.takePending with
  | inl empty =>
      rw [empty.2] at taken
      cases taken
      exact shares.keeps
  | inr removal =>
      obtain ⟨index, slot, value, after, head, present, _, took, _, moved, _⟩ :=
        removal
      have calm : ∀ other, next.Waits other → registry.Waits other :=
        fun _ => takePending_waits taken
      rw [took] at taken
      cases taken
      apply shares.keeps_of_store (shares.remove moved calm)
      intro other found isKnown
      rw [moved.get_returning]
      refine and_iff_right ?_
      intro same
      rw [same] at isKnown
      exact shares.apart _ isKnown
        (shares.waits _ (sound.waits_head head present))

theorem Shares.keeps_requestRelease (shares : registry.Shares known leases)
    (sound : registry.Sound) (leased : id ∈ leases) :
    registry.Keeps (registry.requestRelease id) known leases := by
  apply shares.keeps_of_store (shares.requestRelease sound leased)
  intro other found _
  rw [(sound.requestRelease id).2.1]

/-- A root is issued. -/
theorem Shares.issue (shares : registry.Shares known leases)
    (moved : registry.store.Step [(id, value)] [] next.store)
    (calm : ∀ other, next.Waits other → registry.Waits other) :
    registry.Keeps next known leases ∧
      next.Shares (fun other => known other ∨ other = id) leases ∧
      next.get id = some value := by
  have sharesNext := (shares.insert moved calm).2
  have weaker : next.Shares known leases := by
    obtain ⟨issued, returned, ledger, lists⟩ := sharesNext.ledger
    refine ⟨⟨issued, returned, ledger, ?_⟩, sharesNext.waits, shares.apart⟩
    intro other named
    exact lists other (named.imp_left Or.inl)
  refine ⟨?_, sharesNext, ?_⟩
  · apply shares.keeps_of_store weaker
    intro other found isKnown
    rw [moved.get_issuing]
    refine or_iff_right ?_
    intro new
    rw [new.1] at isKnown
    exact (shares.fresh moved).1 isKnown
  · rw [sharesNext.get_known (Or.inr rfl), moved.get_issuing]
    exact Or.inl ⟨rfl, rfl⟩

/-- A root is released, and names nothing from then on. -/
theorem Shares.release (shares : registry.Shares known leases)
    (moved : registry.store.Step [] [(id, value)] next.store)
    (calm : ∀ other, next.Waits other → registry.Waits other)
    (isKnown : known id) :
    next.Shares known leases ∧ next.get id = none ∧
      ∀ other, known other → other ≠ id →
        next.get other = registry.get other := by
  have sharesNext := shares.remove moved calm
  refine ⟨sharesNext, ?_, ?_⟩
  · rw [sharesNext.get_known isKnown]
    apply Option.eq_none_iff_forall_ne_some.mpr
    intro found named
    exact (moved.get_returning.mp named).1 rfl
  · intro other otherKnown apart
    rw [shares.get_known otherKnown, sharesNext.get_known otherKnown]
    apply Option.ext
    intro found
    rw [moved.get_returning]
    exact and_iff_right apart

end Sharing

end RootRegistry

namespace Attached

variable {Raw Payload : Type*} [DecidableEq Raw]
  {attached next : Attached Raw Payload} {op : Op Raw Payload}
  {reply : Reply Raw Payload} {known : RootId → Prop} {leases : List RootId}

theorem Moves.sameId (moves : attached.Moves op reply next) :
    next.shared.id = attached.shared.id := by
  cases moves with
  | refused top retires =>
      rw [retires.fields]
      rfl
  | rolledBack top retires =>
      rw [retires.fields]
      rfl
  | reclaimed top retires =>
      rw [retires.fields]
      rfl
  | settled under phase retires =>
      rw [retires.fields]
      rfl
  | _ => rfl

theorem Moves.sameRoots (moves : attached.Moves op reply next)
    (quiet : op.usesRoots = false) (running : op.isTeardown = false) :
    next.shared.roots = attached.shared.roots := by
  cases moves with
  | persisted roots => exact absurd (quiet.symm.trans roots) Bool.false_ne_true
  | unrooted roots => exact absurd (quiet.symm.trans roots) Bool.false_ne_true
  | requested roots => exact absurd (quiet.symm.trans roots) Bool.false_ne_true
  | released ends => exact absurd (running.symm.trans ends) Bool.false_ne_true
  | abandoned detaches =>
      rw [detaches] at running
      cases running
  | dropped drops =>
      rw [drops] at running
      cases running
  | refused top retires =>
      rw [retires.fields]
      rfl
  | rolledBack top retires =>
      rw [retires.fields]
      rfl
  | reclaimed top retires =>
      rw [retires.fields]
      rfl
  | settled under phase retires =>
      rw [retires.fields]
      rfl
  | _ => rfl

/-! ## Operations beside the common backend -/

/-- The lease that a `Context` has issued, if it has issued one. -/
def leasedBy (op : Op Raw Payload) (reply : Reply Raw Payload) :
    List RootId :=
  match op, reply with
  | .persist _, .persisted id => [id]
  | _, _ => []

/-- What is done beside the common backend: everything but its own use of the
roots and a teardown.  A lease is one that was issued. -/
def Beside (attached : Attached Raw Payload) (leases : List RootId) :
    Op Raw Payload → Prop
  | .persistValue _ | .release _ => False
  | .dropLease lease =>
      lease.attachment = attached.shared.id → lease.id ∈ leases
  | op => op.isTeardown = false

omit [DecidableEq Raw] in
theorem persist_beside (sound : attached.Sound)
    (shares : attached.shared.roots.Shares known leases) {thread : Nat}
    {value : Local Raw} (performed : attached.persist thread value =
      (reply, next)) :
    attached.shared.roots.Keeps next.shared.roots known
      (leases ++ leasedBy (.persist value : Op Raw Payload) reply) := by
  have refused : ∀ failure : Failure,
      (Reply.failed failure, attached) = (reply, next) →
      attached.shared.roots.Keeps next.shared.roots known
        (leases ++ leasedBy (.persist value : Op Raw Payload) reply) := by
    intro failure same
    cases same
    change attached.shared.roots.Keeps _ known (leases ++ [])
    rw [List.append_nil]
    exact shares.keeps
  unfold persist at performed
  split at performed
  · exact refused _ performed
  · split at performed
    · exact refused _ performed
    · cases sound.roots.insert value.value with
      | inl inserted =>
          obtain ⟨registry, id, inserted, _, moved, _⟩ := inserted
          rw [inserted] at performed
          cases performed
          exact shares.keeps_insert moved
            fun _ => RootRegistry.insert_waits inserted
      | inr full =>
          rw [full.2.2] at performed
          exact refused _ performed

omit [DecidableEq Raw] in
theorem drainRootReleases_beside (sound : attached.Sound)
    (shares : attached.shared.roots.Shares known leases)
    (performed : attached.drainRootReleases = (reply, next)) :
    attached.shared.roots.Keeps next.shared.roots known leases := by
  unfold drainRootReleases at performed
  split at performed
  · cases performed
    exact shares.keeps
  · rename_i registry value taken
    cases value with
    | none =>
        cases performed
        exact shares.keeps_takePending sound.roots taken
    | some value =>
        cases performed
        exact shares.keeps_takePending sound.roots taken

omit [DecidableEq Raw] in
theorem dropLease_beside (sound : attached.Sound)
    (shares : attached.shared.roots.Shares known leases) (thread : Nat)
    {lease : RootLease}
    (leased : lease.attachment = attached.shared.id → lease.id ∈ leases) :
    attached.shared.roots.Keeps
      (attached.shared.dropLease thread lease.runtime lease.attachment
        lease.id).roots known leases := by
  unfold Shared.dropLease
  split
  · split
    · exact shares.keeps
    · rename_i usable
      have own : lease.attachment = attached.shared.id := by
        by_contra apart
        exact usable (Or.inl (Ne.symm apart))
      exact shares.keeps_requestRelease sound.roots (leased own)
  · exact shares.keeps

theorem perform_persist {engine : Engine Raw} {thread : Nat}
    {value : Local Raw}
    (performed : attached.perform engine ⟨thread, .persist value⟩ =
      some (reply, next)) : attached.persist thread value = (reply, next) := by
  cases stack : attached.stack with
  | nil => simp only [perform, stack, reduceCtorEq] at performed
  | cons frame rest =>
      cases frame with
      | context localRoots scopeDepth =>
          simp only [perform, stack] at performed
          exact Option.some.inj performed
      | _ => simp only [perform, stack, reduceCtorEq] at performed

theorem perform_drainRootReleases {engine : Engine Raw} {thread : Nat}
    (performed : attached.perform engine ⟨thread, .drainRootReleases⟩ =
      some (reply, next)) : attached.drainRootReleases = (reply, next) := by
  cases stack : attached.stack with
  | nil => simp only [perform, stack, reduceCtorEq] at performed
  | cons frame rest =>
      cases frame with
      | entry =>
          simp only [perform, stack] at performed
          exact Option.some.inj performed
      | _ => simp only [perform, stack, reduceCtorEq] at performed

/-- What the common backend asks of its innermost scope. -/
theorem perform_scope {engine : Engine Raw} {thread : Nat}
    {op : Op Raw Payload}
    (asks : (∃ value, op = .persistValue value) ∨ (∃ root, op = .release root) ∨
      ∃ root, op = .resolveRoot root)
    (performed : attached.perform engine ⟨thread, op⟩ = some (reply, next)) :
    ∃ roots rest, attached.stack = .scope roots :: rest := by
  cases stack : attached.stack with
  | nil =>
      obtain ⟨value, rfl⟩ | ⟨root, rfl⟩ | ⟨root, rfl⟩ := asks
      all_goals simp only [perform, stack, reduceCtorEq] at performed
  | cons frame rest =>
      cases frame with
      | scope roots => exact ⟨roots, rest, rfl⟩
      | _ =>
          obtain ⟨value, rfl⟩ | ⟨root, rfl⟩ | ⟨root, rfl⟩ := asks
          all_goals simp only [perform, stack, reduceCtorEq] at performed

/-- Nothing that is done beside the common backend changes what its roots
resolve to. -/
theorem Sound.beside (sound : attached.Sound) {engine : Engine Raw}
    (shares : attached.shared.roots.Shares known leases)
    {invocation : Invocation Raw Payload}
    (beside : attached.Beside leases invocation.op)
    (performed : attached.perform engine invocation = some (reply, next)) :
    attached.shared.roots.Keeps next.shared.roots known
      (leases ++ leasedBy invocation.op reply) := by
  have moves := sound.moves performed
  obtain ⟨thread, op⟩ := invocation
  have quiet : op.usesRoots = false → op.isTeardown = false →
      leasedBy op reply = [] →
      attached.shared.roots.Keeps next.shared.roots known
        (leases ++ leasedBy op reply) := by
    intro quiet running silent
    rw [moves.sameRoots quiet running, silent, List.append_nil]
    exact shares.keeps
  cases op with
  | persistValue value => exact beside.elim
  | release root => exact beside.elim
  | persist value =>
      exact persist_beside sound shares (perform_persist performed)
  | drainRootReleases =>
      have keeps := drainRootReleases_beside sound shares
        (perform_drainRootReleases performed)
      rw [← List.append_nil leases] at keeps
      exact keeps
  | dropLease lease =>
      have keeps := dropLease_beside sound shares thread beside
      rw [← List.append_nil leases] at keeps
      cases stack : attached.stack with
      | nil =>
          simp only [perform, stack] at performed
          cases performed
          exact keeps
      | cons frame rest =>
          simp only [perform, stack] at performed
          cases performed
          exact keeps
  | _ => exact quiet rfl beside rfl

omit [DecidableEq Raw]

/-- The registry has a slot to hand out. -/
def rootRoom (attached : Attached Raw Payload) : Bool :=
  !attached.shared.roots.free.isEmpty ||
    attached.shared.roots.slots.length < attached.shared.roots.limit

/-- The budget has a slot to charge. -/
def localRoom (attached : Attached Raw Payload) : Bool :=
  attached.shared.localBudget.used < attached.shared.localBudget.limit &&
    attached.shared.localBudget.used + 1 < 2 ^ 64

/-- A root is issued, unless the limit is reached. -/
theorem Sound.persistValue_cases (sound : attached.Sound)
    (shares : attached.shared.roots.Shares known leases) (raw : Raw) :
    (∃ id next, attached.persistValue ⟨attached.shared.id, raw⟩ =
        (.persisted id, next) ∧
      ¬known id ∧
      attached.shared.roots.Keeps next.shared.roots known leases ∧
      next.shared.roots.Shares (fun other => known other ∨ other = id)
        leases ∧
      next.shared.roots.get id = some raw) ∨
    (attached.persistValue ⟨attached.shared.id, raw⟩ =
        (.failed (.backend (mapRuntimeError .persistentRootLimitReached)),
          attached) ∧
      attached.rootRoom = false) := by
  have own : attached.ensureValue ⟨attached.shared.id, raw⟩ = .ok () :=
    if_pos rfl
  cases sound.roots.insert raw with
  | inl inserted =>
      obtain ⟨registry, id, inserted, _, moved, _⟩ := inserted
      have issued := shares.issue moved
        fun _ => RootRegistry.insert_waits inserted
      refine Or.inl ⟨id,
        { attached with shared.roots := registry }.protect raw, ?_,
        (shares.fresh moved).1, issued⟩
      simp only [persistValue, own, inserted]
  | inr full =>
      obtain ⟨noFree, lengths, refused⟩ := full
      refine Or.inr ⟨?_, ?_⟩
      · simp only [persistValue, own, refused]
      · simp [rootRoom, noFree, lengths]

theorem Sound.release_ok (sound : attached.Sound)
    (shares : attached.shared.roots.Shares known leases)
    {root : JscRoot} (own : root.attachment = attached.shared.id)
    (isKnown : known root.id) {raw : Raw}
    (resolves : attached.shared.roots.get root.id = some raw) :
    ∃ next, attached.release root = (.done, next) ∧
      next.shared.roots.Shares known leases ∧
      next.shared.roots.get root.id = none ∧
      ∀ other, known other → other ≠ root.id →
        next.shared.roots.get other = attached.shared.roots.get other := by
  have owned : attached.ensureRoot root = .ok () := if_pos own
  obtain ⟨registry, removed, _, moved, _⟩ := sound.roots.remove resolves
  refine ⟨{ attached with shared.roots := registry }.unprotect raw, ?_,
    shares.release moved (fun _ => RootRegistry.remove_waits removed) isKnown⟩
  simp only [release, owned, removed]

theorem release_stale {root : JscRoot}
    (own : root.attachment = attached.shared.id)
    (stale : attached.shared.roots.get root.id = none) :
    attached.release root = (.failed (.backend .staleHandle), attached) := by
  have owned : attached.ensureRoot root = .ok () := if_pos own
  simp only [release, owned, RootRegistry.remove_of_get_none stale]

theorem release_foreign {root : JscRoot}
    (foreign : root.attachment ≠ attached.shared.id) :
    attached.release root = (.failed (.backend .wrongBackend), attached) := by
  have refused : attached.ensureRoot root = .error .wrongBackend :=
    if_neg foreign
  simp only [release, refused]

/-- A slot is reserved, unless the limit is reached. -/
theorem reserve_eq (attached : Attached Raw Payload) :
    attached.shared.localBudget.reserve =
      if attached.localRoom then
        .ok (attached.shared.localBudget.charged
          (attached.shared.localBudget.used + 1), ⟨1⟩)
      else .error .localRootLimitReached := by
  simp only [LocalBudget.reserve, LocalBudget.reserveMany, checkedAdd,
    localRoom, one_ne_zero, if_false]
  by_cases machine : attached.shared.localBudget.used + 1 < 2 ^ 64
  · by_cases below : attached.shared.localBudget.used <
        attached.shared.localBudget.limit
    · have fits : ¬attached.shared.localBudget.used + 1 >
          attached.shared.localBudget.limit := by omega
      simp only [if_neg fits, machine, below, decide_true, Bool.and_self,
        if_true]
      rfl
    · have full : attached.shared.localBudget.used + 1 >
          attached.shared.localBudget.limit := by omega
      simp only [if_pos machine, if_pos full, below, decide_false,
        Bool.false_and, Bool.false_eq_true, if_false]
  · simp only [machine, decide_false, Bool.and_false, Bool.false_eq_true,
      if_false]

/-- A root resolves to its value, unless the limit is reached. -/
theorem resolveRoot_cases {roots : LocalRoots Raw}
    {rest : List (Activation Raw Payload)} {root : JscRoot}
    (own : root.attachment = attached.shared.id) {raw : Raw}
    (resolves : attached.shared.roots.get root.id = some raw) :
    (∃ next, attached.resolveRoot (.scope roots) rest root =
        some (.rooted raw, next)) ∨
    (attached.resolveRoot (.scope roots) rest root =
        some (.failed (.backend (mapRuntimeError .localRootLimitReached)),
          attached) ∧
      attached.localRoom = false) := by
  have owned : attached.ensureRoot root = .ok () := if_pos own
  simp only [resolveRoot, owned, resolves, reserve_eq]
  cases attached.localRoom with
  | true => exact Or.inl ⟨_, rfl⟩
  | false => exact Or.inr ⟨rfl, rfl⟩

theorem resolveRoot_stale {holder : Activation Raw Payload}
    {rest : List (Activation Raw Payload)} {root : JscRoot}
    (own : root.attachment = attached.shared.id)
    (stale : attached.shared.roots.get root.id = none) :
    attached.resolveRoot holder rest root =
      some (.failed (.backend .staleHandle), attached) := by
  have owned : attached.ensureRoot root = .ok () := if_pos own
  simp only [resolveRoot, owned, stale]

theorem resolveRoot_foreign {holder : Activation Raw Payload}
    {rest : List (Activation Raw Payload)} {root : JscRoot}
    (foreign : root.attachment ≠ attached.shared.id) :
    attached.resolveRoot holder rest root =
      some (.failed (.backend .wrongBackend), attached) := by
  have refused : attached.ensureRoot root = .error .wrongBackend :=
    if_neg foreign
  simp only [resolveRoot, refused]

end Attached

end RustJsi.BackendJsc
