import RustJsi.BackendJsc.LocalBalance
import RustJsi.BackendJsc.PersistentTracking

/-!
# Lifetimes of persistent handles

A `Persistent` names the value that was persisted for as long as it is kept
and nothing is torn down.  When the last one of its lease is gone the slot is
queued, and no slot is kept that no handle names and no queue holds.
-/

namespace RustJsi.BackendJsc

open Counted Generational Interleaving

variable {Raw Payload : Type*}

namespace Handles

/-! ## Every run -/

section Runs

variable [DecidableEq Raw] {engine : Engine Raw} {limits : JscRuntimeLimits}
  {handles next : Handles Raw Payload} {op : HandleOp Raw Payload}
  {reply : Reply Raw Payload}

/-- What the caller of the handles does. -/
inductive Uses (engine : Engine Raw) (handles : Handles Raw Payload) :
    HandleOp Raw Payload → Reply Raw Payload → Handles Raw Payload → Prop
  | cloned {persistent number : Nat} {lease : RootLease}
      (here : handles.leaseOf persistent = some (number, lease)) :
      Uses engine handles (.clone persistent) .done
        { handles with
          counts := handles.counts.clone number
          persistents := handles.persistents ++ [number] }
  | dropped {persistent number : Nat} {lease : RootLease} {upgrades : Bool}
      (here : handles.leaseOf persistent = some (number, lease))
      (upgraded : (upgrades || handles.attached.shared.gate.state ≠ .active) =
        true) :
      Uses engine handles (.drop persistent upgrades) .done
        (handles.drop persistent number lease upgrades)
  | resolved {persistent number : Nat} {lease : RootLease}
      {reply : Reply Raw Payload} {attached : Attached Raw Payload}
      (here : handles.leaseOf persistent = some (number, lease))
      (performed : handles.attached.perform engine
        ⟨handles.attached.shared.owner, .resolve lease⟩ =
          some (reply, attached)) :
      Uses engine handles (.resolve persistent) reply
        { handles with attached := attached }
  | called {invocation : Invocation Raw Payload} {reply : Reply Raw Payload}
      {attached : Attached Raw Payload}
      (admits : handles.admits invocation.op = true)
      (performed : handles.attached.perform engine invocation =
        some (reply, attached)) :
      Uses engine handles (.call invocation) reply
        (handles.record invocation.op reply attached)

theorem uses_of_perform
    (performed : handles.perform engine op = some (reply, next)) :
    handles.Uses engine op reply next := by
  cases op with
  | clone persistent =>
      obtain ⟨⟨number, lease⟩, here, same⟩ :=
        Option.map_eq_some_iff.mp performed
      cases same
      exact .cloned here
  | drop persistent upgrades =>
      obtain ⟨⟨number, lease⟩, here, same⟩ :=
        Option.bind_eq_some_iff.mp performed
      dsimp only at same
      split at same
      · rename_i upgraded
        cases same
        exact .dropped here upgraded
      · cases same
  | resolve persistent =>
      obtain ⟨⟨number, lease⟩, here, same⟩ :=
        Option.bind_eq_some_iff.mp performed
      obtain ⟨⟨answer, attached⟩, resolved, same⟩ :=
        Option.map_eq_some_iff.mp same
      cases same
      exact .resolved here resolved
  | call invocation =>
      simp only [perform] at performed
      split at performed
      · rename_i admits
        obtain ⟨⟨answer, attached⟩, called, same⟩ :=
          Option.map_eq_some_iff.mp performed
        cases same
        exact .called admits called
      · cases performed

/-- The lease that an exchange makes, with the value persisted. -/
def leasedIn
    (exchange : Exchange (HandleOp Raw Payload) (Reply Raw Payload)) :
    List (RootId × Raw) :=
  match exchange.op with
  | .call invocation => issuedLease invocation.op exchange.reply
  | _ => []

/-- The values of the leases made so far, in order. -/
def leasedValues
    (trace : List (Exchange (HandleOp Raw Payload) (Reply Raw Payload))) :
    List (RootId × Raw) :=
  trace.flatMap leasedIn

variable {trace : List (Exchange (HandleOp Raw Payload) (Reply Raw Payload))}

/-- A lease is dropped by an operation of the attachment. -/
theorem perform_dropLease (engine : Engine Raw)
    (attached : Attached Raw Payload) (lease : RootLease) (upgrades : Bool) :
    attached.perform engine
        ⟨attached.shared.owner,
          .dropLease { lease with
            runtime := if upgrades then lease.runtime else none }⟩ =
      some (.done, dropLease attached lease upgrades) := by
  cases stack : attached.stack with
  | nil => simp only [Attached.perform, stack, dropLease]
  | cons frame rest => simp only [Attached.perform, stack, dropLease]

omit [DecidableEq Raw] in
theorem record_attached (handles : Handles Raw Payload)
    (op : Op Raw Payload) (reply : Reply Raw Payload)
    (attached : Attached Raw Payload) :
    (handles.record op reply attached).attached = attached := by
  unfold record
  split
  · rfl
  · rfl
  · rfl

/-- The attachment under the handles runs as it does alone. -/
theorem run_attached (run : (handleSystem engine limits).Run trace handles) :
    ∃ inner, (attachmentSystem engine limits).Run inner handles.attached := by
  refine System.Run.invariant
    (fun _ handles => ∃ inner,
      (attachmentSystem engine limits).Run inner handles.attached) ?_ ?_ run
  · intro handles fresh
    exact ⟨[], .nil fresh.attached⟩
  · intro trace handles exchange next _ inner step
    obtain ⟨op, reply⟩ := exchange
    obtain ⟨inner, run⟩ := inner
    have extend : ∀ {invocation : Invocation Raw Payload}
        {reply : Reply Raw Payload} {attached : Attached Raw Payload},
        handles.attached.perform engine invocation = some (reply, attached) →
        ∃ inner, (attachmentSystem engine limits).Run inner attached := by
      intro invocation reply attached performed
      have inside : (attachmentSystem engine limits).step handles.attached
          ⟨invocation, reply⟩ attached := performed
      exact ⟨_, run.snoc inside⟩
    cases uses_of_perform step with
    | cloned here => exact ⟨inner, run⟩
    | dropped here upgraded =>
        rw [drop]
        split
        · exact extend (perform_dropLease engine _ _ _)
        · exact ⟨inner, run⟩
    | resolved here performed => exact extend performed
    | called admits performed =>
        rw [record_attached]
        exact extend performed

omit [DecidableEq Raw] in
theorem Fresh.tracks (fresh : handles.Fresh limits) : handles.Tracks [] := by
  obtain ⟨attached, counts, leases, persistents, roots⟩ := handles
  obtain ⟨fresh, none, unleased, unkept, unrooted⟩ := fresh
  simp only at fresh none unleased unkept unrooted
  subst none
  subst unleased
  subst unkept
  subst unrooted
  have empty : attached.shared.roots = .new limits.persistentSlots := by
    cases fresh with
    | runtime id address owner context => rfl
    | attachment id address owner finalEntryPolicy => rfl
  refine ⟨Heap.accounts_new, rfl, ?_, rfl, ⟨[], [], ?_, .nil, ?_⟩, ?_, ?_, ?_⟩
  · intro lease member
    cases member
  · simp only [empty]
    exact Store.ledger_empty
  · intro entry member
    cases member
  · simp only [empty]
    intro id waits
    obtain ⟨slot, present, _⟩ := waits
    cases present
  · intro _ number member
    cases member
  · intro _ number member
    cases member

theorem run_tracks (run : (handleSystem engine limits).Run trace handles) :
    handles.Tracks (leasedValues trace) := by
  refine System.Run.invariant
    (fun trace handles => handles.Tracks (leasedValues trace)) ?_ ?_ run
  · intro handles fresh
    exact fresh.tracks
  · intro trace handles exchange next run tracks step
    obtain ⟨inner, inside⟩ := run_attached run
    obtain ⟨op, reply⟩ := exchange
    rw [leasedValues, List.flatMap_append, List.flatMap_singleton]
    have sound := Attached.run_sound inside
    cases uses_of_perform step with
    | cloned here =>
        rw [leasedIn, List.append_nil]
        exact tracks.cloned
          (List.mem_of_getElem? (leaseOf_eq_some here).1)
    | dropped here upgraded =>
        rw [leasedIn, List.append_nil]
        exact tracks.dropped sound here upgraded
    | @resolved persistent number lease reply attached here performed =>
        have silent : leasedIn (⟨.resolve persistent, reply⟩ :
            Exchange (HandleOp Raw Payload) (Reply Raw Payload)) = [] := rfl
        rw [silent, List.append_nil]
        have moves := sound.moves performed
        have stays : (attachmentSystem engine limits).step handles.attached
          ⟨⟨handles.attached.shared.owner, .resolve lease⟩, reply⟩ attached :=
            performed
        have turns := sound.turnsRoots
          (fun _ same => by cases same) performed
        have backed := tracks.turned turns (fun _ same => by cases same)
          (Attached.run_staysTorn inside stays) (moves.active sound)
        have bare : (.resolve lease : Op Raw Payload).issuedRoot reply = [] :=
          rfl
        rw [bare, List.map_nil, List.append_nil] at backed
        exact tracks.attached backed moves.sameAddress moves.sameId
    | @called invocation reply attached admits performed =>
        have moves := sound.moves performed
        have stays : (attachmentSystem engine limits).step handles.attached
          ⟨invocation, reply⟩ attached := performed
        refine tracks.called (sound.turnsRoots ?_ performed) admits
          (Attached.run_staysTorn inside stays) (moves.active sound)
          moves.sameAddress moves.sameId
        intro lease same
        rw [same] at admits
        exact of_decide_eq_true admits

/-- What the handles of an attachment stand for; `issued` are the values of
the leases, in the order in which they were persisted. -/
structure KeepsHandles (engine : Engine Raw) (issued : List (RootId × Raw))
    (handles : Handles Raw Payload) : Prop where
  /-- No two handles that were issued share an identity. -/
  distinct : handles.handedOut.Nodup
  /-- Until a teardown begins a `Persistent` names its value. -/
  names : ¬handles.attached.Torn → ∀ number ∈ handles.persistents,
    ∃ id value, issued[number]? = some (id, value) ∧
      handles.attached.shared.roots.get id = some value
  /-- Wherever it can be resolved it is its value, or the budget of local
  values is used up. -/
  resolves : ∀ persistent reply next,
    handles.perform engine (.resolve persistent) = some (reply, next) →
    ∃ number id value, handles.persistents[persistent]? = some number ∧
      issued[number]? = some (id, value) ∧
      (reply = .scalar value ∨ reply = .rooted value ∨
        (reply = .failed (.js (.runtime .localRootLimitReached)) ∧
          next = handles ∧ handles.attached.localRoom = false))
  /-- A lease that nobody shares any more names nothing. -/
  spent : handles.attached.shared.gate.state = .active →
    ∀ number id value, issued[number]? = some (id, value) →
      number ∉ handles.persistents →
        handles.attached.shared.roots.get id = none
  /-- A value is kept for a `Persistent`, under a root of the common backend,
  or until the next entry. -/
  owed : handles.attached.shared.gate.state = .active → ∀ id value,
    handles.attached.shared.roots.store.get id = some value →
      (∃ number ∈ handles.persistents, issued[number]? = some (id, value)) ∨
        id ∈ handles.roots ∨ handles.attached.shared.roots.Waits id

omit [DecidableEq Raw] in
/-- Every `Persistent` has a value. -/
theorem Tracks.exists_issued {issued : List (RootId × Raw)}
    (tracks : handles.Tracks issued) {number : Nat}
    (kept : number ∈ handles.persistents) :
    ∃ id value, issued[number]? = some (id, value) := by
  have bound := tracks.accounts.bound kept
  rw [tracks.issued_length] at bound
  exact ⟨_, _, List.getElem?_eq_getElem bound⟩

omit [DecidableEq Raw] in
/-- A lease without a `Persistent` was dropped, and names nothing. -/
theorem Tracks.spent {issued : List (RootId × Raw)}
    (tracks : handles.Tracks issued)
    (active : handles.attached.shared.gate.state = .active) {number : Nat}
    {id : RootId} {value : Raw} (here : issued[number]? = some (id, value))
    (nobody : number ∉ handles.persistents) :
    handles.attached.shared.roots.get id = none := by
  obtain ⟨lease, leased, rfl⟩ := tracks.lease_of_issued here
  have made : number < handles.counts.strong.length := by
    rw [tracks.made]
    exact (List.getElem?_eq_some_iff.mp leased).1
  exact tracks.backed.spent active number
    (tracks.accounts.settled made nobody) lease leased

/-- In every run the handles of an attachment keep what they were issued for,
and nothing else is kept. -/
theorem run_keepsHandles
    (run : (handleSystem engine limits).Run trace handles) :
    handles.KeepsHandles engine (leasedValues trace) := by
  have tracks := run_tracks run
  obtain ⟨inner, inside⟩ := run_attached run
  refine ⟨tracks.distinct, ?_, ?_, fun active _ _ _ => tracks.spent active, ?_⟩
  · intro live number kept
    obtain ⟨id, value, here⟩ := tracks.exists_issued kept
    exact ⟨id, value, here, tracks.names live kept here⟩
  · intro persistent reply next performed
    cases uses_of_perform performed with
    | @resolved _ number lease _ attached here resolved =>
        obtain ⟨kept, leased⟩ := leaseOf_eq_some here
        have member := List.mem_of_getElem? kept
        obtain ⟨value, there⟩ := tracks.issued_of_lease leased
        have busy : handles.attached.stack ≠ [] := by
          intro empty
          simp only [Attached.perform, empty, reduceCtorEq] at resolved
        have live : ¬handles.attached.Torn := fun torn =>
          busy ((Attached.run_emptied inside).stack torn)
        have moves := (Attached.run_sound inside).moves resolved
        refine ⟨number, lease.id, value, kept, there, ?_⟩
        rcases Attached.resolve_named
            (tracks.own lease (List.mem_of_getElem? leased))
            (tracks.names live member there) moves.not_faulted
            resolved with
          bare | managed | ⟨refused, same, full⟩
        · exact Or.inl bare
        · exact Or.inr (Or.inl managed)
        · refine Or.inr (Or.inr ⟨refused, ?_, full⟩)
          rw [same]
  · intro active id value stored
    obtain ⟨all, returned, ledger, same, known⟩ := tracks.backed.ledger
    have listed := same.mem_iff.mp
      (List.mem_map_of_mem (ledger.get_issued stored))
    cases List.mem_append.mp listed with
    | inr root => exact Or.inr (Or.inl root)
    | inl leased =>
        obtain ⟨lease, member, rfl⟩ := List.mem_map.mp leased
        obtain ⟨number, here⟩ := List.getElem?_of_mem member
        obtain ⟨other, there⟩ := tracks.issued_of_lease here
        by_cases kept : number ∈ handles.persistents
        · refine Or.inl ⟨number, kept, ?_⟩
          have same := ledger.issued_unique (ledger.get_issued stored)
            (known _ (List.mem_of_getElem? there))
          rw [same]
          exact there
        · refine Or.inr (Or.inr ?_)
          by_contra calm
          have unnamed := tracks.spent active there kept
          have named := RootRegistry.get_eq_some_iff_store.mpr ⟨stored, calm⟩
          cases unnamed.symm.trans named

end Runs

open Attached (firstAttachment smallScalars threeRoots)

def withoutHandles : Handles Nat Unit where
  attached := .new (.new firstAttachment 0 0 .bestEffort threeRoots) .host
  counts := .new
  leases := []
  persistents := []
  roots := []

/-- A lease has two owners; its slot is used again after the second is gone
and the next entry has released the value. -/
def secondOwner : List (HandleOp Nat Unit) :=
  [.call ⟨0, .enter (some 0) ⟨none, none⟩⟩, .call ⟨0, .lendContext⟩,
    .call ⟨0, .persist ⟨firstAttachment, 40⟩⟩, .clone 0, .drop 0 true,
    .resolve 0, .drop 0 true, .call ⟨0, .close⟩, .call ⟨0, .leave⟩,
    .call ⟨0, .enter (some 0) ⟨none, none⟩⟩, .call ⟨0, .drainRootReleases⟩,
    .call ⟨0, .lendContext⟩, .call ⟨0, .persist ⟨firstAttachment, 41⟩⟩,
    .resolve 0]

theorem secondOwner_keepsHandles :
    ∃ trace handles,
      (handling smallScalars).performAll withoutHandles secondOwner =
        some (trace, handles) ∧
      handles.KeepsHandles smallScalars (leasedValues trace) := by
  have fresh : withoutHandles.Fresh threeRoots :=
    ⟨.attachment firstAttachment 0 0 .bestEffort, rfl, rfl, rfl, rfl⟩
  obtain ⟨trace, handles, performed, run⟩ :=
    (handling smallScalars).exists_run_of_performAll
      (Fresh threeRoots) secondOwner fresh (by decide)
  exact ⟨trace, handles, performed, run_keepsHandles run⟩

end Handles

end RustJsi.BackendJsc
