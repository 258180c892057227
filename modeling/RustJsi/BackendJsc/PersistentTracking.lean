import RustJsi.BackendJsc.RootTurns

/-!
# Handles and the slots they name

Every lease that has an owner names a slot that nobody else names, and every
lease without one was queued for its release.
-/

namespace RustJsi.BackendJsc

open Counted Generational Interleaving

variable {Raw Payload : Type*}

namespace Handles

/-- Every identity that was handed out, to a lease or as a root. -/
def handedOut (handles : Handles Raw Payload) : List RootId :=
  handles.leases.map RootLease.id ++ handles.roots

/-- The registry of an attachment under the handles: `issued` are the values
of the leases, in order. -/
structure Backed (issued : List (RootId × Raw))
    (handles : Handles Raw Payload) (attached : Attached Raw Payload)
    (out : List RootId) : Prop where
  ledger : ∃ all returned,
    Store.Ledger all returned attached.shared.roots.store ∧
      (all.map Prod.fst).Perm out ∧ ∀ entry ∈ issued, entry ∈ all
  waits : ∀ id, attached.shared.roots.Waits id → ∃ number lease,
    handles.leases[number]? = some lease ∧ lease.id = id ∧
      number ∈ handles.counts.destroyed
  held : ¬attached.Torn → ∀ number ∈ handles.persistents, ∀ id value,
    issued[number]? = some (id, value) →
      attached.shared.roots.store.get id = some value
  spent : attached.shared.gate.state = .active →
    ∀ number ∈ handles.counts.destroyed, ∀ lease,
      handles.leases[number]? = some lease →
        attached.shared.roots.get lease.id = none

/-- What holds of the handles in every run. -/
structure Tracks (issued : List (RootId × Raw))
    (handles : Handles Raw Payload) : Prop where
  accounts : handles.counts.Accounts handles.persistents
  made : handles.counts.strong.length = handles.leases.length
  own : ∀ lease ∈ handles.leases,
    lease.runtime = some handles.attached.shared.address ∧
      lease.attachment = handles.attached.shared.id
  listed : handles.leases.map RootLease.id = issued.map Prod.fst
  backed : handles.Backed issued handles.attached handles.handedOut

section Tracking

variable {handles : Handles Raw Payload} {issued : List (RootId × Raw)}
  {id : RootId} {value : Raw} {number other : Nat} {lease : RootLease}

/-- No identity is handed out twice. -/
theorem Tracks.distinct (tracks : handles.Tracks issued) :
    handles.handedOut.Nodup := by
  obtain ⟨all, returned, ledger, same, _⟩ := tracks.backed.ledger
  exact same.nodup_iff.mp ledger.issuedOnce

theorem Tracks.issued_length (tracks : handles.Tracks issued) :
    handles.counts.strong.length = issued.length := by
  have lengths := congrArg List.length tracks.listed
  rw [List.length_map, List.length_map] at lengths
  exact tracks.made.trans lengths

theorem Tracks.lease_of_issued (tracks : handles.Tracks issued)
    (here : issued[number]? = some (id, value)) :
    ∃ lease, handles.leases[number]? = some lease ∧ lease.id = id := by
  have listed := congrArg (·[number]?) tracks.listed
  simp only [List.getElem?_map, here, Option.map_some] at listed
  exact Option.map_eq_some_iff.mp listed

theorem Tracks.issued_of_lease (tracks : handles.Tracks issued)
    (here : handles.leases[number]? = some lease) :
    ∃ value, issued[number]? = some (lease.id, value) := by
  have listed := congrArg (·[number]?) tracks.listed
  simp only [List.getElem?_map, here, Option.map_some] at listed
  obtain ⟨⟨id, value⟩, present, same⟩ := Option.map_eq_some_iff.mp listed.symm
  cases same
  exact ⟨value, present⟩

/-- An identity is the one of a single lease. -/
theorem Tracks.number_unique (tracks : handles.Tracks issued)
    {second : RootLease} (first : handles.leases[number]? = some lease)
    (there : handles.leases[other]? = some second)
    (same : lease.id = second.id) : number = other := by
  have distinct := (List.nodup_append.mp tracks.distinct).1
  have bound : number < (handles.leases.map RootLease.id).length := by
    rw [List.length_map]
    exact (List.getElem?_eq_some_iff.mp first).1
  refine (List.getElem?_inj bound distinct).mp ?_
  rw [List.getElem?_map, List.getElem?_map, first, there, Option.map_some,
    Option.map_some, same]

/-- Nothing that a `Persistent` names waits for its release. -/
theorem Tracks.not_waits (tracks : handles.Tracks issued)
    (kept : number ∈ handles.persistents)
    (here : issued[number]? = some (id, value)) :
    ¬handles.attached.shared.roots.Waits id := by
  intro waits
  obtain ⟨other, second, there, same, gone⟩ := tracks.backed.waits id waits
  obtain ⟨lease, present, named⟩ := tracks.lease_of_issued here
  have alone := tracks.number_unique present there (named.trans same.symm)
  rw [← alone] at gone
  exact tracks.accounts.alive kept gone

/-- Until a teardown a `Persistent` names the value that was persisted. -/
theorem Tracks.names (tracks : handles.Tracks issued)
    (live : ¬handles.attached.Torn) (kept : number ∈ handles.persistents)
    (here : issued[number]? = some (id, value)) :
    handles.attached.shared.roots.get id = some value :=
  RootRegistry.get_eq_some_iff_store.mpr
    ⟨tracks.backed.held live number kept id value here,
      tracks.not_waits kept here⟩

/-- A root that is released by its name is not the one of a lease. -/
theorem Tracks.apart (tracks : handles.Tracks issued)
    (listed : id ∈ handles.roots)
    (here : issued[number]? = some (id, value)) : False := by
  obtain ⟨lease, present, named⟩ := tracks.lease_of_issued here
  have leased : id ∈ handles.leases.map RootLease.id := by
    rw [← named]
    exact List.mem_map_of_mem (List.mem_of_getElem? present)
  exact (List.nodup_append.mp tracks.distinct).2.2 id leased id listed rfl

variable [DecidableEq Raw] {next : Attached Raw Payload} {op : Op Raw Payload}
  {reply : Reply Raw Payload}

omit [DecidableEq Raw] in
/-- An operation on the attachment keeps what the handles rely on. -/
theorem Tracks.turned (tracks : handles.Tracks issued)
    (turns : handles.attached.TurnsRoots op reply next)
    (releases : ∀ root, op = .release root →
      root.attachment = handles.attached.shared.id →
        root.id ∈ handles.roots)
    (torn : handles.attached.Torn → next.Torn)
    (active : next.shared.gate.state = .active →
      handles.attached.shared.gate.state = .active) :
    handles.Backed issued next
      (handles.handedOut ++ (op.issuedRoot reply).map Prod.fst) := by
  obtain ⟨all, returned, ledger, same, known⟩ := tracks.backed.ledger
  cases turns with
  | drained silent roots tears =>
      have held : next.shared.roots.store.held = [] := by
        rw [roots]
        exact Attached.drain_held _
      have moved := ledger.step
        (handles.attached.shared.roots.drain_step)
      rw [← roots, List.append_nil] at moved
      refine ⟨⟨all, _, moved, ?_, known⟩, ?_, ?_, ?_⟩
      · rw [silent, List.map_nil, List.append_nil]
        exact same
      · intro id waits
        rw [roots] at waits
        exact absurd waits RootRegistry.not_waits_drain
      · intro live
        exact absurd tears live
      · intro _ number _ lease _
        refine Option.eq_none_iff_forall_ne_some.mpr ?_
        intro found named
        have stored := (RootRegistry.get_eq_some_iff_store.mp named).1
        rw [Store.get_eq_some_iff_held, held] at stored
        cases stored
  | @turned returning turn taken =>
      have moved := ledger.step turn.moved
      have balance := turn.moved.balance
      refine ⟨⟨_, _, moved, ?_, ?_⟩, ?_, ?_, ?_⟩
      · rw [List.map_append]
        exact same.append_right _
      · intro entry member
        exact List.mem_append_left _ (known entry member)
      · intro id waits
        exact tracks.backed.waits id (turn.calm id waits)
      · intro live number kept id value here
        have named := tracks.backed.held (fun past => live (torn past))
          number kept id value here
        have before := Store.get_eq_some_iff_held.mp named
        have after := balance.mem_iff.mp
          (List.mem_append_left (op.issuedRoot reply) before)
        cases List.mem_append.mp after with
        | inr held => exact Store.get_eq_some_iff_held.mpr held
        | inl gone =>
            rcases taken id (List.mem_map_of_mem gone) with
              waits | ⟨root, released, rfl, mine⟩
            · exact absurd waits (tracks.not_waits kept here)
            · have listed := releases root released mine
              exact (tracks.apart listed here).elim
      · intro now number gone lease here
        refine Option.eq_none_iff_forall_ne_some.mpr ?_
        intro found named
        obtain ⟨stored, settled⟩ :=
          RootRegistry.get_eq_some_iff_store.mp named
        have unnamed := tracks.backed.spent (active now) number gone lease here
        have old : lease.id ∈ all.map Prod.fst := by
          refine same.mem_iff.mpr (List.mem_append_left _ ?_)
          exact List.mem_map_of_mem (List.mem_of_getElem? here)
        have after := balance.mem_iff.mpr (List.mem_append_right returning
          (Store.get_eq_some_iff_held.mp stored))
        cases List.mem_append.mp after with
        | inr fresh =>
            have once := moved.issuedOnce
            rw [List.map_append, List.nodup_append] at once
            exact once.2.2 _ old _ (List.mem_map_of_mem fresh) rfl
        | inl before =>
            have waits : handles.attached.shared.roots.Waits lease.id := by
              by_contra calm
              have resolves := RootRegistry.get_eq_some_iff_store.mpr
                ⟨Store.get_eq_some_iff_held.mpr before, calm⟩
              cases unnamed.symm.trans resolves
            cases turn.stays lease.id waits with
            | inl queued => exact settled queued
            | inr taken =>
                obtain ⟨entry, member, same⟩ := List.mem_map.mp taken
                have gone : next.shared.roots.store.get entry.1 = none :=
                  moved.get_returned (List.mem_append_right returned member)
                rw [same, stored] at gone
                cases gone

/-- The lease that an operation makes, with the value persisted. -/
def issuedLease (op : Op Raw Payload) (reply : Reply Raw Payload) :
    List (RootId × Raw) :=
  match op, reply with
  | .persist value, .persisted id => [(id, value.value)]
  | _, _ => []

omit [DecidableEq Raw] in
/-- What backs the handles does not depend on the attachment they are kept
beside. -/
theorem Backed.beside {out : List RootId}
    (backed : handles.Backed issued next out) (attached : Attached Raw Payload) :
    ({ handles with attached := attached } :
      Handles Raw Payload).Backed issued next out where
  ledger := backed.ledger
  waits := backed.waits
  held := backed.held
  spent := backed.spent

omit [DecidableEq Raw] in
/-- The handles with another state of their attachment. -/
theorem Tracks.attached (tracks : handles.Tracks issued)
    (backed : handles.Backed issued next handles.handedOut)
    (address : next.shared.address = handles.attached.shared.address)
    (own : next.shared.id = handles.attached.shared.id) :
    ({ handles with attached := next } : Handles Raw Payload).Tracks issued where
  accounts := tracks.accounts
  made := tracks.made
  own := by
    rw [address, own]
    exact tracks.own
  listed := tracks.listed
  backed := backed.beside next

omit [DecidableEq Raw] in
/-- A lease that is new is the last one, with one `Persistent`. -/
theorem Tracks.leased (tracks : handles.Tracks issued)
    (backed : handles.Backed issued next (handles.handedOut ++ [id]))
    (address : next.shared.address = handles.attached.shared.address)
    (own : next.shared.id = handles.attached.shared.id)
    {given : Local Raw}
    (named : next.shared.roots.store.get id = some given.value) :
    (handles.record (.persist given) (.persisted id) next).Tracks
      (issued ++ [(id, given.value)]) := by
  have lengths := tracks.issued_length
  have made := tracks.made
  have elsewhere : ∀ {number : Nat} {lease : RootLease},
      number ∈ handles.counts.destroyed →
      (handles.leases ++ [⟨some next.shared.address, next.shared.id,
        id⟩])[number]? = some lease → handles.leases[number]? = some lease := by
    intro number lease gone here
    have counted := (tracks.accounts.destroyed_iff number).mp gone
    have bound := (List.getElem?_eq_some_iff.mp counted).1
    rw [List.getElem?_append_left (by omega)] at here
    exact here
  refine ⟨tracks.accounts.alloc.perm ?_, ?_, ?_, ?_, ?_, ?_, ?_, ?_⟩
  · exact (List.perm_append_singleton _ _).symm
  · change (handles.counts.strong ++ [1]).length = _
    rw [record, List.length_append, List.length_append, made]
    rfl
  · intro lease member
    cases List.mem_append.mp member with
    | inl old =>
        obtain ⟨runtime, attachment⟩ := tracks.own lease old
        exact ⟨runtime.trans (congrArg some address.symm),
          attachment.trans own.symm⟩
    | inr new =>
        rw [List.mem_singleton.mp new]
        exact ⟨rfl, rfl⟩
  · rw [record, List.map_append, List.map_append, tracks.listed]
    rfl
  · obtain ⟨all, returned, ledger, same, known⟩ := backed.ledger
    refine ⟨all, returned, ledger, ?_, ?_⟩
    · refine same.trans ?_
      rw [handedOut, handedOut, record, List.map_append, List.append_assoc,
        List.append_assoc]
      exact List.perm_append_comm.append_left _
    · intro entry member
      cases List.mem_append.mp member with
      | inl old => exact known entry old
      | inr new =>
          rw [List.mem_singleton.mp new]
          exact ledger.get_issued named
  · intro other waits
    obtain ⟨number, lease, here, same, gone⟩ := backed.waits other waits
    refine ⟨number, lease, ?_, same, gone⟩
    have bound := (List.getElem?_eq_some_iff.mp here).1
    exact (List.getElem?_append_left bound).trans here
  · intro live number kept other found here
    cases List.mem_append.mp kept with
    | inl old =>
        have bound := tracks.accounts.bound old
        rw [List.getElem?_append_left (by omega)] at here
        exact backed.held live number old other found here
    | inr new =>
        have last : number = issued.length := by
          rw [List.mem_singleton.mp new, Heap.alloc, lengths]
        rw [last, List.getElem?_concat_length] at here
        cases here
        exact named
  · intro now number gone lease here
    exact backed.spent now number gone lease (elsewhere gone here)

omit [DecidableEq Raw] in
/-- A root of the common backend is known by its name alone. -/
theorem Tracks.rooted (tracks : handles.Tracks issued)
    (backed : handles.Backed issued next (handles.handedOut ++ [id]))
    (address : next.shared.address = handles.attached.shared.address)
    (own : next.shared.id = handles.attached.shared.id) :
    ({ handles with attached := next, roots := handles.roots ++ [id] } :
      Handles Raw Payload).Tracks issued where
  accounts := tracks.accounts
  made := tracks.made
  own := by
    rw [address, own]
    exact tracks.own
  listed := tracks.listed
  backed := by
    obtain ⟨all, returned, ledger, same, known⟩ := backed.ledger
    refine ⟨⟨all, returned, ledger, ?_, known⟩, backed.waits, backed.held,
      backed.spent⟩
    rw [handedOut, List.append_assoc] at same
    exact same

omit [DecidableEq Raw] in
/-- A `Persistent` is cloned. -/
theorem Tracks.cloned (tracks : handles.Tracks issued)
    (kept : number ∈ handles.persistents) :
    ({ handles with
      counts := handles.counts.clone number
      persistents := handles.persistents ++ [number] } :
        Handles Raw Payload).Tracks issued where
  accounts := (tracks.accounts.clone kept).perm
    (List.perm_append_singleton _ _).symm
  made := (Heap.length_clone _ _).trans tracks.made
  own := tracks.own
  listed := tracks.listed
  backed := by
    have backed := tracks.backed
    refine ⟨backed.ledger, ?_, ?_, ?_⟩
    · rw [Heap.destroyed_clone]
      exact backed.waits
    · intro live other member
      cases List.mem_append.mp member with
      | inl old => exact backed.held live other old
      | inr new =>
          rw [List.mem_singleton.mp new]
          exact backed.held live number kept
    · rw [Heap.destroyed_clone]
      exact backed.spent

/-- What the last `Persistent` of a lease leaves of its root. -/
inductive LetsGo (attached : Attached Raw Payload) (id : RootId)
    (next : Attached Raw Payload) : Prop
  | requested (same : next = { attached with
      shared.roots := attached.shared.roots.requestRelease id })
  /-- The teardown has begun, and takes the root with the others. -/
  | left (same : next = attached)
      (ending : attached.shared.gate.state ≠ .active)

omit [DecidableEq Raw] in
theorem dropLease_letsGo {attached : Attached Raw Payload}
    {upgrades : Bool}
    (own : lease.runtime = some attached.shared.address ∧
      lease.attachment = attached.shared.id)
    (upgraded : (upgrades || attached.shared.gate.state ≠ .active) = true) :
    LetsGo attached lease.id (dropLease attached lease upgrades) := by
  by_cases active : attached.shared.gate.state = .active
  · have upgrades : upgrades = true := by simpa [active] using upgraded
    have usable : ¬(attached.shared.id ≠ lease.attachment ∨
        attached.shared.ensureThread attached.shared.owner ≠ .ok () ∨
        attached.shared.gate.state ≠ .active) := by
      simp [own.2, active, Shared.ensureThread]
    refine .requested ?_
    rw [dropLease, if_pos upgrades, Shared.dropLease, if_pos own.1,
      if_neg usable]
  · refine .left ?_ active
    have unusable : attached.shared.id ≠ lease.attachment ∨
        attached.shared.ensureThread attached.shared.owner ≠ .ok () ∨
        attached.shared.gate.state ≠ .active := Or.inr (Or.inr active)
    rw [dropLease, Shared.dropLease, if_pos unusable, ite_self]

omit [DecidableEq Raw] in
theorem leaseOf_eq_some {persistent : Nat}
    (here : handles.leaseOf persistent = some (number, lease)) :
    handles.persistents[persistent]? = some number ∧
      handles.leases[number]? = some lease := by
  obtain ⟨found, present, named⟩ := Option.bind_eq_some_iff.mp here
  obtain ⟨other, leased, same⟩ := Option.map_eq_some_iff.mp named
  cases same
  exact ⟨present, leased⟩

omit [DecidableEq Raw] in
/-- One `Persistent` less, whose lease has others. -/
theorem Backed.shared (backed : handles.Backed issued next handles.handedOut)
    (persistent : Nat)
    (more : handles.counts.strong[number]? ≠ some 1) :
    ({ handles with
      counts := handles.counts.drop number
      persistents := handles.persistents.eraseIdx persistent } :
        Handles Raw Payload).Backed issued next handles.handedOut := by
  have same : (handles.counts.drop number).destroyed =
      handles.counts.destroyed :=
    (Heap.destroyed_of_drop _ _).trans (if_neg more)
  refine ⟨backed.ledger, ?_, ?_, ?_⟩
  · rw [same]
    exact backed.waits
  · intro live other member
    exact backed.held live other (List.mem_of_mem_eraseIdx member)
  · rw [same]
    exact backed.spent

omit [DecidableEq Raw] in
/-- The last `Persistent` of a lease is dropped. -/
theorem Backed.ended {attached : Attached Raw Payload}
    (backed : handles.Backed issued attached handles.handedOut)
    (sound : attached.Sound) (persistent : Nat)
    (leased : handles.leases[number]? = some lease)
    (last : handles.counts.strong[number]? = some 1)
    (lets : LetsGo attached lease.id next) :
    ({ handles with
      counts := handles.counts.drop number
      persistents := handles.persistents.eraseIdx persistent } :
        Handles Raw Payload).Backed issued next handles.handedOut := by
  have more : (handles.counts.drop number).destroyed =
      handles.counts.destroyed ++ [number] :=
    (Heap.destroyed_of_drop _ _).trans (if_pos last)
  cases lets with
  | left same ending =>
      subst same
      refine ⟨backed.ledger, ?_, ?_, fun active => absurd active ending⟩
      · rw [more]
        intro id waits
        obtain ⟨other, found, here, named, gone⟩ := backed.waits id waits
        exact ⟨other, found, here, named, List.mem_append_left _ gone⟩
      · intro live other member
        exact backed.held live other (List.mem_of_mem_eraseIdx member)
  | requested same =>
      subst same
      have stored : (attached.shared.roots.requestRelease lease.id).store =
          attached.shared.roots.store :=
        (sound.roots.requestRelease lease.id).2.1
      refine ⟨?_, ?_, ?_, ?_⟩
      · rw [stored]
        exact backed.ledger
      · rw [more]
        intro id waits
        cases RootRegistry.requestRelease_waits waits with
        | inl own =>
            exact ⟨number, lease, leased, own.symm,
              List.mem_append_right _ (List.mem_singleton.mpr rfl)⟩
        | inr old =>
            obtain ⟨other, found, here, named, gone⟩ := backed.waits id old
            exact ⟨other, found, here, named, List.mem_append_left _ gone⟩
      · rw [stored]
        intro live other member
        exact backed.held live other (List.mem_of_mem_eraseIdx member)
      · rw [more]
        intro active other gone found here
        cases List.mem_append.mp gone with
        | inr new =>
            rw [List.mem_singleton.mp new] at here
            cases leased.symm.trans here
            exact RootRegistry.get_requestRelease
        | inl old =>
            have unnamed := backed.spent active other old found here
            refine Option.eq_none_iff_forall_ne_some.mpr ?_
            intro value named
            obtain ⟨held, calm⟩ :=
              RootRegistry.get_eq_some_iff_store.mp named
            rw [stored] at held
            have resolves := RootRegistry.get_eq_some_iff_store.mpr
              ⟨held, fun waits => calm waits.requestRelease⟩
            cases unnamed.symm.trans resolves

omit [DecidableEq Raw] in
theorem LetsGo.fields {attached : Attached Raw Payload}
    (lets : LetsGo attached id next) :
    next.shared.address = attached.shared.address ∧
      next.shared.id = attached.shared.id := by
  cases lets with
  | requested same =>
      subst same
      exact ⟨rfl, rfl⟩
  | left same ending =>
      subst same
      exact ⟨rfl, rfl⟩

omit [DecidableEq Raw] in
/-- A `Persistent` is dropped. -/
theorem Tracks.dropped (tracks : handles.Tracks issued)
    (sound : handles.attached.Sound) {persistent : Nat} {upgrades : Bool}
    (here : handles.leaseOf persistent = some (number, lease))
    (upgraded : (upgrades || handles.attached.shared.gate.state ≠ .active) =
      true) :
    (handles.drop persistent number lease upgrades).Tracks issued := by
  obtain ⟨kept, leased⟩ := leaseOf_eq_some here
  obtain ⟨bound, present⟩ := List.getElem?_eq_some_iff.mp kept
  have lets := dropLease_letsGo
    (tracks.own lease (List.mem_of_getElem? leased)) upgraded
  have owners : handles.persistents.Perm
      (number :: handles.persistents.eraseIdx persistent) := by
    rw [← present]
    exact (List.getElem_cons_eraseIdx_perm bound).symm
  have accounts := (tracks.accounts.perm owners).drop
  have made := (Heap.length_drop handles.counts number).trans tracks.made
  rw [drop]
  by_cases last : handles.counts.strong[number]? = some 1
  · obtain ⟨address, own⟩ := lets.fields
    have backed := tracks.backed.ended sound persistent leased last lets
    rw [if_pos last]
    refine ⟨accounts, made, ?_, tracks.listed, backed.beside _⟩
    rw [address, own]
    exact tracks.own
  · have backed := tracks.backed.shared persistent last
    rw [if_neg last]
    exact ⟨accounts, made, tracks.own, tracks.listed, backed.beside _⟩

omit [DecidableEq Raw] in
/-- An operation on the attachment, and the handle it makes. -/
theorem Tracks.called (tracks : handles.Tracks issued)
    (turns : handles.attached.TurnsRoots op reply next)
    (admits : handles.admits op = true)
    (torn : handles.attached.Torn → next.Torn)
    (active : next.shared.gate.state = .active →
      handles.attached.shared.gate.state = .active)
    (address : next.shared.address = handles.attached.shared.address)
    (own : next.shared.id = handles.attached.shared.id) :
    (handles.record op reply next).Tracks
      (issued ++ issuedLease op reply) := by
  have releases : ∀ root, op = .release root →
      root.attachment = handles.attached.shared.id →
        root.id ∈ handles.roots := by
    intro root released mine
    subst released
    simpa [Handles.admits, mine] using admits
  have backed := tracks.turned turns releases torn active
  have named : ∀ id value, (id, value) ∈ op.issuedRoot reply →
      next.shared.roots.store.get id = some value := by
    intro id value member
    cases turns with
    | turned turn taken =>
        exact Store.get_eq_some_iff.mpr
          (turn.moved.issues id value member).2.2
    | drained silent roots tears =>
        rw [silent] at member
        cases member
  have others : op.issuedRoot reply = [] → issuedLease op reply = [] →
      handles.record op reply next = { handles with attached := next } →
      (handles.record op reply next).Tracks
        (issued ++ issuedLease op reply) := by
    intro silent bare same
    rw [silent, List.map_nil, List.append_nil] at backed
    rw [bare, same, List.append_nil]
    exact tracks.attached backed address own
  cases op with
  | persist given =>
      cases reply with
      | persisted id =>
          exact tracks.leased backed address own
            (named id given.value (List.mem_singleton.mpr rfl))
      | _ => exact others rfl rfl rfl
  | persistValue given =>
      cases reply with
      | persisted id =>
          have bare : issuedLease (.persistValue given : Op Raw Payload)
              (.persisted id) = [] := rfl
          rw [bare, List.append_nil]
          exact tracks.rooted backed address own
      | _ => exact others rfl rfl rfl
  | _ => exact others rfl rfl rfl

end Tracking

end Handles

end RustJsi.BackendJsc
