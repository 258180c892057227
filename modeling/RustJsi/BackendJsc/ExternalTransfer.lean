import RustJsi.BackendJsc.ExternalLedger
import RustJsi.BackendJsc.Shared
import RustJsi.Interleaving.Component

/-!
# Transfer of external buffers

A transfer takes one local root and charges the ledger before the bytes are
handed to the engine.  From then on only the deallocator gives them back,
whether or not the engine made an object of them.
-/

namespace RustJsi.BackendJsc

open Interleaving
open RustJsi.Runtime (PointerWidth)

namespace ExternalLedger

variable {width : PointerWidth}

def reserve (limits : ExternalBufferLimits width) (ledger : Shared width)
    (byteLen : width.Usize) : Except RuntimeError Unit × Shared width :=
  if ledger.liveAllocations < limits.allocations then
    let taken :=
      { ledger with liveAllocations := ledger.liveAllocations + 1 }
    match (checkedAdd taken.liveBytes byteLen).filter
        (fun total => total ≤ limits.bytes) with
    | some total => (.ok (), { taken with liveBytes := total })
    | none =>
        (.error .externalBufferByteLimitReached,
          { taken with liveAllocations := taken.liveAllocations - 1 })
  else
    (.error .externalBufferAllocationLimitReached, ledger)

def release (ledger : Shared width) (byteLen : width.Usize) :
    Shared width where
  liveBytes := ledger.liveBytes - byteLen
  liveAllocations := ledger.liveAllocations - 1
  deallocations := ledger.deallocations + 1

section Sequential

variable {limits : ExternalBufferLimits width} {ledger : Shared width}
  {byteLen : width.Usize}

theorem reserve_of_room (room : Room limits ledger byteLen) :
    reserve limits ledger byteLen =
      (.ok (),
        { ledger with
          liveAllocations := ledger.liveAllocations + 1
          liveBytes := ledger.liveBytes + byteLen }) := by
  have bound := limits.bytes.isLt
  have fits := room.2
  have charged : (checkedAdd ledger.liveBytes byteLen).filter
      (fun total => total ≤ limits.bytes) =
        some (ledger.liveBytes + byteLen) := by
    rw [charge_eq_some_iff, BitVec.toNat_add]
    exact ⟨Nat.mod_eq_of_lt (by omega), fits⟩
  simp only [reserve, if_pos (BitVec.lt_def.mpr room.1), charged]

/-- A refused reservation leaves the ledger as it was. -/
theorem reserve_of_not_room (full : ¬Room limits ledger byteLen) :
    ∃ error, reserve limits ledger byteLen = (.error error, ledger) := by
  unfold reserve
  split
  · rename_i opens
    have refused : (checkedAdd ledger.liveBytes byteLen).filter
        (fun total => total ≤ limits.bytes) = none := by
      rw [charge_eq_none_iff]
      by_contra fits
      exact full ⟨BitVec.lt_def.mp opens, by omega⟩
    have returned : ledger.liveAllocations + 1 - 1 =
        ledger.liveAllocations :=
      BitVec.add_sub_cancel ..
    refine ⟨.externalBufferByteLimitReached, ?_⟩
    simp only [refused, returned]
  · exact ⟨_, rfl⟩

/-- The reservation is what the updates of a call left alone amount to. -/
theorem reserve_settles :
    ∃ after, Ends limits ledger (.reserving byteLen)
        (reserve limits ledger byteLen).2 after ∧
      ((reserve limits ledger byteLen).1 = .ok () ↔
        after = .reserved byteLen) := by
  by_cases room : Room limits ledger byteLen
  · rw [reserve_of_room room]
    exact ⟨_, (ends_reserve_of_room room).mpr ⟨rfl, rfl⟩, iff_of_true rfl rfl⟩
  · obtain ⟨error, refused⟩ := reserve_of_not_room room
    obtain ⟨reason, ends⟩ := ends_reserve_of_not_room room
    rw [refused]
    exact ⟨_, (ends _ _).mpr ⟨rfl, rfl⟩, iff_of_false nofun nofun⟩

end Sequential

end ExternalLedger

/-! ## Handing bytes to the engine -/

/-- A `Box<[u8]>`. -/
structure Boxed (width : PointerWidth) where
  origin : Nat
  bytes : List UInt8
  addressable : bytes.length < 2 ^ width.bits
  deriving DecidableEq

def Boxed.len {width : PointerWidth} (owner : Boxed width) : width.Usize :=
  BitVec.ofNat width.bits owner.bytes.length

/-- Failure from an operation that may transfer ownership before it fails. -/
inductive OwnershipTransferError (width : PointerWidth) where
  | rejected (error : BackendError) (owner : Boxed width)
  | accepted (error : BackendError)

/-- What the engine answers while an object is made and inspected. -/
structure EngineOutcome (width : PointerWidth) (Raw : Type*) where
  exception : Option JsException
  object : Option Raw
  lengthException : Option JsException
  observedLen : width.Usize
  originException : Option JsException
  observedOrigin : Option Nat

section Making

variable {width : PointerWidth} {Raw : Type*}

/-- The bytes belong to the engine before the first of these checks. -/
def makeExternalObject (owner : Boxed width)
    (outcome : EngineOutcome width Raw) :
    Except JsError (Raw × Option Bool) :=
  match outcome.exception with
  | some exception => .error (.exception exception)
  | none =>
  match outcome.object with
  | none =>
      .error (.backend "JavaScriptCore returned a null external ArrayBuffer")
  | some object =>
  match outcome.lengthException with
  | some exception => .error (.exception exception)
  | none =>
  if outcome.observedLen ≠ owner.len then
    .error (.backend "JavaScriptCore changed the external ArrayBuffer length")
  else
  match outcome.originException with
  | some exception => .error (.exception exception)
  | none =>
  if owner.len ≠ 0 ∧ outcome.observedOrigin = none then
    .error (.backend "JavaScriptCore returned a null external backing store")
  else if owner.len ≠ 0 ∧ outcome.observedOrigin ≠ some owner.origin then
    .error (.backend
      "JavaScriptCore did not retain the external backing store")
  else
    .ok (object, if owner.len ≠ 0 then some true else none)

/-- The answers of an engine that made an object of the bytes it was given. -/
structure EngineOutcome.Passes (outcome : EngineOutcome width Raw)
    (owner : Boxed width) (object : Raw) : Prop where
  made : outcome.exception = none ∧ outcome.object = some object
  length : outcome.lengthException = none ∧ outcome.observedLen = owner.len
  origin : outcome.originException = none ∧
    (owner.len ≠ 0 → outcome.observedOrigin = some owner.origin)

theorem makeExternalObject_eq_ok_iff {owner : Boxed width}
    {outcome : EngineOutcome width Raw} {object : Raw} :
    (∃ matched, makeExternalObject owner outcome = .ok (object, matched)) ↔
      outcome.Passes owner object := by
  constructor
  · rintro ⟨matched, checked⟩
    unfold makeExternalObject at checked
    split at checked
    · cases checked
    rename_i unexcepted
    split at checked
    · cases checked
    rename_i made
    split at checked
    · cases checked
    rename_i measured
    split at checked
    · cases checked
    rename_i length
    split at checked
    · cases checked
    rename_i located
    split at checked
    · cases checked
    split at checked
    · cases checked
    rename_i origin
    cases checked
    refine ⟨⟨unexcepted, made⟩, ⟨measured, not_not.mp length⟩, located, ?_⟩
    intro something
    by_contra moved
    exact origin ⟨something, moved⟩
  · rintro ⟨⟨unexcepted, made⟩, ⟨measured, length⟩, located, origin⟩
    by_cases nothing : owner.len = 0
    · exact ⟨none, by
        simp [makeExternalObject, unexcepted, made, measured, length, located,
          nothing]⟩
    · refine ⟨some true, ?_⟩
      simp only [makeExternalObject, unexcepted, made, measured, length,
        located, origin nothing, ne_eq, not_true_eq_false, if_false,
        reduceCtorEq, and_false]
      rw [if_pos nothing]

end Making

/-- What a transfer reads and changes: the budget, the ledger, the roots of
the scope, and where the bytes handed over are. -/
structure Transfers (width : PointerWidth) (Raw : Type*) where
  budget : LocalBudget
  ledger : ExternalLedger.Shared width
  roots : LocalRoots Raw
  /-- The engine holds these, and their deallocators have not run. -/
  owned : List (Boxed width)
  freed : List (Boxed width)

namespace Transfers

variable {width : PointerWidth} {Raw : Type*}

/-- A reservation that is dropped refunds what it still holds. -/
def refund (transfers : Transfers width Raw) (reservation : Reservation) :
    Except Fault (Transfers width Raw) :=
  (reservation.drop transfers.budget).map fun budget =>
    { transfers with budget }

def externalize (limits : ExternalBufferLimits width)
    (transfers : Transfers width Raw) (owner : Boxed width)
    (outcome : EngineOutcome width Raw) :
    Except Fault
      (Except (OwnershipTransferError width) Raw × Transfers width Raw) :=
  match transfers.budget.reserve with
  | .error error =>
      .ok (.error (.rejected (mapRuntimeError error) owner), transfers)
  | .ok (budget, reservation) =>
      match ExternalLedger.reserve limits transfers.ledger owner.len with
      | (.error error, ledger) =>
          ({ transfers with budget, ledger }.refund reservation).map fun left =>
            (.error (.rejected (mapRuntimeError error) owner), left)
      | (.ok (), ledger) =>
          let handed :=
            { transfers with
              budget
              ledger
              owned := transfers.owned ++ [owner] }
          match makeExternalObject owner outcome with
          | .error error =>
              (handed.refund reservation).map fun left =>
                (.error (.accepted (mapJsError error)), left)
          | .ok (object, _) =>
              ({ handed with roots := handed.roots.push object }.refund
                reservation.commit).map fun left => (.ok object, left)

/-- `external_bytes_deallocator`, for one of the owners the engine holds.  It
takes the owner, so the engine invokes it once for each. -/
def deallocate (transfers : Transfers width Raw) (index : Nat) :
    Option (Transfers width Raw) :=
  match transfers.owned[index]? with
  | none => none
  | some owner =>
      some
        { transfers with
          ledger := ExternalLedger.release transfers.ledger owner.len
          owned := transfers.owned.eraseIdx index
          freed := transfers.freed ++ [owner] }

section Reports

/-- Either quota refuses the owner. -/
def Refuses (limits : ExternalBufferLimits width)
    (transfers : Transfers width Raw) (owner : Boxed width) : Prop :=
  (∃ error, transfers.budget.reserve = .error error) ∨
    ¬ExternalLedger.Room limits transfers.ledger owner.len

/-- The ledger is charged, and the engine holds the owner. -/
def handOver (transfers : Transfers width Raw) (owner : Boxed width) :
    Transfers width Raw :=
  { transfers with
    ledger :=
      { transfers.ledger with
        liveAllocations := transfers.ledger.liveAllocations + 1
        liveBytes := transfers.ledger.liveBytes + owner.len }
    owned := transfers.owned ++ [owner] }

/-- The object is a local root of the scope. -/
def root (transfers : Transfers width Raw) (object : Raw) :
    Transfers width Raw :=
  { transfers with
    budget := transfers.budget.charged (transfers.budget.used + 1)
    roots := transfers.roots.push object }

/-- The three ways a transfer ends. -/
inductive Reports (limits : ExternalBufferLimits width)
    (transfers : Transfers width Raw) (owner : Boxed width) :
    Except (OwnershipTransferError width) Raw → Transfers width Raw → Prop
  | rejected (error : BackendError)
      (refuses : transfers.Refuses limits owner) :
      Reports limits transfers owner (.error (.rejected error owner))
        transfers
  | accepted (error : BackendError)
      (admits : ¬transfers.Refuses limits owner) :
      Reports limits transfers owner (.error (.accepted error))
        (transfers.handOver owner)
  | transferred (object : Raw) (admits : ¬transfers.Refuses limits owner) :
      Reports limits transfers owner (.ok object)
        ((transfers.handOver owner).root object)

variable {limits : ExternalBufferLimits width}
  {transfers next : Transfers width Raw} {owner : Boxed width}

theorem refund_reserved {budget : LocalBudget} {reservation : Reservation}
    (reserved : transfers.budget.reserve = .ok (budget, reservation)) :
    refund { transfers with budget } reservation = .ok transfers := by
  rw [refund, LocalBudget.drop_reserved reserved]
  rfl

theorem eq_ok_of_map {Before After Fault : Type*} {change : Before → After}
    {outcome : Except Fault Before} {result : After}
    (mapped : outcome.map change = .ok result) :
    ∃ found, outcome = .ok found ∧ change found = result := by
  cases outcome with
  | error fault => cases mapped
  | ok found => exact ⟨found, rfl, Except.ok.inj mapped⟩

/-- Every transfer ends in one of these ways, and no refund goes wrong. -/
theorem externalize_reports (limits : ExternalBufferLimits width)
    (transfers : Transfers width Raw) (owner : Boxed width)
    (outcome : EngineOutcome width Raw) :
    ∃ reply next,
      transfers.externalize limits owner outcome = .ok (reply, next) ∧
        Reports limits transfers owner reply next := by
  unfold externalize
  cases reserved : transfers.budget.reserve with
  | error error =>
      exact ⟨_, _, rfl, .rejected _ (Or.inl ⟨error, reserved⟩)⟩
  | ok reserving =>
      obtain ⟨budget, reservation⟩ := reserving
      by_cases room : ExternalLedger.Room limits transfers.ledger owner.len
      · have admits : ¬transfers.Refuses limits owner := by
          intro refuses
          cases refuses with
          | inl refused =>
              obtain ⟨error, refused⟩ := refused
              rw [reserved] at refused
              cases refused
          | inr full => exact full room
        simp only [ExternalLedger.reserve_of_room room]
        cases made : makeExternalObject owner outcome with
        | error error =>
            have refunded : refund
                { transfers.handOver owner with budget } reservation =
                  .ok (transfers.handOver owner) := refund_reserved reserved
            simp only [handOver] at refunded
            simp only [refunded, Except.map]
            exact ⟨_, _, rfl, .accepted _ admits⟩
        | ok object =>
            obtain ⟨object, matched⟩ := object
            obtain ⟨same, _, _⟩ := LocalBudget.reserveMany_eq_ok reserved
            subst same
            exact ⟨_, _, rfl, .transferred object admits⟩
      · obtain ⟨error, refused⟩ := ExternalLedger.reserve_of_not_room room
        simp only [refused, refund_reserved reserved, Except.map]
        exact ⟨_, _, rfl, .rejected _ (Or.inr room)⟩

/-- A transfer succeeds exactly if no quota refuses the owner and the engine
passes every check. -/
theorem externalize_eq_ok_iff {outcome : EngineOutcome width Raw}
    {result : Except (OwnershipTransferError width) Raw}
    (transferred : transfers.externalize limits owner outcome =
      .ok (result, next)) (object : Raw) :
    result = .ok object ↔
      ¬transfers.Refuses limits owner ∧ outcome.Passes owner object := by
  unfold externalize at transferred
  cases reserved : transfers.budget.reserve with
  | error error =>
      simp only [reserved] at transferred
      cases transferred
      refine iff_of_false nofun fun both => both.1 (Or.inl ⟨error, reserved⟩)
  | ok reserving =>
      obtain ⟨budget, reservation⟩ := reserving
      by_cases room : ExternalLedger.Room limits transfers.ledger owner.len
      · have admits : ¬transfers.Refuses limits owner := by
          rintro (⟨error, refused⟩ | full)
          · cases reserved.symm.trans refused
          · exact full room
        simp only [reserved, ExternalLedger.reserve_of_room room]
          at transferred
        rw [and_iff_right admits, ← makeExternalObject_eq_ok_iff]
        cases made : makeExternalObject owner outcome with
        | error error =>
            simp only [made] at transferred
            obtain ⟨left, _, same⟩ := eq_ok_of_map transferred
            cases same
            refine iff_of_false nofun ?_
            rintro ⟨matched, passed⟩
            cases passed
        | ok checked =>
            obtain ⟨found, matched⟩ := checked
            simp only [made] at transferred
            obtain ⟨left, _, same⟩ := eq_ok_of_map transferred
            cases same
            constructor
            · intro here
              cases here
              exact ⟨matched, rfl⟩
            · rintro ⟨other, here⟩
              cases here
              rfl
      · obtain ⟨error, refused⟩ := ExternalLedger.reserve_of_not_room room
        simp only [reserved, refused] at transferred
        obtain ⟨left, _, same⟩ := eq_ok_of_map transferred
        cases same
        exact iff_of_false nofun fun both => both.1 (Or.inr room)

/-- Handing over charges one allocation and the length, without wrapping. -/
theorem handOver_charges (admits : ¬transfers.Refuses limits owner) :
    (transfers.handOver owner).ledger.liveAllocations.toNat =
        transfers.ledger.liveAllocations.toNat + 1 ∧
      (transfers.handOver owner).ledger.liveBytes.toNat =
        transfers.ledger.liveBytes.toNat + owner.bytes.length := by
  have room : ExternalLedger.Room limits transfers.ledger owner.len := by
    by_contra full
    exact admits (Or.inr full)
  have length : owner.len.toNat = owner.bytes.length :=
    (BitVec.toNat_ofNat ..).trans (Nat.mod_eq_of_lt owner.addressable)
  have bound := limits.bytes.isLt
  have fits := room.2
  refine ⟨ExternalLedger.add_one_toNat (BitVec.lt_def.mpr room.1), ?_⟩
  rw [← length]
  exact (BitVec.toNat_add ..).trans (Nat.mod_eq_of_lt (by omega))

end Reports

section Covering

/-- The ledger shows what the engine holds, and what else is charged to it. -/
structure Covers (allocations bytes : Nat)
    (transfers : Transfers width Raw) : Prop where
  allocations : transfers.ledger.liveAllocations.toNat =
    allocations + transfers.owned.length
  bytes : transfers.ledger.liveBytes.toNat =
    bytes + total (fun owner => owner.bytes.length) transfers.owned

variable {limits : ExternalBufferLimits width} {allocations bytes : Nat}
  {transfers next : Transfers width Raw} {owner : Boxed width}

/-- The deallocator refunds exactly what its owner was charged. -/
theorem Covers.deallocate (covers : transfers.Covers allocations bytes)
    {index : Nat} (held : transfers.owned[index]? = some owner)
    (ran : transfers.deallocate index = some next) :
    next.Covers allocations bytes ∧
      next.ledger.liveAllocations.toNat + 1 =
        transfers.ledger.liveAllocations.toNat ∧
      next.ledger.liveBytes.toNat + owner.bytes.length =
        transfers.ledger.liveBytes.toNat ∧
      (owner :: next.owned).Perm transfers.owned ∧
      next.freed = transfers.freed ++ [owner] ∧
      next.budget = transfers.budget ∧ next.roots = transfers.roots := by
  rw [Transfers.deallocate, held] at ran
  cases ran
  obtain ⟨within, same⟩ := List.getElem?_eq_some_iff.mp held
  have removed : (owner :: transfers.owned.eraseIdx index).Perm
      transfers.owned := by
    rw [← same]
    exact List.getElem_cons_eraseIdx_perm within
  have count := removed.length_eq
  have weight := total_perm (fun owner : Boxed width =>
    owner.bytes.length) removed
  rw [total_cons] at weight
  rw [List.length_cons] at count
  have shown := covers.allocations
  have charged := covers.bytes
  have length : owner.len.toNat = owner.bytes.length :=
    (BitVec.toNat_ofNat ..).trans (Nat.mod_eq_of_lt owner.addressable)
  have allocation : (transfers.ledger.liveAllocations - 1).toNat =
      transfers.ledger.liveAllocations.toNat - 1 :=
    ExternalLedger.sub_one_toNat (by omega)
  have refunded : (transfers.ledger.liveBytes - owner.len).toNat =
      transfers.ledger.liveBytes.toNat - owner.len.toNat := by
    apply BitVec.toNat_sub_of_le
    rw [BitVec.le_def]
    omega
  refine ⟨⟨?_, ?_⟩, ?_, ?_, removed, rfl, rfl, rfl⟩
  · exact allocation.trans (by dsimp only; omega)
  · exact refunded.trans (by dsimp only; omega)
  · exact (congrArg (· + 1) allocation).trans (by omega)
  · exact (congrArg (· + owner.bytes.length) refunded).trans (by omega)

theorem Covers.handOver (covers : transfers.Covers allocations bytes)
    (admits : ¬transfers.Refuses limits owner) :
    (transfers.handOver owner).Covers allocations bytes := by
  obtain ⟨allocation, charged⟩ := handOver_charges admits
  have shown := covers.allocations
  have weight := covers.bytes
  constructor
  · rw [allocation, shown, Transfers.handOver, List.length_append]
    exact Nat.add_assoc ..
  · rw [charged, weight, Transfers.handOver, total_append_single]
    exact Nat.add_assoc ..

end Covering

/-! ## Runs -/

inductive Op (width : PointerWidth) (Raw : Type*) where
  | externalize (owner : Boxed width) (outcome : EngineOutcome width Raw)
  | deallocate (index : Nat)

inductive Reply (width : PointerWidth) (Raw : Type*) where
  | transfer (result : Except (OwnershipTransferError width) Raw)
  | deallocated
  | faulted (fault : Fault)

/-- The engine may run a deallocator before a transfer returns as well as
after; the rest of a transfer does not look at the ledger. -/
def transferring (limits : ExternalBufferLimits width) :
    Component (Transfers width Raw) (Op width Raw) (Reply width Raw) where
  perform := fun transfers op =>
    match op with
    | .externalize owner outcome =>
        match transfers.externalize limits owner outcome with
        | .error fault => some (.faulted fault, transfers)
        | .ok (result, next) => some (.transfer result, next)
    | .deallocate index =>
        (transfers.deallocate index).map fun next => (.deallocated, next)

/-- Every run from one state. -/
def transferSystem (limits : ExternalBufferLimits width)
    (start : Transfers width Raw) :
    System (Transfers width Raw) (Exchange (Op width Raw) (Reply width Raw)) :=
  (transferring limits).system fun transfers => transfers = start

/-- The owner a transfer was called with. -/
def passed (exchange : Exchange (Op width Raw) (Reply width Raw)) :
    Option (Boxed width) :=
  match exchange.op with
  | .externalize owner _ => some owner
  | .deallocate _ => none

/-- The owner a transfer gave back. -/
def returned (exchange : Exchange (Op width Raw) (Reply width Raw)) :
    Option (Boxed width) :=
  match exchange.reply with
  | .transfer (.error (.rejected _ owner)) => some owner
  | _ => none

section Runs

variable {limits : ExternalBufferLimits width} {allocations bytes : Nat}
  {start transfers next : Transfers width Raw}
  {trace : List (Exchange (Op width Raw) (Reply width Raw))}

/-- A step is a transfer that reports what it did, or a deallocator. -/
theorem step_cases {exchange : Exchange (Op width Raw) (Reply width Raw)}
    (step : (transferSystem limits start).step transfers exchange next) :
    (∃ owner outcome result,
      exchange = ⟨.externalize owner outcome, .transfer result⟩ ∧
        transfers.externalize limits owner outcome = .ok (result, next) ∧
        Reports limits transfers owner result next) ∨
    ∃ index owner, exchange = ⟨.deallocate index, .deallocated⟩ ∧
      transfers.owned[index]? = some owner ∧
      transfers.deallocate index = some next := by
  obtain ⟨op, reply⟩ := exchange
  cases op with
  | externalize owner outcome =>
      obtain ⟨result, left, transferred, reports⟩ :=
        externalize_reports limits transfers owner outcome
      have performed : (transferring limits).perform transfers
          (.externalize owner outcome) = some (.transfer result, left) := by
        simp only [transferring, transferred]
      obtain ⟨same, target⟩ := Prod.mk.inj
        (Option.some.inj (performed.symm.trans step))
      subst same target
      exact Or.inl ⟨owner, outcome, result, rfl, transferred, reports⟩
  | deallocate index =>
      obtain ⟨ran, same⟩ := Option.map_eq_some_iff.mp
        (step : (transfers.deallocate index).map _ = _)
      obtain ⟨left, same⟩ := same
      obtain ⟨reply, target⟩ := Prod.mk.inj same
      subst reply target
      cases held : transfers.owned[index]? with
      | none =>
          rw [Transfers.deallocate, held] at left
          cases left
      | some owner => exact Or.inr ⟨index, owner, rfl, held, left⟩

/-- Every owner is given back, held by the engine or freed. -/
def Conserved (start : Transfers width Raw)
    (trace : List (Exchange (Op width Raw) (Reply width Raw)))
    (transfers : Transfers width Raw) : Prop :=
  (start.owned ++ start.freed ++ trace.filterMap passed).Perm
    (trace.filterMap returned ++ (transfers.owned ++ transfers.freed))

theorem step_conserved
    {exchange : Exchange (Op width Raw) (Reply width Raw)}
    (conserved : Conserved start trace transfers)
    (step : (transferSystem limits start).step transfers exchange next) :
    Conserved start (trace ++ [exchange]) next := by
  unfold Conserved at conserved ⊢
  rw [filterMap_snoc, filterMap_snoc, ← List.append_assoc]
  cases step_cases step with
  | inl transferred =>
      obtain ⟨owner, outcome, result, shape, _, reports⟩ := transferred
      subst shape
      have added := conserved.append_right [owner]
      cases reports with
      | rejected error =>
          refine added.trans ?_
          simp only [returned, Option.toList, List.append_assoc]
          apply List.Perm.append_left
          rw [← List.append_assoc]
          exact List.perm_append_comm
      | accepted error =>
          refine added.trans ?_
          simp only [returned, Option.toList, List.append_nil, handOver,
            List.append_assoc]
          apply List.Perm.append_left
          apply List.Perm.append_left
          exact List.perm_append_comm
      | transferred object =>
          refine added.trans ?_
          simp only [returned, Option.toList, List.append_nil, handOver, root,
            List.append_assoc]
          apply List.Perm.append_left
          apply List.Perm.append_left
          exact List.perm_append_comm
  | inr deallocated =>
      obtain ⟨index, owner, shape, held, ran⟩ := deallocated
      subst shape
      rw [deallocate, held] at ran
      cases ran
      obtain ⟨within, same⟩ := List.getElem?_eq_some_iff.mp held
      have removed : (owner :: transfers.owned.eraseIdx index).Perm
          transfers.owned := by
        rw [← same]
        exact List.getElem_cons_eraseIdx_perm within
      simp only [passed, returned, Option.toList, List.append_nil]
      refine conserved.trans ?_
      apply List.Perm.append_left
      refine (removed.symm.append_right _).trans ?_
      rw [← List.append_assoc]
      exact @List.perm_append_comm _ [owner] _

theorem run_conserved (run : (transferSystem limits start).Run trace transfers) :
    Conserved start trace transfers := by
  refine System.Run.invariant (fun trace transfers =>
    Conserved start trace transfers) ?_ ?_ run
  · intro transfers same
    obtain rfl : transfers = start := same
    unfold Conserved
    simp
  · intro trace transfers exchange next _ conserved step
    exact step_conserved conserved step

theorem run_covers (covers : start.Covers allocations bytes)
    (run : (transferSystem limits start).Run trace transfers) :
    transfers.Covers allocations bytes := by
  refine System.Run.invariant (fun _ transfers =>
    transfers.Covers allocations bytes) ?_ ?_ run
  · intro transfers same
    obtain rfl : transfers = start := same
    exact covers
  · intro trace transfers exchange next _ covered step
    cases step_cases step with
    | inl transferred =>
        obtain ⟨owner, outcome, result, _, _, reports⟩ := transferred
        cases reports with
        | rejected error => exact covered
        | accepted error admits => exact covered.handOver admits
        | transferred object admits =>
            exact ⟨(covered.handOver admits).allocations,
              (covered.handOver admits).bytes⟩
    | inr deallocated =>
        obtain ⟨index, owner, _, held, ran⟩ := deallocated
        exact (covered.deallocate held ran).1

/-- What a transfer tells its caller is what happened. -/
structure Truthful (limits : ExternalBufferLimits width)
    (transfers : Transfers width Raw) (owner : Boxed width)
    (result : Except (OwnershipTransferError width) Raw)
    (next : Transfers width Raw) : Prop where
  rejected_iff :
    (∃ error, result = .error (.rejected error owner)) ↔
      transfers.Refuses limits owner
  rejected : ∀ error other, result = .error (.rejected error other) →
    other = owner ∧ next = transfers
  accepted : ∀ error, result = .error (.accepted error) →
    next.budget = transfers.budget ∧ next.roots = transfers.roots
  rooted : ∀ object, result = .ok object →
    next.budget = transfers.budget.charged (transfers.budget.used + 1) ∧
      next.roots = transfers.roots.push object
  /-- Unless it was rejected, the owner is with the engine, and its length and
  one allocation are charged. -/
  charged : (∀ error other, result ≠ .error (.rejected error other)) →
    next.owned = transfers.owned ++ [owner] ∧
      next.freed = transfers.freed ∧
      next.ledger.liveAllocations.toNat =
        transfers.ledger.liveAllocations.toNat + 1 ∧
      next.ledger.liveBytes.toNat =
        transfers.ledger.liveBytes.toNat + owner.bytes.length

theorem Reports.truthful {owner : Boxed width}
    {result : Except (OwnershipTransferError width) Raw}
    (reports : Reports limits transfers owner result next) :
    Truthful limits transfers owner result next := by
  cases reports with
  | rejected error refuses =>
      refine ⟨iff_of_true ⟨error, rfl⟩ refuses, ?_, nofun, nofun, ?_⟩
      · intro other same shape
        cases shape
        exact ⟨rfl, rfl⟩
      · intro taken
        exact absurd rfl (taken error owner)
  | accepted error admits =>
      refine ⟨iff_of_false nofun admits, nofun, fun _ _ => ⟨rfl, rfl⟩, nofun,
        fun _ => ⟨rfl, rfl, handOver_charges admits⟩⟩
  | transferred object admits =>
      refine ⟨iff_of_false nofun admits, nofun, nofun, ?_,
        fun _ => ⟨rfl, rfl, handOver_charges admits⟩⟩
      intro other same
      cases same
      exact ⟨rfl, rfl⟩

/-- Ownership is reported truthfully, from any budget and ledger on. -/
structure TransfersTold (limits : ExternalBufferLimits width)
    (allocations bytes : Nat) (start : Transfers width Raw)
    (trace : List (Exchange (Op width Raw) (Reply width Raw)))
    (transfers : Transfers width Raw) : Prop where
  /-- The next transfer, of any owner and with any answers of the engine. -/
  told : ∀ owner outcome, ∃ result next,
    transfers.externalize limits owner outcome = .ok (result, next) ∧
      Truthful limits transfers owner result next ∧
      ∀ object, result = .ok object ↔
        ¬transfers.Refuses limits owner ∧ outcome.Passes owner object
  /-- What is not charged to others is charged for what the engine holds. -/
  covers : transfers.Covers allocations bytes
  refunds : ∀ index owner next, transfers.owned[index]? = some owner →
    transfers.deallocate index = some next →
      next.ledger.liveAllocations.toNat + 1 =
          transfers.ledger.liveAllocations.toNat ∧
        next.ledger.liveBytes.toNat + owner.bytes.length =
          transfers.ledger.liveBytes.toNat ∧
        (owner :: next.owned).Perm transfers.owned ∧
        next.freed = transfers.freed ++ [owner] ∧
        next.budget = transfers.budget ∧ next.roots = transfers.roots
  /-- No owner is both given back and freed, or freed twice. -/
  conserved : Conserved start trace transfers
  once : (start.owned ++ start.freed ++ trace.filterMap passed).Nodup →
    (trace.filterMap returned ++ (transfers.owned ++ transfers.freed)).Nodup

theorem run_transfersTold (covers : start.Covers allocations bytes)
    (run : (transferSystem limits start).Run trace transfers) :
    TransfersTold limits allocations bytes start trace transfers := by
  have covered := run_covers covers run
  have conserved := run_conserved run
  refine ⟨?_, covered, ?_, conserved, conserved.nodup_iff.mp⟩
  · intro owner outcome
    obtain ⟨result, next, transferred, reports⟩ :=
      externalize_reports limits transfers owner outcome
    exact ⟨result, next, transferred, reports.truthful,
      externalize_eq_ok_iff transferred⟩
  · intro index owner next held ran
    exact (covered.deallocate held ran).2

def zeros (length : Fin 8) : Boxed .sixtyFour where
  origin := 0x1000
  bytes := List.replicate length 0
  addressable := by
    rw [List.length_replicate]
    exact Nat.lt_trans length.isLt (by decide)

/-- An engine that made an object of so many bytes. -/
def madeOf (length : Fin 8) : EngineOutcome .sixtyFour Nat where
  exception := none
  object := some 1
  lengthException := none
  observedLen := (zeros length).len
  originException := none
  observedOrigin := some 0x1000

/-- A transfer, one the ledger refuses, one whose length was changed, one the
local budget refuses, and both deallocators. -/
def fourTransfers : List (Op .sixtyFour Nat) :=
  [.externalize (zeros 3) (madeOf 3), .externalize (zeros 5) (madeOf 5),
    .externalize (zeros 4) (madeOf 5), .deallocate 1,
    .externalize (zeros 2) (madeOf 2), .externalize (zeros 1) (madeOf 1),
    .deallocate 0]

def twoLocals : Transfers .sixtyFour Nat where
  budget := .new 2
  ledger := ExternalLedger.new
  roots := .new
  owned := []
  freed := []

theorem fourTransfers_transfersTold :
    ∃ trace transfers,
      (transferring ExternalLedger.smallLimits).performAll twoLocals
        fourTransfers = some (trace, transfers) ∧
      TransfersTold ExternalLedger.smallLimits 0 0 twoLocals trace
        transfers := by
  obtain ⟨trace, transfers, performed, run⟩ :=
    (transferring ExternalLedger.smallLimits).exists_run_of_performAll
      (fun transfers => transfers = twoLocals) fourTransfers rfl (by decide)
  exact ⟨trace, transfers, performed, run_transfersTold ⟨rfl, rfl⟩ run⟩

end Runs

end Transfers

end RustJsi.BackendJsc
