import RustJsi.Host.DrainRegistration
import RustJsi.Interleaving.Pool
import Mathlib.Data.List.Nodup

/-!
# Allocation of identities by any number of threads

Runtime identities come from one counter that all threads share, and the
epochs of a runtime from a counter that its owner keeps.  Either counter stops
at its last value, so that an identity is never issued again.
-/

namespace RustJsi.Host

open Interleaving

/-- `checked_add(1)`, which `fetch_update` applies to the counter. -/
def checkedAddOne (current : UInt64) : Option UInt64 :=
  if current.toNat + 1 < UInt64.size then some (current + 1) else none

theorem checkedAddOne_eq_some {current next : UInt64}
    (advances : checkedAddOne current = some next) :
    next.toNat = current.toNat + 1 := by
  unfold checkedAddOne at advances
  split at advances
  · rename_i fits
    cases advances
    rw [UInt64.toNat_add]
    exact Nat.mod_eq_of_lt fits
  · cases advances

theorem checkedAddOne_eq_none_iff {current : UInt64} :
    checkedAddOne current = none ↔ current.toNat + 1 = UInt64.size := by
  have bound := current.toNat_lt_size
  unfold checkedAddOne
  by_cases fits : current.toNat + 1 < UInt64.size
  · rw [if_pos fits]
    refine iff_of_false ?_ (Nat.ne_of_lt fits)
    intro none
    cases none
  · rw [if_neg fits]
    exact iff_of_true rfl (by omega)

/-- The allocator of the linked host domain, with every issuer obtained from
it. -/
structure IdentityDomain where
  /-- `NEXT_RUNTIME_ID`. -/
  nextRuntimeId : UInt64
  issuers : List RuntimeIdentity

def IdentityDomain.new : IdentityDomain where
  nextRuntimeId := 1
  issuers := []

inductive IdentityOp where
  /-- `RuntimeIdentity::allocate`. -/
  | allocate
  /-- `next_attachment` of an issuer, by its owner. -/
  | nextAttachment (issuer : Nat)
  deriving DecidableEq, Repr

/-- Where a call stands before its next access. -/
inductive IdentityCall where
  /-- The first load of `fetch_update`. -/
  | loading
  /-- The weak exchange of the value seen last. -/
  | exchanging (current : UInt64)
      (next : { next : UInt64 // checkedAddOne current = some next })
  | issuing (issuer : Nat)
  | returned

/-- What an access did, and the value that the call returns with it. -/
inductive IdentityEffect where
  | quiet
  | allocated (id : RuntimeId)
  | refused (error : IdentityError)
  | issued (issuer : Nat) (result : Except IdentityError AttachmentId)

namespace IdentityDomain

/-- What `fetch_update` does with a value it has seen. -/
def attempt (current : UInt64) : IdentityCall × IdentityEffect :=
  match advances : checkedAddOne current with
  | none => (.returned, .refused .runtimeIdExhausted)
  | some next => (.exchanging current ⟨next, advances⟩, .quiet)

/-- The value that was replaced is the identity. -/
def allocated (domain : IdentityDomain) (raw : UInt64) :
    IdentityDomain × IdentityCall × IdentityEffect :=
  match NonZeroU64.new raw with
  | none => (domain, .returned, .refused .runtimeIdExhausted)
  | some raw =>
      ({ domain with
          issuers := domain.issuers ++ [⟨⟨raw⟩, NonZeroU64.new 1⟩] },
        .returned, .allocated ⟨raw⟩)

/-- One access of a call.  The exchange may fail although the value is
unchanged, and tells the value it found. -/
def step (domain : IdentityDomain) (spurious : Bool) :
    IdentityCall → Option (IdentityDomain × IdentityCall × IdentityEffect)
  | .loading => some (domain, attempt domain.nextRuntimeId)
  | .exchanging current next =>
      if domain.nextRuntimeId = current ∧ spurious = false then
        some (allocated { domain with nextRuntimeId := next.1 } current)
      else
        some (domain, attempt domain.nextRuntimeId)
  | .issuing issuer =>
      match domain.issuers[issuer]? with
      | none => none
      | some identity =>
          let (result, identity) := identity.nextAttachment
          some ({ domain with issuers := domain.issuers.set issuer identity },
            .returned, .issued issuer result)
  | .returned => none

def start : IdentityOp → IdentityCall
  | .allocate => .loading
  | .nextAttachment issuer => .issuing issuer

def machine : Machine IdentityDomain IdentityCall IdentityOp Bool
    IdentityEffect where
  start := start
  step := step

/-- Every interleaving of allocations, and of the owners of the issuers. -/
def system : System (Pool IdentityDomain IdentityCall)
    (PoolLabel IdentityOp IdentityEffect) :=
  machine.system (· = new)

/-- Each access leaves the counters, finds the allocator exhausted, or issues
the next identity of one of them. -/
inductive Moves (domain : IdentityDomain) :
    IdentityDomain → IdentityEffect → Prop
  | quiet : Moves domain domain .quiet
  | refused
      (exhausted : checkedAddOne domain.nextRuntimeId = none) :
      Moves domain domain (.refused .runtimeIdExhausted)
  | allocated {raw : NonZeroU64} {next : UInt64}
      (issues : raw.get = domain.nextRuntimeId)
      (advances : checkedAddOne domain.nextRuntimeId = some next) :
      Moves domain
        { nextRuntimeId := next
          issuers := domain.issuers ++ [⟨⟨raw⟩, NonZeroU64.new 1⟩] }
        (.allocated ⟨raw⟩)
  | issued {issuer : Nat} {identity : RuntimeIdentity}
      (present : domain.issuers[issuer]? = some identity) :
      Moves domain
        { domain with
          issuers := domain.issuers.set issuer identity.nextAttachment.2 }
        (.issued issuer identity.nextAttachment.1)

theorem moves_of_attempt {domain : IdentityDomain} {after : IdentityCall}
    {effect : IdentityEffect}
    (found : attempt domain.nextRuntimeId = (after, effect)) :
    Moves domain domain effect := by
  unfold attempt at found
  split at found
  · rename_i exhausted
    cases found
    exact .refused exhausted
  · cases found
    exact .quiet

theorem moves_of_step {domain next : IdentityDomain} {spurious : Bool}
    {call after : IdentityCall} {effect : IdentityEffect}
    (positive : 0 < domain.nextRuntimeId.toNat)
    (accessed : domain.step spurious call = some (next, after, effect)) :
    Moves domain next effect := by
  cases call with
  | loading =>
      obtain ⟨same, found⟩ := Prod.mk.inj (Option.some.inj accessed)
      subst same
      exact moves_of_attempt found
  | exchanging current replacement =>
      simp only [step] at accessed
      split at accessed
      · rename_i succeeds
        obtain ⟨same, _⟩ := succeeds
        obtain ⟨replacement, advances⟩ := replacement
        subst same
        simp only [allocated] at accessed
        split at accessed
        · rename_i zero
          rw [NonZeroU64.new_eq_none zero] at positive
          exact absurd positive (Nat.lt_irrefl 0)
        · rename_i raw nonzero
          cases accessed
          exact .allocated (NonZeroU64.new_eq_some nonzero) advances
      · obtain ⟨same, found⟩ := Prod.mk.inj (Option.some.inj accessed)
        subst same
        exact moves_of_attempt found
  | issuing issuer =>
      simp only [step] at accessed
      split at accessed
      · cases accessed
      · rename_i identity present
        cases accessed
        exact .issued present
  | returned => cases accessed

end IdentityDomain

abbrev IdentityTrace : Type :=
  List (PoolLabel IdentityOp IdentityEffect)

namespace IdentityEffect

def allocated? : IdentityEffect → Option RuntimeId
  | .allocated id => some id
  | _ => none

def issued? : IdentityEffect → Option (Nat × AttachmentId)
  | .issued issuer (.ok id) => some (issuer, id)
  | _ => none

end IdentityEffect

namespace IdentityTrace

/-- The runtime identities that were returned. -/
def allocated (trace : IdentityTrace) : List RuntimeId :=
  (trace.filterMap PoolLabel.effect?).filterMap IdentityEffect.allocated?

/-- The attachment identities that were returned, each with its issuer. -/
def issued (trace : IdentityTrace) : List (Nat × AttachmentId) :=
  (trace.filterMap PoolLabel.effect?).filterMap IdentityEffect.issued?

/-- The epochs that one issuer has issued. -/
def epochs (trace : IdentityTrace) (issuer : Nat) : List Nat :=
  (trace.issued.filter (·.1 = issuer)).map (·.2.epoch.raw.get.toNat)

end IdentityTrace

namespace RuntimeIdentity

/-- The issuer is past this many epochs. -/
structure HasIssued (identity : RuntimeIdentity) (count : Nat) : Prop where
  bounded : count < UInt64.size
  next : ∀ epoch, identity.nextEpoch = some epoch →
    epoch.get.toNat = count + 1
  exhausted : identity.nextEpoch = none → count + 1 = UInt64.size

variable {identity : RuntimeIdentity} {count : Nat}

theorem hasIssued_new (id : RuntimeId) :
    HasIssued ⟨id, NonZeroU64.new 1⟩ 0 where
  bounded := by decide
  next := by
    intro epoch same
    have made : NonZeroU64.new 1 = some epoch := same
    rw [NonZeroU64.new_eq_some made]
    rfl
  exhausted := by
    intro nothing
    have zero : NonZeroU64.new 1 = none := nothing
    cases NonZeroU64.new_eq_none zero

/-- An issuer that is not exhausted issues the next epoch. -/
theorem HasIssued.issue (issued : identity.HasIssued count)
    {epoch : NonZeroU64} (present : identity.nextEpoch = some epoch) :
    HasIssued { identity with nextEpoch := epoch.checkedSucc }
      (count + 1) where
  bounded := by
    rw [← issued.next epoch present]
    exact epoch.get.toNat_lt_size
  next := by
    intro after succeeds
    rw [NonZeroU64.checkedSucc_toNat succeeds, issued.next epoch present]
  exhausted := by
    intro fails
    rw [← NonZeroU64.checkedSucc_eq_none fails, issued.next epoch present]

/-- What `next_attachment` answers after this many epochs: the next one, up to
the last value of the counter, and nothing after it. -/
def Answers (identity : RuntimeIdentity) (count : Nat) : Prop :=
  if count < UInt64.size - 1 then
    ∃ epoch : NonZeroU64, epoch.get.toNat = count + 1 ∧
      identity.nextAttachment.1 = .ok ⟨identity.runtimeId, ⟨epoch⟩⟩
  else
    identity.nextAttachment =
      (.error (.attachmentEpochExhausted identity.runtimeId), identity)

theorem HasIssued.answers (issued : identity.HasIssued count) :
    identity.Answers count := by
  unfold Answers
  have size : 0 < UInt64.size := by decide
  cases present : identity.nextEpoch with
  | none =>
      have last := issued.exhausted present
      rw [if_neg (by omega), nextAttachment, present]
  | some epoch =>
      have next := issued.next epoch present
      have bound := epoch.get.toNat_lt_size
      rw [if_pos (by omega)]
      refine ⟨epoch, next, ?_⟩
      rw [nextAttachment, present]

end RuntimeIdentity

/-! ## The ledger of a run -/

/-- The counters agree with what was issued. -/
structure IdentityLedger (trace : IdentityTrace) (domain : IdentityDomain) :
    Prop where
  positive : 0 < domain.nextRuntimeId.toNat
  runtimes : trace.allocated.map (·.raw.get.toNat) =
    List.range' 1 (domain.nextRuntimeId.toNat - 1)
  issuers : domain.issuers.map RuntimeIdentity.runtimeId = trace.allocated
  epochs : ∀ issuer, trace.epochs issuer =
    List.range' 1 (trace.epochs issuer).length
  counted : ∀ (issuer : Nat) (identity : RuntimeIdentity),
    domain.issuers[issuer]? = some identity →
    identity.HasIssued (trace.epochs issuer).length
  owned : ∀ entry ∈ trace.issued, ∃ identity,
    domain.issuers[entry.1]? = some identity ∧
      entry.2.runtimeId = identity.runtimeId
  once : (trace.issued.map Prod.snd).Nodup
  refused : ∀ error, .refused error ∈ trace.filterMap PoolLabel.effect? →
    checkedAddOne domain.nextRuntimeId = none

namespace IdentityTrace

variable {trace : IdentityTrace} {label : PoolLabel IdentityOp IdentityEffect}
  {effect : IdentityEffect} {issuer : Nat}

theorem allocated_snoc (shown : label.effect? = some effect) :
    IdentityTrace.allocated (trace ++ [label]) =
      trace.allocated ++ effect.allocated?.toList := by
  simp only [allocated, List.filterMap_append, List.filterMap_cons, shown,
    List.filterMap_nil]
  cases effect.allocated? with
  | none => rfl
  | some id => rfl

theorem issued_snoc (shown : label.effect? = some effect) :
    IdentityTrace.issued (trace ++ [label]) =
      trace.issued ++ effect.issued?.toList := by
  simp only [issued, List.filterMap_append, List.filterMap_cons, shown,
    List.filterMap_nil]
  cases effect.issued? with
  | none => rfl
  | some entry => rfl

theorem epochs_snoc_of_none (shown : label.effect? = some effect)
    (nothing : effect.issued? = none) :
    IdentityTrace.epochs (trace ++ [label]) issuer = trace.epochs issuer := by
  rw [epochs, issued_snoc shown, nothing]
  exact congrArg _ (congrArg _ (List.append_nil _))

theorem epochs_snoc_of_some {index : Nat} {id : AttachmentId}
    (shown : label.effect? = some effect)
    (issues : effect.issued? = some (index, id)) :
    IdentityTrace.epochs (trace ++ [label]) issuer =
      trace.epochs issuer ++
        if index = issuer then [id.epoch.raw.get.toNat] else [] := by
  rw [epochs, issued_snoc shown, issues, Option.toList_some,
    List.filter_append, List.map_append, epochs]
  by_cases own : index = issuer
  · simp [own]
  · simp [own]

end IdentityTrace

namespace IdentityLedger

variable {trace : IdentityTrace} {domain next : IdentityDomain}
  {label : PoolLabel IdentityOp IdentityEffect} {effect : IdentityEffect}

theorem new : IdentityLedger [] .new where
  positive := by decide
  runtimes := rfl
  issuers := rfl
  epochs := fun _ => rfl
  counted := by
    intro issuer identity present
    cases present
  owned := by
    intro entry member
    cases member
  once := List.nodup_nil
  refused := by
    intro error member
    cases member

theorem runtimes_nodup (ledger : IdentityLedger trace domain) :
    trace.allocated.Nodup := by
  apply List.Nodup.of_map (·.raw.get.toNat)
  rw [ledger.runtimes]
  exact List.nodup_range'

/-- The ledger speaks only of what was issued. -/
theorem congr (ledger : IdentityLedger trace domain) {other : IdentityTrace}
    (allocated : other.allocated = trace.allocated)
    (issued : other.issued = trace.issued)
    (exhausted : ∀ error, .refused error ∈ other.filterMap PoolLabel.effect? →
      checkedAddOne domain.nextRuntimeId = none) :
    IdentityLedger other domain := by
  have epochs : ∀ issuer, other.epochs issuer = trace.epochs issuer := by
    intro issuer
    rw [IdentityTrace.epochs, issued, IdentityTrace.epochs]
  constructor
  · exact ledger.positive
  · rw [allocated]
    exact ledger.runtimes
  · rw [allocated]
    exact ledger.issuers
  · intro issuer
    rw [epochs]
    exact ledger.epochs issuer
  · intro issuer identity present
    rw [epochs]
    exact ledger.counted issuer identity present
  · rw [issued]
    exact ledger.owned
  · rw [issued]
    exact ledger.once
  · exact exhausted

theorem invoke (ledger : IdentityLedger trace domain)
    (silent : label.effect? = none) :
    IdentityLedger (trace ++ [label]) domain := by
  have same : (trace ++ [label]).filterMap PoolLabel.effect? =
      trace.filterMap PoolLabel.effect? := by
    rw [List.filterMap_append, List.filterMap_cons_none silent]
    exact List.append_nil _
  refine ledger.congr ?_ ?_ ?_
  · exact congrArg (List.filterMap IdentityEffect.allocated?) same
  · exact congrArg (List.filterMap IdentityEffect.issued?) same
  · rw [same]
    exact ledger.refused

/-- A step that issues nothing leaves the ledger as it was. -/
theorem keep (ledger : IdentityLedger trace domain)
    (shown : label.effect? = some effect)
    (allocated : effect.allocated? = none) (issued : effect.issued? = none)
    (exhausted : ∀ error, effect = .refused error →
      checkedAddOne domain.nextRuntimeId = none) :
    IdentityLedger (trace ++ [label]) domain := by
  refine ledger.congr ?_ ?_ ?_
  · rw [IdentityTrace.allocated_snoc shown, allocated]
    exact List.append_nil _
  · rw [IdentityTrace.issued_snoc shown, issued]
    exact List.append_nil _
  · intro error member
    rw [List.filterMap_append] at member
    cases List.mem_append.mp member with
    | inl old => exact ledger.refused error old
    | inr new =>
        simp only [List.filterMap_cons, shown, List.filterMap_nil,
          List.mem_singleton] at new
        exact exhausted error new.symm

/-- The allocator issues the next runtime identity. -/
theorem allocate (ledger : IdentityLedger trace domain)
    (shown : label.effect? = some effect) {raw : NonZeroU64} {after : UInt64}
    (same : effect = .allocated ⟨raw⟩)
    (issues : raw.get = domain.nextRuntimeId)
    (advances : checkedAddOne domain.nextRuntimeId = some after) :
    IdentityLedger (trace ++ [label])
      { nextRuntimeId := after
        issuers := domain.issuers ++ [⟨⟨raw⟩, NonZeroU64.new 1⟩] } := by
  subst same
  have one := checkedAddOne_eq_some advances
  have moreAllocated : IdentityTrace.allocated (trace ++ [label]) =
      trace.allocated ++ [⟨raw⟩] :=
    IdentityTrace.allocated_snoc shown
  have sameIssued : IdentityTrace.issued (trace ++ [label]) =
      trace.issued := by
    rw [IdentityTrace.issued_snoc shown]
    exact List.append_nil _
  have sameEpochs : ∀ issuer, IdentityTrace.epochs (trace ++ [label]) issuer =
      trace.epochs issuer :=
    fun issuer => IdentityTrace.epochs_snoc_of_none shown rfl
  have length : domain.issuers.length = trace.allocated.length := by
    rw [← ledger.issuers, List.length_map]
  constructor
  · rw [one]
    exact Nat.succ_pos _
  · have positive := ledger.positive
    obtain ⟨count, counted⟩ : ∃ count,
        domain.nextRuntimeId.toNat = count + 1 :=
      ⟨_, (Nat.succ_pred_eq_of_pos positive).symm⟩
    have earlier := ledger.runtimes
    rw [counted, Nat.add_sub_cancel] at earlier
    rw [moreAllocated, List.map_append, earlier, one, counted,
      Nat.add_sub_cancel, List.range'_concat]
    simp only [List.map_singleton, issues, counted, one_mul]
    rw [Nat.add_comm 1 count]
  · rw [moreAllocated, List.map_append, ledger.issuers]
    rfl
  · intro issuer
    rw [sameEpochs]
    exact ledger.epochs issuer
  · intro issuer identity present
    rw [sameEpochs]
    cases Nat.lt_or_ge issuer domain.issuers.length with
    | inl old =>
        rw [List.getElem?_append_left old] at present
        exact ledger.counted issuer identity present
    | inr fresh =>
        rw [List.getElem?_append_right fresh] at present
        have nothing : trace.epochs issuer = [] := by
          rw [IdentityTrace.epochs, List.map_eq_nil_iff, List.filter_eq_nil_iff]
          intro entry member own
          obtain ⟨other, known, _⟩ := ledger.owned entry member
          have bound := (List.getElem?_eq_some_iff.mp known).1
          rw [of_decide_eq_true own] at bound
          exact absurd bound (Nat.not_lt.mpr fresh)
        have only := List.mem_of_getElem? present
        rw [List.mem_singleton.mp only, nothing]
        exact RuntimeIdentity.hasIssued_new _
  · rw [sameIssued]
    intro entry member
    obtain ⟨identity, known, own⟩ := ledger.owned entry member
    have bound := (List.getElem?_eq_some_iff.mp known).1
    refine ⟨identity, ?_, own⟩
    rw [List.getElem?_append_left bound]
    exact known
  · rw [sameIssued]
    exact ledger.once
  · intro error member
    rw [List.filterMap_append] at member
    cases List.mem_append.mp member with
    | inl old =>
        rw [ledger.refused error old] at advances
        cases advances
    | inr new =>
        simp only [List.filterMap_cons, shown, List.filterMap_nil,
          List.mem_singleton] at new
        cases new

/-- An issuer is named by its runtime. -/
theorem issuer_unique (ledger : IdentityLedger trace domain)
    {first second : Nat} {one other : RuntimeIdentity}
    (presentOne : domain.issuers[first]? = some one)
    (presentOther : domain.issuers[second]? = some other)
    (same : one.runtimeId = other.runtimeId) : first = second := by
  have distinct := ledger.runtimes_nodup
  rw [← ledger.issuers] at distinct
  have bound := (List.getElem?_eq_some_iff.mp presentOne).1
  refine (List.getElem?_inj ?_ distinct).mp ?_
  · rw [List.length_map]
    exact bound
  · rw [List.getElem?_map, List.getElem?_map, presentOne, presentOther]
    exact congrArg some same

theorem issuers_set {issuers : List RuntimeIdentity} {index : Nat}
    {identity after : RuntimeIdentity}
    (present : issuers[index]? = some identity)
    (same : after.runtimeId = identity.runtimeId) :
    (issuers.set index after).map RuntimeIdentity.runtimeId =
      issuers.map RuntimeIdentity.runtimeId := by
  have bound := (List.getElem?_eq_some_iff.mp present).1
  apply List.ext_getElem?
  intro position
  rw [List.getElem?_map, List.getElem?_map]
  by_cases own : index = position
  · subst own
    rw [List.getElem?_set_self bound, present]
    exact congrArg some same
  · rw [List.getElem?_set_ne own]

/-- An issuer issues its next epoch. -/
theorem issue (ledger : IdentityLedger trace domain)
    (shown : label.effect? = some effect) {index : Nat}
    {identity : RuntimeIdentity} {epoch : NonZeroU64}
    (same : effect = .issued index (.ok ⟨identity.runtimeId, ⟨epoch⟩⟩))
    (present : domain.issuers[index]? = some identity)
    (available : identity.nextEpoch = some epoch) :
    IdentityLedger (trace ++ [label])
      { domain with
        issuers := domain.issuers.set index
          { identity with nextEpoch := epoch.checkedSucc } } := by
  subst same
  have bound := (List.getElem?_eq_some_iff.mp present).1
  have counted := ledger.counted index identity present
  have number := counted.next epoch available
  have sameAllocated : IdentityTrace.allocated (trace ++ [label]) =
      trace.allocated := by
    rw [IdentityTrace.allocated_snoc shown]
    exact List.append_nil _
  have moreIssued : IdentityTrace.issued (trace ++ [label]) =
      trace.issued ++ [(index, ⟨identity.runtimeId, ⟨epoch⟩⟩)] :=
    IdentityTrace.issued_snoc shown
  have moreEpochs : ∀ issuer, IdentityTrace.epochs (trace ++ [label]) issuer =
      trace.epochs issuer ++
        if index = issuer then [epoch.get.toNat] else [] :=
    fun issuer => IdentityTrace.epochs_snoc_of_some shown rfl
  constructor
  · exact ledger.positive
  · rw [sameAllocated]
    exact ledger.runtimes
  · rw [sameAllocated, ← ledger.issuers]
    exact issuers_set present rfl
  · intro issuer
    rw [moreEpochs]
    by_cases own : index = issuer
    · subst own
      rw [if_pos rfl, ledger.epochs index, List.length_append,
        List.length_range', List.length_singleton, List.range'_concat, number]
      simp only [one_mul]
      rw [Nat.add_comm 1]
    · rw [if_neg own, List.append_nil]
      exact ledger.epochs issuer
  · intro issuer other here
    rw [moreEpochs]
    by_cases own : index = issuer
    · subst own
      rw [List.getElem?_set_self bound] at here
      cases here
      rw [if_pos rfl, List.length_append, List.length_singleton]
      exact counted.issue available
    · rw [List.getElem?_set_ne own] at here
      rw [if_neg own, List.append_nil]
      exact ledger.counted issuer other here
  · rw [moreIssued]
    intro entry member
    have kept : ∀ (issuer : Nat) (other : RuntimeIdentity),
        domain.issuers[issuer]? = some other →
        ∃ after, (domain.issuers.set index
            { identity with nextEpoch := epoch.checkedSucc })[issuer]? =
              some after ∧ after.runtimeId = other.runtimeId := by
      intro issuer other here
      by_cases own : index = issuer
      · subst own
        cases present.symm.trans here
        exact ⟨_, List.getElem?_set_self bound, rfl⟩
      · exact ⟨other, (List.getElem?_set_ne own).trans here, rfl⟩
    cases List.mem_append.mp member with
    | inl old =>
        obtain ⟨other, known, own⟩ := ledger.owned entry old
        obtain ⟨after, known, same⟩ := kept entry.1 other known
        exact ⟨after, known, own.trans same.symm⟩
    | inr new =>
        rw [List.mem_singleton.mp new]
        exact ⟨_, List.getElem?_set_self bound, rfl⟩
  · rw [moreIssued, List.map_append]
    refine List.nodup_append.mpr ⟨ledger.once, List.nodup_singleton _, ?_⟩
    intro old listed id issued same
    obtain ⟨⟨issuer, known⟩, member, rfl⟩ := List.mem_map.mp listed
    simp only [List.map_singleton, List.mem_singleton] at issued
    simp only at same
    rw [issued] at same
    -- The issuer of the same identity is this one, which is past its epoch.
    obtain ⟨other, here, own⟩ := ledger.owned _ member
    rw [same] at own
    cases ledger.issuer_unique present here own
    have earlier : epoch.get.toNat ∈ trace.epochs issuer := by
      refine List.mem_map.mpr ⟨(issuer, known), ?_, ?_⟩
      · exact List.mem_filter.mpr ⟨member, decide_eq_true rfl⟩
      · rw [same]
    have number : epoch.get.toNat = (trace.epochs issuer).length + 1 := number
    rw [ledger.epochs issuer, List.mem_range'_1, number] at earlier
    omega
  · intro error member
    rw [List.filterMap_append] at member
    cases List.mem_append.mp member with
    | inl old => exact ledger.refused error old
    | inr new =>
        simp only [List.filterMap_cons, shown, List.filterMap_nil,
          List.mem_singleton] at new
        cases new

theorem move (ledger : IdentityLedger trace domain)
    (shown : label.effect? = some effect)
    (moves : domain.Moves next effect) :
    IdentityLedger (trace ++ [label]) next := by
  cases moves with
  | quiet =>
      refine ledger.keep shown rfl rfl ?_
      intro error same
      cases same
  | refused exhausted =>
      exact ledger.keep shown rfl rfl fun error _ => exhausted
  | allocated issues advances => exact ledger.allocate shown rfl issues advances
  | @issued issuer identity present =>
      cases available : identity.nextEpoch with
      | some epoch =>
          have same : identity.nextAttachment =
              (.ok ⟨identity.runtimeId, ⟨epoch⟩⟩,
                { identity with nextEpoch := epoch.checkedSucc }) := by
            rw [RuntimeIdentity.nextAttachment, available]
          rw [same] at shown ⊢
          exact ledger.issue shown rfl present available
      | none =>
          have same : identity.nextAttachment =
              (.error (.attachmentEpochExhausted identity.runtimeId),
                identity) := by
            rw [RuntimeIdentity.nextAttachment, available]
          have bound := (List.getElem?_eq_some_iff.mp present).1
          have unchanged : domain.issuers.set issuer identity =
              domain.issuers := by
            apply List.ext_getElem?
            intro position
            by_cases own : issuer = position
            · subst own
              rw [List.getElem?_set_self bound, present]
            · rw [List.getElem?_set_ne own]
          rw [same] at shown ⊢
          rw [unchanged]
          refine ledger.keep shown rfl rfl ?_
          intro error other
          cases other

end IdentityLedger

section Runs

variable {trace later : IdentityTrace}
  {pool last : Pool IdentityDomain IdentityCall}

theorem run_identityLedger (run : IdentityDomain.system.Run trace pool) :
    IdentityLedger trace pool.shared := by
  refine System.Run.invariant
    (fun trace pool => IdentityLedger trace pool.shared) ?_ ?_ run
  · intro pool starts
    obtain ⟨fresh, _⟩ := starts
    rw [fresh]
    exact .new
  · intro trace pool label next _ ledger step
    cases Machine.step_cases step with
    | invoked op => exact ledger.invoke rfl
    | stepped index choice call shared after effect present accessed =>
        exact ledger.move rfl
          (IdentityDomain.moves_of_step ledger.positive accessed)

/-- Nothing is left to allocate once the counter is at its last value. -/
theorem allocated_of_exhausted (run : IdentityDomain.system.Run trace pool)
    (exhausted : checkedAddOne pool.shared.nextRuntimeId = none)
    (path : IdentityDomain.system.Path pool later last) :
    later.allocated = [] ∧
      last.shared.nextRuntimeId = pool.shared.nextRuntimeId := by
  have before := run_identityLedger run
  have after := run_identityLedger (run.append path)
  have full := checkedAddOne_eq_none_iff.mp exhausted
  have bound := last.shared.nextRuntimeId.toNat_lt_size
  have earlier := congrArg List.length before.runtimes
  have all := congrArg List.length after.runtimes
  have split : IdentityTrace.allocated (trace ++ later) =
      trace.allocated ++ later.allocated := by
    simp only [IdentityTrace.allocated, List.filterMap_append]
  simp only [split, List.length_map, List.length_append,
    List.length_range'] at earlier all
  have positive := after.positive
  refine ⟨List.eq_nil_of_length_eq_zero (by omega), ?_⟩
  exact UInt64.toNat_inj.mp (by omega)

/-- An issuer stays the issuer of its runtime. -/
theorem issuer_kept (run : IdentityDomain.system.Run trace pool)
    {issuer : Nat} {identity : RuntimeIdentity}
    (present : pool.shared.issuers[issuer]? = some identity)
    (path : IdentityDomain.system.Path pool later last) :
    ∃ after, last.shared.issuers[issuer]? = some after ∧
      after.runtimeId = identity.runtimeId := by
  have before := (run_identityLedger run).issuers
  have after := (run_identityLedger (run.append path)).issuers
  have split : IdentityTrace.allocated (trace ++ later) =
      trace.allocated ++ later.allocated := by
    simp only [IdentityTrace.allocated, List.filterMap_append]
  have known : trace.allocated[issuer]? = some identity.runtimeId := by
    rw [← before, List.getElem?_map, present]
    rfl
  have bound := (List.getElem?_eq_some_iff.mp known).1
  have still : (last.shared.issuers.map RuntimeIdentity.runtimeId)[issuer]? =
      some identity.runtimeId := by
    rw [after, split, List.getElem?_append_left bound]
    exact known
  rw [List.getElem?_map] at still
  exact Option.map_eq_some_iff.mp still

/-- An issuer that is exhausted issues nothing more. -/
theorem epochs_of_exhausted (run : IdentityDomain.system.Run trace pool)
    {issuer : Nat} {identity : RuntimeIdentity}
    (present : pool.shared.issuers[issuer]? = some identity)
    (exhausted : identity.nextEpoch = none)
    (path : IdentityDomain.system.Path pool later last) :
    later.epochs issuer = [] := by
  have before := run_identityLedger run
  have after := run_identityLedger (run.append path)
  have full := (before.counted issuer identity present).exhausted exhausted
  obtain ⟨kept, here, _⟩ := issuer_kept run present path
  have bound := (after.counted issuer kept here).bounded
  have split : IdentityTrace.epochs (trace ++ later) issuer =
      trace.epochs issuer ++ later.epochs issuer := by
    simp only [IdentityTrace.epochs, IdentityTrace.issued,
      List.filterMap_append, List.filter_append, List.map_append]
  rw [split, List.length_append] at bound
  exact List.eq_nil_of_length_eq_zero (by omega)

end Runs

/-! ## Identities are never reused -/

/-- The call is inside `RuntimeIdentity::allocate`. -/
def IdentityCall.isAllocating : IdentityCall → Bool
  | .loading | .exchanging _ _ => true
  | .issuing _ | .returned => false

/-- What a run of allocations has issued, and what it will not issue again. -/
structure NeverReused (trace : IdentityTrace)
    (pool : Pool IdentityDomain IdentityCall) : Prop where
  runtimes : trace.allocated.Nodup
  nonzero : ∀ id ∈ trace.allocated, id.raw.get ≠ 0
  attachments : (trace.issued.map Prod.snd).Nodup
  /-- The epochs of an issuer are 1, 2, 3, and so on. -/
  epochs : ∀ issuer, trace.epochs issuer =
    List.range' 1 (trace.epochs issuer).length
  /-- Each issuer goes on up to the last epoch there is. -/
  answers : ∀ (issuer : Nat) (identity : RuntimeIdentity),
    pool.shared.issuers[issuer]? = some identity →
    identity.Answers (trace.epochs issuer).length
  /-- Allocation is refused only when the counter is exhausted. -/
  refused : ∀ error, .refused error ∈ trace.filterMap PoolLabel.effect? →
    pool.shared.nextRuntimeId.toNat = UInt64.size - 1
  /-- From then on the next access of every call that allocates refuses it, and
  nothing is allocated. -/
  allocatorExhausted : pool.shared.nextRuntimeId.toNat = UInt64.size - 1 →
    ∀ (later : IdentityTrace) (last : Pool IdentityDomain IdentityCall),
      IdentityDomain.system.Path pool later last →
      later.allocated = [] ∧
        ∀ call ∈ last.calls, call.isAllocating = true → ∀ spurious,
          last.shared.step spurious call =
            some (last.shared, .returned, .refused .runtimeIdExhausted)
  issuerExhausted : ∀ (issuer : Nat) (identity : RuntimeIdentity),
    pool.shared.issuers[issuer]? = some identity →
    identity.nextEpoch = none →
    ∀ (later : IdentityTrace) (last : Pool IdentityDomain IdentityCall),
      IdentityDomain.system.Path pool later last →
      later.epochs issuer = []
  /-- What an issuer is for does not change. -/
  kept : ∀ (issuer : Nat) (identity : RuntimeIdentity),
    pool.shared.issuers[issuer]? = some identity →
    ∀ (later : IdentityTrace) (last : Pool IdentityDomain IdentityCall),
      IdentityDomain.system.Path pool later last →
      ∃ after, last.shared.issuers[issuer]? = some after ∧
        after.runtimeId = identity.runtimeId
  /-- No attachment is current twice in a chain of replacements. -/
  chains : ∀ first ∈ trace.issued.map Prod.snd, ∀ ops,
    ((DrainRegistration.new first).currents ops).Nodup

namespace IdentityDomain

/-- With the counter at its last value an exchange cannot succeed, and the
value it finds has no successor. -/
theorem step_of_exhausted {domain : IdentityDomain}
    (exhausted : checkedAddOne domain.nextRuntimeId = none)
    {call : IdentityCall} (allocating : call.isAllocating = true) (spurious : Bool) :
    domain.step spurious call =
      some (domain, .returned, .refused .runtimeIdExhausted) := by
  have found : attempt domain.nextRuntimeId =
      (.returned, .refused .runtimeIdExhausted) := by
    unfold attempt
    split
    · rfl
    · rename_i next advances
      rw [exhausted] at advances
      cases advances
  cases call with
  | loading => rw [step, found]
  | exchanging current next =>
      have other : domain.nextRuntimeId ≠ current := by
        intro same
        rw [same, next.2] at exhausted
        cases exhausted
      rw [step, if_neg fun succeeds => other succeeds.1, found]
  | issuing issuer => cases allocating
  | returned => cases allocating

end IdentityDomain

theorem run_neverReused {trace : IdentityTrace}
    {pool : Pool IdentityDomain IdentityCall}
    (run : IdentityDomain.system.Run trace pool) : NeverReused trace pool := by
  have ledger := run_identityLedger run
  have size : 0 < UInt64.size := by decide
  have last_iff : checkedAddOne pool.shared.nextRuntimeId = none ↔
      pool.shared.nextRuntimeId.toNat = UInt64.size - 1 := by
    rw [checkedAddOne_eq_none_iff]
    omega
  refine ⟨ledger.runtimes_nodup, fun id _ => id.raw.nonzero, ledger.once,
    ledger.epochs, ?_, ?_, ?_, ?_, ?_, ?_⟩
  · intro issuer identity present
    exact (ledger.counted issuer identity present).answers
  · intro error member
    exact last_iff.mp (ledger.refused error member)
  · intro full later last path
    have exhausted := last_iff.mpr full
    obtain ⟨nothing, same⟩ := allocated_of_exhausted run exhausted path
    refine ⟨nothing, ?_⟩
    intro call _ allocating spurious
    rw [← same] at exhausted
    exact IdentityDomain.step_of_exhausted exhausted allocating spurious
  · intro issuer identity present exhausted later last path
    exact epochs_of_exhausted run present exhausted path
  · intro issuer identity present later last path
    exact issuer_kept run present path
  · intro first _ ops
    exact DrainRegistration.currents_nodup _ ops

open IdentityOp PoolAction in
/-- Two threads allocate at the same time, and each issuer is asked twice. -/
theorem twoAllocations_neverReused : ∃ pool trace,
    IdentityDomain.machine.execAll ⟨.new, []⟩
      [invoke allocate, invoke allocate, advance 0 false, advance 1 false,
        advance 1 false, advance 0 false, advance 0 true, advance 0 false,
        invoke (nextAttachment 0), advance 2 false,
        invoke (nextAttachment 1), advance 3 false,
        invoke (nextAttachment 0), advance 4 false] = some (pool, trace) ∧
    NeverReused trace pool := by
  obtain ⟨pool, trace, executed, run⟩ :=
    IdentityDomain.machine.exists_run_of_execAll (· = .new)
      [invoke allocate, invoke allocate, advance 0 false, advance 1 false,
        advance 1 false, advance 0 false, advance 0 true, advance 0 false,
        invoke (nextAttachment 0), advance 2 false,
        invoke (nextAttachment 1), advance 3 false,
        invoke (nextAttachment 0), advance 4 false] rfl (by decide)
  exact ⟨pool, trace, executed, run_neverReused run⟩

end RustJsi.Host
