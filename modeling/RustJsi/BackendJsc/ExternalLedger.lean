import Mathlib.Algebra.Ring.Int.Defs
import RustJsi.Runtime.Ingress
import RustJsi.Interleaving.Solitude

/-!
# The ledger of external buffers

A buffer takes one allocation and its bytes from two counters, one atomic
update after the other, and gives them back in the opposite order.  What the
counters show is what the calls under way and the buffers alive hold together.
-/

namespace RustJsi.BackendJsc

open Interleaving
open RustJsi.Runtime (PointerWidth)

/-- Limits for the Rust-owned bytes transferred to the engine. -/
structure ExternalBufferLimits (width : PointerWidth) where
  allocations : width.Usize
  bytes : width.Usize

namespace ExternalLedger

variable {width : PointerWidth}

/-- The counters of an `ExternalLedger`. -/
structure Shared (width : PointerWidth) where
  liveAllocations : width.Usize
  liveBytes : width.Usize
  deallocations : width.Usize

/-- `ExternalLedger::new`. -/
def new : Shared width where
  liveAllocations := 0
  liveBytes := 0
  deallocations := 0

inductive ReserveError where
  | allocationLimitReached
  | byteLimitReached
  deriving DecidableEq, Repr

/-- The length of the buffer a reservation is for. -/
inductive Op (width : PointerWidth) where
  | reserve (byteLen : width.Usize)
  deriving DecidableEq

/-- Where the code of a reservation stands. -/
inductive Call (width : PointerWidth) where
  | reserving (byteLen : width.Usize)
  /-- The allocation is taken and the bytes are not. -/
  | charging (byteLen : width.Usize)
  | rollingBack (byteLen : width.Usize)
  | refused (error : ReserveError)
  /-- The reservation was granted and its buffer is alive. -/
  | reserved (byteLen : width.Usize)
  /-- The deallocator runs, and the bytes are given back. -/
  | releasing (byteLen : width.Usize)
  | recording (byteLen : width.Usize)
  | released (byteLen : width.Usize)
  deriving DecidableEq

inductive Choice where
  /-- Perform the next atomic update. -/
  | run
  /-- The engine invokes the deallocator of the buffer. -/
  | release
  deriving DecidableEq, Repr

/-- What an update did. -/
inductive Effect (width : PointerWidth) where
  | allocated
  | charged (byteLen : width.Usize)
  | rejected (error : ReserveError)
  | freed
  | refunded (byteLen : width.Usize)
  | recorded
  deriving DecidableEq

/-- `usize::checked_add`. -/
def checkedAdd (first second : width.Usize) : Option width.Usize :=
  if first.toNat + second.toNat < 2 ^ width.bits then some (first + second)
  else none

/-- The next update of a reservation. -/
def step (limits : ExternalBufferLimits width) (shared : Shared width) :
    Choice → Call width →
    Option (Shared width × Call width × Effect width)
  | .run, .reserving byteLen =>
      if shared.liveAllocations < limits.allocations then
        some ({ shared with liveAllocations := shared.liveAllocations + 1 },
          .charging byteLen, .allocated)
      else
        some (shared, .refused .allocationLimitReached,
          .rejected .allocationLimitReached)
  | .run, .charging byteLen =>
      match (checkedAdd shared.liveBytes byteLen).filter
          (fun total => total ≤ limits.bytes) with
      | some total =>
          some ({ shared with liveBytes := total }, .reserved byteLen,
            .charged byteLen)
      | none =>
          some (shared, .rollingBack byteLen, .rejected .byteLimitReached)
  | .run, .rollingBack _ =>
      some ({ shared with liveAllocations := shared.liveAllocations - 1 },
        .refused .byteLimitReached, .freed)
  | .release, .reserved byteLen =>
      some ({ shared with liveBytes := shared.liveBytes - byteLen },
        .releasing byteLen, .refunded byteLen)
  | .run, .releasing byteLen =>
      some ({ shared with liveAllocations := shared.liveAllocations - 1 },
        .recording byteLen, .freed)
  | .run, .recording byteLen =>
      some ({ shared with deallocations := shared.deallocations + 1 },
        .released byteLen, .recorded)
  | _, _ => none

/-- A ledger under any number of threads. -/
def machine (limits : ExternalBufferLimits width) :
    Machine (Shared width) (Call width) (Op width) Choice (Effect width) where
  start := fun op => match op with
    | .reserve byteLen => .reserving byteLen
  step := step limits

/-- Every run of a ledger created by `ExternalLedger::new`. -/
def system (limits : ExternalBufferLimits width) :
    System (Pool (Shared width) (Call width))
      (PoolLabel (Op width) (Effect width)) :=
  (machine limits).system (fun shared => shared = new)

/-! ## What a call holds -/

/-- The call holds one allocation. -/
def Call.allocates : Call width → Bool
  | .charging _ => true
  | .rollingBack _ => true
  | .reserved _ => true
  | .releasing _ => true
  | _ => false

/-- The bytes the call holds. -/
def Call.bytes : Call width → Nat
  | .reserved byteLen => byteLen.toNat
  | _ => 0

/-- The buffer of the call is alive. -/
def Call.granted : Call width → Bool
  | .reserved _ => true
  | _ => false

/-- The call has no update left that it makes on its own. -/
def Call.settled : Call width → Bool
  | .refused _ => true
  | .reserved _ => true
  | .released _ => true
  | _ => false

/-- What an update adds to the allocations. -/
def Effect.allocations : Effect width → Int
  | .allocated => 1
  | .freed => -1
  | _ => 0

/-- What an update adds to the bytes. -/
def Effect.bytes : Effect width → Int
  | .charged byteLen => byteLen.toNat
  | .refunded byteLen => -byteLen.toNat
  | _ => 0

/-- The counters show what the calls hold, and that is within the limits. -/
structure Sound (limits : ExternalBufferLimits width)
    (pool : Pool (Shared width) (Call width)) : Prop where
  allocations : pool.shared.liveAllocations.toNat =
    pool.calls.countP Call.allocates
  bytes : pool.shared.liveBytes.toNat = total Call.bytes pool.calls
  allocationsFit :
    pool.shared.liveAllocations.toNat ≤ limits.allocations.toNat
  bytesFit : pool.shared.liveBytes.toNat ≤ limits.bytes.toNat

/-- How one update moves the counters of the ledger, not modulo anything. -/
structure Moves (limits : ExternalBufferLimits width)
    (shared next : Shared width) (effect : Effect width) : Prop where
  allocations : (next.liveAllocations.toNat : Int) =
    shared.liveAllocations.toNat + effect.allocations
  bytes : (next.liveBytes.toNat : Int) =
    shared.liveBytes.toNat + effect.bytes
  allocationsFit : shared.liveAllocations.toNat ≤ limits.allocations.toNat →
    next.liveAllocations.toNat ≤ limits.allocations.toNat
  bytesFit : shared.liveBytes.toNat ≤ limits.bytes.toNat →
    next.liveBytes.toNat ≤ limits.bytes.toNat

section Updates

variable {limits : ExternalBufferLimits width} {shared next : Shared width}
  {call after : Call width} {effect : Effect width} {choice : Choice}

theorem one_toNat : (1 : width.Usize).toNat = 1 := by
  have wide := width.sixteenLe
  have large : 2 ^ 1 ≤ 2 ^ width.bits :=
    Nat.pow_le_pow_right (by decide) (by omega)
  have small : 1 < 2 ^ width.bits := by omega
  exact (BitVec.toNat_ofNat 1 width.bits).trans (Nat.mod_eq_of_lt small)

theorem add_one_toNat {word limit : width.Usize}
    (below : word < limit) : (word + 1).toNat = word.toNat + 1 := by
  have less := BitVec.lt_def.mp below
  have bound := limit.isLt
  rw [BitVec.toNat_add, one_toNat]
  exact Nat.mod_eq_of_lt (by omega)

theorem sub_one_toNat {word : width.Usize} (some' : 0 < word.toNat) :
    (word - 1).toNat = word.toNat - 1 := by
  have fits : (1 : width.Usize) ≤ word := by
    rw [BitVec.le_def, one_toNat]
    exact some'
  rw [BitVec.toNat_sub_of_le fits, one_toNat]

/-- What a successful charge leaves. -/
theorem charge_eq_some_iff {byteLen total : width.Usize} :
    (checkedAdd shared.liveBytes byteLen).filter
        (fun total => total ≤ limits.bytes) = some total ↔
      total.toNat = shared.liveBytes.toNat + byteLen.toNat ∧
      shared.liveBytes.toNat + byteLen.toNat ≤ limits.bytes.toNat := by
  have bound := limits.bytes.isLt
  rw [Option.filter_eq_some_iff, checkedAdd]
  split
  · rename_i fits
    have added : (shared.liveBytes + byteLen).toNat =
        shared.liveBytes.toNat + byteLen.toNat := by
      rw [BitVec.toNat_add]
      exact Nat.mod_eq_of_lt fits
    rw [Option.some_inj, decide_eq_true_iff, BitVec.le_def,
      ← BitVec.toNat_inj, added]
    constructor
    · intro charged
      exact ⟨charged.1.symm, by omega⟩
    · intro charged
      exact ⟨charged.1.symm, by omega⟩
  · rename_i overflows
    constructor
    · intro charged
      cases charged.1
    · intro charged
      omega

theorem charge_eq_none_iff {byteLen : width.Usize} :
    (checkedAdd shared.liveBytes byteLen).filter
        (fun total => total ≤ limits.bytes) = none ↔
      limits.bytes.toNat < shared.liveBytes.toNat + byteLen.toNat := by
  have bound := limits.bytes.isLt
  constructor
  · intro refused
    by_contra room
    have fits : shared.liveBytes.toNat + byteLen.toNat < 2 ^ width.bits := by
      omega
    have charged : (checkedAdd shared.liveBytes byteLen).filter
        (fun total => total ≤ limits.bytes) =
        some (shared.liveBytes + byteLen) := by
      rw [charge_eq_some_iff, BitVec.toNat_add]
      exact ⟨Nat.mod_eq_of_lt fits, by omega⟩
    rw [charged] at refused
    cases refused
  · intro full
    cases charged : (checkedAdd shared.liveBytes byteLen).filter
        (fun total => total ≤ limits.bytes) with
    | none => rfl
    | some total =>
        have fits := (charge_eq_some_iff.mp charged).2
        omega

/-- What an update adds to the counters its call holds from then on. -/
theorem step_holds
    (accessed : step limits shared choice call =
      some (next, after, effect)) :
    (after.allocates.toNat : Int) =
        call.allocates.toNat + effect.allocations ∧
      (after.bytes : Int) = call.bytes + effect.bytes := by
  unfold step at accessed
  split at accessed
  · split at accessed <;> cases accessed <;> exact ⟨rfl, rfl⟩
  · split at accessed <;> cases accessed
    · exact ⟨rfl, by simp [Call.bytes, Effect.bytes]⟩
    · exact ⟨rfl, rfl⟩
  · cases accessed
    exact ⟨rfl, rfl⟩
  · cases accessed
    exact ⟨rfl, by simp [Call.bytes, Effect.bytes]⟩
  · cases accessed
    exact ⟨rfl, rfl⟩
  · cases accessed
    exact ⟨rfl, rfl⟩
  · cases accessed

theorem freed_moves (held : 0 < shared.liveAllocations.toNat) :
    Moves limits shared
      { shared with liveAllocations := shared.liveAllocations - 1 }
      .freed := by
  have less := sub_one_toNat held
  exact ⟨by simp only [less, Effect.allocations]; omega,
    by simp [Effect.bytes], fun _ => by simp only [less]; omega, id⟩

theorem still_moves {still : Effect width} (deallocations : width.Usize)
    (allocations : still.allocations = 0) (bytes : still.bytes = 0) :
    Moves limits shared { shared with deallocations } still :=
  ⟨by rw [allocations, Int.add_zero], by rw [bytes, Int.add_zero], id, id⟩

theorem step_moves (held : call.allocates = true →
      0 < shared.liveAllocations.toNat)
    (charged : call.bytes ≤ shared.liveBytes.toNat)
    (accessed : step limits shared choice call =
      some (next, after, effect)) :
    Moves limits shared next effect := by
  unfold step at accessed
  split at accessed
  · split at accessed
    · rename_i room
      cases accessed
      have added := add_one_toNat room
      have less := BitVec.lt_def.mp room
      exact ⟨by simp only [added, Effect.allocations]; omega,
        by simp [Effect.bytes], fun _ => by simp only [added]; omega, id⟩
    · cases accessed
      exact still_moves _ rfl rfl
  · split at accessed
    · rename_i total granted
      cases accessed
      obtain ⟨sum, fits⟩ := charge_eq_some_iff.mp granted
      exact ⟨by simp [Effect.allocations], by simp [Effect.bytes, sum], id,
        fun _ => by simp only [sum]; exact fits⟩
    · cases accessed
      exact still_moves _ rfl rfl
  · cases accessed
    exact freed_moves (held rfl)
  · rename_i byteLen
    cases accessed
    have fits : byteLen.toNat ≤ shared.liveBytes.toNat := charged
    have less := BitVec.toNat_sub_of_le (BitVec.le_def.mpr fits)
    exact ⟨by simp [Effect.allocations],
      by simp only [less, Effect.bytes]; omega, id,
      fun _ => by simp only [less]; omega⟩
  · cases accessed
    exact freed_moves (held rfl)
  · cases accessed
    exact still_moves _ rfl rfl
  · cases accessed

/-- Both limits leave room for a buffer of this length. -/
def Room (limits : ExternalBufferLimits width) (shared : Shared width)
    (byteLen : width.Usize) : Prop :=
  shared.liveAllocations.toNat < limits.allocations.toNat ∧
  shared.liveBytes.toNat + byteLen.toNat ≤ limits.bytes.toNat

/-- The engine lets the buffer of the call live. -/
def Undisturbed (choice : Choice) : Prop :=
  choice = .run

/-- The call, left to itself, ends here. -/
def Ends (limits : ExternalBufferLimits width) (shared : Shared width)
    (call : Call width) (last : Shared width) (after : Call width) : Prop :=
  (machine limits).Settles Undisturbed shared call last after

section Alone

variable {last : Shared width} {byteLen : width.Usize}

private theorem ends_step_iff {middle : Shared width} {onward : Call width}
    (steps : step limits shared .run call = some (middle, onward, effect)) :
    Ends limits shared call last after ↔
      Ends limits middle onward last after := by
  have allowed : Undisturbed .run := rfl
  apply Machine.settles_step_iff allowed
  intro choice chosen
  cases chosen
  exact ⟨effect, steps⟩

private theorem ends_rest_iff
    (rests : step limits shared .run call = none) :
    Ends limits shared call last after ↔ last = shared ∧ after = call := by
  apply Machine.settles_rest_iff
  intro choice chosen
  cases chosen
  exact rests

private theorem ends_charged_iff {total : width.Usize}
    (charged : (checkedAdd shared.liveBytes byteLen).filter
      (fun total => total ≤ limits.bytes) = some total) :
    Ends limits shared (.charging byteLen) last after ↔
      last = { shared with liveBytes := total } ∧
        after = .reserved byteLen := by
  have steps : step limits shared .run (.charging byteLen) =
      some ({ shared with liveBytes := total }, .reserved byteLen,
        .charged byteLen) := by
    simp only [step, charged]
  rw [ends_step_iff steps, ends_rest_iff rfl]

private theorem ends_overcharged_iff
    (refused : (checkedAdd shared.liveBytes byteLen).filter
      (fun total => total ≤ limits.bytes) = none) :
    Ends limits shared (.charging byteLen) last after ↔
      last = { shared with liveAllocations := shared.liveAllocations - 1 } ∧
        after = .refused .byteLimitReached := by
  have steps : step limits shared .run (.charging byteLen) =
      some (shared, .rollingBack byteLen, .rejected .byteLimitReached) := by
    simp only [step, refused]
  rw [ends_step_iff steps, ends_step_iff rfl, ends_rest_iff rfl]

/-- A reservation alone takes its buffer when both limits leave room. -/
theorem ends_reserve_of_room (room : Room limits shared byteLen) :
    Ends limits shared (.reserving byteLen) last after ↔
      last = { shared with
        liveAllocations := shared.liveAllocations + 1
        liveBytes := shared.liveBytes + byteLen } ∧
      after = .reserved byteLen := by
  have bound := limits.bytes.isLt
  have fits := room.2
  have steps : step limits shared .run (.reserving byteLen) =
      some ({ shared with liveAllocations := shared.liveAllocations + 1 },
        .charging byteLen, .allocated) :=
    if_pos (BitVec.lt_def.mpr room.1)
  have charged : (checkedAdd shared.liveBytes byteLen).filter
      (fun total => total ≤ limits.bytes) =
      some (shared.liveBytes + byteLen) := by
    rw [charge_eq_some_iff, BitVec.toNat_add]
    exact ⟨Nat.mod_eq_of_lt (by omega), fits⟩
  rw [ends_step_iff steps]
  exact ends_charged_iff charged

/-- A reservation alone that does not fit leaves the ledger as it was. -/
theorem ends_reserve_of_not_room (noRoom : ¬Room limits shared byteLen) :
    ∃ error, ∀ last after,
      Ends limits shared (.reserving byteLen) last after ↔
        last = shared ∧ after = .refused error := by
  by_cases opens : shared.liveAllocations < limits.allocations
  · have steps : step limits shared .run (.reserving byteLen) =
        some ({ shared with liveAllocations := shared.liveAllocations + 1 },
          .charging byteLen, .allocated) := if_pos opens
    have refused : (checkedAdd shared.liveBytes byteLen).filter
        (fun total => total ≤ limits.bytes) = none := by
      rw [charge_eq_none_iff]
      by_contra fits
      exact noRoom ⟨BitVec.lt_def.mp opens, by omega⟩
    have returned : shared.liveAllocations + 1 - 1 =
        shared.liveAllocations :=
      BitVec.add_sub_cancel ..
    refine ⟨.byteLimitReached, ?_⟩
    intro last after
    rw [ends_step_iff steps, ends_overcharged_iff (by exact refused),
      returned]
  · have steps : step limits shared .run (.reserving byteLen) =
        some (shared, .refused .allocationLimitReached,
          .rejected .allocationLimitReached) := if_neg opens
    refine ⟨.allocationLimitReached, ?_⟩
    intro last after
    rw [ends_step_iff steps, ends_rest_iff rfl]

/-- A reservation left to itself comes to an end. -/
theorem reserve_ends : ∃ last after,
    Ends limits shared (.reserving byteLen) last after := by
  by_cases room : Room limits shared byteLen
  · exact ⟨_, _, (ends_reserve_of_room room).mpr ⟨rfl, rfl⟩⟩
  · obtain ⟨error, ends⟩ := ends_reserve_of_not_room room
    exact ⟨_, _, (ends _ _).mpr ⟨rfl, rfl⟩⟩

/-- A reservation that runs alone is granted exactly when both limits leave
room. -/
theorem reserve_granted_iff
    (ends : Ends limits shared (.reserving byteLen) last after) :
    after = .reserved byteLen ↔ Room limits shared byteLen := by
  constructor
  · intro granted
    by_contra noRoom
    obtain ⟨error, refused⟩ := ends_reserve_of_not_room noRoom
    have same := ((refused _ _).mp ends).2
    rw [granted] at same
    cases same
  · intro room
    exact ((ends_reserve_of_room room).mp ends).2

end Alone

end Updates

section Runs

variable {limits : ExternalBufferLimits width}
  {trace : List (PoolLabel (Op width) (Effect width))}
  {pool next : Pool (Shared width) (Call width)}

/-- What a label of the pool adds to the allocations and to the bytes. -/
def labelAllocations (label : PoolLabel (Op width) (Effect width)) : Int :=
  (label.effect?.map Effect.allocations).getD 0

def labelBytes (label : PoolLabel (Op width) (Effect width)) : Int :=
  (label.effect?.map Effect.bytes).getD 0

theorem Sound.moves (sound : Sound limits pool) {index : Nat}
    {choice : Choice} {call after : Call width} {shared : Shared width}
    {effect : Effect width} (present : pool.calls[index]? = some call)
    (accessed : step limits pool.shared choice call =
      some (shared, after, effect)) :
    Moves limits pool.shared shared effect := by
  refine step_moves ?_ ?_ accessed
  · intro held
    rw [sound.allocations]
    exact countP_pos_of_present _ present held
  · rw [sound.bytes]
    exact le_total_of_present _ present

theorem step_sound (sound : Sound limits pool)
    {label : PoolLabel (Op width) (Effect width)}
    (moved : (system limits).step pool label next) : Sound limits next := by
  cases Machine.step_cases moved with
  | invoked op =>
      cases op with
      | reserve byteLen =>
          refine ⟨?_, ?_, sound.allocationsFit, sound.bytesFit⟩
          · rw [countP_append_single, sound.allocations]
            rfl
          · rw [total_append_single, sound.bytes]
            rfl
  | stepped index choice call shared after effect present accessed =>
      have moves := sound.moves present accessed
      obtain ⟨held, charged⟩ := step_holds accessed
      have counted := countP_set_add Call.allocates after present
      have weighed := total_set_add Call.bytes after present
      have allocations := moves.allocations
      have bytes := moves.bytes
      have shown := sound.allocations
      have charge := sound.bytes
      refine ⟨?_, ?_, moves.allocationsFit sound.allocationsFit,
        moves.bytesFit sound.bytesFit⟩
      · simp only
        omega
      · simp only
        omega

theorem run_sound (run : (system limits).Run trace pool) :
    Sound limits pool := by
  apply run.invariant (fun _ pool => Sound limits pool)
  · intro pool starts
    obtain ⟨shared, calls⟩ := pool
    obtain ⟨isNew, isEmpty⟩ := starts
    simp only at isNew isEmpty
    rw [isNew, isEmpty]
    exact ⟨BitVec.toNat_zero .., BitVec.toNat_zero ..,
      Nat.zero_le _ |>.trans' (Nat.le_of_eq (BitVec.toNat_zero ..)),
      Nat.zero_le _ |>.trans' (Nat.le_of_eq (BitVec.toNat_zero ..))⟩
  · intro trace pool label next _ sound moved
    exact step_sound sound moved

/-- What a label adds is added to the counters as they are read. -/
theorem step_adds (sound : Sound limits pool)
    {label : PoolLabel (Op width) (Effect width)}
    (moved : (system limits).step pool label next) :
    (next.shared.liveAllocations.toNat : Int) =
        pool.shared.liveAllocations.toNat + labelAllocations label ∧
      (next.shared.liveBytes.toNat : Int) =
        pool.shared.liveBytes.toNat + labelBytes label := by
  cases Machine.step_cases moved with
  | invoked op => exact ⟨(Int.add_zero _).symm, (Int.add_zero _).symm⟩
  | stepped index choice call shared after effect present accessed =>
      have moves := sound.moves present accessed
      exact ⟨moves.allocations, moves.bytes⟩

/-- What a call has added to the counters so far is what it holds. -/
theorem run_netEffect (run : (system limits).Run trace pool) :
    ∀ index op call, .invoked index op ∈ trace →
      pool.calls[index]? = some call →
      ((effectsOf index trace).map Effect.allocations).sum =
          call.allocates.toNat ∧
        ((effectsOf index trace).map Effect.bytes).sum = call.bytes := by
  apply run_history
    (fun _ effects call =>
      (effects.map Effect.allocations).sum = call.allocates.toNat ∧
      (effects.map Effect.bytes).sum = call.bytes) ?_ ?_ run
  · intro op
    cases op
    exact ⟨rfl, rfl⟩
  · intro op effects before shared choice next after effect history accessed
    obtain ⟨held, charged⟩ := step_holds accessed
    simp only [List.map_append, List.sum_append, List.map_cons, List.map_nil,
      List.sum_cons, List.sum_nil, history.1, history.2]
    omega

/-- The updates of a reservation that was refused cancel out. -/
theorem run_refused (run : (system limits).Run trace pool) {index : Nat}
    {op : Op width} {error : ReserveError}
    (invoked : .invoked index op ∈ trace)
    (refused : pool.calls[index]? = some (.refused error)) :
    ((effectsOf index trace).map Effect.allocations).sum = 0 ∧
      ((effectsOf index trace).map Effect.bytes).sum = 0 :=
  run_netEffect run index op _ invoked refused

/-- Between calls the counters show the buffers alive. -/
theorem Sound.idle (sound : Sound limits pool)
    (idle : ∀ call ∈ pool.calls, call.settled = true) :
    pool.shared.liveAllocations.toNat = pool.calls.countP Call.granted ∧
      pool.shared.liveBytes.toNat = total Call.bytes pool.calls := by
  refine ⟨?_, sound.bytes⟩
  rw [sound.allocations]
  apply List.countP_congr
  intro call member
  have rests := idle call member
  cases call with
  | refused error => exact Iff.rfl
  | reserved byteLen => exact Iff.rfl
  | released byteLen => exact Iff.rfl
  | _ => cases rests

/-- The ledger never lends more than its limits, and its counters never
wrap. -/
structure NeverOvercommits (limits : ExternalBufferLimits width)
    (trace : List (PoolLabel (Op width) (Effect width)))
    (pool : Pool (Shared width) (Call width)) : Prop where
  allocations :
    pool.shared.liveAllocations.toNat ≤ limits.allocations.toNat
  bytes : pool.shared.liveBytes.toNat ≤ limits.bytes.toNat
  /-- An update adds what it says to the counters, not modulo a word. -/
  neverWraps : ∀ label next, (system limits).step pool label next →
    (next.shared.liveAllocations.toNat : Int) =
        pool.shared.liveAllocations.toNat + labelAllocations label ∧
      (next.shared.liveBytes.toNat : Int) =
        pool.shared.liveBytes.toNat + labelBytes label
  /-- With no call in progress the counters show the buffers alive. -/
  idle : (∀ call ∈ pool.calls, call.settled = true) →
    pool.shared.liveAllocations.toNat = pool.calls.countP Call.granted ∧
      pool.shared.liveBytes.toNat = total Call.bytes pool.calls
  refused : ∀ index op error, .invoked index op ∈ trace →
    pool.calls[index]? = some (.refused error) →
    ((effectsOf index trace).map Effect.allocations).sum = 0 ∧
      ((effectsOf index trace).map Effect.bytes).sum = 0
  /-- A reservation alone ends, and is granted if and only if it fits. -/
  alone : ∀ byteLen,
    (∃ last after,
      Ends limits pool.shared (.reserving byteLen) last after) ∧
    ∀ last after,
      Ends limits pool.shared (.reserving byteLen) last after →
      (after = .reserved byteLen ↔ Room limits pool.shared byteLen) ∧
      (¬Room limits pool.shared byteLen →
        last = pool.shared ∧ ∃ error, after = .refused error)

theorem run_neverOvercommits (run : (system limits).Run trace pool) :
    NeverOvercommits limits trace pool := by
  have sound := run_sound run
  refine ⟨sound.allocationsFit, sound.bytesFit, ?_, sound.idle, ?_, ?_⟩
  · intro label next moved
    exact step_adds sound moved
  · intro index op error invoked refused
    exact run_refused run invoked refused
  · intro byteLen
    refine ⟨reserve_ends, ?_⟩
    intro last after ends
    refine ⟨reserve_granted_iff ends, ?_⟩
    intro noRoom
    obtain ⟨error, refused⟩ := ends_reserve_of_not_room noRoom
    have same := (refused last after).mp ends
    exact ⟨same.1, error, same.2⟩

def smallLimits : ExternalBufferLimits .sixtyFour where
  allocations := 2
  bytes := 7

/-- Two buffers of three and five bytes, of which the second does not fit. -/
def overByteLimit : List (PoolAction (Op .sixtyFour) Choice) :=
  [.invoke (.reserve 3), .invoke (.reserve 5), .advance 0 .run,
    .advance 1 .run, .advance 0 .run, .advance 1 .run, .advance 1 .run,
    .advance 0 .release, .advance 0 .run]

theorem overByteLimit_neverOvercommits :
    ∃ pool trace,
      (machine smallLimits).execAll ⟨new, []⟩ overByteLimit =
        some (pool, trace) ∧
      NeverOvercommits smallLimits trace pool := by
  obtain ⟨pool, trace, executed, run⟩ :=
    (machine smallLimits).exists_run_of_execAll
      (fun shared => shared = new) overByteLimit rfl (by decide)
  exact ⟨pool, trace, executed, run_neverOvercommits run⟩

end Runs

end ExternalLedger

end RustJsi.BackendJsc
