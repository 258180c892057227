import RustJsi.Interleaving.RetryLoop
import RustJsi.Interleaving.Pool
import Mathlib.Data.Nat.Bitwise

/-!
# The ingress gate

One `usize` holds the phase of a gate in its two top bits and the number of
granted and unsettled permits in the others.  `reserve`, `begin_close` and
`try_seal` are retry loops over it; a permit settles by one subtraction from
the whole word.
-/

namespace RustJsi.Runtime

open Interleaving

/-- The width of `usize` on a target; Rust guarantees sixteen bits. -/
structure PointerWidth where
  bits : Nat
  sixteenLe : 16 ≤ bits

namespace PointerWidth

def sixtyFour : PointerWidth := ⟨64, by decide⟩

/-- A `usize` of the target. -/
abbrev Usize (width : PointerWidth) := BitVec width.bits

end PointerWidth

/-- Observable admission state of a gate. -/
inductive IngressState where
  | opened
  | closing
  | sealed
  deriving DecidableEq, Repr

/-- Failure to reserve producer ingress. -/
inductive IngressReserveError where
  | notOpen (state : IngressState)
  | reservationSpaceExhausted
  deriving DecidableEq, Repr

/-- Result of beginning ingress closure. -/
inductive IngressClose where
  | started (inFlightReservations : Nat)
  | alreadyClosing (inFlightReservations : Nat)
  | alreadySealed
  deriving DecidableEq, Repr

/-- Failure to seal a gate; the count of `reservationsRemain` is non-zero. -/
inductive IngressSealError where
  | stillOpen
  | reservationsRemain (count : Nat)
  deriving DecidableEq, Repr

namespace IngressGate

variable (width : PointerWidth)

def phaseBits : Nat := 2

def phaseShift : Nat := width.bits - phaseBits

def reservationMask : width.Usize :=
  ((1 : width.Usize) <<< phaseShift width) - 1

def openWord : width.Usize := 0

def closingWord : width.Usize := (1 : width.Usize) <<< phaseShift width

def sealedWord : width.Usize := (2 : width.Usize) <<< phaseShift width

variable {width}

def reservationCount (value : width.Usize) : width.Usize :=
  value &&& reservationMask width

/-- `state_from_raw`; a value with no state is one the source calls
unreachable. -/
def stateFromRaw (value : width.Usize) : Option IngressState :=
  match (value >>> phaseShift width).toNat with
  | 0 => some .opened
  | 1 => some .closing
  | 2 => some .sealed
  | _ => none

/-- One iteration of `IngressGate::reserve`; success carries the permit. -/
def reserveDecision (current : width.Usize) :
    Decision width.Usize (Except IngressReserveError Unit) :=
  match stateFromRaw current with
  | some .opened =>
      if reservationCount current = reservationMask width then
        .answer (.error .reservationSpaceExhausted)
      else
        .exchange (current + 1) (.ok ())
  | some state => .answer (.error (.notOpen state))
  | none => .unreachable

/-- One iteration of `IngressGate::begin_close`. -/
def beginCloseDecision (current : width.Usize) :
    Decision width.Usize IngressClose :=
  match stateFromRaw current with
  | some .opened =>
      .exchange (closingWord width ||| reservationCount current)
        (.started (reservationCount current).toNat)
  | some .closing =>
      .answer (.alreadyClosing (reservationCount current).toNat)
  | some .sealed => .answer .alreadySealed
  | none => .unreachable

/-- One iteration of `IngressGate::try_seal`. -/
def trySealDecision (current : width.Usize) :
    Decision width.Usize (Except IngressSealError IngressState) :=
  match stateFromRaw current with
  | some .opened => .answer (.error .stillOpen)
  | some .closing =>
      if reservationCount current = 0 then
        .exchange (sealedWord width) (.ok .sealed)
      else
        .answer (.error (.reservationsRemain (reservationCount current).toNat))
  | some .sealed => .answer (.ok .sealed)
  | none => .unreachable

/-- The word `settle_reservation` leaves: one `fetch_sub` on the whole word. -/
def settleWord (current : width.Usize) : width.Usize := current - 1

inductive Op where
  | reserve
  | beginClose
  | trySeal
  | state
  | inFlightReservations
  deriving DecidableEq, Repr

/-- Where the code of a call stands. -/
inductive Call (width : PointerWidth) where
  | reserving (point : LoopPoint width.Usize)
  | refused (error : IngressReserveError)
  /-- The caller owns an `IngressPermit`. -/
  | holding
  /-- The caller forgot its permit, which stays granted for good. -/
  | leaked
  | settled
  | closing (point : LoopPoint width.Usize)
  | closed (result : IngressClose)
  | sealing (point : LoopPoint width.Usize)
  | sealed (result : Except IngressSealError IngressState)
  | loading
  | observed (state : IngressState)
  | counting
  | counted (count : Nat)
  | panicked

inductive Choice where
  /-- Perform the next access; a weak exchange fails if `spurious`. -/
  | run (spurious : Bool)
  /-- The owner of a permit settles or drops it. -/
  | settle
  /-- The owner of a permit forgets it. -/
  | leak
  deriving DecidableEq, Repr

/-- The accesses at which an operation takes effect. -/
inductive Event where
  | reserved
  | refused (error : IngressReserveError)
  | settled
  | closed (result : IngressClose)
  | sealed (result : Except IngressSealError IngressState)

inductive Effect where
  | quiet
  | decided (event : Event)
  | panicked

def afterReserve : Except IngressReserveError Unit → Call width × Effect
  | .ok () => (.holding, .decided .reserved)
  | .error error => (.refused error, .decided (.refused error))

def start : Op → Call width
  | .reserve => .reserving .load
  | .beginClose => .closing .load
  | .trySeal => .sealing .load
  | .state => .loading
  | .inFlightReservations => .counting

/-- The next access of a call on the gate's word.  The debug assertion of
`settle_reservation` looks at the word the subtraction replaced. -/
def step (word : width.Usize) : Choice → Call width →
    Option (width.Usize × Call width × Effect)
  | .run spurious, .reserving point =>
      some (runLoop reserveDecision spurious word point id
        (fun point => (.reserving point, .quiet))
        afterReserve
        (.panicked, .panicked))
  | .settle, .holding =>
      if reservationCount word = 0 then
        some (settleWord word, .panicked, .panicked)
      else
        some (settleWord word, .settled, .decided .settled)
  | .leak, .holding => some (word, .leaked, .quiet)
  | .run spurious, .closing point =>
      some (runLoop beginCloseDecision spurious word point id
        (fun point => (.closing point, .quiet))
        (fun result => (.closed result, .decided (.closed result)))
        (.panicked, .panicked))
  | .run spurious, .sealing point =>
      some (runLoop trySealDecision spurious word point id
        (fun point => (.sealing point, .quiet))
        (fun result => (.sealed result, .decided (.sealed result)))
        (.panicked, .panicked))
  | .run _, .loading =>
      match stateFromRaw word with
      | some state => some (word, .observed state, .quiet)
      | none => some (word, .panicked, .panicked)
  | .run _, .counting =>
      some (word, .counted (reservationCount word).toNat, .quiet)
  | _, _ => none

/-- `IngressGate` under any number of concurrent calls. -/
def machine (width : PointerWidth) :
    Machine width.Usize (Call width) Op Choice Effect where
  start := start
  step := step

/-- Every run of a gate created by `IngressGate::new`. -/
def system (width : PointerWidth) :
    System (Pool width.Usize (Call width)) (PoolLabel Op Effect) :=
  (machine width).system (fun word => word = openWord width)

/-- A granted permit that has not settled, leaked ones included. -/
def Call.ownsPermit : Call width → Bool
  | .holding => true
  | .leaked => true
  | _ => false

def livePermits (pool : Pool width.Usize (Call width)) : Nat :=
  pool.calls.countP Call.ownsPermit

end IngressGate

end RustJsi.Runtime
