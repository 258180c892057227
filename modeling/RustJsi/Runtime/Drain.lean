import RustJsi.Interleaving.RetryLoop
import RustJsi.Interleaving.Pool

/-!
# The coalescing drain signal

The signal is one byte shared by every thread.  `request`, `acquire`, `close`
and the settlement of a permit are retry loops over it; a permit lives from
the exchange that granted it until the access that settles it.
-/

namespace RustJsi.Runtime

open Interleaving

/-- Observable state of a coalesced drain request. -/
inductive DrainState where
  | idle
  | pending
  | draining
  | drainingWithPending
  | closed
  deriving DecidableEq, Repr

/-- Result of asking a signal to schedule a drain. -/
inductive DrainRequest where
  | scheduled
  | coalesced
  | closed
  deriving DecidableEq, Repr

/-- Result of attempting to acquire the current drain; `acquired` carries the
permit. -/
inductive DrainAcquire where
  | idle
  | acquired
  | busy
  | closed
  deriving DecidableEq, Repr

/-- State observed after a permit completes. -/
inductive DrainAfter where
  | idle
  | pending
  | closed
  deriving DecidableEq, Repr

/-- Result of closing a signal. -/
inductive DrainClose where
  | closed (prior : DrainState)
  | alreadyClosed
  deriving DecidableEq, Repr

namespace DrainSignal

def idleWord : UInt8 := 0
def pendingWord : UInt8 := 1
def drainingWord : UInt8 := 2
def drainingPendingWord : UInt8 := 3
def closedWord : UInt8 := 4

/-- `state_from_raw`; a value with no state is one the source calls
unreachable. -/
def stateFromRaw (value : UInt8) : Option DrainState :=
  if value = idleWord then some .idle
  else if value = pendingWord then some .pending
  else if value = drainingWord then some .draining
  else if value = drainingPendingWord then some .drainingWithPending
  else if value = closedWord then some .closed
  else none

/-- One iteration of `DrainSignal::request`. -/
def requestDecision (current : UInt8) : Decision UInt8 DrainRequest :=
  if current = idleWord then
    .exchange pendingWord .scheduled
  else if current = pendingWord ∨ current = drainingPendingWord then
    .answer .coalesced
  else if current = drainingWord then
    .exchange drainingPendingWord .coalesced
  else if current = closedWord then
    .answer .closed
  else
    .unreachable

/-- One iteration of `DrainSignal::acquire`. -/
def acquireDecision (current : UInt8) : Decision UInt8 DrainAcquire :=
  if current = idleWord then
    .answer .idle
  else if current = pendingWord then
    .exchange drainingWord .acquired
  else if current = drainingWord ∨ current = drainingPendingWord then
    .answer .busy
  else if current = closedWord then
    .answer .closed
  else
    .unreachable

/-- One iteration of `DrainSignal::close`.  On a value with no state the
source exchanges it first and then panics decoding what it replaced. -/
def closeDecision (current : UInt8) : Decision UInt8 DrainClose :=
  if current = closedWord then
    .answer .alreadyClosed
  else
    match stateFromRaw current with
    | some prior => .exchange closedWord (.closed prior)
    | none => .unreachable

/-- One iteration of `DrainSignal::finish_drain`. -/
def finishDecision (current : UInt8) : Decision UInt8 DrainAfter :=
  if current = drainingWord then
    .exchange idleWord .idle
  else if current = drainingPendingWord then
    .exchange pendingWord .pending
  else if current = closedWord ∨ current = idleWord ∨
      current = pendingWord then
    .answer .closed
  else
    .unreachable

/-- The public operations that begin a call.  A permit is finished or dropped
by the call that acquired it. -/
inductive Op where
  | request
  | acquire
  | close
  | state
  deriving DecidableEq, Repr

/-- Where the code of a call stands. -/
inductive Call where
  | requesting (point : LoopPoint UInt8)
  | requested (result : DrainRequest)
  | acquiring (point : LoopPoint UInt8)
  /-- `acquire` returned without a permit. -/
  | refused (result : DrainAcquire)
  /-- The caller owns a `DrainPermit`. -/
  | holding
  /-- `finish_drain` runs, from `finish` or from the permit's drop. -/
  | finishing (dropped : Bool) (point : LoopPoint UInt8)
  | finished (dropped : Bool) (after : DrainAfter)
  | closing (point : LoopPoint UInt8)
  | closed (result : DrainClose)
  | loading
  | observed (state : DrainState)
  | panicked
  deriving DecidableEq, Repr

/-- What the code of a call leaves open. -/
inductive Choice where
  /-- Perform the next access; a weak exchange fails if `spurious`. -/
  | run (spurious : Bool)
  /-- The owner of a permit finishes it. -/
  | finish
  /-- The owner of a permit drops it. -/
  | drop
  deriving DecidableEq, Repr

/-- The accesses at which an operation takes effect. -/
inductive Event where
  | requested (result : DrainRequest)
  | acquired
  | refused (result : DrainAcquire)
  | settled (after : DrainAfter)
  | closed (result : DrainClose)
  deriving DecidableEq, Repr

/-- What an access did: decide an operation, nothing observable, or reach an
arm the source calls unreachable. -/
inductive Effect where
  | quiet
  | decided (event : Event)
  | panicked
  deriving DecidableEq, Repr

/-- Where `acquire` stands once its loop has ended. -/
def afterAcquire : DrainAcquire → Call × Effect
  | .acquired => (.holding, .decided .acquired)
  | result => (.refused result, .decided (.refused result))

def start : Op → Call
  | .request => .requesting .load
  | .acquire => .acquiring .load
  | .close => .closing .load
  | .state => .loading

/-- The next access of a call on the signal's byte. -/
def step (word : UInt8) : Choice → Call → Option (UInt8 × Call × Effect)
  | .run spurious, .requesting point =>
      some (runLoop requestDecision spurious word point id
        (fun point => (.requesting point, .quiet))
        (fun result => (.requested result, .decided (.requested result)))
        (.panicked, .panicked))
  | .run spurious, .acquiring point =>
      some (runLoop acquireDecision spurious word point id
        (fun point => (.acquiring point, .quiet))
        afterAcquire
        (.panicked, .panicked))
  | .finish, .holding => some (word, .finishing false .load, .quiet)
  | .drop, .holding => some (word, .finishing true .load, .quiet)
  | .run spurious, .finishing dropped point =>
      some (runLoop finishDecision spurious word point id
        (fun point => (.finishing dropped point, .quiet))
        (fun after => (.finished dropped after, .decided (.settled after)))
        (.panicked, .panicked))
  | .run spurious, .closing point =>
      some (runLoop closeDecision spurious word point id
        (fun point => (.closing point, .quiet))
        (fun result => (.closed result, .decided (.closed result)))
        (.panicked, .panicked))
  | .run _, .loading =>
      match stateFromRaw word with
      | some state => some (word, .observed state, .quiet)
      | none => some (word, .panicked, .panicked)
  | _, _ => none

/-- `DrainSignal` under any number of concurrent calls. -/
def machine : Machine UInt8 Call Op Choice Effect where
  start := start
  step := step

/-- Every run of a signal created by `DrainSignal::new`. -/
def system : System (Pool UInt8 Call) (PoolLabel Op Effect) :=
  machine.system (fun word => word = idleWord)

/-- A granted permit that has not settled yet. -/
def Call.ownsPermit : Call → Bool
  | .holding => true
  | .finishing _ _ => true
  | _ => false

/-- The permits alive in a pool. -/
def livePermits (pool : Pool UInt8 Call) : Nat :=
  pool.calls.countP Call.ownsPermit

end DrainSignal

namespace DrainState

/-- The byte that stands for a state. -/
def raw : DrainState → UInt8
  | .idle => DrainSignal.idleWord
  | .pending => DrainSignal.pendingWord
  | .draining => DrainSignal.drainingWord
  | .drainingWithPending => DrainSignal.drainingPendingWord
  | .closed => DrainSignal.closedWord

@[simp]
theorem stateFromRaw_raw (state : DrainState) :
    DrainSignal.stateFromRaw state.raw = some state := by
  cases state <;> rfl

theorem raw_injective {left right : DrainState}
    (same : left.raw = right.raw) : left = right := by
  have decoded := congrArg DrainSignal.stateFromRaw same
  simpa using decoded

@[simp]
theorem raw_inj {left right : DrainState} :
    left.raw = right.raw ↔ left = right :=
  ⟨raw_injective, congrArg raw⟩

end DrainState

end RustJsi.Runtime
