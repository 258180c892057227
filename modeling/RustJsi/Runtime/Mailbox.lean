import RustJsi.Runtime.SignalledQueue

/-!
# The bounded mailbox

A fixed-capacity queue and a drain signal.  `enqueue` pushes and then requests;
a drain that ends, by `finish` or by its drop, asks whether the queue is empty,
requests a successor if it is not, and settles its permit.
-/

namespace RustJsi.Runtime

open Interleaving

/-- Result of placing work into a mailbox. -/
inductive MailboxEnqueue where
  | scheduled
  | coalesced
  deriving DecidableEq, Repr

/-- The outcome `enqueue` makes of a request; a closed signal is a case its
source calls unreachable. -/
def mailboxEnqueue : DrainRequest → Option MailboxEnqueue
  | .scheduled => some .scheduled
  | .coalesced => some .coalesced
  | .closed => none

/-- Failure to place work into a `BoundedMailbox`. -/
inductive MailboxEnqueueError (Payload : Type*) where
  | full (value : Payload)
  deriving DecidableEq, Repr

namespace BoundedMailbox

variable {Payload : Type*} {capacity : Nat}

/-- The cells of a `BoundedMailbox`. -/
structure Shared (Payload : Type*) (capacity : Nat) where
  queue : ArrayQueue Payload capacity
  signal : UInt8

/-- `BoundedMailbox::new`. -/
def new : Shared Payload capacity where
  queue := ArrayQueue.new
  signal := DrainSignal.idleWord

inductive Op (Payload : Type*) where
  | enqueue (value : Payload)
  | acquire
  | isDrainPending
  | len
  | isEmpty
  deriving DecidableEq, Repr

/-- Where the code of a call stands. -/
inductive Call (Payload : Type*) where
  | pushing (value : Payload)
  | requesting (point : LoopPoint UInt8)
  | enqueued (result : Except (MailboxEnqueueError Payload) MailboxEnqueue)
  | acquiring (point : LoopPoint UInt8)
  | idle
  | busy
  /-- The caller owns a `MailboxDrain`. -/
  | draining
  /-- `preserve_retained_payloads` is about to ask whether the queue is empty;
  `dropped` tells a drop from a `finish`. -/
  | checking (dropped : Bool)
  | preserving (dropped : Bool) (point : LoopPoint UInt8)
  | finishing (dropped : Bool) (point : LoopPoint UInt8)
  | finished (dropped : Bool) (after : DrainAfter)
  | loading
  | observed (pending : Bool)
  | measuring
  | measured (len : Nat)
  | peeking
  | peeked (empty : Bool)
  | panicked
  deriving DecidableEq, Repr

inductive Choice where
  /-- Perform the next access; a weak exchange fails if `spurious`. -/
  | run (spurious : Bool)
  /-- The owner of a drain pops, finishes or drops it. -/
  | pop
  | finish
  | drop
  deriving DecidableEq, Repr

/-- What an access did. -/
inductive Effect (Payload : Type*) where
  | quiet
  | acted (event : QueueEvent Payload)
  | panicked

def start : Op Payload → Call Payload
  | .enqueue value => .pushing value
  | .acquire => .acquiring .load
  | .isDrainPending => .loading
  | .len => .measuring
  | .isEmpty => .peeking

/-- Where `enqueue` stands once its request has been answered. -/
def afterRequest (result : DrainRequest) : Call Payload × Effect Payload :=
  match mailboxEnqueue result with
  | some outcome => (.enqueued (.ok outcome), .acted (.published result))
  | none => (.panicked, .panicked)

/-- Where `acquire` stands once its loop has ended. -/
def afterAcquire : DrainAcquire → Call Payload × Effect Payload
  | .idle => (.idle, .acted (.signal (.refused .idle)))
  | .acquired => (.draining, .acted (.signal .acquired))
  | .busy => (.busy, .acted (.signal (.refused .busy)))
  | .closed => (.panicked, .panicked)

/-- Where an ending drain stands once its request has been answered. -/
def afterPreserve (dropped : Bool) : DrainRequest → Call Payload × Effect Payload
  | .coalesced =>
      (.finishing dropped .load, .acted (.preserved .coalesced))
  | .scheduled => (.panicked, .panicked)
  | .closed => (.panicked, .panicked)

/-- The next access of a call. -/
def step (shared : Shared Payload capacity) : Choice → Call Payload →
    Option (Shared Payload capacity × Call Payload × Effect Payload)
  | .run _, .pushing value =>
      match shared.queue.push value with
      | some queue =>
          some ({ shared with queue }, .requesting .load,
            .acted (.pushed value))
      | none => some (shared, .enqueued (.error (.full value)), .quiet)
  | .run spurious, .requesting point =>
      some (runLoop DrainSignal.requestDecision spurious shared.signal point
        (fun signal => { shared with signal })
        (fun point => (.requesting point, .quiet))
        afterRequest (.panicked, .panicked))
  | .run spurious, .acquiring point =>
      some (runLoop DrainSignal.acquireDecision spurious shared.signal point
        (fun signal => { shared with signal })
        (fun point => (.acquiring point, .quiet))
        afterAcquire (.panicked, .panicked))
  | .pop, .draining =>
      match shared.queue.pop with
      | some (value, queue) =>
          some ({ shared with queue }, .draining, .acted (.popped value))
      | none => some (shared, .draining, .quiet)
  | .finish, .draining => some (shared, .checking false, .quiet)
  | .drop, .draining => some (shared, .checking true, .quiet)
  | .run _, .checking dropped =>
      if shared.queue.isEmpty then
        some (shared, .finishing dropped .load, .acted .concluded)
      else
        some (shared, .preserving dropped .load, .quiet)
  | .run spurious, .preserving dropped point =>
      some (runLoop DrainSignal.requestDecision spurious shared.signal point
        (fun signal => { shared with signal })
        (fun point => (.preserving dropped point, .quiet))
        (afterPreserve dropped) (.panicked, .panicked))
  | .run spurious, .finishing dropped point =>
      some (runLoop DrainSignal.finishDecision spurious shared.signal point
        (fun signal => { shared with signal })
        (fun point => (.finishing dropped point, .quiet))
        (fun after =>
          (.finished dropped after, .acted (.signal (.settled after))))
        (.panicked, .panicked))
  | .run _, .loading =>
      match DrainSignal.stateFromRaw shared.signal with
      | some state => some (shared, .observed (state = .pending), .quiet)
      | none => some (shared, .panicked, .panicked)
  | .run _, .measuring => some (shared, .measured shared.queue.len, .quiet)
  | .run _, .peeking => some (shared, .peeked shared.queue.isEmpty, .quiet)
  | _, _ => none

/-- A `BoundedMailbox` under any number of concurrent calls. -/
def machine (Payload : Type*) (capacity : Nat) :
    Machine (Shared Payload capacity) (Call Payload) (Op Payload) Choice
      (Effect Payload) where
  start := start
  step := step

/-- Every run of a mailbox created by `BoundedMailbox::new`. -/
def system (Payload : Type*) (capacity : Nat) :
    System (Pool (Shared Payload capacity) (Call Payload))
      (PoolLabel (Op Payload) (Effect Payload)) :=
  (machine Payload capacity).system (fun shared => shared = new)

/-- The shares a call holds: the drain permit of an acquired drain that has not
settled, the announcement a producer owes between push and request, and the
look an ending drain has taken at the queue. -/
def Call.holds : SignalledQueue.Stake → Call Payload → Bool
  | .permit, .draining => true
  | .permit, .checking _ => true
  | .permit, .preserving _ _ => true
  | .permit, .finishing _ _ => true
  | .publishing, .requesting _ => true
  | .concluded, .finishing _ _ => true
  | _, _ => false

end BoundedMailbox

end RustJsi.Runtime
