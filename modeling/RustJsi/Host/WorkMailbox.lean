import RustJsi.Host.Identity
import RustJsi.Interleaving.Wrapping
import RustJsi.Runtime.ClosableMailbox

/-!
# The scheduled-work mailbox

A closable mailbox bound to one attachment: it stamps every payload with the
attachment and asks the host to post one drain whenever a drain becomes due.
It has no cells of its own, and every access of its operations is an access of
the mailbox inside.
-/

namespace RustJsi.Host

open Interleaving RustJsi.Runtime

/-- Owned native work captured for one engine attachment. -/
structure ScheduledWork (T : Type*) where
  attachment : AttachmentId
  payload : T
  deriving DecidableEq, Repr

/-- Failure to enqueue attachment-bound work. -/
inductive ScheduledWorkEnqueueError (T : Type*) where
  | full (work : ScheduledWork T)
  | closed (work : ScheduledWork T)
  deriving DecidableEq, Repr

/-- Failure to enqueue and post attachment-bound work. -/
inductive ScheduledWorkPostError (T E : Type*) where
  | enqueue (error : ScheduledWorkEnqueueError T)
  | post (attachment : AttachmentId) (error : E)
  deriving DecidableEq, Repr

/-- Failure to post the successor required after a normal work drain. -/
inductive ScheduledWorkFinishError (E : Type*) where
  | post (attachment : AttachmentId) (error : E)
  deriving DecidableEq, Repr

namespace ScheduledWorkMailbox

variable {T E : Type*} {width : PointerWidth} {capacity : Nat}

/-- The cells of a `ScheduledWorkMailbox`, those of the mailbox inside. -/
abbrev Shared (width : PointerWidth) (T : Type*) (capacity : Nat) :=
  ClosableMailbox.Shared width (ScheduledWork T) capacity

abbrev Call (width : PointerWidth) (T E : Type*) :=
  ClosableMailbox.Call width (ScheduledWork T) E

abbrev Effect (T E : Type*) :=
  ClosableMailbox.Effect (ScheduledWork T) E

/-- `is_terminally_closed` is `state` compared with `Closed`. -/
inductive Op (T : Type*) where
  | enqueue (payload : T)
  | enqueueAndPost (payload : T)
  | postPending
  | beginClose
  | acquire
  | tryBeginTerminalDrain
  | state
  deriving DecidableEq, Repr

inductive Choice (E : Type*) where
  /-- Perform the next access; a weak exchange fails if `spurious`. -/
  | run (spurious : Bool)
  /-- The owner of a drain pops, by itself or for `dispatch_next`. -/
  | pop
  | finish
  | finishAndPost
  | drop
  /-- The running `post_drain` of the host ends. -/
  | post (outcome : ClosableMailbox.CallbackOutcome E)
  deriving DecidableEq, Repr

/-- The operation of the mailbox inside that an operation is. -/
def inner (attachment : AttachmentId) :
    Op T → ClosableMailbox.Op (ScheduledWork T)
  | .enqueue payload => .enqueue ⟨attachment, payload⟩
  | .enqueueAndPost payload => .enqueueAndPost ⟨attachment, payload⟩
  | .postPending => .postPendingWith
  | .beginClose => .beginClose
  | .acquire => .acquire
  | .tryBeginTerminalDrain => .tryBeginTerminalDrain
  | .state => .state

/-- The next access of a call.  The operation that `finish_and_post` passes to
`finish_with` calls the host only when a successor is pending. -/
def step (shared : Shared width T capacity) :
    Choice E → Call width T E →
    Option (Shared width T capacity × Call width T E × Effect T E)
  | .run _, .operating after =>
      if after = .pending then none
      else ClosableMailbox.step shared (.answer .ok) (.operating after)
  | .post outcome, .operating after =>
      if after = .pending then
        ClosableMailbox.step shared (.answer outcome) (.operating after)
      else none
  | .run spurious, call => ClosableMailbox.step shared (.run spurious) call
  | .pop, call => ClosableMailbox.step shared .pop call
  | .finish, call => ClosableMailbox.step shared .finish call
  | .finishAndPost, call => ClosableMailbox.step shared .finishWith call
  | .drop, call => ClosableMailbox.step shared .drop call
  | .post outcome, call => ClosableMailbox.step shared (.answer outcome) call

/-- A `ScheduledWorkMailbox` of one attachment under any number of calls. -/
def machine (attachment : AttachmentId) (width : PointerWidth)
    (T E : Type*) (capacity : Nat) :
    Machine (Shared width T capacity) (Call width T E) (Op T) (Choice E)
      (Effect T E) where
  start := fun op => ClosableMailbox.start (inner attachment op)
  step := step

/-- Every run of a mailbox created by `ScheduledWorkMailbox::new`. -/
def system (attachment : AttachmentId) (width : PointerWidth)
    (T E : Type*) (capacity : Nat) :
    System (Pool (Shared width T capacity) (Call width T E))
      (PoolLabel (Op T) (Effect T E)) :=
  (machine attachment width T E capacity).system
    (fun shared => shared = ClosableMailbox.new)

/-- The error `enqueue` makes of the one of the mailbox inside. -/
def enqueueError :
    ClosableMailboxEnqueueError (ScheduledWork T) → ScheduledWorkEnqueueError T
  | .full work => .full work
  | .closed work => .closed work

/-- The error `enqueue_and_post` makes of the one of the mailbox inside. -/
def postError (attachment : AttachmentId) :
    ClosableMailboxPostError (ScheduledWork T) E → ScheduledWorkPostError T E
  | .enqueue error => .enqueue (enqueueError error)
  | .post error => .post attachment error

/-- What `enqueue_and_post` returns; `none` is an unwinding host. -/
def enqueueAndPostResult (attachment : AttachmentId)
    (result : ClosableMailbox.EnqueueResult (ScheduledWork T) E) :
    Option (Except (ScheduledWorkPostError T E) MailboxEnqueue) :=
  result.map (Except.mapError (postError attachment))

/-- What `finish_and_post` returns; `none` is an unwinding host, or a drain
that was not ended by `finish_and_post`. -/
def finishAndPostResult (attachment : AttachmentId) :
    ClosableMailbox.DrainResult E →
    Option (Except (ScheduledWorkFinishError E) DrainAfter)
  | .operated after .ok => some (.ok after)
  | .operated _ (.error error) => some (.error (.post attachment error))
  | _ => none

/-- A trace, read as one of the mailbox inside. -/
def innerTrace (attachment : AttachmentId)
    (trace : List (PoolLabel (Op T) (Effect T E))) :
    List (PoolLabel (ClosableMailbox.Op (ScheduledWork T)) (Effect T E)) :=
  trace.map (PoolLabel.translate (inner attachment))

/-- Every access is one of the mailbox inside. -/
theorem step_inner {shared : Shared width T capacity} {choice : Choice E}
    {call : Call width T E}
    {result : Shared width T capacity × Call width T E × Effect T E}
    (accessed : step shared choice call = some result) :
    ∃ chosen, ClosableMailbox.step shared chosen call = some result := by
  unfold step at accessed
  split at accessed
  · split at accessed
    · cases accessed
    · exact ⟨_, accessed⟩
  · split at accessed
    · exact ⟨_, accessed⟩
    · cases accessed
  all_goals exact ⟨_, accessed⟩

theorem wraps (attachment : AttachmentId) :
    (machine attachment width T E capacity).Wraps
      (ClosableMailbox.machine width (ScheduledWork T) E capacity)
      (inner attachment) where
  starts := fun _ => rfl
  steps := fun _ _ _ _ accessed => step_inner accessed

/-- A run of the wrapper is a run of the mailbox inside. -/
theorem run_inner {attachment : AttachmentId}
    {trace : List (PoolLabel (Op T) (Effect T E))}
    {pool : Pool (Shared width T capacity) (Call width T E)}
    (run : (system attachment width T E capacity).Run trace pool) :
    (ClosableMailbox.system width (ScheduledWork T) E capacity).Run
      (innerTrace attachment trace) pool :=
  (wraps attachment).run run

end ScheduledWorkMailbox

end RustJsi.Host
