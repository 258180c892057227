import RustJsi.Runtime.Mailbox
import RustJsi.Runtime.MailboxProtocol

/-!
# The closable mailbox

Producers publish under the producer gate, normal drains work under the
normal-drain gate, and a terminal owner closes the gates and the signal before
it claims the terminal word.  Every access to the queue, to the three other
words and every return of a callback is one step.
-/

namespace RustJsi.Runtime

open Interleaving

/-- Observable lifecycle state of a `ClosableMailbox`. -/
inductive ClosableMailboxState where
  | opened
  | closing
  | terminalPending
  | terminalDraining
  | closed
  deriving DecidableEq, Repr

/-- Failure to enqueue work into a `ClosableMailbox`. -/
inductive ClosableMailboxEnqueueError (Payload : Type*) where
  | full (value : Payload)
  | closed (value : Payload)
  deriving DecidableEq, Repr

/-- Failure while enqueueing work and accepting its required initial post. -/
inductive ClosableMailboxPostError (Payload Fault : Type*) where
  | enqueue (error : ClosableMailboxEnqueueError Payload)
  | post (error : Fault)
  deriving DecidableEq, Repr

/-- Why a terminal drain cannot yet be acquired; the counts are non-zero. -/
inductive TerminalAcquireError where
  | producerCloseNotStarted
  | producerReservationsRemain (count : Nat)
  | normalDrainReservationsRemain (count : Nat)
  | terminalDrainActive
  | closed
  deriving DecidableEq, Repr

/-- Failure to finish a `TerminalMailboxDrain`. -/
inductive TerminalDrainFinishError where
  | payloadsRemain (remaining : Nat)
  | stale
  deriving DecidableEq, Repr

namespace ClosableMailbox

def normal : UInt8 := 0
def terminalPending : UInt8 := 1
def terminalActive : UInt8 := 2
def terminalClosed : UInt8 := 3

variable {Payload Fault : Type*} {width : PointerWidth} {capacity : Nat}

/-- The cells of a `ClosableMailbox`. -/
structure Shared (width : PointerWidth) (Payload : Type*)
    (capacity : Nat) where
  queue : ArrayQueue Payload capacity
  signal : UInt8
  producerGate : width.Usize
  normalDrainGate : width.Usize
  terminalState : UInt8

/-- `ClosableMailbox::new`. -/
def new : Shared width Payload capacity where
  queue := ArrayQueue.new
  signal := DrainSignal.idleWord
  producerGate := IngressGate.openWord width
  normalDrainGate := IngressGate.openWord width
  terminalState := normal

inductive Op (Payload : Type*) where
  | enqueue (value : Payload)
  | enqueueAndPost (value : Payload)
  | beginClose
  | acquire
  | tryBeginTerminalDrain
  | postPendingWith
  | state
  | isDrainPending
  | len
  | isEmpty
  deriving DecidableEq, Repr

/-- How a callback ended. -/
inductive CallbackOutcome (Fault : Type*) where
  | ok
  | error (fault : Fault)
  | unwound
  deriving DecidableEq, Repr

/-- What `enqueue` and `enqueue_and_post` return; the first never reports a
`post`.  `none` is an unwinding callback. -/
abbrev EnqueueResult (Payload Fault : Type*) :=
  Option (Except (ClosableMailboxPostError Payload Fault) MailboxEnqueue)

/-- How an acquired drain is ended. -/
inductive Ending where
  | finish
  | finishWith
  | dropped
  deriving DecidableEq, Repr

/-- What became of an acquired drain. -/
inductive DrainResult (Fault : Type*) where
  | finished (after : DrainAfter)
  | operated (after : DrainAfter) (outcome : CallbackOutcome Fault)
  | dropped
  deriving DecidableEq, Repr

/-- What `acquire` returns when it grants no drain. -/
inductive Declined where
  | idle
  | busy
  | unavailable (state : ClosableMailboxState)
  deriving DecidableEq, Repr

/-- Whose call reads the lifecycle state: its own, that of an `acquire` the
gate refused, or that of an admitted `acquire` that found the signal closed. -/
inductive Observer where
  | caller
  | refused
  | admitted
  deriving DecidableEq, Repr

/-- The two loads of `state`. -/
inductive StateLoad where
  | terminal
  | producer
  deriving DecidableEq, Repr

/-- The accesses of the terminal loop. -/
inductive ClaimPoint where
  | load
  | reload
  | exchange (current : UInt8)
  deriving DecidableEq, Repr

/-- What became of a terminal drain. -/
inductive TerminalResult where
  | finished
  | failed (error : TerminalDrainFinishError)
  | dropped
  deriving DecidableEq, Repr

/-- Where the code of a call stands. -/
inductive Call (width : PointerWidth) (Payload Fault : Type*) where
  | reservingProducer (posts : Bool) (value : Payload)
      (point : LoopPoint width.Usize)
  | pushing (posts : Bool) (value : Payload)
  | publishing (posts : Bool) (point : LoopPoint UInt8)
  /-- The callback of `enqueue_and_post` runs. -/
  | posting
  | releasingProducer (result : EnqueueResult Payload Fault)
  | enqueued (result : EnqueueResult Payload Fault)
  | closing (point : LoopPoint width.Usize)
  | closeBegun (result : IngressClose)
  | reservingDrain (point : LoopPoint width.Usize)
  | acquiring (point : LoopPoint UInt8)
  | declining (result : Declined)
  | declined (result : Declined)
  /-- The caller owns a `ClosableMailboxDrain`. -/
  | draining
  /-- `preserve_retained_payloads` is about to ask whether the queue is
  empty. -/
  | checking (ending : Ending)
  | preserving (ending : Ending) (point : LoopPoint UInt8)
  | finishing (ending : Ending) (point : LoopPoint UInt8)
  /-- The callback of `finish_with` runs. -/
  | operating (after : DrainAfter)
  | releasingDrain (result : DrainResult Fault)
  | drained (result : DrainResult Fault)
  | sealingProducer (point : LoopPoint width.Usize)
  | closingNormal (point : LoopPoint width.Usize)
  | sealingNormal (point : LoopPoint width.Usize)
  | closingSignal (point : LoopPoint UInt8)
  | claiming (point : ClaimPoint)
  | terminalRefused (error : TerminalAcquireError)
  /-- The caller owns a `TerminalMailboxDrain`. -/
  | terminal
  | counting
  | completing
  | releasingTerminal (result : TerminalResult)
  | terminalEnded (result : TerminalResult)
  | reservingRetry (point : LoopPoint width.Usize)
  | inspecting
  /-- The callback of `post_pending_with` runs. -/
  | retrying
  | releasingRetry (result : Option (Except Fault Bool))
  | retried (result : Option (Except Fault Bool))
  | observing (observer : Observer) (load : StateLoad)
  | observed (state : ClosableMailboxState)
  | loadingSignal
  | pendingObserved (pending : Bool)
  | measuring
  | measured (len : Nat)
  | peeking
  | peeked (empty : Bool)
  | panicked

/-- What the code of a call leaves open. -/
inductive Choice (Fault : Type*) where
  /-- Perform the next access; a weak exchange fails if `spurious`. -/
  | run (spurious : Bool)
  /-- The owner of a drain pops, finishes or drops it. -/
  | pop
  | finish
  | finishWith
  | drop
  /-- The running callback ends. -/
  | answer (outcome : CallbackOutcome Fault)
  deriving DecidableEq, Repr

/-- The three callbacks that run under an admission. -/
inductive Callback where
  | post
  | operation (after : DrainAfter)
  | retry
  deriving DecidableEq, Repr

/-- What an access did. -/
inductive Effect (Payload Fault : Type*) where
  | quiet
  | acted (action : MailboxAction Payload)
  | answered (callback : Callback) (outcome : CallbackOutcome Fault)
  | panicked

def start : Op Payload → Call width Payload Fault
  | .enqueue value => .reservingProducer false value .load
  | .enqueueAndPost value => .reservingProducer true value .load
  | .beginClose => .closing .load
  | .acquire => .reservingDrain .load
  | .tryBeginTerminalDrain => .sealingProducer .load
  | .postPendingWith => .reservingRetry .load
  | .state => .observing .caller .terminal
  | .isDrainPending => .loadingSignal
  | .len => .measuring
  | .isEmpty => .peeking

def afterReserveProducer (posts : Bool) (value : Payload) :
    Except IngressReserveError Unit →
      Call width Payload Fault × Effect Payload Fault
  | .ok () => (.pushing posts value, .acted (.producer .reserved))
  | .error error =>
      (.enqueued (some (.error (.enqueue (.closed value)))),
        .acted (.producer (.refused error)))

/-- `post` runs only when the request scheduled a drain. -/
def afterPublish (posts : Bool) (result : DrainRequest) :
    Call width Payload Fault × Effect Payload Fault :=
  match mailboxEnqueue result with
  | some outcome =>
      (if posts ∧ outcome = .scheduled then .posting
        else .releasingProducer (some (.ok outcome)),
        .acted (.work (.published result)))
  | none => (.panicked, .panicked)

def afterReserveDrain :
    Except IngressReserveError Unit →
      Call width Payload Fault × Effect Payload Fault
  | .ok () => (.acquiring .load, .acted (.normal .reserved))
  | .error error =>
      (.observing .refused .terminal, .acted (.normal (.refused error)))

def afterAcquire :
    DrainAcquire → Call width Payload Fault × Effect Payload Fault
  | .idle => (.declining .idle, .acted (.work (.signal (.refused .idle))))
  | .busy => (.declining .busy, .acted (.work (.signal (.refused .busy))))
  | .closed =>
      (.observing .admitted .terminal,
        .acted (.work (.signal (.refused .closed))))
  | .acquired => (.draining, .acted (.work (.signal .acquired)))

def afterPreserve (ending : Ending) :
    DrainRequest → Call width Payload Fault × Effect Payload Fault
  | .coalesced =>
      (.finishing ending .load, .acted (.work (.preserved .coalesced)))
  | .scheduled => (.panicked, .panicked)
  | .closed => (.panicked, .panicked)

/-- `finish` is `finish_with` of the identity, which cannot be observed. -/
def afterFinish (ending : Ending) (after : DrainAfter) :
    Call width Payload Fault × Effect Payload Fault :=
  (match ending with
    | .finish => .releasingDrain (.finished after)
    | .finishWith => .operating after
    | .dropped => .releasingDrain .dropped,
    .acted (.work (.signal (.settled after))))

def afterSealProducer (result : Except IngressSealError IngressState) :
    Call width Payload Fault × Effect Payload Fault :=
  match result with
  | .ok .sealed => (.closingNormal .load, .acted (.producer (.sealed result)))
  | .ok _ => (.panicked, .panicked)
  | .error .stillOpen =>
      (.terminalRefused .producerCloseNotStarted,
        .acted (.producer (.sealed result)))
  | .error (.reservationsRemain count) =>
      (.terminalRefused (.producerReservationsRemain count),
        .acted (.producer (.sealed result)))

def afterSealNormal (result : Except IngressSealError IngressState) :
    Call width Payload Fault × Effect Payload Fault :=
  match result with
  | .ok .sealed => (.closingSignal .load, .acted (.normal (.sealed result)))
  | .ok _ => (.panicked, .panicked)
  | .error .stillOpen => (.panicked, .panicked)
  | .error (.reservationsRemain count) =>
      (.terminalRefused (.normalDrainReservationsRemain count),
        .acted (.normal (.sealed result)))

def afterReserveRetry :
    Except IngressReserveError Unit →
      Call width Payload Fault × Effect Payload Fault
  | .ok () => (.inspecting, .acted (.normal .reserved))
  | .error error =>
      (.retried (some (.ok false)), .acted (.normal (.refused error)))

/-- Where a call stands once it has read the lifecycle state. -/
def afterObserve (observer : Observer) (state : ClosableMailboxState) :
    Call width Payload Fault :=
  match observer with
  | .caller => .observed state
  | .refused => .declined (.unavailable state)
  | .admitted => .declining (.unavailable state)

/-- One load of `state`. -/
def observe (shared : Shared width Payload capacity) (observer : Observer) :
    StateLoad → Call width Payload Fault × Effect Payload Fault
  | .terminal =>
      if shared.terminalState = terminalPending then
        (afterObserve observer .terminalPending, .quiet)
      else if shared.terminalState = terminalActive then
        (afterObserve observer .terminalDraining, .quiet)
      else if shared.terminalState = terminalClosed then
        (afterObserve observer .closed, .quiet)
      else if shared.terminalState = normal then
        (.observing observer .producer, .quiet)
      else
        (.panicked, .panicked)
  | .producer =>
      match IngressGate.stateFromRaw shared.producerGate with
      | some .opened => (afterObserve observer .opened, .quiet)
      | some _ => (afterObserve observer .closing, .quiet)
      | none => (.panicked, .panicked)

/-- Whether the terminal word can be claimed. -/
def claimable (word : UInt8) : Bool :=
  word = normal ∨ word = terminalPending

/-- One access of the terminal loop. -/
def claim (shared : Shared width Payload capacity) (spurious : Bool) :
    ClaimPoint → Shared width Payload capacity ×
      Call width Payload Fault × Effect Payload Fault
  | .load =>
      if claimable shared.terminalState then
        (shared, .claiming .reload, .quiet)
      else if shared.terminalState = terminalActive then
        (shared, .terminalRefused .terminalDrainActive, .quiet)
      else if shared.terminalState = terminalClosed then
        (shared, .terminalRefused .closed, .quiet)
      else
        (shared, .panicked, .panicked)
  | .reload =>
      if claimable shared.terminalState then
        (shared, .claiming (.exchange shared.terminalState), .quiet)
      else
        (shared, .claiming .load, .quiet)
  | .exchange current =>
      if shared.terminalState = current ∧ spurious = false then
        ({ shared with terminalState := terminalActive }, .terminal,
          .acted .claimed)
      else
        (shared, .claiming .load, .quiet)

/-- `settle_reservation` of one gate, with its debug assertion. -/
def settle (word : width.Usize)
    (store : width.Usize → Shared width Payload capacity)
    (done : Call width Payload Fault × Effect Payload Fault) :
    Shared width Payload capacity ×
      Call width Payload Fault × Effect Payload Fault :=
  if IngressGate.reservationCount word = 0 then
    (store (IngressGate.settleWord word), .panicked, .panicked)
  else
    (store (IngressGate.settleWord word), done)

def Shared.setSignal (shared : Shared width Payload capacity)
    (signal : UInt8) : Shared width Payload capacity :=
  { shared with signal }

def Shared.setProducerGate (shared : Shared width Payload capacity)
    (producerGate : width.Usize) : Shared width Payload capacity :=
  { shared with producerGate }

def Shared.setNormalDrainGate (shared : Shared width Payload capacity)
    (normalDrainGate : width.Usize) : Shared width Payload capacity :=
  { shared with normalDrainGate }

/-- What `enqueue_and_post` returns once its callback has ended. -/
def afterPost :
    CallbackOutcome Fault → EnqueueResult Payload Fault
  | .ok => some (.ok .scheduled)
  | .error fault => some (.error (.post fault))
  | .unwound => none

/-- What `post_pending_with` returns once its callback has ended. -/
def afterRetry : CallbackOutcome Fault → Option (Except Fault Bool)
  | .ok => some (.ok true)
  | .error fault => some (.error fault)
  | .unwound => none

/-- The next access of a call. -/
def step (shared : Shared width Payload capacity) :
    Choice Fault → Call width Payload Fault →
    Option (Shared width Payload capacity ×
      Call width Payload Fault × Effect Payload Fault)
  | .run spurious, .reservingProducer posts value point =>
      some (runLoop IngressGate.reserveDecision spurious shared.producerGate
        point shared.setProducerGate
        (fun point => (.reservingProducer posts value point, .quiet))
        (afterReserveProducer posts value) (.panicked, .panicked))
  | .run _, .pushing posts value =>
      match shared.queue.push value with
      | some queue =>
          some ({ shared with queue }, .publishing posts .load,
            .acted (.work (.pushed value)))
      | none =>
          some (shared,
            .releasingProducer (some (.error (.enqueue (.full value)))),
            .quiet)
  | .run spurious, .publishing posts point =>
      some (runLoop DrainSignal.requestDecision spurious shared.signal point
        shared.setSignal
        (fun point => (.publishing posts point, .quiet))
        (afterPublish posts) (.panicked, .panicked))
  | .answer outcome, .posting =>
      some (shared, .releasingProducer (afterPost outcome),
        .answered .post outcome)
  | .run _, .releasingProducer result =>
      some (settle shared.producerGate shared.setProducerGate
        (.enqueued result, .acted (.producer .settled)))
  | .run spurious, .closing point =>
      some (runLoop IngressGate.beginCloseDecision spurious
        shared.producerGate point shared.setProducerGate
        (fun point => (.closing point, .quiet))
        (fun result =>
          (.closeBegun result, .acted (.producer (.closed result))))
        (.panicked, .panicked))
  | .run spurious, .reservingDrain point =>
      some (runLoop IngressGate.reserveDecision spurious
        shared.normalDrainGate point shared.setNormalDrainGate
        (fun point => (.reservingDrain point, .quiet))
        afterReserveDrain (.panicked, .panicked))
  | .run spurious, .acquiring point =>
      some (runLoop DrainSignal.acquireDecision spurious shared.signal point
        shared.setSignal
        (fun point => (.acquiring point, .quiet))
        afterAcquire (.panicked, .panicked))
  | .run _, .declining result =>
      some (settle shared.normalDrainGate shared.setNormalDrainGate
        (.declined result, .acted (.normal .settled)))
  | .pop, .draining =>
      match shared.queue.pop with
      | some (value, queue) =>
          some ({ shared with queue }, .draining,
            .acted (.work (.popped value)))
      | none => some (shared, .draining, .quiet)
  | .finish, .draining => some (shared, .checking .finish, .quiet)
  | .finishWith, .draining => some (shared, .checking .finishWith, .quiet)
  | .drop, .draining => some (shared, .checking .dropped, .quiet)
  | .run _, .checking ending =>
      if shared.queue.isEmpty then
        some (shared, .finishing ending .load, .acted (.work .concluded))
      else
        some (shared, .preserving ending .load, .quiet)
  | .run spurious, .preserving ending point =>
      some (runLoop DrainSignal.requestDecision spurious shared.signal point
        shared.setSignal
        (fun point => (.preserving ending point, .quiet))
        (afterPreserve ending) (.panicked, .panicked))
  | .run spurious, .finishing ending point =>
      some (runLoop DrainSignal.finishDecision spurious shared.signal point
        shared.setSignal
        (fun point => (.finishing ending point, .quiet))
        (afterFinish ending) (.panicked, .panicked))
  | .answer outcome, .operating after =>
      some (shared, .releasingDrain (.operated after outcome),
        .answered (.operation after) outcome)
  | .run _, .releasingDrain result =>
      some (settle shared.normalDrainGate shared.setNormalDrainGate
        (.drained result, .acted (.normal .settled)))
  | .run spurious, .sealingProducer point =>
      some (runLoop IngressGate.trySealDecision spurious
        shared.producerGate point shared.setProducerGate
        (fun point => (.sealingProducer point, .quiet))
        afterSealProducer (.panicked, .panicked))
  | .run spurious, .closingNormal point =>
      some (runLoop IngressGate.beginCloseDecision spurious
        shared.normalDrainGate point shared.setNormalDrainGate
        (fun point => (.closingNormal point, .quiet))
        (fun result =>
          (.sealingNormal .load, .acted (.normal (.closed result))))
        (.panicked, .panicked))
  | .run spurious, .sealingNormal point =>
      some (runLoop IngressGate.trySealDecision spurious
        shared.normalDrainGate point shared.setNormalDrainGate
        (fun point => (.sealingNormal point, .quiet))
        afterSealNormal (.panicked, .panicked))
  | .run spurious, .closingSignal point =>
      some (runLoop DrainSignal.closeDecision spurious shared.signal point
        shared.setSignal
        (fun point => (.closingSignal point, .quiet))
        (fun result =>
          (.claiming .load, .acted (.work (.signal (.closed result)))))
        (.panicked, .panicked))
  | .run spurious, .claiming point => some (claim shared spurious point)
  | .pop, .terminal =>
      match shared.queue.pop with
      | some (value, queue) =>
          some ({ shared with queue }, .terminal,
            .acted (.work (.popped value)))
      | none => some (shared, .terminal, .quiet)
  | .finish, .terminal => some (shared, .counting, .quiet)
  | .drop, .terminal => some (shared, .releasingTerminal .dropped, .quiet)
  | .run _, .counting =>
      if shared.queue.len = 0 then
        some (shared, .completing, .quiet)
      else
        some (shared,
          .releasingTerminal (.failed (.payloadsRemain shared.queue.len)),
          .quiet)
  | .run _, .completing =>
      if shared.terminalState = terminalActive then
        some ({ shared with terminalState := terminalClosed },
          .terminalEnded .finished, .acted .completed)
      else
        some (shared, .releasingTerminal (.failed .stale), .quiet)
  | .run _, .releasingTerminal result =>
      if shared.terminalState = terminalActive then
        some ({ shared with terminalState := terminalPending },
          .terminalEnded result, .acted .released)
      else
        some (shared, .terminalEnded result, .quiet)
  | .run spurious, .reservingRetry point =>
      some (runLoop IngressGate.reserveDecision spurious
        shared.normalDrainGate point shared.setNormalDrainGate
        (fun point => (.reservingRetry point, .quiet))
        afterReserveRetry (.panicked, .panicked))
  | .run _, .inspecting =>
      match DrainSignal.stateFromRaw shared.signal with
      | some .pending => some (shared, .retrying, .quiet)
      | some _ => some (shared, .releasingRetry (some (.ok false)), .quiet)
      | none => some (shared, .panicked, .panicked)
  | .answer outcome, .retrying =>
      some (shared, .releasingRetry (afterRetry outcome),
        .answered .retry outcome)
  | .run _, .releasingRetry result =>
      some (settle shared.normalDrainGate shared.setNormalDrainGate
        (.retried result, .acted (.normal .settled)))
  | .run _, .observing observer load =>
      some (shared, observe shared observer load)
  | .run _, .loadingSignal =>
      match DrainSignal.stateFromRaw shared.signal with
      | some state => some (shared, .pendingObserved (state = .pending), .quiet)
      | none => some (shared, .panicked, .panicked)
  | .run _, .measuring => some (shared, .measured shared.queue.len, .quiet)
  | .run _, .peeking => some (shared, .peeked shared.queue.isEmpty, .quiet)
  | _, _ => none

/-- A `ClosableMailbox` under any number of concurrent calls. -/
def machine (width : PointerWidth) (Payload Fault : Type*) (capacity : Nat) :
    Machine (Shared width Payload capacity) (Call width Payload Fault)
      (Op Payload) (Choice Fault) (Effect Payload Fault) where
  start := start
  step := step

/-- Every run of a mailbox created by `ClosableMailbox::new`. -/
def system (width : PointerWidth) (Payload Fault : Type*) (capacity : Nat) :
    System (Pool (Shared width Payload capacity) (Call width Payload Fault))
      (PoolLabel (Op Payload) (Effect Payload Fault)) :=
  (machine width Payload Fault capacity).system (fun shared => shared = new)

end ClosableMailbox

end RustJsi.Runtime
