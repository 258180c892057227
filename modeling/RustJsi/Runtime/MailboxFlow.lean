import RustJsi.Runtime.ClosableMailbox

/-!
# The control flow of a mailbox call

`Moves` lists, once and for all, where the code of a call can go from where it
stands and what it does on the way.  Every fact about the history of one call
is a case analysis over it.
-/

namespace RustJsi.Runtime

open Interleaving

namespace ClosableMailbox

variable {width : PointerWidth} {Payload Fault : Type*} {capacity : Nat}

/-- One access of a call: where it stood, what it did, where it stands. -/
inductive Moves : Call width Payload Fault → Effect Payload Fault →
    Call width Payload Fault → Prop
  | reserveAgain (posts : Bool) (value : Payload)
      (point next : LoopPoint width.Usize) :
      Moves (.reservingProducer posts value point) .quiet
        (.reservingProducer posts value next)
  | reserved (posts : Bool) (value : Payload)
      (point : LoopPoint width.Usize) :
      Moves (.reservingProducer posts value point)
        (.acted (.producer .reserved)) (.pushing posts value)
  | rejected (posts : Bool) (value : Payload)
      (point : LoopPoint width.Usize) (error : IngressReserveError) :
      Moves (.reservingProducer posts value point)
        (.acted (.producer (.refused error)))
        (.enqueued (some (.error (.enqueue (.closed value)))))
  | pushed (posts : Bool) (value : Payload) :
      Moves (.pushing posts value) (.acted (.work (.pushed value)))
        (.publishing posts .load)
  | full (posts : Bool) (value : Payload) :
      Moves (.pushing posts value) .quiet
        (.releasingProducer (some (.error (.enqueue (.full value)))))
  | publishAgain (posts : Bool) (point next : LoopPoint UInt8) :
      Moves (.publishing posts point) .quiet (.publishing posts next)
  | announced (point : LoopPoint UInt8) :
      Moves (.publishing true point)
        (.acted (.work (.published .scheduled))) .posting
  | published (posts : Bool) (point : LoopPoint UInt8)
      (result : DrainRequest) (outcome : MailboxEnqueue)
      (accepted : mailboxEnqueue result = some outcome)
      (noPost : posts = false ∨ outcome = .coalesced) :
      Moves (.publishing posts point) (.acted (.work (.published result)))
        (.releasingProducer (some (.ok outcome)))
  | posted (outcome : CallbackOutcome Fault) :
      Moves .posting (.answered .post outcome)
        (.releasingProducer (afterPost outcome))
  | producerSettled (result : EnqueueResult Payload Fault) :
      Moves (.releasingProducer result) (.acted (.producer .settled))
        (.enqueued result)
  | closeAgain (point next : LoopPoint width.Usize) :
      Moves (.closing point) .quiet (.closing next)
  | closed (point : LoopPoint width.Usize) (result : IngressClose) :
      Moves (.closing point) (.acted (.producer (.closed result)))
        (.closeBegun result)
  | admitAgain (point next : LoopPoint width.Usize) :
      Moves (.reservingDrain point) .quiet (.reservingDrain next)
  | admitted (point : LoopPoint width.Usize) :
      Moves (.reservingDrain point) (.acted (.normal .reserved))
        (.acquiring .load)
  | unadmitted (point : LoopPoint width.Usize) (error : IngressReserveError) :
      Moves (.reservingDrain point) (.acted (.normal (.refused error)))
        (.observing .refused .terminal)
  | acquireAgain (point next : LoopPoint UInt8) :
      Moves (.acquiring point) .quiet (.acquiring next)
  | acquired (point : LoopPoint UInt8) :
      Moves (.acquiring point) (.acted (.work (.signal .acquired))) .draining
  | idle (point : LoopPoint UInt8) :
      Moves (.acquiring point) (.acted (.work (.signal (.refused .idle))))
        (.declining .idle)
  | busy (point : LoopPoint UInt8) :
      Moves (.acquiring point) (.acted (.work (.signal (.refused .busy))))
        (.declining .busy)
  | shut (point : LoopPoint UInt8) :
      Moves (.acquiring point) (.acted (.work (.signal (.refused .closed))))
        (.observing .admitted .terminal)
  | declined (result : Declined) :
      Moves (.declining result) (.acted (.normal .settled))
        (.declined result)
  | popped (value : Payload) :
      Moves .draining (.acted (.work (.popped value))) .draining
  | poppedNone : Moves .draining .quiet .draining
  | ended (ending : Ending) : Moves .draining .quiet (.checking ending)
  | looked (ending : Ending) :
      Moves (.checking ending) (.acted (.work .concluded))
        (.finishing ending .load)
  | retained (ending : Ending) :
      Moves (.checking ending) .quiet (.preserving ending .load)
  | preserveAgain (ending : Ending) (point next : LoopPoint UInt8) :
      Moves (.preserving ending point) .quiet (.preserving ending next)
  | preserved (ending : Ending) (point : LoopPoint UInt8) :
      Moves (.preserving ending point)
        (.acted (.work (.preserved .coalesced))) (.finishing ending .load)
  | finishAgain (ending : Ending) (point next : LoopPoint UInt8) :
      Moves (.finishing ending point) .quiet (.finishing ending next)
  | settled (ending : Ending) (point : LoopPoint UInt8)
      (after : DrainAfter) :
      Moves (.finishing ending point)
        (.acted (.work (.signal (.settled after))))
        (afterFinish ending after : Call width Payload Fault ×
          Effect Payload Fault).1
  | operated (after : DrainAfter) (outcome : CallbackOutcome Fault) :
      Moves (.operating after) (.answered (.operation after) outcome)
        (.releasingDrain (.operated after outcome))
  | drainSettled (result : DrainResult Fault) :
      Moves (.releasingDrain result) (.acted (.normal .settled))
        (.drained result)
  | sealAgain (point next : LoopPoint width.Usize) :
      Moves (.sealingProducer point) .quiet (.sealingProducer next)
  | producerSealed (point : LoopPoint width.Usize) :
      Moves (.sealingProducer point)
        (.acted (.producer (.sealed (.ok .sealed)))) (.closingNormal .load)
  | producerOpen (point : LoopPoint width.Usize) :
      Moves (.sealingProducer point)
        (.acted (.producer (.sealed (.error .stillOpen))))
        (.terminalRefused .producerCloseNotStarted)
  | producerUnsealed (point : LoopPoint width.Usize) (count : Nat) :
      Moves (.sealingProducer point)
        (.acted (.producer (.sealed (.error (.reservationsRemain count)))))
        (.terminalRefused (.producerReservationsRemain count))
  | closeNormalAgain (point next : LoopPoint width.Usize) :
      Moves (.closingNormal point) .quiet (.closingNormal next)
  | normalClosed (point : LoopPoint width.Usize) (result : IngressClose) :
      Moves (.closingNormal point) (.acted (.normal (.closed result)))
        (.sealingNormal .load)
  | sealNormalAgain (point next : LoopPoint width.Usize) :
      Moves (.sealingNormal point) .quiet (.sealingNormal next)
  | normalSealed (point : LoopPoint width.Usize) :
      Moves (.sealingNormal point)
        (.acted (.normal (.sealed (.ok .sealed)))) (.closingSignal .load)
  | normalUnsealed (point : LoopPoint width.Usize) (count : Nat) :
      Moves (.sealingNormal point)
        (.acted (.normal (.sealed (.error (.reservationsRemain count)))))
        (.terminalRefused (.normalDrainReservationsRemain count))
  | closeSignalAgain (point next : LoopPoint UInt8) :
      Moves (.closingSignal point) .quiet (.closingSignal next)
  | signalClosed (point : LoopPoint UInt8) (result : DrainClose) :
      Moves (.closingSignal point)
        (.acted (.work (.signal (.closed result)))) (.claiming .load)
  | claimAgain (point next : ClaimPoint) :
      Moves (.claiming point) .quiet (.claiming next)
  | claimBusy (point : ClaimPoint) :
      Moves (.claiming point) .quiet (.terminalRefused .terminalDrainActive)
  | claimClosed (point : ClaimPoint) :
      Moves (.claiming point) .quiet (.terminalRefused .closed)
  | claimed (point : ClaimPoint) :
      Moves (.claiming point) (.acted .claimed) .terminal
  | terminalPopped (value : Payload) :
      Moves .terminal (.acted (.work (.popped value))) .terminal
  | terminalPoppedNone : Moves .terminal .quiet .terminal
  | counted : Moves .terminal .quiet .counting
  | terminalDropped :
      Moves .terminal .quiet (.releasingTerminal .dropped)
  | emptied : Moves .counting .quiet .completing
  | remaining (count : Nat) :
      Moves .counting .quiet
        (.releasingTerminal (.failed (.payloadsRemain count)))
  | completed :
      Moves .completing (.acted .completed) (.terminalEnded .finished)
  | stale : Moves .completing .quiet (.releasingTerminal (.failed .stale))
  | released (result : TerminalResult) :
      Moves (.releasingTerminal result) (.acted .released)
        (.terminalEnded result)
  | unowned (result : TerminalResult) :
      Moves (.releasingTerminal result) .quiet (.terminalEnded result)
  | retryAgain (point next : LoopPoint width.Usize) :
      Moves (.reservingRetry point) .quiet (.reservingRetry next)
  | retryAdmitted (point : LoopPoint width.Usize) :
      Moves (.reservingRetry point) (.acted (.normal .reserved)) .inspecting
  | retryUnadmitted (point : LoopPoint width.Usize)
      (error : IngressReserveError) :
      Moves (.reservingRetry point) (.acted (.normal (.refused error)))
        (.retried (some (.ok false)))
  | retryFound : Moves .inspecting .quiet .retrying
  | retryNeedless :
      Moves .inspecting .quiet (.releasingRetry (some (.ok false)))
  | retryAnswered (outcome : CallbackOutcome Fault) :
      Moves .retrying (.answered .retry outcome)
        (.releasingRetry (afterRetry outcome))
  | retrySettled (result : Option (Except Fault Bool)) :
      Moves (.releasingRetry result) (.acted (.normal .settled))
        (.retried result)
  | loaded (observer : Observer) (load : StateLoad) :
      Moves (.observing observer load) .quiet
        (.observing observer .producer)
  | observed (observer : Observer) (load : StateLoad)
      (state : ClosableMailboxState) :
      Moves (.observing observer load) .quiet (afterObserve observer state)
  | signalLoaded (pending : Bool) :
      Moves .loadingSignal .quiet (.pendingObserved pending)
  | measured (len : Nat) : Moves .measuring .quiet (.measured len)
  | peeked (empty : Bool) : Moves .peeking .quiet (.peeked empty)
  | panicked (before : Call width Payload Fault) :
      Moves before .panicked .panicked

/-- The result of an access is one its call can move to. -/
def MovesTo (before : Call width Payload Fault)
    (result : Shared width Payload capacity × Call width Payload Fault ×
      Effect Payload Fault) : Prop :=
  Moves before result.2.2 result.2.1

section Accesses

variable {shared : Shared width Payload capacity}
  {before : Call width Payload Fault}
  {result : Shared width Payload capacity × Call width Payload Fault ×
    Effect Payload Fault}

/-- An access of a loop goes round, ends in one of the ways the results of the
loop lead to, or reaches the unreachable arm. -/
private theorem loop_moves {Word Result : Type} [DecidableEq Word]
    {decision : Word → Decision Word Result} {spurious : Bool} {word : Word}
    {point : LoopPoint Word} {store : Word → Shared width Payload capacity}
    {again : LoopPoint Word → Call width Payload Fault}
    {ends : Result → Call width Payload Fault × Effect Payload Fault}
    (goesOn : ∀ next, Moves before .quiet (again next))
    (finishes : ∀ result, Moves before (ends result).2 (ends result).1)
    (stepped : some (runLoop decision spurious word point store
      (fun point => (again point, .quiet)) ends
      (.panicked, .panicked)) = some result) :
    MovesTo before result := by
  cases stepped
  exact runLoop_induction (MovesTo before) goesOn
    (fun _ result _ => finishes result) (fun _ => .panicked before)

private theorem settle_moves {word : width.Usize}
    {store : width.Usize → Shared width Payload capacity}
    {after : Call width Payload Fault} {effect : Effect Payload Fault}
    (settles : Moves before effect after)
    (stepped : some (settle word store (after, effect)) = some result) :
    MovesTo before result := by
  cases stepped
  unfold settle
  split
  · exact .panicked before
  · exact settles

private theorem afterPublish_moves (posts : Bool) (point : LoopPoint UInt8)
    (result : DrainRequest) :
    MovesTo (.publishing posts point : Call width Payload Fault)
      (shared, afterPublish posts result) := by
  cases result with
  | closed => exact .panicked _
  | coalesced =>
      cases posts <;>
        exact .published _ point .coalesced .coalesced rfl (Or.inr rfl)
  | scheduled =>
      cases posts with
      | true => exact .announced point
      | false =>
          exact .published false point .scheduled .scheduled rfl
            (Or.inl rfl)

private theorem claim_moves (spurious : Bool) (point : ClaimPoint) :
    MovesTo (.claiming point : Call width Payload Fault)
      (claim shared spurious point) := by
  cases point with
  | load =>
      simp only [claim]
      split
      · exact Moves.claimAgain _ _
      · split
        · exact Moves.claimBusy _
        · split
          · exact Moves.claimClosed _
          · exact Moves.panicked _
  | reload =>
      simp only [claim]
      split
      · exact Moves.claimAgain _ _
      · exact Moves.claimAgain _ _
  | exchange current =>
      simp only [claim]
      split
      · exact Moves.claimed _
      · exact Moves.claimAgain _ _

private theorem observe_moves (observer : Observer) (load : StateLoad) :
    MovesTo (.observing observer load : Call width Payload Fault)
      (shared, observe shared observer load) := by
  cases load with
  | terminal =>
      simp only [observe]
      split
      · exact Moves.observed _ _ _
      · split
        · exact Moves.observed _ _ _
        · split
          · exact Moves.observed _ _ _
          · split
            · exact Moves.loaded _ _
            · exact Moves.panicked _
  | producer =>
      simp only [observe]
      split
      · exact Moves.observed _ _ _
      · exact Moves.observed _ _ _
      · exact Moves.panicked _

theorem step_moves {choice : Choice Fault}
    (stepped : step shared choice before = some result) :
    MovesTo before result := by
  unfold step at stepped
  split at stepped
  · refine loop_moves (.reserveAgain _ _ _) ?_ stepped
    rintro (error | granted)
    · exact .rejected _ _ _ error
    · exact .reserved _ _ _
  · split at stepped
    · cases stepped
      exact .pushed _ _
    · cases stepped
      exact .full _ _
  · refine loop_moves (.publishAgain _ _) ?_ stepped
    intro answer
    exact (afterPublish_moves _ _ answer : MovesTo _ (shared, _))
  · cases stepped
    exact .posted _
  · exact settle_moves (.producerSettled _) stepped
  · exact loop_moves (.closeAgain _) (.closed _) stepped
  · refine loop_moves (.admitAgain _) ?_ stepped
    rintro (error | granted)
    · exact .unadmitted _ error
    · exact .admitted _
  · refine loop_moves (.acquireAgain _) ?_ stepped
    intro answer
    cases answer with
    | idle => exact .idle _
    | acquired => exact .acquired _
    | busy => exact .busy _
    | closed => exact .shut _
  · exact settle_moves (.declined _) stepped
  · split at stepped
    · cases stepped
      exact .popped _
    · cases stepped
      exact .poppedNone
  · cases stepped
    exact .ended _
  · cases stepped
    exact .ended _
  · cases stepped
    exact .ended _
  · split at stepped
    · cases stepped
      exact .looked _
    · cases stepped
      exact .retained _
  · refine loop_moves (.preserveAgain _ _) ?_ stepped
    intro answer
    cases answer with
    | coalesced => exact .preserved _ _
    | scheduled => exact .panicked _
    | closed => exact .panicked _
  · exact loop_moves (.finishAgain _ _) (.settled _ _) stepped
  · cases stepped
    exact .operated _ _
  · exact settle_moves (.drainSettled _) stepped
  · refine loop_moves (.sealAgain _) ?_ stepped
    rintro (error | state)
    · cases error with
      | stillOpen => exact .producerOpen _
      | reservationsRemain count => exact .producerUnsealed _ _
    · cases state with
      | opened => exact .panicked _
      | closing => exact .panicked _
      | sealed => exact .producerSealed _
  · exact loop_moves (.closeNormalAgain _) (.normalClosed _) stepped
  · refine loop_moves (.sealNormalAgain _) ?_ stepped
    rintro (error | state)
    · cases error with
      | stillOpen => exact .panicked _
      | reservationsRemain count => exact .normalUnsealed _ _
    · cases state with
      | opened => exact .panicked _
      | closing => exact .panicked _
      | sealed => exact .normalSealed _
  · exact loop_moves (.closeSignalAgain _) (.signalClosed _) stepped
  · cases stepped
    exact claim_moves _ _
  · split at stepped
    · cases stepped
      exact .terminalPopped _
    · cases stepped
      exact .terminalPoppedNone
  · cases stepped
    exact .counted
  · cases stepped
    exact .terminalDropped
  · split at stepped
    · cases stepped
      exact .emptied
    · cases stepped
      exact .remaining _
  · split at stepped
    · cases stepped
      exact .completed
    · cases stepped
      exact .stale
  · split at stepped
    · cases stepped
      exact .released _
    · cases stepped
      exact .unowned _
  · refine loop_moves (.retryAgain _) ?_ stepped
    rintro (error | granted)
    · exact .retryUnadmitted _ error
    · exact .retryAdmitted _
  · split at stepped
    · cases stepped
      exact .retryFound
    · cases stepped
      exact .retryNeedless
    · cases stepped
      exact .panicked _
  · cases stepped
    exact .retryAnswered _
  · exact settle_moves (.retrySettled _) stepped
  · cases stepped
    exact observe_moves _ _
  · split at stepped
    · cases stepped
      exact .signalLoaded _
    · cases stepped
      exact .panicked _
  · cases stepped
    exact .measured _
  · cases stepped
    exact .peeked _
  · cases stepped

end Accesses

end ClosableMailbox

end RustJsi.Runtime
