import RustJsi.Interleaving.Wrapping
import RustJsi.Runtime.MailboxSimulation

/-!
# The signal of a closable mailbox

Seen through its signal, a run of the mailbox is a run of the drain signal.
-/

namespace RustJsi.Runtime

open Interleaving

namespace ClosableMailbox

variable {width : PointerWidth} {Payload Fault : Type*} {capacity : Nat}

/-- The operation on the signal an access is, if it is one. -/
def Effect.signal? : Effect Payload Fault → Option DrainSignal.Event
  | .acted (.work event) => event.signal?
  | _ => none

/-- The operations on the signal in a trace, in order. -/
def signalEvents {Operation : Type*}
    (trace : List (PoolLabel Operation (Effect Payload Fault))) :
    List DrainSignal.Event :=
  trace.filterMap fun label => label.effect?.bind Effect.signal?

section Pools

variable {trace : List (PoolLabel (Op Payload) (Effect Payload Fault))}
  {pool next : Pool (Shared width Payload capacity)
    (Call width Payload Fault)}

theorem signalEvents_snoc {Operation : Type*}
    (trace : List (PoolLabel Operation (Effect Payload Fault)))
    (label : PoolLabel Operation (Effect Payload Fault)) :
    signalEvents (trace ++ [label]) =
      signalEvents trace ++ (label.effect?.bind Effect.signal?).toList :=
  filterMap_snoc _ _ _

theorem signalEvents_translate {Outer Inner : Type*}
    (rename : Outer → Inner)
    (trace : List (PoolLabel Outer (Effect Payload Fault))) :
    signalEvents (trace.map (PoolLabel.translate rename)) =
      signalEvents trace := by
  rw [signalEvents, signalEvents, List.filterMap_map]
  congr 1
  funext label
  cases label <;> rfl

/-- One step of the mailbox is at most one step of its signal. -/
theorem step_signal
    {label : PoolLabel (Op Payload) (Effect Payload Fault)}
    {ledger : MailboxLedger Payload capacity}
    (sound : ledger.Sound (IngressGate.reservationLimit width))
    (relates : Shows pool ledger)
    (moved : (system width Payload Fault capacity).step pool label next) :
    SignalLedger.system.Answers ledger.work.signal
      (fun signal => next.shared.signal = signal.state.raw)
      (label.effect?.bind Effect.signal?) := by
  have answered := shows_step sound relates moved
  rcases label with ⟨call, op⟩ | ⟨call, effect⟩
  · exact (answered : Shows next ledger).cells.signal
  · cases effect with
    | quiet => exact (answered : Shows next ledger).cells.signal
    | answered callback outcome =>
        exact (answered : Shows next ledger).cells.signal
    | panicked => exact (answered : Shows next ledger).cells.signal
    | acted action =>
        obtain ⟨ledger', step, nextRelates⟩ := answered
        have signal := nextRelates.cells.signal
        cases step with
        | producer allowed step => exact signal
        | normal allowed step => exact signal
        | claim closed available => exact signal
        | release owned => exact signal
        | complete owned empty => exact signal
        | @work event work allowed step =>
            have signalled := SignalledQueue.step_signal step
            change SignalLedger.system.Answers _ _ event.signal?
            cases seen : event.signal? with
            | none =>
                rw [seen] at signalled
                have same : work.signal = ledger.work.signal := signalled
                rw [← same]
                exact signal
            | some operation =>
                rw [seen] at signalled
                obtain ⟨after, performed, afterEq⟩ := signalled
                refine ⟨after, performed, ?_⟩
                rw [← afterEq]
                exact signal

/-- The run of the signal that a run of the mailbox shows. -/
theorem run_signal
    (run : (system width Payload Fault capacity).Run trace pool) :
    ∃ signal, SignalLedger.system.Run (signalEvents trace) signal ∧
      pool.shared.signal = signal.state.raw := by
  obtain ⟨ledger, ledgerRun, _, relates⟩ := run_ledger run
  obtain ⟨work, workRun, workEq⟩ :=
    (MailboxLedger.workSimulation Payload capacity _).run ledgerRun
  obtain ⟨signal, signalRun, signalEq⟩ :=
    (SignalledQueue.signalSimulation Payload capacity).run workRun
  have sameWork : ledger.work = work := workEq
  have sameSignal : work.signal = signal := signalEq
  refine ⟨signal, ?_, ?_⟩
  · have sameTrace : signalEvents trace =
        ((actions trace).filterMap MailboxAction.work?).filterMap
          QueueEvent.signal? := by
      simp only [signalEvents, actions, List.filterMap_filterMap]
      congr 1
      funext label
      rcases label with ⟨call, op⟩ | ⟨call, effect⟩
      · rfl
      · rcases effect with _ | action | ⟨callback, outcome⟩ | _
        · rfl
        · cases action <;> rfl
        · rfl
        · rfl
    rw [sameTrace]
    exact signalRun
  · rw [relates.cells.signal, sameWork, sameSignal]

/-- A pending signal stays pending until a drain is acquired or the signal is
closed. -/
theorem path_pending {later :
      List (PoolLabel (Op Payload) (Effect Payload Fault))}
    (run : (system width Payload Fault capacity).Run trace pool)
    (path : (system width Payload Fault capacity).Path pool later next)
    (pending : pool.shared.signal = DrainState.pending.raw)
    (quiet : ∀ event ∈ signalEvents later,
      SignalLedger.grantsDrain event = false ∧
      SignalLedger.takesClose event = false) :
    next.shared.signal = DrainState.pending.raw := by
  refine System.Run.stable
    (fun pool => pool.shared.signal = DrainState.pending.raw)
    (fun label => ∀ event ∈ label.effect?.bind Effect.signal?,
      SignalLedger.grantsDrain event = false ∧
      SignalLedger.takesClose event = false)
    ?_ run path ?_ pending
  · intro trace pool label next earlier admitted pendingNow moved
    obtain ⟨ledger, _, sound, relates⟩ := run_ledger earlier
    rw [relates.cells.signal, DrainState.raw_inj] at pendingNow
    have answered := step_signal sound relates moved
    cases seen : label.effect?.bind Effect.signal? with
    | none =>
        rw [seen] at answered
        have same : next.shared.signal = ledger.work.signal.state.raw :=
          answered
        rw [same, pendingNow]
    | some event =>
        rw [seen] at answered admitted
        obtain ⟨after, step, afterEq⟩ := answered
        obtain ⟨notGranted, notClosed⟩ := admitted event rfl
        rw [afterEq,
          SignalLedger.step_pending step pendingNow notGranted notClosed]
  · intro label member event reported
    exact quiet event (List.mem_filterMap.mpr ⟨label, member, reported⟩)

end Pools

end ClosableMailbox

end RustJsi.Runtime
