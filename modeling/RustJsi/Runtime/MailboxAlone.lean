import RustJsi.Interleaving.Solitude
import RustJsi.Runtime.MailboxSimulation

/-!
# Calls of a closable mailbox on one thread

Where a call of each operation ends when nothing else happens to the mailbox,
in terms of the decoded cells.
-/

namespace RustJsi.Runtime

open Interleaving

namespace ClosableMailbox

open IngressGate (reservationLimit)

variable {width : PointerWidth} {Payload Fault : Type*} {capacity : Nat}

/-- The decoded cells of a mailbox. -/
structure Cells (Payload : Type*) (capacity : Nat) where
  queue : ArrayQueue Payload capacity
  signal : DrainState
  producer : GateLedger
  normal : GateLedger
  terminal : TerminalPhase

namespace Cells

/-- The cells of `ClosableMailbox::new`. -/
def fresh : Cells Payload capacity where
  queue := ArrayQueue.new
  signal := .idle
  producer := GateLedger.fresh
  normal := GateLedger.fresh
  terminal := .normal

def shared (width : PointerWidth) (cells : Cells Payload capacity) :
    Shared width Payload capacity where
  queue := cells.queue
  signal := cells.signal.raw
  producerGate := cells.producer.word width
  normalDrainGate := cells.normal.word width
  terminalState := cells.terminal.raw

theorem fresh_shared : (fresh : Cells Payload capacity).shared width = new := by
  simp only [fresh, shared, new, GateLedger.word, GateLedger.fresh,
    IngressGate.openWord_eq]
  rfl

/-- What `state` answers. -/
def state (cells : Cells Payload capacity) : ClosableMailboxState :=
  match cells.terminal with
  | .pending => .terminalPending
  | .active => .terminalDraining
  | .closed => .closed
  | .normal =>
      match cells.producer.phase with
      | .opened => .opened
      | _ => .closing

end Cells

/-- The choices of a call that runs. -/
def Choice.IsRun (choice : Choice Fault) : Prop :=
  ∃ spurious, choice = .run spurious

/-- The call, left to itself, ends here. -/
def Ends (shared : Shared width Payload capacity)
    (call : Call width Payload Fault)
    (last : Shared width Payload capacity)
    (after : Call width Payload Fault) : Prop :=
  (machine width Payload Fault capacity).Settles Choice.IsRun
    shared call last after

section Alone

variable {shared last : Shared width Payload capacity}
  {cells : Cells Payload capacity} {call after : Call width Payload Fault}

theorem ends_rest_iff
    (rests : ∀ spurious, step shared (.run spurious) call = none) :
    Ends shared call last after ↔ last = shared ∧ after = call := by
  apply Machine.settles_rest_iff
  intro choice chosen
  obtain ⟨spurious, rfl⟩ := chosen
  exact rests spurious

theorem ends_step_iff (middle : Shared width Payload capacity)
    (next : Call width Payload Fault)
    (steps : ∀ spurious, ∃ effect,
      step shared (.run spurious) call = some (middle, next, effect)) :
    Ends shared call last after ↔ Ends middle next last after := by
  have chosen : Choice.IsRun (.run false : Choice Fault) := ⟨false, rfl⟩
  apply Machine.settles_step_iff chosen
  intro choice chosen
  obtain ⟨spurious, rfl⟩ := chosen
  exact steps spurious

private theorem ends_loop_iff {Word Result : Type} [DecidableEq Word]
    {decision : Word → Decision Word Result} {word next : Word}
    {result : Result} (store : Word → Shared width Payload capacity)
    (again : LoopPoint Word → Call width Payload Fault)
    (finished : Result → Call width Payload Fault × Effect Payload Fault)
    (committed : (decision word).commit word = some (next, result))
    (keeps : store word = shared)
    (steps : ∀ spurious point, step shared (.run spurious) (again point) =
      some (runLoop decision spurious word point store
        (fun point => (again point, .quiet)) finished
        (.panicked, .panicked)))
    (point : LoopPoint Word) :
    Ends shared (again point) last after ↔
      Ends (store next) (finished result).1 last after :=
  Machine.settles_loop_iff (fun _ => Iff.rfl) committed keeps steps point

theorem ends_reserveProducer_iff
    (fits : cells.producer.live ≤ reservationLimit width) (posts : Bool)
    (value : Payload) (point : LoopPoint width.Usize) :
    Ends (cells.shared width) (.reservingProducer posts value point)
        last after ↔
      Ends (Cells.shared width
          { cells with
            producer := (cells.producer.reserve (reservationLimit width)).1 })
        (afterReserveProducer posts value
          (cells.producer.reserve (reservationLimit width)).2).1
        last after :=
  ends_loop_iff (cells.shared width).setProducerGate
    (.reservingProducer posts value)
    (afterReserveProducer posts value)
    (IngressGate.reserveDecision_commit fits) rfl (fun _ _ => rfl) point

theorem ends_reserveDrain_iff
    (fits : cells.normal.live ≤ reservationLimit width)
    (point : LoopPoint width.Usize) :
    Ends (cells.shared width)
        (.reservingDrain point : Call width Payload Fault) last after ↔
      Ends (Cells.shared width
          { cells with
            normal := (cells.normal.reserve (reservationLimit width)).1 })
        (afterReserveDrain
          (cells.normal.reserve (reservationLimit width)).2).1
        last after :=
  ends_loop_iff (cells.shared width).setNormalDrainGate
    .reservingDrain
    afterReserveDrain
    (IngressGate.reserveDecision_commit fits) rfl (fun _ _ => rfl) point

theorem ends_publishing_iff (posts : Bool) (point : LoopPoint UInt8) :
    Ends (cells.shared width)
        (.publishing posts point : Call width Payload Fault) last after ↔
      Ends (Cells.shared width { cells with signal := cells.signal.request.1 })
        (afterPublish posts cells.signal.request.2).1 last after :=
  ends_loop_iff (cells.shared width).setSignal
    (.publishing posts)
    (afterPublish posts)
    (DrainSignal.requestDecision_commit cells.signal) rfl (fun _ _ => rfl)
    point

theorem ends_acquiring_iff (point : LoopPoint UInt8) :
    Ends (cells.shared width)
        (.acquiring point : Call width Payload Fault) last after ↔
      Ends (Cells.shared width { cells with signal := cells.signal.acquire.1 })
        (afterAcquire cells.signal.acquire.2).1 last after :=
  ends_loop_iff (cells.shared width).setSignal
    .acquiring
    afterAcquire
    (DrainSignal.acquireDecision_commit cells.signal) rfl (fun _ _ => rfl)
    point

theorem ends_preserving_iff (ending : Ending) (point : LoopPoint UInt8) :
    Ends (cells.shared width)
        (.preserving ending point : Call width Payload Fault) last after ↔
      Ends (Cells.shared width { cells with signal := cells.signal.request.1 })
        (afterPreserve ending cells.signal.request.2).1 last after :=
  ends_loop_iff (cells.shared width).setSignal
    (.preserving ending)
    (afterPreserve ending)
    (DrainSignal.requestDecision_commit cells.signal) rfl (fun _ _ => rfl)
    point

theorem ends_finishing_iff (ending : Ending) (point : LoopPoint UInt8) :
    Ends (cells.shared width)
        (.finishing ending point : Call width Payload Fault) last after ↔
      Ends (Cells.shared width { cells with signal := cells.signal.settle.1 })
        (afterFinish ending cells.signal.settle.2).1 last after :=
  ends_loop_iff (cells.shared width).setSignal
    (.finishing ending)
    (afterFinish ending)
    (DrainSignal.finishDecision_commit cells.signal) rfl (fun _ _ => rfl)
    point

theorem ends_closing_iff
    (fits : cells.producer.live ≤ reservationLimit width)
    (point : LoopPoint width.Usize) :
    Ends (cells.shared width)
        (.closing point : Call width Payload Fault) last after ↔
      Ends (Cells.shared width
          { cells with producer := cells.producer.beginClose.1 })
        (.closeBegun cells.producer.beginClose.2) last after :=
  ends_loop_iff (cells.shared width).setProducerGate
    .closing
    (fun result =>
      (.closeBegun result, .acted (.producer (.closed result))))
    (IngressGate.beginCloseDecision_commit fits) rfl (fun _ _ => rfl) point

theorem ends_sealingProducer_iff
    (fits : cells.producer.live ≤ reservationLimit width)
    (point : LoopPoint width.Usize) :
    Ends (cells.shared width)
        (.sealingProducer point : Call width Payload Fault) last after ↔
      Ends (Cells.shared width
          { cells with producer := cells.producer.trySeal.1 })
        (afterSealProducer cells.producer.trySeal.2).1 last after :=
  ends_loop_iff (cells.shared width).setProducerGate
    .sealingProducer
    afterSealProducer
    (IngressGate.trySealDecision_commit fits) rfl (fun _ _ => rfl) point

theorem ends_closingNormal_iff
    (fits : cells.normal.live ≤ reservationLimit width)
    (point : LoopPoint width.Usize) :
    Ends (cells.shared width)
        (.closingNormal point : Call width Payload Fault) last after ↔
      Ends (Cells.shared width
          { cells with normal := cells.normal.beginClose.1 })
        (.sealingNormal .load) last after :=
  ends_loop_iff (cells.shared width).setNormalDrainGate
    .closingNormal
    (fun result =>
      (.sealingNormal .load, .acted (.normal (.closed result))))
    (IngressGate.beginCloseDecision_commit fits) rfl (fun _ _ => rfl) point

theorem ends_sealingNormal_iff
    (fits : cells.normal.live ≤ reservationLimit width)
    (point : LoopPoint width.Usize) :
    Ends (cells.shared width)
        (.sealingNormal point : Call width Payload Fault) last after ↔
      Ends (Cells.shared width
          { cells with normal := cells.normal.trySeal.1 })
        (afterSealNormal cells.normal.trySeal.2).1 last after :=
  ends_loop_iff (cells.shared width).setNormalDrainGate
    .sealingNormal
    afterSealNormal
    (IngressGate.trySealDecision_commit fits) rfl (fun _ _ => rfl) point

theorem ends_closingSignal_iff (point : LoopPoint UInt8) :
    Ends (cells.shared width)
        (.closingSignal point : Call width Payload Fault) last after ↔
      Ends (Cells.shared width { cells with signal := cells.signal.close.1 })
        (.claiming .load) last after :=
  ends_loop_iff (cells.shared width).setSignal
    .closingSignal
    (fun result =>
      (.claiming .load, .acted (.work (.signal (.closed result)))))
    (DrainSignal.closeDecision_commit cells.signal) rfl (fun _ _ => rfl)
    point

private theorem ends_releasingProducer_iff
    {result : EnqueueResult Payload Fault}
    (live : 0 < cells.producer.live)
    (fits : cells.producer.live ≤ reservationLimit width) :
    Ends (cells.shared width) (.releasingProducer result) last after ↔
      last = Cells.shared width
        { cells with
          producer :=
            { cells.producer with live := cells.producer.live - 1 } } ∧
      after = .enqueued result := by
  have settles := settle_word live fits
    (cells.shared width).setProducerGate
    ((.enqueued result, .acted (.producer .settled)) :
      Call width Payload Fault × Effect Payload Fault)
  have steps : ∀ spurious, ∃ effect,
      step (cells.shared width) (.run spurious)
        (.releasingProducer result) =
      some (_, .enqueued result, effect) := fun _ =>
    ⟨.acted (.producer .settled), congrArg some settles⟩
  rw [ends_step_iff _ _ steps]
  exact ends_rest_iff (fun _ => rfl)

private theorem ends_settlingNormal_iff {next : Call width Payload Fault}
    (live : 0 < cells.normal.live)
    (fits : cells.normal.live ≤ reservationLimit width)
    (steps : ∀ spurious, step (cells.shared width) (.run spurious) call =
      some (settle (cells.normal.word width)
        (cells.shared width).setNormalDrainGate
        (next, .acted (.normal .settled))))
    (rests : ∀ shared spurious,
      step (shared : Shared width Payload capacity) (.run spurious) next =
        none) :
    Ends (cells.shared width) call last after ↔
      last = Cells.shared width
        { cells with
          normal := { cells.normal with live := cells.normal.live - 1 } } ∧
      after = next := by
  have settles := settle_word live fits
    (cells.shared width).setNormalDrainGate
    (next, (.acted (.normal .settled) : Effect Payload Fault))
  rw [ends_step_iff _ next (fun spurious =>
    ⟨.acted (.normal .settled),
      (steps spurious).trans (congrArg some settles)⟩)]
  exact ends_rest_iff (rests _)

theorem ends_enqueue_refused {error : IngressReserveError} {value : Payload}
    (fits : cells.producer.live ≤ reservationLimit width)
    (refused : (cells.producer.reserve (reservationLimit width)).2 =
      .error error) :
    Ends (cells.shared width) (start (.enqueue value)) last after ↔
      last = cells.shared width ∧
      after = (.enqueued (some (.error (.enqueue (.closed value)))) :
        Call width Payload Fault) := by
  rw [start, ends_reserveProducer_iff fits, refused,
    (GateLedger.reserve_error refused).1]
  exact ends_rest_iff (fun _ => rfl)

private theorem ends_enqueue_admitted {value : Payload}
    (fits : cells.producer.live ≤ reservationLimit width)
    (granted : (cells.producer.reserve (reservationLimit width)).2 =
      .ok ()) :
    Ends (cells.shared width)
        (start (.enqueue value) : Call width Payload Fault) last after ↔
      Ends (Cells.shared width
          { cells with
            producer :=
              { cells.producer with live := cells.producer.live + 1 } })
        (.pushing false value) last after := by
  rw [start, ends_reserveProducer_iff fits, granted,
    (GateLedger.reserve_ok granted).2.2]
  rfl

theorem ends_enqueue_full {value : Payload}
    (fits : cells.producer.live ≤ reservationLimit width)
    (granted : (cells.producer.reserve (reservationLimit width)).2 = .ok ())
    (full : cells.queue.push value = none) :
    Ends (cells.shared width) (start (.enqueue value)) last after ↔
      last = cells.shared width ∧
      after = (.enqueued (some (.error (.enqueue (.full value)))) :
        Call width Payload Fault) := by
  have room := (GateLedger.reserve_ok granted).2.1
  rw [ends_enqueue_admitted fits granted]
  rw [ends_step_iff
    (Cells.shared width
      { cells with
        producer :=
          { cells.producer with live := cells.producer.live + 1 } })
    (.releasingProducer (some (.error (.enqueue (.full value)))))
    (fun spurious => ⟨.quiet, by simp [step, Cells.shared, full]⟩)]
  exact ends_releasingProducer_iff (Nat.succ_pos _) (by simp only; omega)

theorem ends_enqueue_pushed {value : Payload}
    {queue : ArrayQueue Payload capacity} {outcome : MailboxEnqueue}
    (fits : cells.producer.live ≤ reservationLimit width)
    (granted : (cells.producer.reserve (reservationLimit width)).2 = .ok ())
    (pushed : cells.queue.push value = some queue)
    (accepted : mailboxEnqueue cells.signal.request.2 = some outcome) :
    Ends (cells.shared width) (start (.enqueue value)) last after ↔
      last = Cells.shared width
        { cells with queue, signal := cells.signal.request.1 } ∧
      after = (.enqueued (some (.ok outcome)) :
        Call width Payload Fault) := by
  have room := (GateLedger.reserve_ok granted).2.1
  rw [ends_enqueue_admitted fits granted]
  rw [ends_step_iff
    (Cells.shared width
      { cells with
        queue
        producer :=
          { cells.producer with live := cells.producer.live + 1 } })
    (.publishing false .load)
    (fun spurious => ⟨.acted (.work (.pushed value)),
      by simp [step, Cells.shared, pushed]⟩)]
  rw [ends_publishing_iff]
  simp only [afterPublish, accepted, Bool.false_eq_true, false_and, if_false]
  exact ends_releasingProducer_iff (Nat.succ_pos _) (by simp only; omega)

theorem ends_beginClose
    (fits : cells.producer.live ≤ reservationLimit width) :
    Ends (cells.shared width)
        (start .beginClose : Call width Payload Fault) last after ↔
      last = Cells.shared width
        { cells with producer := cells.producer.beginClose.1 } ∧
      after = .closeBegun cells.producer.beginClose.2 := by
  rw [start, ends_closing_iff fits]
  exact ends_rest_iff (fun _ => rfl)

private theorem ends_observing_iff
    (fits : cells.producer.live ≤ reservationLimit width)
    (observer : Observer) :
    Ends (cells.shared width)
        (.observing observer .terminal : Call width Payload Fault)
        last after ↔
      Ends (cells.shared width) (afterObserve observer cells.state)
        last after := by
  have loaded : ∀ next : Call width Payload Fault,
      observe (cells.shared width) observer .terminal = (next, .quiet) →
      (Ends (cells.shared width)
          (.observing observer .terminal : Call width Payload Fault)
          last after ↔
        Ends (cells.shared width) next last after) := by
    intro next answered
    apply ends_step_iff
    intro spurious
    exact ⟨.quiet, congrArg (fun answer => some (_, answer)) answered⟩
  cases phase : cells.terminal with
  | pending =>
      rw [loaded (afterObserve observer .terminalPending)
        (by simp [observe, Cells.shared, phase, TerminalPhase.raw])]
      simp [Cells.state, phase]
  | active =>
      rw [loaded (afterObserve observer .terminalDraining)
        (by
          simp only [observe, Cells.shared, phase, TerminalPhase.raw]
          rfl)]
      simp [Cells.state, phase]
  | closed =>
      rw [loaded (afterObserve observer .closed)
        (by
          simp only [observe, Cells.shared, phase, TerminalPhase.raw]
          rfl)]
      simp [Cells.state, phase]
  | normal =>
      rw [loaded (.observing observer .producer)
        (by
          simp only [observe, Cells.shared, phase, TerminalPhase.raw]
          rfl)]
      have decoded : IngressGate.stateFromRaw
          (cells.shared width).producerGate = some cells.producer.phase :=
        IngressGate.stateFromRaw_encode fits
      apply ends_step_iff
      intro spurious
      refine ⟨.quiet, ?_⟩
      simp only [step, observe, decoded]
      cases opened : cells.producer.phase <;>
        simp [Cells.state, phase, opened]

theorem ends_state (fits : cells.producer.live ≤ reservationLimit width) :
    Ends (cells.shared width)
        (start .state : Call width Payload Fault) last after ↔
      last = cells.shared width ∧ after = .observed cells.state := by
  rw [start, ends_observing_iff fits]
  exact ends_rest_iff (fun _ => rfl)

theorem ends_acquire_refused {error : IngressReserveError}
    (producerFits : cells.producer.live ≤ reservationLimit width)
    (fits : cells.normal.live ≤ reservationLimit width)
    (refused : (cells.normal.reserve (reservationLimit width)).2 =
      .error error) :
    Ends (cells.shared width)
        (start .acquire : Call width Payload Fault) last after ↔
      last = cells.shared width ∧
      after = .declined (.unavailable cells.state) := by
  rw [start, ends_reserveDrain_iff fits, refused,
    (GateLedger.reserve_error refused).1]
  simp only [afterReserveDrain]
  rw [ends_observing_iff producerFits]
  exact ends_rest_iff (fun _ => rfl)

private theorem ends_declining_iff {result : Declined}
    (live : 0 < cells.normal.live)
    (fits : cells.normal.live ≤ reservationLimit width) :
    Ends (cells.shared width)
        (.declining result : Call width Payload Fault) last after ↔
      last = Cells.shared width
        { cells with
          normal := { cells.normal with live := cells.normal.live - 1 } } ∧
      after = .declined result :=
  ends_settlingNormal_iff live fits (fun _ => rfl) (fun _ _ => rfl)

private theorem ends_acquire_admitted
    (fits : cells.normal.live ≤ reservationLimit width)
    (granted : (cells.normal.reserve (reservationLimit width)).2 = .ok ()) :
    Ends (cells.shared width)
        (start .acquire : Call width Payload Fault) last after ↔
      Ends (Cells.shared width
          { cells with
            signal := cells.signal.acquire.1
            normal := { cells.normal with live := cells.normal.live + 1 } })
        (afterAcquire cells.signal.acquire.2).1 last after := by
  rw [start, ends_reserveDrain_iff fits, granted,
    (GateLedger.reserve_ok granted).2.2]
  simp only [afterReserveDrain]
  exact ends_acquiring_iff _

theorem ends_acquire_granted
    (fits : cells.normal.live ≤ reservationLimit width)
    (granted : (cells.normal.reserve (reservationLimit width)).2 = .ok ())
    (pending : cells.signal = .pending) :
    Ends (cells.shared width)
        (start .acquire : Call width Payload Fault) last after ↔
      last = Cells.shared width
        { cells with
          signal := .draining
          normal := { cells.normal with live := cells.normal.live + 1 } } ∧
      after = .draining := by
  rw [ends_acquire_admitted fits granted, pending]
  exact ends_rest_iff (fun _ => rfl)

/-- While a drain is live nobody else gets one. -/
theorem ends_acquire_busy
    (fits : cells.normal.live ≤ reservationLimit width)
    (granted : (cells.normal.reserve (reservationLimit width)).2 = .ok ())
    (draining : cells.signal = .draining ∨
      cells.signal = .drainingWithPending) :
    Ends (cells.shared width)
        (start .acquire : Call width Payload Fault) last after ↔
      last = cells.shared width ∧ after = .declined .busy := by
  have room := (GateLedger.reserve_ok granted).2.1
  have busy : cells.signal.acquire = (cells.signal, .busy) := by
    rcases draining with held | held <;> rw [held] <;> rfl
  rw [ends_acquire_admitted fits granted, busy]
  simp only [afterAcquire]
  exact ends_declining_iff (Nat.succ_pos _) (by simp only; omega)

/-- What an ending drain leaves of the signal. -/
def Cells.settledSignal (cells : Cells Payload capacity) :
    DrainState × DrainAfter :=
  if cells.queue.items = [] then cells.signal.settle
  else cells.signal.request.1.settle

/-- Where a drain ended without `finish_with` stands. -/
def Ending.result (after : DrainAfter) : Ending → DrainResult Fault
  | .dropped => .dropped
  | _ => .finished after

private theorem ends_finishing_settled {ending : Ending}
    (plain : ending ≠ .finishWith)
    (live : 0 < cells.normal.live)
    (fits : cells.normal.live ≤ reservationLimit width) :
    Ends (cells.shared width)
        (.finishing ending .load : Call width Payload Fault) last after ↔
      last = Cells.shared width
        { cells with
          signal := cells.signal.settle.1
          normal := { cells.normal with live := cells.normal.live - 1 } } ∧
      after = .drained (ending.result cells.signal.settle.2) := by
  rw [ends_finishing_iff]
  cases ending with
  | finishWith => exact absurd rfl plain
  | finish =>
      exact ends_settlingNormal_iff live fits (fun _ => rfl) (fun _ _ => rfl)
  | dropped =>
      exact ends_settlingNormal_iff live fits (fun _ => rfl) (fun _ _ => rfl)

/-- A drain that ends, by `finish` or by its drop. -/
theorem ends_checking {ending : Ending} (plain : ending ≠ .finishWith)
    (draining : cells.signal = .draining ∨
      cells.signal = .drainingWithPending)
    (live : 0 < cells.normal.live)
    (fits : cells.normal.live ≤ reservationLimit width) :
    Ends (cells.shared width)
        (.checking ending : Call width Payload Fault) last after ↔
      last = Cells.shared width
        { cells with
          signal := cells.settledSignal.1
          normal := { cells.normal with live := cells.normal.live - 1 } } ∧
      after = .drained (ending.result cells.settledSignal.2) := by
  by_cases empty : cells.queue.items = []
  · have looked : ∀ spurious, ∃ effect,
        step (cells.shared width) (.run spurious)
          (.checking ending : Call width Payload Fault) =
        some (cells.shared width, .finishing ending .load, effect) := by
      intro spurious
      exact ⟨.acted (.work .concluded), by simp [step, Cells.shared, empty]⟩
    rw [ends_step_iff _ _ looked, ends_finishing_settled plain live fits,
      Cells.settledSignal, if_pos empty]
  · have looked : ∀ spurious, ∃ effect,
        step (cells.shared width) (.run spurious)
          (.checking ending : Call width Payload Fault) =
        some (cells.shared width, .preserving ending .load, effect) := by
      intro spurious
      exact ⟨.quiet, by simp [step, Cells.shared, empty]⟩
    have coalesced : cells.signal.request =
        (cells.signal.request.1, .coalesced) := by
      rcases draining with held | held <;> rw [held] <;> rfl
    rw [ends_step_iff _ _ looked, ends_preserving_iff, coalesced,
      Cells.settledSignal, if_neg empty]
    exact ends_finishing_settled plain live fits

theorem ends_claim_open (opened : cells.producer.phase = .opened)
    (fits : cells.producer.live ≤ reservationLimit width) :
    Ends (cells.shared width)
        (start .tryBeginTerminalDrain : Call width Payload Fault)
        last after ↔
      last = cells.shared width ∧
      after = .terminalRefused .producerCloseNotStarted := by
  have still : cells.producer.trySeal =
      (cells.producer, .error .stillOpen) := by
    rw [GateLedger.trySeal, opened]
  rw [start, ends_sealingProducer_iff fits, still]
  exact ends_rest_iff (fun _ => rfl)

private theorem trySeal_sealed {gate : GateLedger}
    (closed : gate.phase ≠ .opened) (empty : gate.live = 0) :
    gate.trySeal = ({ gate with phase := .sealed }, .ok .sealed) := by
  obtain ⟨phase, live⟩ := gate
  cases phase with
  | opened => exact absurd rfl closed
  | closing => simp only at empty; simp [GateLedger.trySeal, empty]
  | sealed => rfl

private theorem beginClose_closed (gate : GateLedger) :
    gate.beginClose.1.phase ≠ .opened ∧
      gate.beginClose.1.live = gate.live := by
  obtain ⟨phase, live⟩ := gate
  cases phase <;> exact ⟨nofun, rfl⟩

/-- With the producers gone, the normal gate closes, and a live drain keeps the
terminal claim out. -/
theorem ends_claim_drain (closed : cells.producer.phase ≠ .opened)
    (empty : cells.producer.live = 0) (live : 0 < cells.normal.live)
    (unsealed : cells.normal.phase ≠ .sealed)
    (fits : cells.normal.live ≤ reservationLimit width) :
    Ends (cells.shared width)
        (start .tryBeginTerminalDrain : Call width Payload Fault)
        last after ↔
      last = Cells.shared width
        { cells with
          producer := { cells.producer with phase := .sealed }
          normal := { cells.normal with phase := .closing } } ∧
      after = .terminalRefused
        (.normalDrainReservationsRemain cells.normal.live) := by
  have producerFits : cells.producer.live ≤ reservationLimit width := by
    omega
  have closing : cells.normal.beginClose.1 =
      { cells.normal with phase := .closing } := by
    obtain ⟨queue, signal, producer, ⟨phase, count⟩, terminal⟩ := cells
    cases phase with
    | sealed => exact absurd rfl unsealed
    | _ => rfl
  have remain : cells.normal.beginClose.1.trySeal =
      ({ cells.normal with phase := .closing },
        .error (.reservationsRemain cells.normal.live)) := by
    rw [closing]
    simp [GateLedger.trySeal, Nat.ne_of_gt live]
  rw [start, ends_sealingProducer_iff producerFits,
    trySeal_sealed closed empty]
  refine Iff.trans (ends_closingNormal_iff (by exact fits) _) ?_
  refine Iff.trans (ends_sealingNormal_iff
    (by rw [(beginClose_closed _).2]; exact fits) _) ?_
  simp only [remain, afterSealNormal]
  exact ends_rest_iff (fun _ => rfl)

/-- The cells once the gates are sealed and the signal is closed. -/
def Cells.quiesced (cells : Cells Payload capacity) :
    Cells Payload capacity :=
  { cells with
    signal := .closed
    producer := ⟨.sealed, 0⟩
    normal := ⟨.sealed, 0⟩ }

private theorem ends_claim_quiesced (closed : cells.producer.phase ≠ .opened)
    (noProducer : cells.producer.live = 0)
    (noDrain : cells.normal.live = 0) :
    Ends (cells.shared width)
        (start .tryBeginTerminalDrain : Call width Payload Fault)
        last after ↔
      Ends (cells.quiesced.shared width) (.claiming .load) last after := by
  have producerFits : cells.producer.live ≤ reservationLimit width := by
    omega
  have fits : cells.normal.live ≤ reservationLimit width := by
    omega
  have closing := beginClose_closed cells.normal
  have sealedProducer : cells.producer.trySeal = (⟨.sealed, 0⟩, .ok .sealed) := by
    rw [trySeal_sealed closed noProducer, ← noProducer]
  have sealedNormal : cells.normal.beginClose.1.trySeal =
      (⟨.sealed, 0⟩, .ok .sealed) := by
    rw [trySeal_sealed closing.1 (closing.2.trans noDrain), ← noDrain,
      ← closing.2]
  have closedSignal : cells.signal.close.1 = .closed := by
    cases cells.signal <;> rfl
  rw [start, ends_sealingProducer_iff producerFits, sealedProducer]
  refine Iff.trans (ends_closingNormal_iff (by exact fits) _) ?_
  refine Iff.trans (ends_sealingNormal_iff
    (by rw [closing.2]; exact fits) _) ?_
  simp only [sealedNormal, afterSealNormal]
  refine Iff.trans (ends_closingSignal_iff _) ?_
  simp only [closedSignal]
  rfl

private theorem claimable_iff {terminal : TerminalPhase} :
    claimable terminal.raw = true ↔
      terminal = .normal ∨ terminal = .pending := by
  cases terminal <;> decide

/-- A free terminal word is claimed, however often its exchange fails. -/
private theorem ends_claiming_free
    (free : cells.terminal = .normal ∨ cells.terminal = .pending) :
    Ends (cells.shared width)
        (.claiming .load : Call width Payload Fault) last after ↔
      last = Cells.shared width { cells with terminal := .active } ∧
      after = .terminal := by
  have open' : claimable (cells.shared width).terminalState = true :=
    claimable_iff.mpr free
  have restsOwned : ∀ spurious,
      step (Cells.shared width { cells with terminal := .active })
        (.run spurious) (.terminal : Call width Payload Fault) = none :=
    fun _ => rfl
  have chosen : Choice.IsRun (.run false : Choice Fault) := ⟨false, rfl⟩
  constructor
  · intro ends
    apply (ends_rest_iff restsOwned).mp
    refine Machine.Settles.of_wander Call.claiming chosen ?_ ends
    intro point choice running
    obtain ⟨spurious, rfl⟩ := running
    cases point with
    | load =>
        exact Or.inl ⟨.reload, .quiet, by
          simp [machine, step, claim, open']⟩
    | reload =>
        exact Or.inl ⟨.exchange (cells.shared width).terminalState, .quiet,
          by simp [machine, step, claim, open']⟩
    | exchange current =>
        by_cases succeeds :
            (cells.shared width).terminalState = current ∧ spurious = false
        · refine Or.inr ⟨.acted .claimed, ?_⟩
          simp only [machine, step, claim, if_pos succeeds]
          rfl
        · refine Or.inl ⟨.load, .quiet, ?_⟩
          simp only [machine, step, claim, if_neg succeeds]
  · intro same
    have loads : (machine width Payload Fault capacity).step
        (cells.shared width) (.run false) (.claiming .load) =
        some (cells.shared width, .claiming .reload, .quiet) := by
      simp [machine, step, claim, open']
    have reloads : (machine width Payload Fault capacity).step
        (cells.shared width) (.run false) (.claiming .reload) =
        some (cells.shared width,
          .claiming (.exchange (cells.shared width).terminalState),
          .quiet) := by
      simp [machine, step, claim, open']
    have exchanges : (machine width Payload Fault capacity).step
        (cells.shared width) (.run false)
        (.claiming (.exchange (cells.shared width).terminalState)) =
        some (Cells.shared width { cells with terminal := .active },
          .terminal, .acted .claimed) := by
      simp only [machine, step, claim, and_self, if_true]
      rfl
    have owned := (ends_rest_iff restsOwned).mpr same
    exact Machine.Settles.cons chosen loads
      (.cons chosen reloads (.cons chosen exchanges owned))

/-- Once everybody else is gone, a claim succeeds unless another terminal owner
is at work or has finished. -/
theorem ends_claim_free (closed : cells.producer.phase ≠ .opened)
    (noProducer : cells.producer.live = 0) (noDrain : cells.normal.live = 0)
    (free : cells.terminal = .normal ∨ cells.terminal = .pending) :
    Ends (cells.shared width)
        (start .tryBeginTerminalDrain : Call width Payload Fault)
        last after ↔
      last = Cells.shared width { cells.quiesced with terminal := .active } ∧
      after = .terminal := by
  rw [ends_claim_quiesced closed noProducer noDrain]
  exact ends_claiming_free free

theorem ends_claim_taken (closed : cells.producer.phase ≠ .opened)
    (noProducer : cells.producer.live = 0) (noDrain : cells.normal.live = 0)
    {error : TerminalAcquireError}
    (taken : (cells.terminal = .active ∧ error = .terminalDrainActive) ∨
      (cells.terminal = .closed ∧ error = .closed)) :
    Ends (cells.shared width)
        (start .tryBeginTerminalDrain : Call width Payload Fault)
        last after ↔
      last = cells.quiesced.shared width ∧ after = .terminalRefused error := by
  have loaded : ∀ spurious, ∃ effect,
      step (cells.quiesced.shared width) (.run spurious)
        (.claiming .load : Call width Payload Fault) =
      some (cells.quiesced.shared width, .terminalRefused error, effect) := by
    intro spurious
    refine ⟨.quiet, ?_⟩
    have word : (cells.quiesced.shared width).terminalState =
        cells.terminal.raw := rfl
    simp only [step, claim, word]
    rcases taken with ⟨phase, rfl⟩ | ⟨phase, rfl⟩ <;> rw [phase] <;> rfl
  rw [ends_claim_quiesced closed noProducer noDrain,
    ends_step_iff _ _ loaded]
  exact ends_rest_iff (fun _ => rfl)

/-- A terminal drain given back leaves the word to the next claimant. -/
theorem ends_releasingTerminal {result : TerminalResult}
    (owned : cells.terminal = .active) :
    Ends (cells.shared width)
        (.releasingTerminal result : Call width Payload Fault)
        last after ↔
      last = Cells.shared width { cells with terminal := .pending } ∧
      after = .terminalEnded result := by
  have released : ∀ spurious, ∃ effect,
      step (cells.shared width) (.run spurious)
        (.releasingTerminal result : Call width Payload Fault) =
      some (Cells.shared width { cells with terminal := .pending },
        .terminalEnded result, effect) := by
    intro spurious
    have word : (cells.shared width).terminalState = terminalActive := by
      simp only [Cells.shared, owned]
      rfl
    exact ⟨.acted .released, by simp only [step, word, if_true]; rfl⟩
  rw [ends_step_iff _ _ released]
  exact ends_rest_iff (fun _ => rfl)

/-- A terminal drain that is finished over an empty queue closes the mailbox. -/
theorem ends_counting_empty (owned : cells.terminal = .active)
    (empty : cells.queue.items = []) :
    Ends (cells.shared width)
        (.counting : Call width Payload Fault) last after ↔
      last = Cells.shared width { cells with terminal := .closed } ∧
      after = .terminalEnded .finished := by
  have counted : ∀ spurious, ∃ effect,
      step (cells.shared width) (.run spurious)
        (.counting : Call width Payload Fault) =
      some (cells.shared width, .completing, effect) := by
    intro spurious
    exact ⟨.quiet, by simp [step, Cells.shared, empty]⟩
  have completed : ∀ spurious, ∃ effect,
      step (cells.shared width) (.run spurious)
        (.completing : Call width Payload Fault) =
      some (Cells.shared width { cells with terminal := .closed },
        .terminalEnded .finished, effect) := by
    intro spurious
    have word : (cells.shared width).terminalState = terminalActive := by
      simp only [Cells.shared, owned]
      rfl
    exact ⟨.acted .completed, by simp only [step, word, if_true]; rfl⟩
  rw [ends_step_iff _ _ counted, ends_step_iff _ _ completed]
  exact ends_rest_iff (fun _ => rfl)

/-- One that is finished too early gives the mailbox back. -/
theorem ends_counting_remaining (owned : cells.terminal = .active)
    (remaining : cells.queue.items ≠ []) :
    Ends (cells.shared width)
        (.counting : Call width Payload Fault) last after ↔
      last = Cells.shared width { cells with terminal := .pending } ∧
      after = .terminalEnded
        (.failed (.payloadsRemain cells.queue.len)) := by
  have counted : ∀ spurious, ∃ effect,
      step (cells.shared width) (.run spurious)
        (.counting : Call width Payload Fault) =
      some (cells.shared width, .releasingTerminal
        (.failed (.payloadsRemain cells.queue.len)), effect) := by
    intro spurious
    exact ⟨.quiet, by simp [step, Cells.shared, remaining]⟩
  rw [ends_step_iff _ _ counted]
  exact ends_releasingTerminal owned

end Alone

end ClosableMailbox

end RustJsi.Runtime
