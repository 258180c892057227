import RustJsi.Runtime.ClosableMailbox

/-!
# The closable mailbox follows its protocol

Every access of a call on a `ClosableMailbox` is one step of the abstract
mailbox or leaves it alone.  The relation counts the shares that calls hold and
keeps, for each call, what it has already made sure of.
-/

namespace RustJsi.Runtime

open Interleaving

namespace TerminalPhase

/-- The byte that stands for a phase. -/
def raw : TerminalPhase → UInt8
  | .normal => ClosableMailbox.normal
  | .pending => ClosableMailbox.terminalPending
  | .active => ClosableMailbox.terminalActive
  | .closed => ClosableMailbox.terminalClosed

end TerminalPhase

namespace ClosableMailbox

open MailboxLedger (Stake)
open IngressGate (reservationLimit)

variable {width : PointerWidth} {Payload Fault : Type*} {capacity : Nat}

/-- The shares a call holds. -/
def Call.shares : Call width Payload Fault → List Stake
  | .pushing _ _ => [.producer]
  | .publishing _ _ => [.producer, .work .publishing]
  | .posting => [.producer]
  | .releasingProducer _ => [.producer]
  | .acquiring _ => [.admission]
  | .observing .admitted _ => [.admission]
  | .declining _ => [.admission]
  | .draining => [.admission, .work .permit]
  | .checking _ => [.admission, .work .permit]
  | .preserving _ _ => [.admission, .work .permit]
  | .finishing _ _ => [.admission, .work .permit, .work .concluded]
  | .operating _ => [.admission]
  | .releasingDrain _ => [.admission]
  | .inspecting => [.admission]
  | .retrying => [.admission]
  | .releasingRetry _ => [.admission]
  | .terminal => [.terminal]
  | .counting => [.terminal]
  | .completing => [.terminal]
  | .releasingTerminal _ => [.terminal]
  | _ => []

def Call.holds (stake : Stake) (call : Call width Payload Fault) : Bool :=
  stake ∈ call.shares

/-- The calls that hold a share of the given kind. -/
def shareholders (stake : Stake)
    (pool : Pool (Shared width Payload capacity) (Call width Payload Fault)) :
    Nat :=
  pool.calls.countP (Call.holds stake)

/-- What a call has made sure of and nobody can undo. -/
def Call.Knows (ledger : MailboxLedger Payload capacity) :
    Call width Payload Fault → Prop
  | .closingNormal _ => ledger.producer.phase = .sealed
  | .sealingNormal _ =>
      ledger.producer.phase = .sealed ∧ ledger.normal.phase ≠ .opened
  | .closingSignal _ => ledger.normal.phase = .sealed
  | .claiming (.exchange current) =>
      ledger.work.signal.state = .closed ∧ claimable current = true
  | .claiming _ => ledger.work.signal.state = .closed
  | .completing =>
      ledger.work.signal.state = .closed ∧ ledger.work.queue.items = []
  | .observed .closed => ledger.terminal = .closed
  | .declining (.unavailable .closed) => ledger.terminal = .closed
  | .declined (.unavailable .closed) => ledger.terminal = .closed
  | .terminalRefused .closed => ledger.terminal = .closed
  | .terminalEnded .finished => ledger.terminal = .closed
  | .releasingTerminal .finished => False
  | _ => True

/-- The cells show the abstract mailbox. -/
structure Shared.Shows (shared : Shared width Payload capacity)
    (ledger : MailboxLedger Payload capacity) : Prop where
  queue : shared.queue = ledger.work.queue
  signal : shared.signal = ledger.work.signal.state.raw
  producerGate : shared.producerGate = ledger.producer.word width
  normalDrainGate : shared.normalDrainGate = ledger.normal.word width
  terminalState : shared.terminalState = ledger.terminal.raw

/-- How a call stands in the ledger next to the others: its own shares are
among those held, what it owns and has not used up nobody has used up, and it
knows what it has made sure of. -/
structure Stands (ledger : MailboxLedger Payload capacity)
    (call : Call width Payload Fault) : Prop where
  counted : ∀ stake, call.holds stake = true → 0 < ledger.held stake
  looking : call.holds (.work .permit) = true →
    call.holds (.work .concluded) = false →
    ledger.work.concluded < ledger.work.signal.permits
  published : call.holds .producer = true →
    call.holds (.work .publishing) = false →
    ledger.work.publishing < ledger.producer.live
  free : call.holds .admission = true →
    call.holds (.work .permit) = false →
    ledger.work.signal.permits < ledger.normal.live
  knows : call.Knows ledger

/-- The shares of the ledger move as those of the call. -/
def Balances (ledger next : MailboxLedger Payload capacity)
    (before after : Call width Payload Fault) : Prop :=
  ∀ stake, next.held stake + (before.holds stake).toNat =
    ledger.held stake + (after.holds stake).toNat

/-- An access that leaves the abstract mailbox alone. -/
def Rests (ledger : MailboxLedger Payload capacity)
    (before : Call width Payload Fault)
    (shared : Shared width Payload capacity)
    (after : Call width Payload Fault) : Prop :=
  shared.Shows ledger ∧ after.shares = before.shares ∧ after.Knows ledger

/-- How an access of a call relates to the abstract mailbox. -/
def Follows (ledger : MailboxLedger Payload capacity)
    (before : Call width Payload Fault) :
    Shared width Payload capacity × Call width Payload Fault ×
      Effect Payload Fault → Prop
  | (shared, after, .quiet) => Rests ledger before shared after
  | (shared, after, .answered _ _) => Rests ledger before shared after
  | (_, _, .panicked) => False
  | (shared, after, .acted action) =>
      ∃ next, MailboxLedger.Step (reservationLimit width) ledger action next ∧
        shared.Shows next ∧ Balances ledger next before after ∧
        after.Knows next

section Accesses

variable {shared : Shared width Payload capacity}
  {ledger : MailboxLedger Payload capacity}

theorem Shared.Shows.setProducerGate (shows' : shared.Shows ledger)
    (producer : GateLedger) :
    (shared.setProducerGate (producer.word width)).Shows
      { ledger with producer } :=
  { shows' with producerGate := rfl }

theorem Shared.Shows.setNormalDrainGate (shows' : shared.Shows ledger)
    (normal : GateLedger) :
    (shared.setNormalDrainGate (normal.word width)).Shows
      { ledger with normal } :=
  { shows' with normalDrainGate := rfl }

theorem Shared.Shows.setSignal (shows' : shared.Shows ledger)
    (state : DrainState) (permits publishing concluded : Nat) :
    (shared.setSignal state.raw).Shows
      { ledger with
        work :=
          { ledger.work with
            signal := ⟨state, permits⟩, publishing, concluded } } :=
  { shows' with signal := rfl }

theorem Shared.Shows.setQueue (shows' : shared.Shows ledger)
    (queue : ArrayQueue Payload capacity) (publishing : Nat) :
    Shared.Shows { shared with queue }
      { ledger with work := { ledger.work with queue, publishing } } :=
  { shows' with queue := rfl }

theorem Shared.Shows.setTerminal (shows' : shared.Shows ledger)
    (terminal : TerminalPhase) :
    Shared.Shows { shared with terminalState := terminal.raw }
      { ledger with terminal } :=
  { shows' with terminalState := rfl }

/-- The loop of a reservation, whatever the two ways it can end lead to. -/
private theorem reserve_follows {gate : GateLedger}
    (fits : gate.live ≤ reservationLimit width)
    {before : Call width Payload Fault}
    {store : width.Usize → Shared width Payload capacity}
    {again : LoopPoint width.Usize → Call width Payload Fault}
    {after : Except IngressReserveError Unit →
      Call width Payload Fault × Effect Payload Fault}
    (goesOn : ∀ point, Rests ledger before (store (gate.word width))
      (again point))
    (grants : (gate.reserve (reservationLimit width)).2 = .ok () →
      Follows ledger before
        (store (GateLedger.word width
          { gate with live := gate.live + 1 }), after (.ok ())))
    (refuses : ∀ error,
      (gate.reserve (reservationLimit width)).2 = .error error →
      Follows ledger before (store (gate.word width), after (.error error)))
    (point : LoopPoint width.Usize) (spurious : Bool) :
    Follows ledger before
      (runLoop IngressGate.reserveDecision spurious (gate.word width) point
        store (fun point => (again point, .quiet)) after
        (.panicked, .panicked)) := by
  refine runLoop_of_commit (Follows ledger before)
    (IngressGate.reserveDecision_commit fits) goesOn ?_
  cases outcome : (gate.reserve (reservationLimit width)).2 with
  | ok granted =>
      rw [(GateLedger.reserve_ok outcome).2.2]
      exact grants outcome
  | error error =>
      rw [(GateLedger.reserve_error outcome).1]
      exact refuses error outcome

private theorem reserveProducer_follows
    (sound : ledger.Sound (reservationLimit width))
    (shows' : shared.Shows ledger) (posts : Bool) (value : Payload)
    (point : LoopPoint width.Usize) (spurious : Bool) :
    Follows ledger
      (.reservingProducer posts value point : Call width Payload Fault)
      (runLoop IngressGate.reserveDecision spurious shared.producerGate point
        shared.setProducerGate
        (fun point => (.reservingProducer posts value point, .quiet))
        (afterReserveProducer posts value) (.panicked, .panicked)) := by
  rw [shows'.producerGate]
  refine reserve_follows sound.producerSound.fits ?_ ?_ ?_ point spurious
  · intro point
    exact ⟨shows'.setProducerGate _, rfl, trivial⟩
  · intro granted
    have reserved := GateLedger.Step.reserve ledger.producer granted
    rw [(GateLedger.reserve_ok granted).2.2] at reserved
    refine ⟨_, .producer trivial reserved, shows'.setProducerGate _, ?_,
      trivial⟩
    intro stake
    rcases stake with _ | _ | _ | _ | _ | _ <;> rfl
  · intro error refused
    refine ⟨_, .producer trivial (.refuse _ error refused),
      shows'.setProducerGate _, ?_, trivial⟩
    intro stake
    rfl

/-- An admission of the normal gate that some operation asks for. -/
private theorem reserveNormal_follows
    (sound : ledger.Sound (reservationLimit width))
    (shows' : shared.Shows ledger) {before : Call width Payload Fault}
    {again : LoopPoint width.Usize → Call width Payload Fault}
    {after : Except IngressReserveError Unit →
      Call width Payload Fault × Effect Payload Fault}
    {admitted : Call width Payload Fault}
    {refused : Call width Payload Fault}
    (outside : before.shares = [])
    (goesOn : ∀ point, (again point).shares = [] ∧
      (again point).Knows ledger)
    (grants : after (.ok ()) = (admitted, .acted (.normal .reserved)))
    (inside : admitted.shares = [.admission])
    (knows : ∀ next : MailboxLedger Payload capacity, admitted.Knows next)
    (refuses : ∀ error,
      after (.error error) = (refused, .acted (.normal (.refused error))))
    (still : refused.shares = [] ∧ refused.Knows ledger)
    (point : LoopPoint width.Usize) (spurious : Bool) :
    Follows ledger before
      (runLoop IngressGate.reserveDecision spurious shared.normalDrainGate
        point shared.setNormalDrainGate
        (fun point => (again point, .quiet)) after
        (.panicked, .panicked)) := by
  rw [shows'.normalDrainGate]
  refine reserve_follows sound.normalSound.fits ?_ ?_ ?_ point spurious
  · intro point
    obtain ⟨sharesEq, knowsPoint⟩ := goesOn point
    exact ⟨shows'.setNormalDrainGate _, sharesEq.trans outside.symm,
      knowsPoint⟩
  · intro granted
    have reserved := GateLedger.Step.reserve ledger.normal granted
    rw [(GateLedger.reserve_ok granted).2.2] at reserved
    rw [grants]
    refine ⟨_, .normal trivial reserved, shows'.setNormalDrainGate _, ?_,
      knows _⟩
    intro stake
    simp only [Call.holds, outside, inside]
    rcases stake with _ | _ | _ | _ | _ | _ <;> rfl
  · intro error isRefused
    rw [refuses]
    refine ⟨_, .normal trivial (.refuse _ error isRefused),
      shows'.setNormalDrainGate _, ?_, still.2⟩
    intro stake
    simp only [Call.holds, outside, still.1]

/-- A live admission that settles takes one off the count. -/
theorem settle_word {gate : GateLedger} (live : 0 < gate.live)
    (fits : gate.live ≤ reservationLimit width)
    (store : width.Usize → Shared width Payload capacity)
    (done : Call width Payload Fault × Effect Payload Fault) :
    settle (gate.word width) store done =
      (store (GateLedger.word width { gate with live := gate.live - 1 }),
        done) := by
  have notEmpty : IngressGate.reservationCount (gate.word width) ≠ 0 := by
    rw [GateLedger.word, Ne, IngressGate.reservationCount_eq_zero_iff _ fits]
    omega
  have settled : IngressGate.settleWord (gate.word width) =
      GateLedger.word width { gate with live := gate.live - 1 } := by
    obtain ⟨count, countEq⟩ := Nat.exists_eq_add_of_lt live
    rw [GateLedger.word, countEq, Nat.zero_add]
    exact IngressGate.settleWord_encode _ _
  rw [settle, if_neg notEmpty, settled]

/-- A producer gives its admission back. -/
private theorem settleProducer_follows
    (sound : ledger.Sound (reservationLimit width))
    (shows' : shared.Shows ledger)
    {result : EnqueueResult Payload Fault}
    (stands : Stands ledger
      (.releasingProducer result : Call width Payload Fault)) :
    Follows ledger (.releasingProducer result)
      (settle shared.producerGate shared.setProducerGate
        (.enqueued result, .acted (.producer .settled))) := by
  have live : 0 < ledger.producer.live := stands.counted .producer rfl
  rw [shows'.producerGate, settle_word live sound.producerSound.fits]
  refine ⟨_, .producer (stands.published rfl rfl) (.settle _ live),
    shows'.setProducerGate _, ?_, trivial⟩
  intro stake
  rcases stake with _ | _ | _ | _ | _ | _
  · exact Nat.sub_add_cancel live
  all_goals rfl

/-- A caller that is not draining gives its normal admission back. -/
private theorem settleNormal_follows
    (sound : ledger.Sound (reservationLimit width))
    (shows' : shared.Shows ledger) {before after : Call width Payload Fault}
    (stands : Stands ledger before) (inside : before.shares = [.admission])
    (outside : after.shares = [])
    (knows : ∀ normal, after.Knows { ledger with normal }) :
    Follows ledger before
      (settle shared.normalDrainGate shared.setNormalDrainGate
        (after, .acted (.normal .settled))) := by
  have admitted : before.holds .admission = true := by
    simp [Call.holds, inside]
  have owns : before.holds (.work .permit) = false := by
    simp [Call.holds, inside]
  have live : 0 < ledger.normal.live := stands.counted .admission admitted
  rw [shows'.normalDrainGate, settle_word live sound.normalSound.fits]
  refine ⟨_, .normal (stands.free admitted owns) (.settle _ live),
    shows'.setNormalDrainGate _, ?_, knows _⟩
  intro stake
  simp only [Call.holds, inside, outside]
  rcases stake with _ | _ | _ | _ | _ | _
  · rfl
  · exact Nat.sub_add_cancel live
  all_goals rfl

/-- A step of the queue under an admission the ledger already counts. -/
private theorem work_follows {before after : Call width Payload Fault}
    {next : Shared width Payload capacity} {event : QueueEvent Payload}
    {work : SignalledQueue Payload capacity}
    (allowed : ledger.Allows event)
    (step : SignalledQueue.Step ledger.work event work)
    (shows' : next.Shows { ledger with work })
    (balanced : Balances ledger { ledger with work } before after)
    (knows : after.Knows { ledger with work }) :
    Follows ledger before (next, after, .acted (.work event)) :=
  ⟨_, .work allowed step, shows', balanced, knows⟩

private theorem push_follows (shows' : shared.Shows ledger) {posts : Bool}
    {value : Payload} {queue : ArrayQueue Payload capacity}
    (stands : Stands ledger
      (.pushing posts value : Call width Payload Fault))
    (pushed : shared.queue.push value = some queue) :
    Follows ledger (.pushing posts value : Call width Payload Fault)
      ({ shared with queue }, .publishing posts .load,
        .acted (.work (.pushed value))) := by
  rw [shows'.queue] at pushed
  refine work_follows (stands.published rfl rfl) (.push pushed)
    (shows'.setQueue _ _) ?_ trivial
  intro stake
  rcases stake with _ | _ | _ | _ | _ | _ <;> rfl

private theorem publish_follows
    (sound : ledger.Sound (reservationLimit width))
    (shows' : shared.Shows ledger) {posts : Bool} {point : LoopPoint UInt8}
    (stands : Stands ledger
      (.publishing posts point : Call width Payload Fault))
    (spurious : Bool) :
    Follows ledger (.publishing posts point : Call width Payload Fault)
      (runLoop DrainSignal.requestDecision spurious shared.signal point
        shared.setSignal
        (fun point => (.publishing posts point, .quiet))
        (afterPublish posts) (.panicked, .panicked)) := by
  have pushed : 0 < ledger.work.publishing :=
    stands.counted (.work .publishing) rfl
  have notClosed := sound.not_closed_of_producer
    (stands.counted .producer rfl)
  rw [shows'.signal]
  refine runLoop_of_commit
    (Follows ledger (.publishing posts point : Call width Payload Fault))
    (DrainSignal.requestDecision_commit _) ?_ ?_
  · intro _
    exact ⟨shows'.setSignal ledger.work.signal.state _ _ _, rfl, trivial⟩
  · have requested := SignalLedger.Step.request ledger.work.signal
    cases outcome : mailboxEnqueue ledger.work.signal.state.request.2 with
    | none =>
        cases held : ledger.work.signal.state <;>
          simp_all [DrainState.request, mailboxEnqueue]
    | some result =>
        rw [afterPublish, outcome]
        refine work_follows trivial (.publish pushed requested)
          (shows'.setSignal _ _ _ _) ?_ ?_
        · intro stake
          by_cases calls : posts = true ∧ result = .scheduled
          · simp only [calls, and_self, if_true]
            rcases stake with _ | _ | _ | _ | _ | _
            case work.publishing => exact Nat.sub_add_cancel pushed
            all_goals rfl
          · simp only [calls, if_false]
            rcases stake with _ | _ | _ | _ | _ | _
            case work.publishing => exact Nat.sub_add_cancel pushed
            all_goals rfl
        · by_cases calls : posts = true ∧ result = .scheduled
          · simp only [calls, and_self, if_true]
            trivial
          · simp only [calls, if_false]
            trivial

private theorem acquire_follows
    (shows' : shared.Shows ledger) {point : LoopPoint UInt8}
    (stands : Stands ledger (.acquiring point : Call width Payload Fault))
    (spurious : Bool) :
    Follows ledger (.acquiring point : Call width Payload Fault)
      (runLoop DrainSignal.acquireDecision spurious shared.signal point
        shared.setSignal
        (fun point => (.acquiring point, .quiet))
        afterAcquire (.panicked, .panicked)) := by
  have free := stands.free rfl rfl
  rw [shows'.signal]
  refine runLoop_of_commit
    (Follows ledger (.acquiring point : Call width Payload Fault))
    (DrainSignal.acquireDecision_commit _) ?_ ?_
  · intro _
    exact ⟨shows'.setSignal ledger.work.signal.state _ _ _, rfl, trivial⟩
  · by_cases available : ledger.work.signal.state = .pending
    · rw [available]
      refine work_follows free (.acquire (.acquire _ available))
        (shows'.setSignal _ _ _ _) ?_ trivial
      intro stake
      rcases stake with _ | _ | _ | _ | _ | _ <;> rfl
    · have refused := SignalLedger.Step.refuse ledger.work.signal available
      have kept : ledger.work.signal.state.acquire.1 =
          ledger.work.signal.state := by
        cases held : ledger.work.signal.state <;>
          simp_all [DrainState.acquire]
      rw [kept]
      have cells :
          (shared.setSignal ledger.work.signal.state.raw).Shows ledger :=
        shows'.setSignal ledger.work.signal.state _ _ _
      cases result : ledger.work.signal.state.acquire.2 with
      | acquired =>
          cases held : ledger.work.signal.state <;>
            simp_all [DrainState.acquire]
      | idle =>
          rw [result] at refused
          exact work_follows trivial (.refuse refused) cells
            (fun _ => rfl) trivial
      | busy =>
          rw [result] at refused
          exact work_follows trivial (.refuse refused) cells
            (fun _ => rfl) trivial
      | closed =>
          rw [result] at refused
          exact work_follows trivial (.refuse refused) cells
            (fun _ => rfl) trivial

private theorem preserve_follows
    (sound : ledger.Sound (reservationLimit width))
    (shows' : shared.Shows ledger) {ending : Ending}
    {point : LoopPoint UInt8}
    (stands : Stands ledger
      (.preserving ending point : Call width Payload Fault))
    (spurious : Bool) :
    Follows ledger (.preserving ending point : Call width Payload Fault)
      (runLoop DrainSignal.requestDecision spurious shared.signal point
        shared.setSignal
        (fun point => (.preserving ending point, .quiet))
        (afterPreserve ending) (.panicked, .panicked)) := by
  have looking := stands.looking rfl rfl
  have notClosed := sound.not_closed_of_admission
    (stands.counted .admission rfl)
  rw [shows'.signal]
  refine runLoop_of_commit
    (Follows ledger (.preserving ending point : Call width Payload Fault))
    (DrainSignal.requestDecision_commit _) ?_ ?_
  · intro _
    exact ⟨shows'.setSignal ledger.work.signal.state _ _ _, rfl, trivial⟩
  · have requested := SignalLedger.Step.request ledger.work.signal
    have coalesced : ledger.work.signal.state.request.2 = .coalesced := by
      rcases sound.workSound.signalSound.state_of_permit (by omega) with
        draining | again | closed
      · rw [draining]
        rfl
      · rw [again]
        rfl
      · exact absurd closed notClosed
    rw [coalesced] at requested ⊢
    refine work_follows trivial (.preserve looking requested)
      (shows'.setSignal _ _ _ _) ?_ trivial
    intro stake
    rcases stake with _ | _ | _ | _ | _ | _ <;> rfl

private theorem finish_follows (shows' : shared.Shows ledger)
    {ending : Ending} {point : LoopPoint UInt8}
    (stands : Stands ledger
      (.finishing ending point : Call width Payload Fault))
    (spurious : Bool) :
    Follows ledger (.finishing ending point : Call width Payload Fault)
      (runLoop DrainSignal.finishDecision spurious shared.signal point
        shared.setSignal
        (fun point => (.finishing ending point, .quiet))
        (afterFinish ending) (.panicked, .panicked)) := by
  have live : 0 < ledger.work.signal.permits :=
    stands.counted (.work .permit) rfl
  have looked : 0 < ledger.work.concluded :=
    stands.counted (.work .concluded) rfl
  rw [shows'.signal]
  refine runLoop_of_commit
    (Follows ledger (.finishing ending point : Call width Payload Fault))
    (DrainSignal.finishDecision_commit _) ?_ ?_
  · intro _
    exact ⟨shows'.setSignal ledger.work.signal.state _ _ _, rfl, trivial⟩
  · refine work_follows trivial (.settle looked (.settle _ live))
      (shows'.setSignal _ _ _ _) ?_ ?_
    · intro stake
      cases ending <;> rcases stake with _ | _ | _ | _ | _ | _
      case finish.work.permit => exact Nat.sub_add_cancel live
      case finishWith.work.permit => exact Nat.sub_add_cancel live
      case dropped.work.permit => exact Nat.sub_add_cancel live
      case finish.work.concluded => exact Nat.sub_add_cancel looked
      case finishWith.work.concluded => exact Nat.sub_add_cancel looked
      case dropped.work.concluded => exact Nat.sub_add_cancel looked
      all_goals rfl
    · cases ending <;> trivial

private theorem beginClose_follows
    (sound : ledger.Sound (reservationLimit width))
    (shows' : shared.Shows ledger) (point : LoopPoint width.Usize)
    (spurious : Bool) :
    Follows ledger (.closing point : Call width Payload Fault)
      (runLoop IngressGate.beginCloseDecision spurious
        shared.producerGate point shared.setProducerGate
        (fun point => (.closing point, .quiet))
        (fun result =>
          (.closeBegun result, .acted (.producer (.closed result))))
        (.panicked, .panicked)) := by
  rw [shows'.producerGate]
  refine runLoop_of_commit
    (Follows ledger (.closing point : Call width Payload Fault))
    (IngressGate.beginCloseDecision_commit sound.producerSound.fits) ?_ ?_
  · intro _
    exact ⟨shows'.setProducerGate _, rfl, trivial⟩
  · refine ⟨_, .producer trivial (.beginClose _),
      shows'.setProducerGate _, ?_, trivial⟩
    intro stake
    have live : ledger.producer.beginClose.1.live = ledger.producer.live :=
      GateLedger.beginClose_live _
    rcases stake with _ | _ | _ | _ | _ | _
    case producer => exact live
    all_goals rfl

private theorem sealProducer_follows
    (sound : ledger.Sound (reservationLimit width))
    (shows' : shared.Shows ledger) (point : LoopPoint width.Usize)
    (spurious : Bool) :
    Follows ledger (.sealingProducer point : Call width Payload Fault)
      (runLoop IngressGate.trySealDecision spurious
        shared.producerGate point shared.setProducerGate
        (fun point => (.sealingProducer point, .quiet))
        afterSealProducer (.panicked, .panicked)) := by
  rw [shows'.producerGate]
  refine runLoop_of_commit
    (Follows ledger (.sealingProducer point : Call width Payload Fault))
    (IngressGate.trySealDecision_commit sound.producerSound.fits) ?_ ?_
  · intro _
    exact ⟨shows'.setProducerGate _, rfl, trivial⟩
  · have sealing : GateLedger.Step (reservationLimit width)
        ledger.producer _ _ := .trySeal ledger.producer
    have live : ledger.producer.trySeal.1.live = ledger.producer.live :=
      GateLedger.trySeal_live _
    have balanced : ∀ after : Call width Payload Fault, after.shares = [] →
        Balances ledger { ledger with producer := ledger.producer.trySeal.1 }
          (.sealingProducer point) after := by
      intro after outside stake
      simp only [Call.holds, outside]
      rcases stake with _ | _ | _ | _ | _ | _
      case producer => exact live
      all_goals rfl
    rcases GateLedger.trySeal_cases ledger.producer with
      ⟨result, isSealed⟩ | result | ⟨count, result⟩
    · rw [result] at sealing ⊢
      exact ⟨_, .producer trivial sealing, shows'.setProducerGate _,
        balanced _ rfl, isSealed⟩
    · rw [result] at sealing ⊢
      exact ⟨_, .producer trivial sealing, shows'.setProducerGate _,
        balanced _ rfl, trivial⟩
    · rw [result] at sealing ⊢
      exact ⟨_, .producer trivial sealing, shows'.setProducerGate _,
        balanced _ rfl, trivial⟩

private theorem closeNormal_follows
    (sound : ledger.Sound (reservationLimit width))
    (shows' : shared.Shows ledger) {point : LoopPoint width.Usize}
    (stands : Stands ledger
      (.closingNormal point : Call width Payload Fault))
    (spurious : Bool) :
    Follows ledger (.closingNormal point : Call width Payload Fault)
      (runLoop IngressGate.beginCloseDecision spurious
        shared.normalDrainGate point shared.setNormalDrainGate
        (fun point => (.closingNormal point, .quiet))
        (fun result =>
          (.sealingNormal .load, .acted (.normal (.closed result))))
        (.panicked, .panicked)) := by
  have isSealed : ledger.producer.phase = .sealed := stands.knows
  rw [shows'.normalDrainGate]
  refine runLoop_of_commit
    (Follows ledger (.closingNormal point : Call width Payload Fault))
    (IngressGate.beginCloseDecision_commit sound.normalSound.fits) ?_ ?_
  · intro _
    exact ⟨shows'.setNormalDrainGate _, rfl, isSealed⟩
  · refine ⟨_, .normal isSealed (.beginClose _),
      shows'.setNormalDrainGate _, ?_, isSealed,
      GateLedger.beginClose_left _⟩
    intro stake
    have live : ledger.normal.beginClose.1.live = ledger.normal.live :=
      GateLedger.beginClose_live _
    rcases stake with _ | _ | _ | _ | _ | _
    case admission => exact live
    all_goals rfl

private theorem sealNormal_follows
    (sound : ledger.Sound (reservationLimit width))
    (shows' : shared.Shows ledger) {point : LoopPoint width.Usize}
    (stands : Stands ledger
      (.sealingNormal point : Call width Payload Fault))
    (spurious : Bool) :
    Follows ledger (.sealingNormal point : Call width Payload Fault)
      (runLoop IngressGate.trySealDecision spurious
        shared.normalDrainGate point shared.setNormalDrainGate
        (fun point => (.sealingNormal point, .quiet))
        afterSealNormal (.panicked, .panicked)) := by
  obtain ⟨producerSealed, left⟩ := stands.knows
  rw [shows'.normalDrainGate]
  refine runLoop_of_commit
    (Follows ledger (.sealingNormal point : Call width Payload Fault))
    (IngressGate.trySealDecision_commit sound.normalSound.fits) ?_ ?_
  · intro _
    exact ⟨shows'.setNormalDrainGate _, rfl, producerSealed, left⟩
  · have sealing : GateLedger.Step (reservationLimit width)
        ledger.normal _ _ := .trySeal ledger.normal
    have live : ledger.normal.trySeal.1.live = ledger.normal.live :=
      GateLedger.trySeal_live _
    have balanced : ∀ after : Call width Payload Fault, after.shares = [] →
        Balances ledger { ledger with normal := ledger.normal.trySeal.1 }
          (.sealingNormal point) after := by
      intro after outside stake
      simp only [Call.holds, outside]
      rcases stake with _ | _ | _ | _ | _ | _
      case admission => exact live
      all_goals rfl
    rcases GateLedger.trySeal_cases ledger.normal with
      ⟨result, isSealed⟩ | result | ⟨count, result⟩
    · rw [result] at sealing ⊢
      exact ⟨_, .normal trivial sealing, shows'.setNormalDrainGate _,
        balanced _ rfl, isSealed⟩
    · exact absurd (GateLedger.trySeal_stillOpen result) left
    · rw [result] at sealing ⊢
      exact ⟨_, .normal trivial sealing, shows'.setNormalDrainGate _,
        balanced _ rfl, trivial⟩

private theorem closeSignal_follows (shows' : shared.Shows ledger)
    {point : LoopPoint UInt8}
    (stands : Stands ledger
      (.closingSignal point : Call width Payload Fault))
    (spurious : Bool) :
    Follows ledger (.closingSignal point : Call width Payload Fault)
      (runLoop DrainSignal.closeDecision spurious shared.signal point
        shared.setSignal
        (fun point => (.closingSignal point, .quiet))
        (fun result =>
          (.claiming .load, .acted (.work (.signal (.closed result)))))
        (.panicked, .panicked)) := by
  have isSealed : ledger.normal.phase = .sealed := stands.knows
  have closed : ledger.work.signal.state.close.1 = .closed := by
    cases ledger.work.signal.state <;> rfl
  rw [shows'.signal]
  refine runLoop_of_commit
    (Follows ledger (.closingSignal point : Call width Payload Fault))
    (DrainSignal.closeDecision_commit _) ?_ ?_
  · intro _
    exact ⟨shows'.setSignal ledger.work.signal.state _ _ _, rfl, isSealed⟩
  · refine work_follows isSealed (.close (.close _))
      (shows'.setSignal _ _ _ _) ?_ closed
    intro stake
    rcases stake with _ | _ | _ | _ | _ | _ <;> rfl

theorem claimable_raw {terminal : TerminalPhase} :
    claimable terminal.raw = true ↔
      terminal = .normal ∨ terminal = .pending := by
  cases terminal <;> decide

private theorem claim_follows (shows' : shared.Shows ledger)
    {point : ClaimPoint}
    (stands : Stands ledger (.claiming point : Call width Payload Fault))
    (spurious : Bool) :
    Follows ledger (.claiming point : Call width Payload Fault)
      (claim shared spurious point) := by
  have rests : ∀ after : Call width Payload Fault, after.shares = [] →
      after.Knows ledger →
      Follows ledger (.claiming point) (shared, after, .quiet) :=
    fun after outside knows => ⟨shows', outside, knows⟩
  cases point with
  | load =>
      have closed : ledger.work.signal.state = .closed := stands.knows
      simp only [claim, shows'.terminalState]
      cases phase : ledger.terminal with
      | normal => exact rests _ rfl closed
      | pending => exact rests _ rfl closed
      | active => exact rests _ rfl trivial
      | closed => exact rests _ rfl phase
  | reload =>
      have closed : ledger.work.signal.state = .closed := stands.knows
      simp only [claim]
      split
      · rename_i free
        exact rests _ rfl ⟨closed, free⟩
      · exact rests _ rfl closed
  | exchange current =>
      obtain ⟨closed, free⟩ := stands.knows
      simp only [claim]
      split
      · rename_i unchanged
        have available : ledger.terminal = .normal ∨
            ledger.terminal = .pending := by
          rw [← claimable_raw, ← shows'.terminalState, unchanged.1]
          exact free
        refine ⟨_, .claim closed available, shows'.setTerminal .active, ?_,
          trivial⟩
        intro stake
        have notActive : ledger.terminal ≠ .active := by
          rcases available with isNormal | isPending
          · rw [isNormal]
            exact nofun
          · rw [isPending]
            exact nofun
        rcases stake with _ | _ | _ | _ | _ | _
        case terminal =>
          simp [MailboxLedger.held, notActive, Call.holds, Call.shares]
        all_goals rfl
      · exact rests _ rfl closed

private theorem owned_of_stands {call : Call width Payload Fault}
    (stands : Stands ledger call) (owns : call.holds .terminal = true) :
    ledger.terminal = .active := by
  have positive := stands.counted .terminal owns
  by_contra notActive
  simp [MailboxLedger.held, notActive] at positive

private theorem complete_follows (shows' : shared.Shows ledger)
    (stands : Stands ledger (.completing : Call width Payload Fault)) :
    Follows ledger (.completing : Call width Payload Fault)
      ({ shared with terminalState := terminalClosed },
        .terminalEnded .finished, .acted .completed) := by
  have owned := owned_of_stands stands rfl
  refine ⟨_, .complete owned stands.knows.2, shows'.setTerminal .closed, ?_,
    rfl⟩
  intro stake
  rcases stake with _ | _ | _ | _ | _ | _
  case terminal =>
    simp [MailboxLedger.held, owned, Call.holds, Call.shares]
  all_goals rfl

private theorem release_follows (shows' : shared.Shows ledger)
    {result : TerminalResult}
    (stands : Stands ledger
      (.releasingTerminal result : Call width Payload Fault)) :
    Follows ledger (.releasingTerminal result : Call width Payload Fault)
      ({ shared with terminalState := terminalPending },
        .terminalEnded result, .acted .released) := by
  have owned := owned_of_stands stands rfl
  refine ⟨_, .release owned, shows'.setTerminal .pending, ?_, ?_⟩
  · intro stake
    rcases stake with _ | _ | _ | _ | _ | _
    case terminal =>
      simp [MailboxLedger.held, owned, Call.holds, Call.shares]
    all_goals rfl
  · cases result with
    | finished => exact stands.knows.elim
    | failed error => trivial
    | dropped => trivial

private theorem observe_follows
    (sound : ledger.Sound (reservationLimit width))
    (shows' : shared.Shows ledger) (observer : Observer) (load : StateLoad) :
    Follows ledger (.observing observer load : Call width Payload Fault)
      (shared, observe shared observer load) := by
  have rests : ∀ state : ClosableMailboxState,
      (state = .closed → ledger.terminal = .closed) →
      Follows ledger (.observing observer load : Call width Payload Fault)
        (shared, afterObserve observer state, .quiet) := by
    intro state known
    refine ⟨shows', ?_, ?_⟩
    · cases observer <;> rfl
    · cases observer <;> cases state <;> first
        | exact trivial
        | exact known rfl
  cases load with
  | terminal =>
      simp only [observe, shows'.terminalState]
      cases phase : ledger.terminal with
      | normal =>
          refine ⟨shows', ?_, trivial⟩
          cases observer <;> rfl
      | pending => exact rests .terminalPending (by intro same; cases same)
      | active => exact rests .terminalDraining (by intro same; cases same)
      | closed => exact rests .closed fun _ => phase
  | producer =>
      simp only [observe, shows'.producerGate, GateLedger.word,
        IngressGate.stateFromRaw_encode sound.producerSound.fits]
      cases ledger.producer.phase with
      | opened => exact rests .opened (by intro same; cases same)
      | closing => exact rests .closing (by intro same; cases same)
      | sealed => exact rests .closing (by intro same; cases same)

/-- Every access of a call that stands in the ledger follows it. -/
theorem step_follows (sound : ledger.Sound (reservationLimit width))
    (shows' : shared.Shows ledger) {choice : Choice Fault}
    {before : Call width Payload Fault}
    {result : Shared width Payload capacity × Call width Payload Fault ×
      Effect Payload Fault}
    (stands : Stands ledger before)
    (stepped : step shared choice before = some result) :
    Follows ledger before result := by
  unfold step at stepped
  split at stepped
  · cases stepped
    exact reserveProducer_follows sound shows' _ _ _ _
  · split at stepped
    · rename_i pushed
      cases stepped
      exact push_follows shows' stands pushed
    · cases stepped
      exact ⟨shows', rfl, trivial⟩
  · cases stepped
    exact publish_follows sound shows' stands _
  · cases stepped
    exact ⟨shows', rfl, trivial⟩
  · cases stepped
    exact settleProducer_follows sound shows' stands
  · cases stepped
    exact beginClose_follows sound shows' _ _
  · cases stepped
    refine reserveNormal_follows sound shows' rfl (fun _ => ?_) rfl rfl
      (fun _ => ?_) (fun _ => rfl) ?_ _ _
    · exact ⟨rfl, trivial⟩
    · trivial
    · exact ⟨rfl, trivial⟩
  · cases stepped
    exact acquire_follows shows' stands _
  · rename_i spurious result
    cases stepped
    refine settleNormal_follows sound shows' stands rfl rfl ?_
    intro normal
    have known := stands.knows
    cases result with
    | idle => trivial
    | busy => trivial
    | unavailable state =>
        cases state with
        | closed => exact known
        | _ => trivial
  · split at stepped
    · rename_i value queue popped
      cases stepped
      rw [shows'.queue] at popped
      refine work_follows (Or.inl (stands.counted (.work .permit) rfl))
        (.pop popped) (shows'.setQueue _ _) ?_ trivial
      exact fun _ => rfl
    · cases stepped
      exact ⟨shows', rfl, trivial⟩
  · cases stepped
    exact ⟨shows', rfl, trivial⟩
  · cases stepped
    exact ⟨shows', rfl, trivial⟩
  · cases stepped
    exact ⟨shows', rfl, trivial⟩
  · split at stepped
    · rename_i ending empty
      cases stepped
      rw [shows'.queue, ArrayQueue.isEmpty_iff] at empty
      refine work_follows trivial (.conclude (stands.looking rfl rfl) empty)
        { shows' with } ?_ trivial
      intro stake
      rcases stake with _ | _ | _ | _ | _ | _ <;> rfl
    · cases stepped
      exact ⟨shows', rfl, trivial⟩
  · cases stepped
    exact preserve_follows sound shows' stands _
  · cases stepped
    exact finish_follows shows' stands _
  · cases stepped
    exact ⟨shows', rfl, trivial⟩
  · cases stepped
    exact settleNormal_follows sound shows' stands rfl rfl fun _ => trivial
  · cases stepped
    exact sealProducer_follows sound shows' _ _
  · cases stepped
    exact closeNormal_follows sound shows' stands _
  · cases stepped
    exact sealNormal_follows sound shows' stands _
  · cases stepped
    exact closeSignal_follows shows' stands _
  · cases stepped
    exact claim_follows shows' stands _
  · split at stepped
    · rename_i value queue popped
      cases stepped
      rw [shows'.queue] at popped
      refine work_follows (Or.inr (owned_of_stands stands rfl))
        (.pop popped) (shows'.setQueue _ _) ?_ trivial
      exact fun _ => rfl
    · cases stepped
      exact ⟨shows', rfl, trivial⟩
  · cases stepped
    exact ⟨shows', rfl, trivial⟩
  · cases stepped
    exact ⟨shows', rfl, trivial⟩
  · split at stepped
    · rename_i empty
      cases stepped
      rw [shows'.queue, ArrayQueue.len_eq_zero_iff] at empty
      have closed := sound.terminalAfter (by
        rw [owned_of_stands stands rfl]
        exact nofun)
      exact ⟨shows', rfl, closed, empty⟩
    · cases stepped
      exact ⟨shows', rfl, trivial⟩
  · split at stepped
    · cases stepped
      exact complete_follows shows' stands
    · cases stepped
      exact ⟨shows', rfl, trivial⟩
  · split at stepped
    · cases stepped
      exact release_follows shows' stands
    · rename_i notActive
      refine absurd ?_ notActive
      rw [shows'.terminalState, owned_of_stands stands rfl]
      rfl
  · cases stepped
    refine reserveNormal_follows sound shows' rfl (fun _ => ?_) rfl rfl
      (fun _ => ?_) (fun _ => rfl) ?_ _ _
    · exact ⟨rfl, trivial⟩
    · trivial
    · exact ⟨rfl, trivial⟩
  · rw [shows'.signal, DrainState.stateFromRaw_raw] at stepped
    split at stepped
    · cases stepped
      exact ⟨shows', rfl, trivial⟩
    · cases stepped
      exact ⟨shows', rfl, trivial⟩
    · rename_i undecoded
      cases undecoded
  · cases stepped
    exact ⟨shows', rfl, trivial⟩
  · cases stepped
    exact settleNormal_follows sound shows' stands rfl rfl fun _ => trivial
  · cases stepped
    exact observe_follows sound shows' _ _
  · rw [shows'.signal, DrainState.stateFromRaw_raw] at stepped
    cases stepped
    exact ⟨shows', rfl, trivial⟩
  · cases stepped
    exact ⟨shows', rfl, trivial⟩
  · cases stepped
    exact ⟨shows', rfl, trivial⟩
  · cases stepped

end Accesses

/-! ## The simulation -/

/-- What a call knows it knows for good. -/
theorem Call.Knows.step {limit : Nat}
    {ledger next : MailboxLedger Payload capacity}
    {action : MailboxAction Payload} (sound : ledger.Sound limit)
    (step : MailboxLedger.Step limit ledger action next)
    {call : Call width Payload Fault} (knows : call.Knows ledger) :
    call.Knows next := by
  have producerSealed : ledger.producer.phase = .sealed →
      next.producer.phase = .sealed := by
    intro isSealed
    cases step with
    | producer allowed step => exact GateLedger.step_sealed step isSealed
    | _ => exact isSealed
  have normalLeft : ledger.normal.phase ≠ .opened →
      next.normal.phase ≠ .opened := by
    intro left
    cases step with
    | normal allowed step => exact GateLedger.step_keeps_left step left
    | _ => exact left
  have normalSealed : ledger.normal.phase = .sealed →
      next.normal.phase = .sealed := by
    intro isSealed
    cases step with
    | normal allowed step => exact GateLedger.step_sealed step isSealed
    | _ => exact isSealed
  have signalClosed : ledger.work.signal.state = .closed →
      next.work.signal.state = .closed := by
    intro closed
    cases step with
    | work allowed step => exact SignalledQueue.step_closed step closed
    | _ => exact closed
  have terminalClosed : ledger.terminal = .closed →
      next.terminal = .closed :=
    MailboxLedger.step_keeps_closed step
  cases call with
  | closingNormal point => exact producerSealed knows
  | sealingNormal point => exact ⟨producerSealed knows.1, normalLeft knows.2⟩
  | closingSignal point => exact normalSealed knows
  | claiming point =>
      cases point with
      | load => exact signalClosed knows
      | reload => exact signalClosed knows
      | exchange current => exact ⟨signalClosed knows.1, knows.2⟩
  | completing =>
      refine ⟨signalClosed knows.1, ?_⟩
      exact MailboxLedger.step_keeps_empty sound step knows.1 knows.2
  | observed state =>
      cases state with
      | closed => exact terminalClosed knows
      | _ => trivial
  | declining result =>
      rcases result with _ | _ | state
      · trivial
      · trivial
      · cases state with
        | closed => exact terminalClosed knows
        | _ => trivial
  | declined result =>
      rcases result with _ | _ | state
      · trivial
      · trivial
      · cases state with
        | closed => exact terminalClosed knows
        | _ => trivial
  | terminalRefused error =>
      cases error with
      | closed => exact terminalClosed knows
      | _ => trivial
  | terminalEnded result =>
      cases result with
      | finished => exact terminalClosed knows
      | _ => trivial
  | releasingTerminal result =>
      cases result with
      | finished => exact knows.elim
      | _ => trivial
  | _ => trivial

/-- The action of the abstract mailbox a label performs, if it performs
one. -/
def acted? : PoolLabel (Op Payload) (Effect Payload Fault) →
    Option (MailboxAction Payload)
  | .stepped _ (.acted action) => some action
  | _ => none

/-- The pool shows the ledger: its cells do, the calls hold the shares held,
and every call knows what it has made sure of. -/
structure Shows
    (pool : Pool (Shared width Payload capacity) (Call width Payload Fault))
    (ledger : MailboxLedger Payload capacity) : Prop where
  cells : pool.shared.Shows ledger
  shares : ∀ stake, shareholders stake pool = ledger.held stake
  knows : ∀ (index : Nat) (call : Call width Payload Fault),
    pool.calls[index]? = some call → call.Knows ledger

section Pools

variable
  {pool next : Pool (Shared width Payload capacity)
    (Call width Payload Fault)}
  {ledger : MailboxLedger Payload capacity}

/-- A call that has looked owns a permit, one that publishes is admitted to
produce, and one that owns a permit is admitted to drain. -/
private theorem shares_nested (call : Call width Payload Fault) :
    (call.holds (.work .concluded) = true →
      call.holds (.work .permit) = true) ∧
    (call.holds (.work .publishing) = true →
      call.holds .producer = true) ∧
    (call.holds (.work .permit) = true →
      call.holds .admission = true) := by
  cases call with
  | observing observer load =>
      cases observer <;> simp [Call.holds, Call.shares]
  | _ => simp [Call.holds, Call.shares]

theorem Shows.stands (relates : Shows pool ledger) {index : Nat}
    {call : Call width Payload Fault}
    (present : pool.calls[index]? = some call) : Stands ledger call where
  counted := by
    intro stake holds
    rw [← relates.shares]
    exact countP_pos_of_present _ present holds
  looking := by
    intro owns notLooked
    calc
      ledger.work.concluded = shareholders (.work .concluded) pool :=
        (relates.shares (.work .concluded)).symm
      _ < shareholders (.work .permit) pool :=
        countP_lt_of_present (fun call => (shares_nested call).1)
          present owns notLooked
      _ = ledger.work.signal.permits := relates.shares (.work .permit)
  published := by
    intro produces notPublishing
    calc
      ledger.work.publishing = shareholders (.work .publishing) pool :=
        (relates.shares (.work .publishing)).symm
      _ < shareholders .producer pool :=
        countP_lt_of_present (fun call => (shares_nested call).2.1)
          present produces notPublishing
      _ = ledger.producer.live := relates.shares .producer
  free := by
    intro admitted ownsNone
    calc
      ledger.work.signal.permits = shareholders (.work .permit) pool :=
        (relates.shares (.work .permit)).symm
      _ < shareholders .admission pool :=
        countP_lt_of_present (fun call => (shares_nested call).2.2)
          present admitted ownsNone
      _ = ledger.normal.live := relates.shares .admission
  knows := relates.knows index call present

private theorem start_shares (op : Op Payload) :
    (start op : Call width Payload Fault).shares = [] := by
  cases op <;> rfl

private theorem start_knows (op : Op Payload) :
    (start op : Call width Payload Fault).Knows ledger := by
  cases op <;> trivial

theorem shows_step {label : PoolLabel (Op Payload) (Effect Payload Fault)}
    (sound : ledger.Sound (reservationLimit width))
    (relates : Shows pool ledger)
    (moved : (system width Payload Fault capacity).step pool label next) :
    (MailboxLedger.system Payload capacity (reservationLimit width)).Answers
      ledger (Shows next) (acted? label) := by
  cases Machine.step_cases moved with
  | invoked op =>
      refine ⟨relates.cells, ?_, ?_⟩
      · intro stake
        have none' : (start op : Call width Payload Fault).holds stake =
            false := by
          simp [Call.holds, start_shares]
        rw [shareholders, countP_append_single]
        rw [show (machine width Payload Fault capacity).start op =
          start op from rfl, none']
        exact relates.shares stake
      · exact forall_append_single relates.knows (start_knows op)
  | stepped index choice call shared after effect present accessed =>
      have follows := step_follows sound relates.cells
        (relates.stands present) accessed
      have counted := fun stake =>
        countP_set_add (Call.holds stake) after present
      have rests : Rests ledger call shared after →
          Shows ⟨shared, pool.calls.set index after⟩ ledger := by
        rintro ⟨cells, same, knows⟩
        refine ⟨cells, ?_, forall_set ?_ knows⟩
        · intro stake
          have sameShare : after.holds stake = call.holds stake := by
            rw [Call.holds, Call.holds, same]
          have moved := counted stake
          rw [sameShare] at moved
          exact (Nat.add_right_cancel moved).trans (relates.shares stake)
        · intro other call _ present
          exact relates.knows other call present
      cases effect with
      | quiet => exact rests follows
      | answered callback outcome => exact rests follows
      | panicked => exact follows.elim
      | acted action =>
          obtain ⟨moved, step, cells, balanced, knows⟩ := follows
          refine ⟨moved, step, cells, ?_, forall_set ?_ knows⟩
          · intro stake
            have held := counted stake
            have owed := balanced stake
            rw [← relates.shares] at owed
            exact Nat.add_right_cancel (held.trans owed.symm)
          · intro other call _ present
            exact (relates.knows other call present).step sound step

end Pools

def simulation (width : PointerWidth) (Payload Fault : Type*)
    (capacity : Nat) :
    Simulation (system width Payload Fault capacity)
      (MailboxLedger.system Payload capacity (reservationLimit width))
      acted? where
  related := Shows
  start := by
    rintro ⟨shared, calls⟩ ⟨rfl, rfl⟩
    refine ⟨MailboxLedger.fresh, rfl, ⟨rfl, rfl, ?_, ?_, rfl⟩, ?_, nofun⟩
    · exact IngressGate.openWord_eq
    · exact IngressGate.openWord_eq
    · intro stake
      rcases stake with _ | _ | _ | _ | _ | _ <;> rfl
  advance := by
    intro _ pool ledger label next _ ledgerRun relates moved
    exact shows_step (MailboxLedger.run_sound ledgerRun) relates moved

/-- The actions of a trace, in order. -/
def actions (trace : List (PoolLabel (Op Payload) (Effect Payload Fault))) :
    List (MailboxAction Payload) :=
  trace.filterMap acted?

/-- The run of the abstract mailbox that a run of the code shows. -/
theorem run_ledger
    {trace : List (PoolLabel (Op Payload) (Effect Payload Fault))}
    {pool : Pool (Shared width Payload capacity) (Call width Payload Fault)}
    (run : (system width Payload Fault capacity).Run trace pool) :
    ∃ ledger,
      (MailboxLedger.system Payload capacity (reservationLimit width)).Run
        (actions trace) ledger ∧
      ledger.Sound (reservationLimit width) ∧
      Shows pool ledger := by
  obtain ⟨ledger, ledgerRun, relates⟩ :=
    (simulation width Payload Fault capacity).run run
  exact ⟨ledger, ledgerRun, MailboxLedger.run_sound ledgerRun, relates⟩

end ClosableMailbox

end RustJsi.Runtime
