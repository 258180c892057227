import Mathlib.Data.List.Chain
import RustJsi.Runtime.MailboxAlone
import RustJsi.Runtime.MailboxConservation

/-!
# What is observed of a mailbox

`state` reads two words at different times while closers and terminal owners
race.  What it answers lies between the state of the mailbox when the call
began and the state when it answers, and the mailbox never goes back.
-/

namespace RustJsi.Runtime

open Interleaving

/-- How far the closing of a mailbox has come; the two terminal states may
alternate. -/
def ClosableMailboxState.rank : ClosableMailboxState → Nat
  | .opened => 0
  | .closing => 1
  | .terminalPending => 2
  | .terminalDraining => 2
  | .closed => 3

namespace MailboxLedger

variable {Payload : Type*} {capacity limit : Nat}
  {ledger next : MailboxLedger Payload capacity}

/-- The cells that show the ledger. -/
def cells (ledger : MailboxLedger Payload capacity) :
    ClosableMailbox.Cells Payload capacity where
  queue := ledger.work.queue
  signal := ledger.work.signal.state
  producer := ledger.producer
  normal := ledger.normal
  terminal := ledger.terminal

def rank (ledger : MailboxLedger Payload capacity) : Nat :=
  ledger.cells.state.rank

/-- What the second load of `state` answers. -/
def gateState (ledger : MailboxLedger Payload capacity) :
    ClosableMailboxState :=
  match ledger.producer.phase with
  | .opened => .opened
  | _ => .closing

theorem cells_state_of_normal (normal : ledger.terminal = .normal) :
    ledger.cells.state = ledger.gateState := by
  cases observed : ledger.producer.phase with
  | _ => simp only [ClosableMailbox.Cells.state, cells, normal, gateState,
      observed]

theorem gateState_rank_le_one (ledger : MailboxLedger Payload capacity) :
    ledger.gateState.rank ≤ 1 := by
  unfold gateState
  split
  · exact Nat.zero_le 1
  · exact Nat.le_refl 1

theorem gateState_rank_of_left (left : ledger.producer.phase ≠ .opened) :
    ledger.gateState.rank = 1 := by
  unfold gateState
  split
  · rename_i opened
    exact absurd opened left
  · rfl

theorem rank_of_normal (normal : ledger.terminal = .normal) :
    ledger.rank = ledger.gateState.rank := by
  rw [rank, cells_state_of_normal normal]

theorem two_le_rank_iff : 2 ≤ ledger.rank ↔ ledger.terminal ≠ .normal := by
  cases phase : ledger.terminal with
  | normal =>
      have low := ledger.gateState_rank_le_one
      rw [rank_of_normal phase]
      refine iff_of_false ?_ fun left => left rfl
      omega
  | _ =>
      simp [rank, ClosableMailbox.Cells.state, cells, phase,
        ClosableMailboxState.rank]

theorem gateState_rank_le (ledger : MailboxLedger Payload capacity) :
    ledger.gateState.rank ≤ ledger.rank := by
  by_cases normal : ledger.terminal = .normal
  · exact Nat.le_of_eq (rank_of_normal normal).symm
  · have low := ledger.gateState_rank_le_one
    have high := two_le_rank_iff.mpr normal
    omega

theorem closed_of_rank (last : 3 ≤ ledger.rank) :
    ledger.terminal = .closed := by
  have low := ledger.gateState_rank_le_one
  cases phase : ledger.terminal with
  | closed => rfl
  | normal =>
      rw [rank_of_normal phase] at last
      omega
  | pending =>
      simp [rank, ClosableMailbox.Cells.state, cells, phase,
        ClosableMailboxState.rank] at last
  | active =>
      simp [rank, ClosableMailbox.Cells.state, cells, phase,
        ClosableMailboxState.rank] at last

/-- Past the first state the producer gate has left its open phase. -/
theorem Sound.left_of_rank (sound : ledger.Sound limit)
    (past : 1 ≤ ledger.rank) : ledger.producer.phase ≠ .opened := by
  intro opened
  by_cases normal : ledger.terminal = .normal
  · rw [rank_of_normal normal, gateState, opened] at past
    cases past
  · have isSealed := sound.producer_sealed_of_normal
      (sound.signalAfter (sound.terminalAfter normal))
    rw [opened] at isSealed
    cases isSealed

/-- No step takes a mailbox back. -/
theorem step_rank {action : MailboxAction Payload}
    (step : Step limit ledger action next) : ledger.rank ≤ next.rank := by
  cases step with
  | producer allowed step =>
      rename_i event producer
      by_cases normal : ledger.terminal = .normal
      · by_cases opened : ledger.producer.phase = .opened
        · rw [rank_of_normal normal, gateState, opened]
          exact Nat.zero_le _
        · have left : producer.phase ≠ .opened :=
            GateLedger.step_keeps_left step opened
          have same : MailboxLedger.terminal { ledger with producer } =
            .normal := normal
          rw [rank_of_normal normal, rank_of_normal same,
            gateState_rank_of_left opened, gateState_rank_of_left left]
      · refine Nat.le_of_eq ?_
        simp only [rank, ClosableMailbox.Cells.state, cells]
        cases phase : ledger.terminal with
        | normal => exact absurd phase normal
        | _ => rfl
  | normal allowed step => exact Nat.le_refl _
  | work allowed step => exact Nat.le_refl _
  | claim closed available =>
      cases available with
      | inl normal =>
          have low := ledger.gateState_rank_le_one
          rw [rank_of_normal normal]
          exact Nat.le_succ_of_le low
      | inr pending =>
          simp [rank, ClosableMailbox.Cells.state, cells, pending,
            ClosableMailboxState.rank]
  | release owned =>
      simp [rank, ClosableMailbox.Cells.state, cells, owned,
        ClosableMailboxState.rank]
  | complete owned empty =>
      simp [rank, ClosableMailbox.Cells.state, cells, owned,
        ClosableMailboxState.rank]

/-- Once closed, a mailbox grants nothing. -/
theorem Sound.grants_nothing (sound : ledger.Sound limit)
    (closed : ledger.terminal = .closed) {action : MailboxAction Payload}
    (step : Step limit ledger action next) :
    action ≠ .claimed ∧ action ≠ .work (.signal .acquired) := by
  have left : ledger.terminal ≠ .normal := by
    rw [closed]
    nofun
  have nobody :=
    sound.no_drain (sound.signalAfter (sound.terminalAfter left))
  cases step with
  | claim signal available =>
      rw [closed] at available
      cases available with
      | inl normal => cases normal
      | inr pending => cases pending
  | work allowed step =>
      refine ⟨nofun, ?_⟩
      intro acquired
      cases acquired
      have room : ledger.work.signal.permits < ledger.normal.live := allowed
      omega
  | _ => exact ⟨nofun, nofun⟩

/-- A close has taken the producer gate out of its open phase. -/
theorem run_left_open {trace : List (MailboxAction Payload)}
    (run : (system Payload capacity limit).Run trace ledger)
    {result : IngressClose} (closed : .producer (.closed result) ∈ trace) :
    ledger.producer.phase ≠ .opened := by
  refine System.Run.invariant
    (fun trace ledger => .producer (.closed result) ∈ trace →
      ledger.producer.phase ≠ .opened) ?_ ?_ run closed
  · intro ledger _ member
    cases member
  · intro trace ledger action next _ known step member
    cases List.mem_append.mp member with
    | inl earlier =>
        have left := known earlier
        cases step with
        | producer allowed step => exact GateLedger.step_keeps_left step left
        | _ => exact left
    | inr now =>
        cases List.mem_singleton.mp now
        cases step with
        | producer allowed step =>
            cases step with
            | beginClose => exact GateLedger.beginClose_left _

end MailboxLedger

namespace ClosableMailbox

open IngressGate (reservationLimit)

variable {width : PointerWidth} {Payload Fault : Type*} {capacity : Nat}

/-- The lifecycle state that a call has read, its own or one that it reports. -/
def Call.saw : Call width Payload Fault → Option ClosableMailboxState
  | .observed state => some state
  | .declining (.unavailable state) => some state
  | .declined (.unavailable state) => some state
  | _ => none

/-- Where a call can stand that begins at a closed mailbox, in order. -/
def Op.course : Op Payload → List (Call width Payload Fault)
  | .enqueue value =>
      [.reservingProducer false value .load,
        .enqueued (some (.error (.enqueue (.closed value))))]
  | .enqueueAndPost value =>
      [.reservingProducer true value .load,
        .enqueued (some (.error (.enqueue (.closed value))))]
  | .acquire =>
      [.reservingDrain .load, .observing .refused .terminal,
        .declined (.unavailable .closed)]
  | .tryBeginTerminalDrain =>
      [.sealingProducer .load, .closingNormal .load, .sealingNormal .load,
        .closingSignal .load, .claiming .load, .terminalRefused .closed]
  | .state => [.observing .caller .terminal, .observed .closed]
  | _ => []

/-- The call is on the course of its operation, and its next access takes it
on, whatever the others do. -/
structure TurnedAway (shared : Shared width Payload capacity)
    (op : Op Payload) (call : Call width Payload Fault) : Prop where
  place : call ∈ (op.course : List (Call width Payload Fault))
  onward : ∀ before next after,
    op.course = before ++ call :: next :: after →
    ∀ spurious, ∃ effect,
      step shared (.run spurious) call = some (shared, next, effect)

/-- What is observed of a mailbox from some moment on. -/
structure ObservesInOrder
    (trace : List (PoolLabel (Op Payload) (Effect Payload Fault)))
    (pool : Pool (Shared width Payload capacity) (Call width Payload Fault))
    (later : List (PoolLabel (Op Payload) (Effect Payload Fault)))
    (last : Pool (Shared width Payload capacity)
      (Call width Payload Fault)) : Prop where
  /-- A call that begins after another has answered sees no earlier state. -/
  monotone : ∀ (first second : Nat) (op : Op Payload)
    (answered call : Call width Payload Fault) (seen state),
    pool.calls[first]? = some answered → answered.saw = some seen →
    .invoked second op ∈ later → last.calls[second]? = some call →
    call.saw = some state → seen.rank ≤ state.rank
  /-- Once a close has taken effect nobody who begins sees the mailbox open. -/
  notOpen : ∀ result, .producer (.closed result) ∈ actions trace →
    ∀ (second : Nat) (op : Op Payload) (call : Call width Payload Fault),
    .invoked second op ∈ later → last.calls[second]? = some call →
    call.saw ≠ some .opened
  /-- Who begins after `Closed` was seen sees it too. -/
  staysClosed : ∀ (first second : Nat) (op : Op Payload)
    (answered call : Call width Payload Fault) (state),
    pool.calls[first]? = some answered → answered.saw = some .closed →
    .invoked second op ∈ later → last.calls[second]? = some call →
    call.saw = some state → state = .closed
  /-- Then every payload is handed back, and every drain is refused. -/
  refuses : ∀ (first second : Nat) (op : Op Payload)
    (answered call : Call width Payload Fault),
    pool.calls[first]? = some answered → answered.saw = some .closed →
    .invoked second op ∈ later → last.calls[second]? = some call →
    (op.course : List (Call width Payload Fault)) ≠ [] →
    TurnedAway last.shared op call
  /-- Nobody is granted a drain, whenever it began to ask. -/
  grantsNothing : ∀ (first : Nat) (answered : Call width Payload Fault),
    pool.calls[first]? = some answered → answered.saw = some .closed →
    ∀ (second : Nat) (action : MailboxAction Payload),
    .stepped second (.acted action) ∈ later →
    action ≠ .claimed ∧ action ≠ .work (.signal .acquired)

section Observing

variable {shared : Shared width Payload capacity}
  {ledger : MailboxLedger Payload capacity}

/-- What one load of `state` makes of the call. -/
theorem observe_eq (sound : ledger.Sound (reservationLimit width))
    (cells : shared.Shows ledger) (observer : Observer) (load : StateLoad) :
    (observe shared observer load : Call width Payload Fault ×
        Effect Payload Fault) =
      match load with
      | .terminal =>
          if ledger.terminal = .normal then
            (.observing observer .producer, .quiet)
          else
            (afterObserve observer ledger.cells.state, .quiet)
      | .producer => (afterObserve observer ledger.gateState, .quiet) := by
  cases load with
  | terminal =>
      simp only [observe, cells.terminalState]
      cases phase : ledger.terminal with
      | normal => rfl
      | pending =>
          simp only [Cells.state, MailboxLedger.cells, phase, reduceCtorEq,
            if_false]
          rfl
      | active =>
          simp only [Cells.state, MailboxLedger.cells, phase, reduceCtorEq,
            if_false]
          rfl
      | closed =>
          simp only [Cells.state, MailboxLedger.cells, phase, reduceCtorEq,
            if_false]
          rfl
  | producer =>
      simp only [observe, cells.producerGate, GateLedger.word,
        IngressGate.stateFromRaw_encode sound.producerSound.fits,
        MailboxLedger.gateState]
      cases ledger.producer.phase with
      | _ => rfl

theorem saw_afterObserve (observer : Observer) (state : ClosableMailboxState) :
    (afterObserve observer state : Call width Payload Fault).saw =
      some state := by
  cases observer with
  | _ => rfl

/-- A call has seen what it had seen, or reads the state now. -/
theorem Moves.saw {before after : Call width Payload Fault}
    {effect : Effect Payload Fault} (moves : Moves before effect after)
    {state : ClosableMailboxState} (seen : after.saw = some state) :
    before.saw = some state ∨
      ∃ observer load, before = .observing observer load := by
  cases moves with
  | declined result =>
      cases result with
      | unavailable state => exact Or.inl seen
      | _ => cases seen
  | observed observer load => exact Or.inr ⟨observer, load, rfl⟩
  | loaded observer load => exact Or.inr ⟨observer, load, rfl⟩
  | settled ending point result =>
      cases ending with
      | _ => cases seen
  | _ => cases seen

theorem Moves.between {before : Call width Payload Fault}
    {effect : Effect Payload Fault} {observer : Observer}
    (moves : Moves before effect (.observing observer .producer)) :
    ∃ load, before = .observing observer load := by
  generalize same : Call.observing observer .producer = after at moves
  cases moves with
  | loaded observer load =>
      cases same
      exact ⟨load, rfl⟩
  | observed observer load state =>
      cases observer with
      | _ => cases same
  | settled ending point result =>
      cases ending with
      | _ => cases same
  | _ => cases same

/-- What is read now is not past the state of the mailbox, and only the first
load of a call can still be followed by a second one. -/
theorem observed_cases (sound : ledger.Sound (reservationLimit width))
    (cells : shared.Shows ledger) {observer : Observer} {load : StateLoad}
    {choice : Choice Fault} {next : Shared width Payload capacity}
    {after : Call width Payload Fault} {effect : Effect Payload Fault}
    (accessed : step shared choice (.observing observer load) =
      some (next, after, effect)) :
    (load = .terminal ∧ after = .observing observer .producer ∧
      ledger.rank ≤ 1) ∨
    (load = .terminal ∧ after.saw = some ledger.cells.state) ∨
    (load = .producer ∧ after.saw = some ledger.gateState) := by
  have observed : (after, effect) = observe shared observer load := by
    cases choice with
    | run spurious =>
        have same := Option.some.inj accessed
        exact (congrArg Prod.snd same).symm
    | _ => cases accessed
  rw [observe_eq sound cells] at observed
  cases load with
  | terminal =>
      by_cases normal : ledger.terminal = .normal
      · simp only [normal, if_true] at observed
        cases observed
        refine Or.inl ⟨rfl, rfl, ?_⟩
        rw [MailboxLedger.rank_of_normal normal]
        exact ledger.gateState_rank_le_one
      · simp only [normal, if_false] at observed
        cases observed
        exact Or.inr (Or.inl ⟨rfl, saw_afterObserve observer _⟩)
  | producer =>
      cases observed
      exact Or.inr (Or.inr ⟨rfl, saw_afterObserve observer _⟩)

end Observing

section Runs

variable {trace later : List (PoolLabel (Op Payload) (Effect Payload Fault))}
  {pool last : Pool (Shared width Payload capacity)
    (Call width Payload Fault)}

/-- The pool shows a sound mailbox that has come this far. -/
def Reached (rank : Nat)
    (pool : Pool (Shared width Payload capacity)
      (Call width Payload Fault)) : Prop :=
  ∃ ledger, ledger.Sound (reservationLimit width) ∧ Shows pool ledger ∧
    rank ≤ ledger.rank

theorem Reached.step {rank : Nat}
    {label : PoolLabel (Op Payload) (Effect Payload Fault)}
    (reached : Reached rank pool)
    (moved : (system width Payload Fault capacity).step pool label last) :
    Reached rank last := by
  obtain ⟨ledger, sound, relates, far⟩ := reached
  have answered := shows_step sound relates moved
  cases visible : acted? label with
  | none =>
      rw [visible] at answered
      exact ⟨ledger, sound, answered, far⟩
  | some action =>
      rw [visible] at answered
      obtain ⟨next, step, nextRelates⟩ := answered
      exact ⟨next, MailboxLedger.step_sound sound step, nextRelates,
        Nat.le_trans far (MailboxLedger.step_rank step)⟩

theorem Reached.path {rank : Nat} (reached : Reached rank pool)
    (path : (system width Payload Fault capacity).Path pool later last) :
    Reached rank last := by
  induction path with
  | refl => exact reached
  | snoc before moved inductionHypothesis =>
      exact inductionHypothesis.step moved

/-- No call has seen more than what the mailbox has come to. -/
theorem run_saw (run : (system width Payload Fault capacity).Run trace pool) :
    ∀ (index : Nat) (call : Call width Payload Fault) (state),
      pool.calls[index]? = some call → call.saw = some state →
      Reached state.rank pool := by
  refine System.Run.invariant
    (fun _ pool => ∀ (index : Nat) (call : Call width Payload Fault) (state),
      pool.calls[index]? = some call → call.saw = some state →
      Reached state.rank pool) ?_ ?_ run
  · intro pool starts index call state present
    rw [starts.2] at present
    cases present
  · intro trace pool label next earlier known moved index call state present
      seen
    obtain ⟨ledger, _, sound, relates⟩ := run_ledger earlier
    have goesOn : ∀ before : Call width Payload Fault,
        pool.calls[index]? = some before → before.saw = some state →
        Reached state.rank next := by
      intro before beforePresent beforeSeen
      exact (known index before state beforePresent beforeSeen).step moved
    cases Machine.step_cases moved with
    | invoked op =>
        by_cases bound : index < pool.calls.length
        · rw [List.getElem?_append_left bound] at present
          exact goesOn call present seen
        · rw [List.getElem?_append_right (Nat.le_of_not_lt bound)] at present
          have only := List.mem_of_getElem? present
          rw [List.mem_singleton] at only
          rw [only] at seen
          cases op with
          | _ => cases seen
    | stepped stepping choice before shared after effect found accessed =>
        by_cases own : stepping = index
        · subst own
          have bound := (List.getElem?_eq_some_iff.mp found).1
          rw [List.getElem?_set_self bound] at present
          cases present
          cases (step_moves accessed : Moves before effect call).saw seen with
          | inl already => exact goesOn before found already
          | inr reads =>
              obtain ⟨observer, load, rfl⟩ := reads
              refine Reached.step ⟨ledger, sound, relates, ?_⟩ moved
              cases observed_cases sound relates.cells accessed with
              | inl goesOn =>
                  rw [goesOn.2.1] at seen
                  cases seen
              | inr answers =>
                  cases answers with
                  | inl terminal =>
                      rw [terminal.2] at seen
                      cases seen
                      exact Nat.le_refl _
                  | inr producer =>
                      rw [producer.2] at seen
                      cases seen
                      exact ledger.gateState_rank_le
        · rw [List.getElem?_set_ne own] at present
          exact goesOn call present seen

/-- Who begins at this rank or past it sees no earlier state; a call between its
two loads has found the mailbox normal. -/
def SeesFrom (rank : Nat) (call : Call width Payload Fault) : Prop :=
  (∀ state, call.saw = some state → rank ≤ state.rank) ∧
    ∀ observer, call = .observing observer .producer → rank ≤ 1

theorem path_sees {rank : Nat}
    (run : (system width Payload Fault capacity).Run trace pool)
    (path : (system width Payload Fault capacity).Path pool later last)
    (reached : Reached rank pool) :
    ∀ (index : Nat) (op : Op Payload) (call : Call width Payload Fault),
      .invoked index op ∈ later → last.calls[index]? = some call →
      SeesFrom rank call := by
  refine path_begun (Reached rank) (fun _ call => SeesFrom rank call) ?_ ?_ run
    path fun labels middle before => reached.path before
  · intro op
    cases op with
    | _ => exact ⟨nofun, nofun⟩
  · intro pool op before choice shared after effect far known accessed
    obtain ⟨ledger, sound, relates, far⟩ := far
    have moves : Moves before effect after := step_moves accessed
    refine ⟨?_, ?_⟩
    · intro state seen
      cases moves.saw seen with
      | inl already => exact known.1 state already
      | inr reads =>
          obtain ⟨observer, load, rfl⟩ := reads
          cases observed_cases sound relates.cells accessed with
          | inl goesOn =>
              rw [goesOn.2.1] at seen
              cases seen
          | inr answers =>
              cases answers with
              | inl terminal =>
                  rw [terminal.2] at seen
                  cases seen
                  exact far
              | inr producer =>
                  obtain ⟨rfl, answer⟩ := producer
                  rw [answer] at seen
                  cases seen
                  have low := known.2 observer rfl
                  by_cases past : 1 ≤ rank
                  · have left := sound.left_of_rank (Nat.le_trans past far)
                    rw [MailboxLedger.gateState_rank_of_left left]
                    exact low
                  · exact Nat.le_trans (Nat.le_of_not_lt past) (Nat.zero_le _)
    · intro observer same
      subst same
      obtain ⟨load, rfl⟩ := moves.between
      cases observed_cases sound relates.cells accessed with
      | inl goesOn => exact Nat.le_trans far goesOn.2.2
      | inr answers =>
          cases answers with
          | inl terminal => cases terminal.2
          | inr producer => cases producer.2

/-- Every cell is in the last of its states. -/
structure Shared.Shut (shared : Shared width Payload capacity) : Prop where
  producerGate : IngressGate.stateFromRaw shared.producerGate = some .sealed
  normalDrainGate :
    IngressGate.stateFromRaw shared.normalDrainGate = some .sealed
  signal : shared.signal = DrainSignal.closedWord
  terminalState : shared.terminalState = terminalClosed

theorem Reached.shut (reached : Reached 3 pool) : pool.shared.Shut := by
  obtain ⟨ledger, sound, relates, far⟩ := reached
  have closed := MailboxLedger.closed_of_rank far
  have left : ledger.terminal ≠ .normal := by
    rw [closed]
    nofun
  have signal := sound.terminalAfter left
  have normal := sound.signalAfter signal
  have producer := sound.producer_sealed_of_normal normal
  refine ⟨?_, ?_, ?_, ?_⟩
  · rw [relates.cells.producerGate, GateLedger.word,
      IngressGate.stateFromRaw_encode sound.producerSound.fits, producer]
  · rw [relates.cells.normalDrainGate, GateLedger.word,
      IngressGate.stateFromRaw_encode sound.normalSound.fits, normal]
  · rw [relates.cells.signal, signal]
    rfl
  · rw [relates.cells.terminalState, closed]
    rfl

/-- Where the next access of a call leads that finds the mailbox closed. -/
def Call.turnedAway :
    Call width Payload Fault → Option (Call width Payload Fault)
  | .reservingProducer _ value .load =>
      some (.enqueued (some (.error (.enqueue (.closed value)))))
  | .reservingDrain .load => some (.observing .refused .terminal)
  | .sealingProducer .load => some (.closingNormal .load)
  | .closingNormal .load => some (.sealingNormal .load)
  | .sealingNormal .load => some (.closingSignal .load)
  | .closingSignal .load => some (.claiming .load)
  | .claiming .load => some (.terminalRefused .closed)
  | .observing observer .terminal => some (afterObserve observer .closed)
  | _ => none

theorem step_turnedAway {shared : Shared width Payload capacity}
    (shut : shared.Shut) {call next : Call width Payload Fault}
    (away : call.turnedAway = some next) (spurious : Bool) :
    ∃ effect,
      step shared (.run spurious) call = some (shared, next, effect) := by
  have reserve : ∀ word : width.Usize,
      IngressGate.stateFromRaw word = some .sealed →
      IngressGate.reserveDecision word = .answer (.error (.notOpen .sealed)) := by
    intro word isSealed
    simp only [IngressGate.reserveDecision, isSealed]
  have trySeal : ∀ word : width.Usize,
      IngressGate.stateFromRaw word = some .sealed →
      IngressGate.trySealDecision word = .answer (.ok .sealed) := by
    intro word isSealed
    simp only [IngressGate.trySealDecision, isSealed]
  have close : ∀ word : width.Usize,
      IngressGate.stateFromRaw word = some .sealed →
      IngressGate.beginCloseDecision word = .answer .alreadySealed := by
    intro word isSealed
    simp only [IngressGate.beginCloseDecision, isSealed]
  have signal : DrainSignal.closeDecision shared.signal =
      .answer .alreadyClosed := by
    rw [shut.signal]
    rfl
  have word := shut.terminalState
  cases call with
  | reservingProducer posts value point =>
      cases point with
      | exchange current => cases away
      | load =>
          cases away
          simp only [step,
            runLoop_of_answer (reserve _ shut.producerGate)]
          exact ⟨_, rfl⟩
  | reservingDrain point =>
      cases point with
      | exchange current => cases away
      | load =>
          cases away
          simp only [step,
            runLoop_of_answer (reserve _ shut.normalDrainGate)]
          exact ⟨_, rfl⟩
  | sealingProducer point =>
      cases point with
      | exchange current => cases away
      | load =>
          cases away
          simp only [step,
            runLoop_of_answer (trySeal _ shut.producerGate)]
          exact ⟨_, rfl⟩
  | closingNormal point =>
      cases point with
      | exchange current => cases away
      | load =>
          cases away
          simp only [step,
            runLoop_of_answer (close _ shut.normalDrainGate)]
          exact ⟨_, rfl⟩
  | sealingNormal point =>
      cases point with
      | exchange current => cases away
      | load =>
          cases away
          simp only [step,
            runLoop_of_answer (trySeal _ shut.normalDrainGate)]
          exact ⟨_, rfl⟩
  | closingSignal point =>
      cases point with
      | exchange current => cases away
      | load =>
          cases away
          simp only [step, runLoop_of_answer signal]
          exact ⟨_, rfl⟩
  | claiming point =>
      cases point with
      | load =>
          cases away
          simp only [step, claim, word]
          exact ⟨_, rfl⟩
      | _ => cases away
  | observing observer load =>
      cases load with
      | producer => cases away
      | terminal =>
          cases away
          simp only [step, observe, word]
          exact ⟨_, rfl⟩
  | _ => cases away

/-- Only a running call is on its way to a refusal. -/
theorem run_of_turnedAway {shared next : Shared width Payload capacity}
    {choice : Choice Fault} {call away after : Call width Payload Fault}
    {effect : Effect Payload Fault} (goes : call.turnedAway = some away)
    (accessed : step shared choice call = some (next, after, effect)) :
    ∃ spurious, choice = .run spurious := by
  cases choice with
  | run spurious => exact ⟨spurious, rfl⟩
  | _ =>
      cases call with
      | _ => first
        | cases goes
        | cases accessed

/-- The courses are made of such accesses, and end in an answer. -/
theorem course_onward (op : Op Payload) :
    (op.course : List (Call width Payload Fault)).IsChain
      fun call next => call.turnedAway = some next := by
  cases op with
  | _ => simp [Op.course, Call.turnedAway, afterObserve]

theorem course_start (op : Op Payload)
    (known : (op.course : List (Call width Payload Fault)) ≠ []) :
    start op ∈ (op.course : List (Call width Payload Fault)) := by
  cases op with
  | enqueue value => exact List.mem_cons_self
  | enqueueAndPost value => exact List.mem_cons_self
  | acquire => exact List.mem_cons_self
  | tryBeginTerminalDrain => exact List.mem_cons_self
  | state => exact List.mem_cons_self
  | _ => exact absurd rfl known

/-- A call on its course is about to be taken on, or has its answer. -/
theorem course_cases {op : Op Payload} {call : Call width Payload Fault}
    (place : call ∈ (op.course : List (Call width Payload Fault))) :
    (∃ next, call.turnedAway = some next ∧
      next ∈ (op.course : List (Call width Payload Fault))) ∨
    ∀ (shared : Shared width Payload capacity) (choice : Choice Fault),
      step shared choice call = none := by
  cases op with
  | enqueue value =>
      simp only [Op.course, List.mem_cons, List.not_mem_nil, or_false] at place
      rcases place with rfl | rfl
      · exact Or.inl ⟨_, rfl, by simp [Op.course]⟩
      · exact Or.inr fun shared choice => by cases choice <;> rfl
  | enqueueAndPost value =>
      simp only [Op.course, List.mem_cons, List.not_mem_nil, or_false] at place
      rcases place with rfl | rfl
      · exact Or.inl ⟨_, rfl, by simp [Op.course]⟩
      · exact Or.inr fun shared choice => by cases choice <;> rfl
  | acquire =>
      simp only [Op.course, List.mem_cons, List.not_mem_nil, or_false] at place
      rcases place with rfl | rfl | rfl
      · exact Or.inl ⟨_, rfl, by simp [Op.course]⟩
      · exact Or.inl ⟨_, rfl, by simp [Op.course, afterObserve]⟩
      · exact Or.inr fun shared choice => by cases choice <;> rfl
  | tryBeginTerminalDrain =>
      simp only [Op.course, List.mem_cons, List.not_mem_nil, or_false] at place
      rcases place with rfl | rfl | rfl | rfl | rfl | rfl
      · exact Or.inl ⟨_, rfl, by simp [Op.course]⟩
      · exact Or.inl ⟨_, rfl, by simp [Op.course]⟩
      · exact Or.inl ⟨_, rfl, by simp [Op.course]⟩
      · exact Or.inl ⟨_, rfl, by simp [Op.course]⟩
      · exact Or.inl ⟨_, rfl, by simp [Op.course]⟩
      · exact Or.inr fun shared choice => by cases choice <;> rfl
  | state =>
      simp only [Op.course, List.mem_cons, List.not_mem_nil, or_false] at place
      rcases place with rfl | rfl
      · exact Or.inl ⟨_, rfl, by simp [Op.course, afterObserve]⟩
      · exact Or.inr fun shared choice => by cases choice <;> rfl
  | _ => cases place

theorem course_step {shared next : Shared width Payload capacity}
    (shut : shared.Shut) {op : Op Payload} {choice : Choice Fault}
    {call after : Call width Payload Fault} {effect : Effect Payload Fault}
    (place : call ∈ (op.course : List (Call width Payload Fault)))
    (accessed : step shared choice call = some (next, after, effect)) :
    after ∈ (op.course : List (Call width Payload Fault)) := by
  cases @course_cases _ _ _ capacity _ _ place with
  | inl goes =>
      obtain ⟨away, goes, onward⟩ := goes
      obtain ⟨spurious, rfl⟩ := run_of_turnedAway goes accessed
      obtain ⟨told, same⟩ := step_turnedAway shut goes spurious
      rw [same] at accessed
      cases accessed
      exact onward
  | inr rests =>
      rw [rests] at accessed
      cases accessed

theorem turnedAway_of_course {shared : Shared width Payload capacity}
    (shut : shared.Shut) {op : Op Payload} {call : Call width Payload Fault}
    (place : call ∈ (op.course : List (Call width Payload Fault))) :
    TurnedAway shared op call := by
  refine ⟨place, ?_⟩
  intro before next after split spurious
  have chain : (op.course : List (Call width Payload Fault)).IsChain
      fun call next => call.turnedAway = some next := course_onward op
  rw [split] at chain
  exact step_turnedAway shut (List.isChain_append_cons_cons.mp chain).2.1
    spurious

theorem run_observesInOrder
    (run : (system width Payload Fault capacity).Run trace pool)
    (path : (system width Payload Fault capacity).Path pool later last) :
    ObservesInOrder trace pool later last := by
  have reached : ∀ (first : Nat) (answered : Call width Payload Fault),
      pool.calls[first]? = some answered → answered.saw = some .closed →
      Reached 3 pool := by
    intro first answered present seen
    exact run_saw run first answered _ present seen
  refine ⟨?_, ?_, ?_, ?_, ?_⟩
  · intro first second op answered call seen state present saw invoked found
      sees
    have far := run_saw run first answered seen present saw
    exact (path_sees run path far second op call invoked found).1 state sees
  · intro result closed second op call invoked found opened
    obtain ⟨ledger, ledgerRun, sound, relates⟩ := run_ledger run
    have left := MailboxLedger.run_left_open ledgerRun closed
    have far : Reached 1 pool := by
      refine ⟨ledger, sound, relates, ?_⟩
      have gate := ledger.gateState_rank_le
      rw [MailboxLedger.gateState_rank_of_left left] at gate
      exact gate
    have past :=
      (path_sees run path far second op call invoked found).1 .opened opened
    cases past
  · intro first second op answered call state present saw invoked found sees
    have far := reached first answered present saw
    have past :=
      (path_sees run path far second op call invoked found).1 state sees
    cases state with
    | closed => rfl
    | _ => simp [ClosableMailboxState.rank] at past
  · intro first second op answered call present saw invoked found known
    have far := reached first answered present saw
    refine turnedAway_of_course (far.path path).shut ?_
    have place := path_begun (Reached 3)
      (fun op call => (op.course : List (Call width Payload Fault)) ≠ [] →
        call ∈ (op.course : List (Call width Payload Fault))) course_start ?_
      run path (fun labels middle before => far.path before) second op call
      invoked found
    · exact place known
    · intro pool op before choice shared after effect far kept accessed known
      exact course_step far.shut (kept known) accessed
  · intro first answered present saw second action member
    have far := reached first answered present saw
    obtain ⟨between, rest, rfl⟩ := List.append_of_mem member
    obtain ⟨source, before, onward⟩ := path.split
    obtain ⟨target, moved, _⟩ := onward.cons_inv
    obtain ⟨ledger, sound, relates, far⟩ := far.path before
    have answers := shows_step sound relates moved
    obtain ⟨next, step, _⟩ := answers
    exact sound.grants_nothing (MailboxLedger.closed_of_rank far) step

end Runs

/-- After `closeOverBacklog` the mailbox was seen closed. -/
def askAfterClose : List (PoolAction (Op Nat) (Choice Unit)) :=
  [.invoke .state, .invoke (.enqueue 4), .invoke .tryBeginTerminalDrain,
    .invoke .acquire, .advance 6 (.run false), .advance 7 (.run false),
    .advance 9 (.run false), .advance 8 (.run true), .advance 9 (.run false)]

theorem askAfterClose_observesInOrder :
    ∃ pool trace last later,
      (machine .sixtyFour Nat Unit 1).execAll ⟨new, []⟩ closeOverBacklog =
        some (pool, trace) ∧
      (machine .sixtyFour Nat Unit 1).execAll pool askAfterClose =
        some (last, later) ∧
      ObservesInOrder trace pool later last := by
  obtain ⟨pool, trace, first, run⟩ :=
    (machine .sixtyFour Nat Unit 1).exists_run_of_execAll
      (fun shared => shared = new) closeOverBacklog rfl (by decide)
  have executes : (((machine .sixtyFour Nat Unit 1).execAll ⟨new, []⟩
      closeOverBacklog).bind fun reached =>
        (machine .sixtyFour Nat Unit 1).execAll reached.1
          askAfterClose).isSome = true := by
    decide
  rw [first] at executes
  obtain ⟨⟨last, later⟩, second⟩ := Option.isSome_iff_exists.mp executes
  exact ⟨pool, trace, last, later, first, second,
    run_observesInOrder run (Machine.path_of_execAll second)⟩

end ClosableMailbox

end RustJsi.Runtime
