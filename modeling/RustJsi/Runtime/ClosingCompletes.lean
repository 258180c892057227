import RustJsi.Runtime.StateObservations

/-!
# Closing can be completed

Once a close has begun and nobody holds a permit or a drain, a terminal claim
is granted whatever became of the claims before it, and its owner closes the
mailbox by popping what is left.
-/

namespace RustJsi.Runtime

open Interleaving

namespace ClosableMailbox

open IngressGate (reservationLimit)

variable {width : PointerWidth} {Payload Fault : Type*} {capacity : Nat}

/-- A mailbox whose gates are sealed and whose signal is closed. -/
def Cells.shut (queue : ArrayQueue Payload capacity)
    (terminal : TerminalPhase) : Cells Payload capacity where
  queue := queue
  signal := .closed
  producer := ⟨.sealed, 0⟩
  normal := ⟨.sealed, 0⟩
  terminal := terminal

/-- The payloads that the owner of a terminal drain pops, one after another. -/
inductive Takes (width : PointerWidth) (Payload Fault : Type*)
    (capacity : Nat) : Shared width Payload capacity → List Payload →
    Shared width Payload capacity → Prop
  | none (shared : Shared width Payload capacity) :
      Takes width Payload Fault capacity shared [] shared
  | more {shared middle last : Shared width Payload capacity} {value : Payload}
      {values : List Payload}
      (popped : step shared (.pop : Choice Fault) .terminal =
        some (middle, .terminal, .acted (.work (.popped value))))
      (others : Takes width Payload Fault capacity middle values last) :
      Takes width Payload Fault capacity shared (value :: values) last

/-- How the closing of a mailbox goes on that nobody is at work on. -/
structure ClosesOut (Fault : Type*)
    (shared : Shared width Payload capacity) : Prop where
  /-- A claim is granted. -/
  granted : shared.terminalState ≠ terminalClosed →
    ∀ (last : Shared width Payload capacity)
      (after : Call width Payload Fault),
    Ends shared (start .tryBeginTerminalDrain) last after ↔
      last = (Cells.shut shared.queue .active).shared width ∧
      after = .terminal
  alreadyClosed : shared.terminalState = terminalClosed →
    ∀ (last : Shared width Payload capacity)
      (after : Call width Payload Fault),
    Ends shared (start .tryBeginTerminalDrain) last after ↔
      last = shared ∧ after = .terminalRefused .closed
  measured : ∀ (last : Shared width Payload capacity)
      (after : Call width Payload Fault),
    Ends shared (start .len) last after ↔
      last = shared ∧ after = .measured shared.queue.items.length
  bounded : shared.queue.items.length ≤ capacity
  /-- The owner pops what is queued, in order. -/
  takes : ∀ taken last, Takes width Payload Fault capacity
      ((Cells.shut shared.queue .active).shared width) taken last ↔
    ∃ rest : ArrayQueue Payload capacity,
      shared.queue.items = taken ++ rest.items ∧
      last = (Cells.shut rest .active).shared width
  /-- It finds nothing more after as many pops as there were payloads. -/
  exhausted : ∀ taken last, Takes width Payload Fault capacity
      ((Cells.shut shared.queue .active).shared width) taken last →
    (step last (.pop : Choice Fault) .terminal =
        some (last, .terminal, .quiet) ↔
      taken.length = shared.queue.items.length)
  /-- Then it finishes, and the mailbox is closed. -/
  finishes : ∀ taken last, Takes width Payload Fault capacity
      ((Cells.shut shared.queue .active).shared width) taken last →
    taken.length = shared.queue.items.length →
    step last (.finish : Choice Fault) .terminal =
        some (last, .counting, .quiet) ∧
      ∀ (closed : Shared width Payload capacity)
        (after : Call width Payload Fault),
      Ends last .counting closed after ↔
        closed = (Cells.shut .new .closed).shared width ∧
        after = .terminalEnded .finished
  observed : ∀ (last : Shared width Payload capacity)
      (after : Call width Payload Fault),
    Ends ((Cells.shut .new .closed).shared width) (start .state) last after ↔
      last = (Cells.shut .new .closed).shared width ∧
      after = .observed .closed
  /-- One that finishes too early is told how much is left, and leaves it in
  order to the next claim. -/
  remains : ∀ taken last (rest : List Payload), Takes width Payload Fault
      capacity ((Cells.shut shared.queue .active).shared width) taken last →
    shared.queue.items = taken ++ rest → rest ≠ [] →
    step last (.finish : Choice Fault) .terminal =
        some (last, .counting, .quiet) ∧
      ∃ pending : Shared width Payload capacity,
        pending.queue.items = rest ∧
        (∀ (next : Shared width Payload capacity)
          (after : Call width Payload Fault),
        Ends last .counting next after ↔ next = pending ∧
          after = .terminalEnded (.failed (.payloadsRemain rest.length))) ∧
        ∀ (next : Shared width Payload capacity)
          (after : Call width Payload Fault),
        Ends pending (start .tryBeginTerminalDrain) next after ↔
          next = last ∧ after = .terminal

section Alone

variable {queue rest : ArrayQueue Payload capacity}
  {last : Shared width Payload capacity} {after : Call width Payload Fault}

theorem pop_shut {value : Payload}
    (popped : queue.pop = some (value, rest)) :
    step ((Cells.shut queue .active).shared width) (.pop : Choice Fault)
        .terminal =
      some ((Cells.shut rest .active).shared width, .terminal,
        .acted (.work (.popped value))) := by
  have same : ((Cells.shut queue .active).shared width).queue = queue := rfl
  simp only [step, same, popped]
  rfl

theorem pop_shut_none_iff :
    step ((Cells.shut queue .active).shared width) (.pop : Choice Fault)
        .terminal =
      some ((Cells.shut queue .active).shared width, .terminal, .quiet) ↔
    queue.items = [] := by
  have same : ((Cells.shut queue .active).shared width).queue = queue := rfl
  rw [← ArrayQueue.pop_eq_none_iff]
  simp only [step, same]
  cases queue.pop with
  | none => exact iff_of_true rfl rfl
  | some popped => simp

theorem takes_shut {taken : List Payload}
    (items : queue.items = taken ++ rest.items) :
    Takes width Payload Fault capacity
      ((Cells.shut queue .active).shared width) taken
      ((Cells.shut rest .active).shared width) := by
  induction taken generalizing queue with
  | nil =>
      rw [ArrayQueue.ext items]
      exact .none _
  | cons value values inductionHypothesis =>
      cases popped : queue.pop with
      | none =>
          rw [ArrayQueue.pop_eq_none_iff.mp popped] at items
          cases items
      | some found =>
          obtain ⟨first, next⟩ := found
          have split := ArrayQueue.pop_items popped
          rw [items, List.cons_append, List.cons.injEq] at split
          rw [split.1]
          exact .more (pop_shut popped) (inductionHypothesis split.2.symm)

theorem takes_shut_iff {taken : List Payload} :
    Takes width Payload Fault capacity
        ((Cells.shut queue .active).shared width) taken last ↔
      ∃ rest : ArrayQueue Payload capacity,
        queue.items = taken ++ rest.items ∧
        last = (Cells.shut rest .active).shared width := by
  constructor
  · intro takes
    generalize start : (Cells.shut queue .active).shared width = shared
      at takes
    induction takes generalizing queue with
    | none => exact ⟨queue, rfl, start.symm⟩
    | @more shared middle last value values popped others
        inductionHypothesis =>
        subst start
        cases found : queue.pop with
        | none =>
            rw [pop_shut_none_iff.mpr (ArrayQueue.pop_eq_none_iff.mp found)]
              at popped
            cases popped
        | some first =>
            obtain ⟨front, next⟩ := first
            rw [pop_shut found] at popped
            cases popped
            obtain ⟨rest, items, same⟩ := inductionHypothesis rfl
            refine ⟨rest, ?_, same⟩
            rw [ArrayQueue.pop_items found, items]
            rfl
  · intro found
    obtain ⟨rest, items, rfl⟩ := found
    exact takes_shut items

theorem claim_shut (free : phase = .normal ∨ phase = .pending) :
    Ends ((Cells.shut queue phase).shared width)
        (start .tryBeginTerminalDrain : Call width Payload Fault) last after ↔
      last = (Cells.shut queue .active).shared width ∧ after = .terminal :=
  ends_claim_free nofun rfl rfl free

theorem rest_length {taken : List Payload}
    (items : queue.items = taken ++ rest.items) :
    rest.items = [] ↔ taken.length = queue.items.length := by
  rw [items, List.length_append, ← List.length_eq_zero_iff]
  omega

end Alone

section Runs

variable {trace : List (PoolLabel (Op Payload) (Effect Payload Fault))}
  {pool : Pool (Shared width Payload capacity) (Call width Payload Fault)}
  {ledger : MailboxLedger Payload capacity}

theorem Shared.Shows.eq_cells {shared : Shared width Payload capacity}
    (cells : shared.Shows ledger) : shared = ledger.cells.shared width := by
  obtain ⟨queue, signal, producerGate, normalDrainGate, terminalState⟩ := shared
  obtain ⟨rfl, rfl, rfl, rfl, rfl⟩ := cells
  rfl

/-- Where no call holds a share, the ledger holds none. -/
theorem Shows.held_of_idle (relates : Shows pool ledger)
    (idle : ∀ call ∈ pool.calls, call.shares = []) (stake : MailboxLedger.Stake) :
    ledger.held stake = 0 := by
  rw [← relates.shares, shareholders, List.countP_eq_zero]
  intro call member holds
  simp only [Call.holds, idle call member, List.not_mem_nil, decide_false,
    Bool.false_eq_true] at holds

/-- Whatever has happened, a mailbox that is closing and that nobody is at
work on can be closed. -/
theorem run_closesOut
    (run : (system width Payload Fault capacity).Run trace pool)
    {result : IngressClose}
    (begun : .producer (.closed result) ∈ actions trace)
    (idle : ∀ call ∈ pool.calls, call.shares = []) :
    ClosesOut Fault pool.shared := by
  obtain ⟨ledger, ledgerRun, sound, relates⟩ := run_ledger run
  have left := MailboxLedger.run_left_open ledgerRun begun
  have held := relates.held_of_idle idle
  have noProducer : ledger.producer.live = 0 := held .producer
  have noDrain : ledger.normal.live = 0 := held .admission
  have unowned : ledger.terminal ≠ .active := by
    intro owned
    have terminal := held .terminal
    simp only [MailboxLedger.held, owned, if_true] at terminal
    cases terminal
  rw [relates.cells.eq_cells]
  have closedIff : (ledger.cells.shared width).terminalState =
      terminalClosed ↔ ledger.terminal = .closed := by
    have raw : (ledger.cells.shared width).terminalState =
        ledger.terminal.raw := rfl
    rw [raw]
    cases ledger.terminal with
    | _ => decide
  refine ⟨?_, ?_, ?_, ledger.cells.queue.bounded, ?_, ?_, ?_, ?_, ?_⟩
  · intro notClosed last after
    have free : ledger.terminal = .normal ∨ ledger.terminal = .pending := by
      cases phase : ledger.terminal with
      | normal => exact Or.inl rfl
      | pending => exact Or.inr rfl
      | active => exact absurd phase unowned
      | closed => exact absurd (closedIff.mpr phase) notClosed
    exact ends_claim_free left noProducer noDrain free
  · intro closed last after
    have phase := closedIff.mp closed
    have past : ledger.terminal ≠ .normal := by
      intro same
      rw [phase] at same
      cases same
    have signal := sound.terminalAfter past
    have normal := sound.signalAfter signal
    have producer := sound.producer_sealed_of_normal normal
    have quiesced : ledger.cells.quiesced = ledger.cells := by
      obtain ⟨⟨producerPhase, producerLive⟩, ⟨normalPhase, normalLive⟩,
        work, terminal⟩ := ledger
      simp only at noProducer noDrain normal producer signal
      subst noProducer noDrain normal producer
      simp only [Cells.quiesced, MailboxLedger.cells, signal]
    have taken := @ends_claim_taken width Payload Fault capacity last
      ledger.cells after left noProducer noDrain .closed
      (Or.inr ⟨phase, rfl⟩)
    rw [quiesced] at taken
    exact taken
  · intro last after
    have counted : ∀ spurious, ∃ effect,
        step (ledger.cells.shared width) (.run spurious)
          (start .len : Call width Payload Fault) =
        some (ledger.cells.shared width,
          .measured (ledger.cells.shared width).queue.items.length, effect) :=
      fun _ => ⟨.quiet, rfl⟩
    rw [ends_step_iff _ _ counted]
    exact ends_rest_iff fun _ => rfl
  · exact fun taken last => takes_shut_iff
  · intro taken last takes
    obtain ⟨rest, items, rfl⟩ := takes_shut_iff.mp takes
    rw [pop_shut_none_iff]
    exact rest_length items
  · intro taken last takes all
    obtain ⟨rest, items, rfl⟩ := takes_shut_iff.mp takes
    refine ⟨rfl, ?_⟩
    have empty := (rest_length items).mpr all
    have new : rest = .new := ArrayQueue.ext empty
    subst new
    intro closed after
    exact ends_counting_empty rfl empty
  · intro last after
    exact ends_state (Nat.zero_le _)
  · intro taken last remaining takes items more
    obtain ⟨rest, split, rfl⟩ := takes_shut_iff.mp takes
    rw [items] at split
    have same := List.append_cancel_left split
    refine ⟨rfl, (Cells.shut rest .pending).shared width, same.symm, ?_, ?_⟩
    · intro next after
      rw [same] at more ⊢
      exact ends_counting_remaining rfl more
    · intro next after
      exact claim_shut (Or.inr rfl)

end Runs

open PoolAction Choice Op in
/-- Two payloads are accepted.  A claim is refused before the close, one is
dropped after it, and one is finished when it has popped the first payload. -/
def abandonedClaims : List (PoolAction (Op Nat) (Choice Unit)) :=
  [invoke (enqueue 7)] ++
  List.replicate 6 (advance 0 (run false)) ++
  [invoke (enqueue 8)] ++
  List.replicate 5 (advance 1 (run false)) ++
  [invoke tryBeginTerminalDrain, advance 2 (run false),
    invoke beginClose] ++
  List.replicate 2 (advance 3 (run false)) ++
  [invoke tryBeginTerminalDrain] ++
  List.replicate 11 (advance 4 (run false)) ++
  [advance 4 drop, advance 4 (run false),
    invoke tryBeginTerminalDrain] ++
  List.replicate 7 (advance 5 (run false)) ++
  [advance 5 pop, advance 5 finish, advance 5 (run false),
    advance 5 (run false)]

/-- The result of a close that was begun. -/
def MailboxAction.closed? : MailboxAction Payload → Option IngressClose
  | .producer (.closed result) => some result
  | _ => none

theorem abandonedClaims_closesOut :
    ∃ pool trace,
      (machine .sixtyFour Nat Unit 2).execAll ⟨new, []⟩ abandonedClaims =
        some (pool, trace) ∧
      pool.shared.queue.items = [8] ∧
      ClosesOut Unit pool.shared := by
  obtain ⟨pool, trace, executed, run⟩ :=
    (machine .sixtyFour Nat Unit 2).exists_run_of_execAll
      (fun shared => shared = new) abandonedClaims rfl (by decide)
  have evaluated :
      ((machine .sixtyFour Nat Unit 2).execAll ⟨new, []⟩
        abandonedClaims).map (fun result =>
          (result.1.shared.queue.items, result.1.calls.map Call.shares,
            (actions result.2).filterMap MailboxAction.closed?)) =
        some ([8], List.replicate 6 [], [.started 0]) := by
    decide
  rw [executed, Option.map_some, Option.some.injEq, Prod.mk.injEq,
    Prod.mk.injEq] at evaluated
  obtain ⟨items, shares, closed⟩ := evaluated
  refine ⟨pool, trace, executed, items, ?_⟩
  refine @run_closesOut _ _ _ _ _ _ run (.started 0) ?_ ?_
  · have begun : IngressClose.started 0 ∈
        (actions trace).filterMap MailboxAction.closed? := by
      rw [closed]
      exact List.mem_singleton.mpr rfl
    obtain ⟨action, member, same⟩ := List.mem_filterMap.mp begun
    cases action with
    | producer event =>
        cases event with
        | closed result =>
            cases same
            exact member
        | _ => cases same
    | _ => cases same
  · intro call member
    have listed := List.mem_map_of_mem (f := Call.shares) member
    rw [shares] at listed
    exact List.eq_of_mem_replicate listed

end ClosableMailbox

end RustJsi.Runtime
