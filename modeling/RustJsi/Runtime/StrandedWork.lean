import RustJsi.Runtime.MailboxWakeup
import RustJsi.Runtime.TerminalExclusion

/-!
# No payload is stranded

A producer pushes before it requests, and a drain looks at the queue before it
settles.  Neither pair is one step, yet no interleaving loses a wake-up: a
payload that its producer has announced is always some drain's to take.
-/

namespace RustJsi.Runtime

open Interleaving

namespace ClosableMailbox

variable {width : PointerWidth} {Payload Fault : Type*} {capacity : Nat}

/-- No producer of the pool is between its push and its request. -/
def Published
    (pool : Pool (Shared width Payload capacity) (Call width Payload Fault)) :
    Prop :=
  ∀ call ∈ pool.calls, call.holds (.work .publishing) = false

/-- Waiting payloads that every producer has announced keep a normal drain
pending, or active with an owner of its own, or are left to a terminal owner
that is at work or still to come. -/
def KeepsAwake
    (pool : Pool (Shared width Payload capacity) (Call width Payload Fault)) :
    Prop :=
  pool.shared.queue.items ≠ [] → Published pool →
  ∃ state, DrainSignal.stateFromRaw pool.shared.signal = some state ∧
    (state = .pending ∨
      ((state = .draining ∨ state = .drainingWithPending) ∧
        ∃ call ∈ pool.calls, call.ownsDrain = true) ∨
      (state = .closed ∧ pool.shared.terminalState ≠ terminalClosed ∧
        (claimable pool.shared.terminalState = true ∨
          ∃ call ∈ pool.calls, call.ownsTerminal = true)))

section Pools

variable
  {pool : Pool (Shared width Payload capacity) (Call width Payload Fault)}
  {ledger : MailboxLedger Payload capacity}

/-- A live permit has an owner among the calls. -/
theorem Shows.drain_owner (relates : Shows pool ledger)
    (live : 0 < ledger.work.signal.permits) :
    ∃ call ∈ pool.calls, call.ownsDrain = true := by
  have counted := relates.shares (.work .permit)
  have positive : 0 < shareholders (.work .permit) pool := by
    rw [counted]
    exact live
  obtain ⟨call, member, owns⟩ := List.countP_pos_iff.mp positive
  refine ⟨call, member, ?_⟩
  cases call with
  | observing observer load => cases observer <;> cases owns
  | draining => rfl
  | checking ending => rfl
  | preserving ending point => rfl
  | finishing ending point => rfl
  | operating after => rfl
  | releasingDrain result => rfl
  | _ => cases owns

/-- The terminal word is free to be claimed, claimed by one of the calls, or
closed. -/
theorem Shows.terminal_cases (relates : Shows pool ledger) :
    claimable pool.shared.terminalState = true ∨
      (∃ call ∈ pool.calls, call.ownsTerminal = true) ∨
      ledger.terminal = .closed := by
  rw [relates.cells.terminalState]
  cases phase : ledger.terminal with
  | normal => exact Or.inl (by decide)
  | pending => exact Or.inl (by decide)
  | closed => exact Or.inr (Or.inr rfl)
  | active =>
      have counted := relates.shares .terminal
      have positive : 0 < shareholders .terminal pool := by
        rw [counted, MailboxLedger.held, if_pos phase]
        exact Nat.one_pos
      obtain ⟨call, member, owns⟩ := List.countP_pos_iff.mp positive
      exact Or.inr (Or.inl ⟨call, member, (ownsTerminal_eq call).trans owns⟩)

theorem Shows.keepsAwake (relates : Shows pool ledger)
    (sound : ledger.Sound (IngressGate.reservationLimit width)) :
    KeepsAwake pool := by
  intro waiting published
  have nobody : ledger.work.publishing = 0 := by
    have counted := relates.shares (.work .publishing)
    rw [shareholders, List.countP_eq_zero.mpr fun call member => by
      simp [published call member]] at counted
    exact counted.symm
  rw [relates.cells.queue] at waiting
  have signalSound := sound.workSound.signalSound
  refine ⟨ledger.work.signal.state, ?_, ?_⟩
  · rw [relates.cells.signal, DrainState.stateFromRaw_raw]
  · rcases sound.workSound.awake waiting nobody with
      pending | draining | again | closed
    · exact Or.inl pending
    · have live := signalSound.permit_of_draining (Or.inl draining)
      exact Or.inr (Or.inl ⟨Or.inl draining, relates.drain_owner live⟩)
    · have live := signalSound.permit_of_draining (Or.inr again)
      exact Or.inr (Or.inl ⟨Or.inr again, relates.drain_owner live⟩)
    · have notEnded : ledger.terminal ≠ .closed := by
        intro ended
        exact waiting (sound.closedEmpty ended)
      have notClosed : pool.shared.terminalState ≠ terminalClosed := by
        rw [relates.cells.terminalState]
        cases phase : ledger.terminal with
        | closed => exact absurd phase notEnded
        | _ => decide
      refine Or.inr (Or.inr ⟨closed, notClosed, ?_⟩)
      rcases relates.terminal_cases with free | owned | ended
      · exact Or.inl free
      · exact Or.inr owned
      · exact absurd ended notEnded

end Pools

end ClosableMailbox

/-- In every interleaving of calls on either mailbox no announced payload is
stranded. -/
theorem run_keepsAwake (width : PointerWidth) (Payload Fault : Type*)
    (capacity : Nat) :
    (∀ {trace pool},
      (BoundedMailbox.system Payload capacity).Run trace pool →
      BoundedMailbox.KeepsAwake pool) ∧
    (∀ {trace pool},
      (ClosableMailbox.system width Payload Fault capacity).Run trace pool →
      ClosableMailbox.KeepsAwake pool) := by
  constructor
  · intro trace pool run
    obtain ⟨ledger, ledgerRun, relates⟩ := BoundedMailbox.run_ledger run
    exact relates.keepsAwake (SignalledQueue.run_sound ledgerRun)
  · intro trace pool run
    obtain ⟨ledger, _, sound, relates⟩ := ClosableMailbox.run_ledger run
    exact relates.keepsAwake sound

open PoolAction BoundedMailbox.Op BoundedMailbox.Choice in
/-- A drain of a bounded mailbox is dropped with a payload left. -/
def BoundedMailbox.dropOverBacklog :
    List (PoolAction (BoundedMailbox.Op Nat) BoundedMailbox.Choice) :=
  [invoke (enqueue 7)] ++
  List.replicate 3 (advance 0 (run false)) ++
  [invoke acquire] ++
  List.replicate 2 (advance 1 (run false)) ++
  [advance 1 drop] ++
  List.replicate 5 (advance 1 (run false))

open PoolAction ClosableMailbox.Op ClosableMailbox.Choice in
/-- A closable mailbox is closed over a payload, and its terminal owner is
dropped with the payload left. -/
def ClosableMailbox.dropOverBacklog :
    List (PoolAction (ClosableMailbox.Op Nat) (ClosableMailbox.Choice Unit)) :=
  [invoke (enqueue 7)] ++
  List.replicate 6 (advance 0 (run false)) ++
  [invoke beginClose] ++
  List.replicate 2 (advance 1 (run false)) ++
  [invoke tryBeginTerminalDrain] ++
  List.replicate 11 (advance 2 (run false)) ++
  [advance 2 drop, advance 2 (run false)]

theorem dropOverBacklog_keepsAwake :
    (∃ pool trace,
      (BoundedMailbox.machine Nat 2).execAll ⟨BoundedMailbox.new, []⟩
        BoundedMailbox.dropOverBacklog = some (pool, trace) ∧
      BoundedMailbox.KeepsAwake pool ∧
      (pool.shared.queue.items, pool.shared.signal) =
        ([7], DrainState.pending.raw)) ∧
    (∃ pool trace,
      (ClosableMailbox.machine .sixtyFour Nat Unit 2).execAll
        ⟨ClosableMailbox.new, []⟩ ClosableMailbox.dropOverBacklog =
        some (pool, trace) ∧
      ClosableMailbox.KeepsAwake pool ∧
      (pool.shared.queue.items, pool.shared.signal,
        pool.shared.terminalState) =
        ([7], DrainState.closed.raw, ClosableMailbox.terminalPending)) := by
  constructor
  · obtain ⟨pool, trace, executed, run⟩ :=
      (BoundedMailbox.machine Nat 2).exists_run_of_execAll
        (fun shared => shared = BoundedMailbox.new)
        BoundedMailbox.dropOverBacklog rfl (by decide)
    refine ⟨pool, trace, executed,
      (run_keepsAwake .sixtyFour Nat Unit 2).1 run, ?_⟩
    have evaluated :
        ((BoundedMailbox.machine Nat 2).execAll ⟨BoundedMailbox.new, []⟩
          BoundedMailbox.dropOverBacklog).map (fun result =>
            (result.1.shared.queue.items, result.1.shared.signal)) =
          some ([7], DrainState.pending.raw) := by
      decide
    simpa [executed] using evaluated
  · obtain ⟨pool, trace, executed, run⟩ :=
      (ClosableMailbox.machine .sixtyFour Nat Unit 2).exists_run_of_execAll
        (fun shared => shared = ClosableMailbox.new)
        ClosableMailbox.dropOverBacklog rfl (by decide)
    refine ⟨pool, trace, executed,
      (run_keepsAwake .sixtyFour Nat Unit 2).2 run, ?_⟩
    have evaluated :
        ((ClosableMailbox.machine .sixtyFour Nat Unit 2).execAll
          ⟨ClosableMailbox.new, []⟩
          ClosableMailbox.dropOverBacklog).map (fun result =>
            (result.1.shared.queue.items, result.1.shared.signal,
              result.1.shared.terminalState)) =
          some ([7], DrainState.closed.raw,
            ClosableMailbox.terminalPending) := by
      decide
    simpa [executed] using evaluated

end RustJsi.Runtime
