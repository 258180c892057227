import RustJsi.Runtime.MailboxConservation
import RustJsi.Runtime.StrandedWork

/-!
# No unreachable arm is reached

Both mailboxes match on answers they hold to be impossible and panic on them.
Each such arm is excluded by what the admissions and permits of all calls
together say about the cells, at every access of every interleaving.
-/

namespace RustJsi.Runtime

open Interleaving

/-- What no step does, no label of a run has done. -/
private theorem run_labels {State Label : Type*} {system : System State Label}
    {holds : Label → Prop}
    (steps : ∀ {trace state label next}, system.Run trace state →
      system.step state label next → holds label)
    {trace : List Label} {state : State} (run : system.Run trace state) :
    ∀ label ∈ trace, holds label := by
  apply run.invariant (fun trace _ => ∀ label ∈ trace, holds label)
  · exact fun _ _ => nofun
  · intro trace state label next earlier held moved tested member
    cases List.mem_append.mp member with
    | inl before => exact held tested before
    | inr last =>
        rw [List.mem_singleton.mp last]
        exact steps earlier moved

namespace BoundedMailbox

variable {Payload : Type*} {capacity : Nat}

/-- What keeps the calls of a bounded mailbox from its panicking arms. -/
structure AvoidsArms
    (trace : List (PoolLabel (Op Payload) (Effect Payload)))
    (pool : Pool (Shared Payload capacity) (Call Payload)) : Prop where
  silent : ∀ label ∈ trace, label.effect? ≠ some .panicked
  calm : ∀ call ∈ pool.calls, call ≠ .panicked
  /-- The signal decodes, and nobody closes it. -/
  signal : ∃ state, DrainSignal.stateFromRaw pool.shared.signal = some state ∧
    state ≠ .closed
  /-- A request under a drain is one over a draining signal. -/
  draining : ∀ call ∈ pool.calls, call.holds .permit = true →
    DrainSignal.stateFromRaw pool.shared.signal = some .draining ∨
    DrainSignal.stateFromRaw pool.shared.signal = some .drainingWithPending

section Pools

variable {trace : List (PoolLabel (Op Payload) (Effect Payload))}
  {pool next : Pool (Shared Payload capacity) (Call Payload)}

/-- No access panics. -/
theorem step_silent {label : PoolLabel (Op Payload) (Effect Payload)}
    (run : (system Payload capacity).Run trace pool)
    (moved : (system Payload capacity).step pool label next) :
    label.effect? ≠ some .panicked := by
  obtain ⟨ledger, ledgerRun, relates⟩ := run_ledger run
  cases Machine.step_cases moved with
  | invoked op => exact nofun
  | stepped index choice call shared after effect present accessed =>
      intro panics
      have follows := step_follows (SignalledQueue.run_sound ledgerRun)
        relates.cells relates.notClosed (relates.stands present) accessed
      cases panics
      exact follows

/-- A call that panics says so. -/
private def Announces (result : Shared Payload capacity × Call Payload ×
    Effect Payload) : Prop :=
  result.2.1 = .panicked → result.2.2 = .panicked

private theorem loop_announces {Result : Type}
    {decision : UInt8 → Decision UInt8 Result} {spurious : Bool}
    {word : UInt8} {point : LoopPoint UInt8}
    {store : UInt8 → Shared Payload capacity}
    {again : LoopPoint UInt8 → Call Payload}
    {ends : Result → Call Payload × Effect Payload}
    (goesOn : ∀ next, again next ≠ .panicked)
    (finishes : ∀ result, (ends result).1 = .panicked →
      (ends result).2 = .panicked) :
    Announces (runLoop decision spurious word point store
      (fun point => (again point, .quiet)) ends (.panicked, .panicked)) :=
  runLoop_induction Announces (fun next same => absurd same (goesOn next))
    (fun _ result _ => finishes result) (fun _ _ => rfl)

private theorem step_announces {shared : Shared Payload capacity}
    {choice : Choice} {call : Call Payload}
    {result : Shared Payload capacity × Call Payload × Effect Payload}
    (accessed : step shared choice call = some result) :
    Announces result := by
  have quiet {result : Shared Payload capacity × Call Payload ×
      Effect Payload} (goesOn : result.2.1 ≠ .panicked) : Announces result :=
    fun panics => absurd panics goesOn
  unfold step at accessed
  split at accessed
  · split at accessed <;> cases accessed <;>
      exact quiet (by intro same; cases same)
  · cases accessed
    apply loop_announces
    · intro _ same
      cases same
    · intro result
      cases result <;> simp [afterRequest, mailboxEnqueue]
  · cases accessed
    apply loop_announces
    · intro _ same
      cases same
    · intro result
      cases result <;> simp [afterAcquire]
  · split at accessed <;> cases accessed <;>
      exact quiet (by intro same; cases same)
  · cases accessed
    exact quiet (by intro same; cases same)
  · cases accessed
    exact quiet (by intro same; cases same)
  · split at accessed <;> cases accessed <;>
      exact quiet (by intro same; cases same)
  · cases accessed
    apply loop_announces
    · intro _ same
      cases same
    · intro result
      cases result <;> simp [afterPreserve]
  · cases accessed
    apply loop_announces
    · intro _ same
      cases same
    · intro _ same
      cases same
  · split at accessed <;> cases accessed
    · exact quiet (by intro same; cases same)
    · exact fun _ => rfl
  · cases accessed
    exact quiet (by intro same; cases same)
  · cases accessed
    exact quiet (by intro same; cases same)
  · cases accessed

theorem run_calm (run : (system Payload capacity).Run trace pool) :
    ∀ (index : Nat) (call : Call Payload),
      pool.calls[index]? = some call → call ≠ .panicked := by
  apply run.invariant
    (fun _ pool => ∀ (index : Nat) (call : Call Payload),
      pool.calls[index]? = some call → call ≠ .panicked)
  · intro pool starts index call present
    rw [starts.2] at present
    cases present
  · intro trace pool label next earlier calm moved
    have silent := step_silent earlier moved
    cases Machine.step_cases moved with
    | invoked op =>
        apply forall_append_single calm
        cases op <;> exact nofun
    | stepped index choice call shared after effect present accessed =>
        apply forall_set (fun other call _ => calm other call)
        intro panics
        have announced : effect = .panicked := step_announces accessed panics
        exact silent (congrArg some announced)

theorem run_avoids
    (run : (system Payload capacity).Run trace pool) :
    AvoidsArms trace pool where
  silent := run_labels (fun earlier moved => step_silent earlier moved) run
  calm := by
    intro call member
    obtain ⟨index, present⟩ := List.mem_iff_getElem?.mp member
    exact run_calm run index call present
  signal := by
    obtain ⟨ledger, _, relates⟩ := run_ledger run
    refine ⟨ledger.signal.state, ?_, relates.notClosed⟩
    rw [relates.cells.signal, DrainState.stateFromRaw_raw]
  draining := by
    intro call member owns
    obtain ⟨ledger, ledgerRun, relates⟩ := run_ledger run
    obtain ⟨index, present⟩ := List.mem_iff_getElem?.mp member
    have live := (relates.stands present).counted .permit owns
    have sound := SignalledQueue.run_sound ledgerRun
    rw [relates.cells.signal, DrainState.stateFromRaw_raw]
    rcases sound.signalSound.state_of_permit live with
      draining | again | closed
    · exact Or.inl (congrArg some draining)
    · exact Or.inr (congrArg some again)
    · exact absurd closed relates.notClosed

end Pools

end BoundedMailbox

/-! ## The closable mailbox -/

namespace ClosableMailbox

variable {width : PointerWidth} {Payload Fault : Type*} {capacity : Nat}

/-- What `TerminalMailboxDrain::finish` reports when somebody else has taken
the terminal word. -/
def Call.reportsStale : Call width Payload Fault → Prop
  | .releasingTerminal (.failed .stale) => True
  | .terminalEnded (.failed .stale) => True
  | _ => False

/-- What keeps the calls of a closable mailbox from its panicking arms. -/
structure AvoidsArms
    (trace : List (PoolLabel (Op Payload) (Effect Payload Fault)))
    (pool : Pool (Shared width Payload capacity)
      (Call width Payload Fault)) : Prop where
  silent : ∀ label ∈ trace, label.effect? ≠ some .panicked
  calm : ∀ call ∈ pool.calls, call ≠ .panicked
  /-- Every cell holds a value that decodes. -/
  decodes : (DrainSignal.stateFromRaw pool.shared.signal).isSome ∧
    (IngressGate.stateFromRaw pool.shared.producerGate).isSome ∧
    (IngressGate.stateFromRaw pool.shared.normalDrainGate).isSome ∧
    pool.shared.terminalState ∈
      [normal, terminalPending, terminalActive, terminalClosed]
  /-- A request of a producer is never one over a closed signal. -/
  producing : ∀ call ∈ pool.calls, call.holds .producer = true →
    DrainSignal.stateFromRaw pool.shared.signal ≠ some .closed
  /-- A request under a drain is one over a draining signal. -/
  draining : ∀ call ∈ pool.calls, call.holds (.work .permit) = true →
    DrainSignal.stateFromRaw pool.shared.signal = some .draining ∨
    DrainSignal.stateFromRaw pool.shared.signal = some .drainingWithPending
  /-- An attempt to seal the normal gate comes after its close. -/
  sealing : ∀ point, .sealingNormal point ∈ pool.calls →
    IngressGate.stateFromRaw pool.shared.normalDrainGate ≠ some .opened
  /-- The terminal word is its owner's. -/
  owned : ∀ call ∈ pool.calls, call.ownsTerminal = true →
    pool.shared.terminalState = terminalActive
  neverStale : ∀ call ∈ pool.calls, ¬call.reportsStale

section Pools

variable {trace : List (PoolLabel (Op Payload) (Effect Payload Fault))}
  {pool next : Pool (Shared width Payload capacity)
    (Call width Payload Fault)}
  {ledger : MailboxLedger Payload capacity}

/-- No access panics. -/
theorem step_silent {label : PoolLabel (Op Payload) (Effect Payload Fault)}
    (run : (system width Payload Fault capacity).Run trace pool)
    (moved : (system width Payload Fault capacity).step pool label next) :
    label.effect? ≠ some .panicked := by
  obtain ⟨ledger, _, sound, relates⟩ := run_ledger run
  cases Machine.step_cases moved with
  | invoked op => exact nofun
  | stepped index choice call shared after effect present accessed =>
      intro panics
      have follows := step_follows sound relates.cells
        (relates.stands present) accessed
      cases panics
      exact follows

theorem Shows.signal_decodes (relates : Shows pool ledger) :
    DrainSignal.stateFromRaw pool.shared.signal =
      some ledger.work.signal.state := by
  rw [relates.cells.signal, DrainState.stateFromRaw_raw]

theorem Shows.producer_decodes (relates : Shows pool ledger)
    (sound : ledger.Sound (IngressGate.reservationLimit width)) :
    IngressGate.stateFromRaw pool.shared.producerGate =
      some ledger.producer.phase := by
  rw [relates.cells.producerGate]
  exact IngressGate.stateFromRaw_encode sound.producerSound.fits

theorem Shows.normal_decodes (relates : Shows pool ledger)
    (sound : ledger.Sound (IngressGate.reservationLimit width)) :
    IngressGate.stateFromRaw pool.shared.normalDrainGate =
      some ledger.normal.phase := by
  rw [relates.cells.normalDrainGate]
  exact IngressGate.stateFromRaw_encode sound.normalSound.fits

theorem Shows.terminal_owned (relates : Shows pool ledger)
    {index : Nat} {call : Call width Payload Fault}
    (present : pool.calls[index]? = some call)
    (owns : call.ownsTerminal = true) :
    pool.shared.terminalState = terminalActive := by
  rw [ownsTerminal_eq] at owns
  have held := (relates.stands present).counted .terminal owns
  have active : ledger.terminal = .active := by
    by_contra free
    rw [MailboxLedger.held, if_neg free] at held
    exact Nat.lt_irrefl 0 held
  rw [relates.cells.terminalState, active]
  rfl

/-- An access reports a stale owner only where the terminal word is not the
owner's. -/
theorem step_neverStale {shared left : Shared width Payload capacity}
    {choice : Choice Fault} {call after : Call width Payload Fault}
    {effect : Effect Payload Fault} (fresh : ¬call.reportsStale)
    (owned : call.ownsTerminal = true → shared.terminalState = terminalActive)
    (accessed : step shared choice call = some (left, after, effect)) :
    ¬after.reportsStale := by
  have moves : Moves call effect after := step_moves accessed
  cases moves with
  | stale =>
      have active := owned rfl
      cases choice <;> simp [step, active] at accessed
  | released result | unowned result =>
      cases result with
      | failed error => cases error <;> exact fresh
      | _ => exact id
  | settled ending point after => cases ending <;> exact id
  | observed observer load state => cases observer <;> exact id
  | _ => exact id

theorem run_neverStale
    (run : (system width Payload Fault capacity).Run trace pool) :
    ∀ (index : Nat) (call : Call width Payload Fault),
      pool.calls[index]? = some call → ¬call.reportsStale := by
  apply run.invariant
    (fun _ pool => ∀ (index : Nat) (call : Call width Payload Fault),
      pool.calls[index]? = some call → ¬call.reportsStale)
  · intro pool starts index call present
    rw [starts.2] at present
    cases present
  · intro trace pool label next earlier fresh moved
    obtain ⟨ledger, _, _, relates⟩ := run_ledger earlier
    cases Machine.step_cases moved with
    | invoked op =>
        apply forall_append_single fresh
        cases op <;> exact id
    | stepped index choice call shared after effect present accessed =>
        apply forall_set (fun other call _ => fresh other call)
        exact step_neverStale (fresh index call present)
          (relates.terminal_owned present) accessed

theorem run_avoids
    (run : (system width Payload Fault capacity).Run trace pool) :
    AvoidsArms trace pool := by
  obtain ⟨ledger, _, sound, relates⟩ := run_ledger run
  have terminal : pool.shared.terminalState ∈
      [normal, terminalPending, terminalActive, terminalClosed] := by
    rw [relates.cells.terminalState]
    cases ledger.terminal <;> decide
  refine
    { silent := run_labels (fun earlier moved => step_silent earlier moved) run
      calm := ?_
      decodes := ⟨?_, ?_, ?_, terminal⟩
      producing := ?_
      draining := ?_
      sealing := ?_
      owned := ?_
      neverStale := ?_ }
  · intro call member
    obtain ⟨index, present⟩ := List.mem_iff_getElem?.mp member
    exact run_not_panicked run index call present
  · rw [relates.signal_decodes]
    rfl
  · rw [relates.producer_decodes sound]
    rfl
  · rw [relates.normal_decodes sound]
    rfl
  · intro call member produces
    obtain ⟨index, present⟩ := List.mem_iff_getElem?.mp member
    have live := (relates.stands present).counted .producer produces
    rw [relates.signal_decodes, ne_eq, Option.some_inj]
    exact sound.not_closed_of_producer live
  · intro call member owns
    obtain ⟨index, present⟩ := List.mem_iff_getElem?.mp member
    have live : 0 < ledger.work.signal.permits :=
      (relates.stands present).counted (.work .permit) owns
    have admitted := Nat.lt_of_lt_of_le live sound.permitsLe
    rw [relates.signal_decodes]
    rcases sound.workSound.signalSound.state_of_permit live with
      draining | again | closed
    · exact Or.inl (congrArg some draining)
    · exact Or.inr (congrArg some again)
    · exact absurd closed (sound.not_closed_of_admission admitted)
  · intro point member
    obtain ⟨index, present⟩ := List.mem_iff_getElem?.mp member
    have left := (relates.knows index _ present).2
    rw [relates.normal_decodes sound, ne_eq, Option.some_inj]
    exact left
  · intro call member owns
    obtain ⟨index, present⟩ := List.mem_iff_getElem?.mp member
    exact relates.terminal_owned present owns
  · intro call member
    obtain ⟨index, present⟩ := List.mem_iff_getElem?.mp member
    exact run_neverStale run index call present

end Pools

end ClosableMailbox

theorem run_avoidsArms (width : PointerWidth) (Payload Fault : Type*)
    (capacity : Nat) :
    (∀ {trace pool},
      (BoundedMailbox.system Payload capacity).Run trace pool →
      BoundedMailbox.AvoidsArms trace pool) ∧
    (∀ {trace pool},
      (ClosableMailbox.system width Payload Fault capacity).Run trace pool →
      ClosableMailbox.AvoidsArms trace pool) :=
  ⟨BoundedMailbox.run_avoids, ClosableMailbox.run_avoids⟩

theorem dropOverBacklog_avoidsArms :
    (∃ pool trace,
      (BoundedMailbox.machine Nat 2).execAll ⟨BoundedMailbox.new, []⟩
        BoundedMailbox.dropOverBacklog = some (pool, trace) ∧
      BoundedMailbox.AvoidsArms trace pool) ∧
    (∃ pool trace,
      (ClosableMailbox.machine .sixtyFour Nat Unit 2).execAll
        ⟨ClosableMailbox.new, []⟩ ClosableMailbox.dropOverBacklog =
        some (pool, trace) ∧
      ClosableMailbox.AvoidsArms trace pool) := by
  constructor
  · obtain ⟨pool, trace, executed, run⟩ :=
      (BoundedMailbox.machine Nat 2).exists_run_of_execAll
        (fun shared => shared = BoundedMailbox.new)
        BoundedMailbox.dropOverBacklog rfl (by decide)
    exact ⟨pool, trace, executed,
      (run_avoidsArms .sixtyFour Nat Unit 2).1 run⟩
  · obtain ⟨pool, trace, executed, run⟩ :=
      (ClosableMailbox.machine .sixtyFour Nat Unit 2).exists_run_of_execAll
        (fun shared => shared = ClosableMailbox.new)
        ClosableMailbox.dropOverBacklog rfl (by decide)
    exact ⟨pool, trace, executed,
      (run_avoidsArms .sixtyFour Nat Unit 2).2 run⟩

end RustJsi.Runtime
