import RustJsi.Runtime.MailboxFlow
import RustJsi.Runtime.MailboxSimulation

/-!
# Payloads are conserved

The pushes of a run, in their order, are its pops followed by what is queued.
Each push belongs to one accepted enqueue and each pop to one drain, so every
accepted payload is in exactly one place; a rejected one never entered the
queue and is back in the hands of its caller.
-/

namespace RustJsi.Runtime

open Interleaving

/-- The payload an enqueue error hands back. -/
def ClosableMailboxEnqueueError.value {Payload : Type*} :
    ClosableMailboxEnqueueError Payload → Payload
  | .full value => value
  | .closed value => value

namespace ClosableMailbox

variable {width : PointerWidth} {Payload Fault : Type*} {capacity : Nat}

/-- The payload an operation offers to the queue. -/
def Op.offers? : Op Payload → Option Payload
  | .enqueue value => some value
  | .enqueueAndPost value => some value
  | _ => none

def Effect.pushed? : Effect Payload Fault → Option Payload
  | .acted (.work (.pushed value)) => some value
  | _ => none

def Effect.popped? : Effect Payload Fault → Option Payload
  | .acted (.work (.popped value)) => some value
  | _ => none

/-- What a label does to one payload, with the call that does it. -/
def movedBy? (moved? : Effect Payload Fault → Option Payload) :
    PoolLabel (Op Payload) (Effect Payload Fault) → Option (Nat × Payload)
  | .stepped call effect => (moved? effect).map fun value => (call, value)
  | .invoked _ _ => none

/-- The pushes of a trace, each with the call that made it. -/
def pushes (trace : List (PoolLabel (Op Payload) (Effect Payload Fault))) :
    List (Nat × Payload) :=
  trace.filterMap (movedBy? Effect.pushed?)

/-- The pops of a trace, each with the call that made it. -/
def pops (trace : List (PoolLabel (Op Payload) (Effect Payload Fault))) :
    List (Nat × Payload) :=
  trace.filterMap (movedBy? Effect.popped?)

/-- The payloads one call pushed. -/
def pushedBy (index : Nat)
    (trace : List (PoolLabel (Op Payload) (Effect Payload Fault))) :
    List Payload :=
  ((pushes trace).filter fun push => push.1 = index).map Prod.snd

theorem pushes_payloads
    (trace : List (PoolLabel (Op Payload) (Effect Payload Fault))) :
    (pushes trace).map Prod.snd =
      ((actions trace).filterMap MailboxAction.work?).filterMap
        QueueEvent.pushed? := by
  simp only [pushes, actions, List.map_filterMap, List.filterMap_filterMap]
  congr 1
  funext label
  rcases label with ⟨call, op⟩ | ⟨call, effect⟩
  · rfl
  · rcases effect with _ | action | ⟨callback, outcome⟩ | _
    · rfl
    · rcases action with event | event | event | _ | _ | _
      · rfl
      · rfl
      · cases event <;> rfl
      all_goals rfl
    all_goals rfl

theorem pops_payloads
    (trace : List (PoolLabel (Op Payload) (Effect Payload Fault))) :
    (pops trace).map Prod.snd =
      ((actions trace).filterMap MailboxAction.work?).filterMap
        QueueEvent.popped? := by
  simp only [pops, actions, List.map_filterMap, List.filterMap_filterMap]
  congr 1
  funext label
  rcases label with ⟨call, op⟩ | ⟨call, effect⟩
  · rfl
  · rcases effect with _ | action | ⟨callback, outcome⟩ | _
    · rfl
    · rcases action with event | event | event | _ | _ | _
      · rfl
      · rfl
      · cases event <;> rfl
      all_goals rfl
    all_goals rfl

theorem run_fifo
    {trace : List (PoolLabel (Op Payload) (Effect Payload Fault))}
    {pool : Pool (Shared width Payload capacity) (Call width Payload Fault)}
    (run : (system width Payload Fault capacity).Run trace pool) :
    (pushes trace).map Prod.snd =
      (pops trace).map Prod.snd ++ pool.shared.queue.items := by
  obtain ⟨ledger, ledgerRun, _, relates⟩ := run_ledger run
  obtain ⟨work, workRun, workEq⟩ :=
    (MailboxLedger.workSimulation Payload capacity _).run ledgerRun
  have sameWork : ledger.work = work := workEq
  rw [pushes_payloads, pops_payloads, relates.cells.queue, sameWork]
  exact SignalledQueue.run_conserves workRun

/-- What a returning enqueue says of the payload it offered. -/
def Settles (op : Op Payload) (pushed : List Payload) :
    EnqueueResult Payload Fault → Prop
  | some (.error (.enqueue error)) =>
      op.offers? = some error.value ∧ pushed = []
  | _ => ∃ value, op.offers? = some value ∧ pushed = [value]

/-- Which payloads a call has pushed, from where it stands. -/
def Call.Pushed (op : Op Payload) (pushed : List Payload) :
    Call width Payload Fault → Prop
  | .reservingProducer _ value _ => op.offers? = some value ∧ pushed = []
  | .pushing _ value => op.offers? = some value ∧ pushed = []
  | .publishing _ _ => ∃ value, op.offers? = some value ∧ pushed = [value]
  | .posting => ∃ value, op.offers? = some value ∧ pushed = [value]
  | .releasingProducer result => Settles op pushed result
  | .enqueued result => Settles op pushed result
  | .panicked => True
  | _ => op.offers? = none ∧ pushed = []

theorem Moves.keeps_pushed {op : Op Payload} {earlier : List Payload}
    {before after : Call width Payload Fault} {effect : Effect Payload Fault}
    (moves : Moves before effect after) (history : before.Pushed op earlier) :
    after.Pushed op (earlier ++ effect.pushed?.toList) := by
  have same : effect.pushed? = none →
      earlier ++ effect.pushed?.toList = earlier := by
    intro silent
    rw [silent]
    exact List.append_nil earlier
  cases moves with
  | pushed posts value =>
      obtain ⟨offers, rfl⟩ := history
      exact ⟨value, offers, rfl⟩
  | posted outcome =>
      rw [same rfl]
      cases outcome <;> exact history
  | settled ending point after =>
      rw [same rfl]
      cases ending <;> exact history
  | observed observer load state =>
      rw [same rfl]
      cases observer <;> exact history
  | panicked => trivial
  | _ =>
      rw [same rfl]
      exact history

/-- A call has pushed nothing, or the payload its operation offered. -/
theorem Call.Pushed.offered {op : Op Payload} {pushed : List Payload}
    {call : Call width Payload Fault} (history : call.Pushed op pushed)
    (calm : call ≠ .panicked) :
    pushed = [] ∨ ∃ value, op.offers? = some value ∧ pushed = [value] := by
  have settled : ∀ {result : EnqueueResult Payload Fault},
      Settles op pushed result →
      pushed = [] ∨ ∃ value, op.offers? = some value ∧ pushed = [value] := by
    intro result settles
    unfold Settles at settles
    split at settles
    · exact Or.inl settles.2
    · exact Or.inr settles
  cases call with
  | publishing posts point => exact Or.inr history
  | posting => exact Or.inr history
  | releasingProducer result => exact settled history
  | enqueued result => exact settled history
  | panicked => exact absurd rfl calm
  | _ => exact Or.inl history.2

theorem pushedBy_eq (index : Nat)
    (trace : List (PoolLabel (Op Payload) (Effect Payload Fault))) :
    pushedBy index trace =
      (effectsOf index trace).filterMap Effect.pushed? := by
  rw [pushedBy, pushes, effectsOf, List.filter_filterMap,
    List.map_filterMap, List.filterMap_filterMap]
  congr 1
  funext label
  rcases label with ⟨call, op⟩ | ⟨call, effect⟩
  · rfl
  · by_cases own : call = index
    · cases pushed : effect.pushed? <;>
        simp [movedBy?, PoolLabel.effectOf?, own, pushed]
    · cases pushed : effect.pushed? <;>
        simp [movedBy?, PoolLabel.effectOf?, own, pushed]

/-- Every call has pushed what its operation and its standing say. -/
theorem run_pushed
    {trace : List (PoolLabel (Op Payload) (Effect Payload Fault))}
    {pool : Pool (Shared width Payload capacity) (Call width Payload Fault)}
    (run : (system width Payload Fault capacity).Run trace pool) :
    ∀ index op call, .invoked index op ∈ trace →
      pool.calls[index]? = some call →
      call.Pushed op (pushedBy index trace) := by
  intro index op call invoked present
  rw [pushedBy_eq]
  refine run_history
    (fun op effects call =>
      call.Pushed op (effects.filterMap Effect.pushed?))
    ?_ ?_ run index op call invoked present
  · intro op
    cases op <;> exact ⟨rfl, rfl⟩
  · intro op effects before shared choice next after effect history stepped
    rw [filterMap_snoc]
    exact (step_moves stepped).keeps_pushed history

/-! ## Every payload is in one place -/

/-- What holds of the payloads of a run and of the state it ends in. -/
structure ConservesPayloads
    (trace : List (PoolLabel (Op Payload) (Effect Payload Fault)))
    (pool : Pool (Shared width Payload capacity)
      (Call width Payload Fault)) : Prop where
  /-- The pushes are the pops followed by the queue, in order. -/
  fifo : (pushes trace).map Prod.snd =
    (pops trace).map Prod.snd ++ pool.shared.queue.items
  /-- A payload whose enqueue was accepted was pushed once, by its own call. -/
  accepted : ∀ (index : Nat) (op : Op Payload) outcome,
    .invoked index op ∈ trace →
    pool.calls[index]? = some (.enqueued (some (.ok outcome))) →
    ∃ value, op.offers? = some value ∧ pushedBy index trace = [value]
  postFailed : ∀ (index : Nat) (op : Op Payload) fault,
    .invoked index op ∈ trace →
    pool.calls[index]? = some (.enqueued (some (.error (.post fault)))) →
    ∃ value, op.offers? = some value ∧ pushedBy index trace = [value]
  /-- A rejected payload is handed back and was never pushed. -/
  rejected : ∀ (index : Nat) (op : Op Payload) error,
    .invoked index op ∈ trace →
    pool.calls[index]? = some (.enqueued (some (.error (.enqueue error)))) →
    op.offers? = some error.value ∧ pushedBy index trace = []
  /-- Nothing else is ever pushed. -/
  offered : ∀ (index : Nat) (op : Op Payload), .invoked index op ∈ trace →
    pushedBy index trace = [] ∨
    ∃ value, op.offers? = some value ∧ pushedBy index trace = [value]
  /-- A closed mailbox is empty and stays so. -/
  closedEmpty : pool.shared.terminalState = terminalClosed →
    ∀ later next, (system width Payload Fault capacity).Path pool later next →
      next.shared.terminalState = terminalClosed ∧
      next.shared.queue.items = []
  /-- A call that observed `Closed` observed it of such a mailbox. -/
  observedClosed : ∀ index : Nat,
    pool.calls[index]? = some (.observed .closed) →
    pool.shared.terminalState = terminalClosed

section Pools

variable {trace : List (PoolLabel (Op Payload) (Effect Payload Fault))}
  {pool : Pool (Shared width Payload capacity) (Call width Payload Fault)}

/-- Every call of a run is one that was invoked. -/
theorem run_not_panicked
    (run : (system width Payload Fault capacity).Run trace pool) :
    ∀ (index : Nat) (call : Call width Payload Fault),
      pool.calls[index]? = some call → call ≠ .panicked := by
  refine System.Run.invariant
    (fun _ pool => ∀ (index : Nat) (call : Call width Payload Fault),
      pool.calls[index]? = some call → call ≠ .panicked) ?_ ?_ run
  · rintro ⟨shared, calls⟩ ⟨_, rfl⟩ index call present
    cases present
  · intro trace pool label next earlier calm moved
    obtain ⟨ledger, _, sound, relates⟩ := run_ledger earlier
    cases Machine.step_cases moved with
    | invoked op =>
        refine forall_append_single calm ?_
        cases op <;> exact nofun
    | stepped index choice call shared after effect present accessed =>
        refine forall_set (fun other call _ => calm other call) ?_
        rintro rfl
        have follows := step_follows sound relates.cells
          (relates.stands present) accessed
        have moves : Moves call effect .panicked := step_moves accessed
        have panics : effect = .panicked := by
          generalize crashed : (Call.panicked : Call width Payload Fault) =
            after at moves
          cases moves with
          | panicked => rfl
          | settled ending point after => cases ending <;> cases crashed
          | observed observer load state => cases observer <;> cases crashed
          | _ => cases crashed
        rw [panics] at follows
        exact follows

theorem closed_iff {ledger : MailboxLedger Payload capacity}
    (relates : Shows pool ledger) :
    pool.shared.terminalState = terminalClosed ↔
      ledger.terminal = .closed := by
  rw [relates.cells.terminalState]
  cases ledger.terminal <;> decide

theorem run_closedEmpty
    (run : (system width Payload Fault capacity).Run trace pool)
    (closed : pool.shared.terminalState = terminalClosed) :
    pool.shared.queue.items = [] := by
  obtain ⟨ledger, _, sound, relates⟩ := run_ledger run
  rw [relates.cells.queue]
  exact sound.closedEmpty ((closed_iff relates).mp closed)

/-- No step reopens a closed mailbox. -/
theorem step_closed {label : PoolLabel (Op Payload) (Effect Payload Fault)}
    {next : Pool (Shared width Payload capacity) (Call width Payload Fault)}
    (run : (system width Payload Fault capacity).Run trace pool)
    (moved : (system width Payload Fault capacity).step pool label next)
    (closed : pool.shared.terminalState = terminalClosed) :
    next.shared.terminalState = terminalClosed := by
  obtain ⟨ledger, _, sound, relates⟩ := run_ledger run
  have before := (closed_iff relates).mp closed
  have answered := shows_step sound relates moved
  cases visible : acted? label with
  | none =>
      rw [visible] at answered
      exact (closed_iff answered).mpr before
  | some action =>
      rw [visible] at answered
      obtain ⟨ledger', step, nextRelates⟩ := answered
      exact (closed_iff nextRelates).mpr
        (MailboxLedger.step_keeps_closed step before)

/-- A drain pops, and nothing else does. -/
theorem Moves.popper {before after : Call width Payload Fault}
    {value : Payload}
    (moves : Moves before (.acted (.work (.popped value))) after) :
    before = .draining ∨ before = .terminal := by
  cases moves with
  | popped => exact Or.inl rfl
  | terminalPopped => exact Or.inr rfl

/-- In every interleaving the payloads are conserved in order, each accepted
one pushed once by its own call and each rejected one handed back, only drains
pop, and a closed mailbox stays empty. -/
theorem run_conservesPayloads
    (run : (system width Payload Fault capacity).Run trace pool) :
    ConservesPayloads trace pool ∧
    ∀ index value next,
      (system width Payload Fault capacity).step pool
        (.stepped index (.acted (.work (.popped value)))) next →
      pool.calls[index]? = some .draining ∨
      pool.calls[index]? = some .terminal := by
  have pushed := run_pushed run
  constructor
  · refine ⟨run_fifo run, ?_, ?_, ?_, ?_, ?_, ?_⟩
    · intro index op outcome invoked present
      exact pushed index op _ invoked present
    · intro index op fault invoked present
      exact pushed index op _ invoked present
    · intro index op error invoked present
      exact pushed index op _ invoked present
    · intro index op invoked
      have bound := (run_recorded run).invokedBound index op invoked
      have present := List.getElem?_eq_getElem bound
      have history := pushed index op _ invoked present
      exact history.offered (run_not_panicked run index _ present)
    · intro closed later next path
      have kept : next.shared.terminalState = terminalClosed := by
        refine System.Run.stable
          (fun pool => pool.shared.terminalState = terminalClosed)
          (fun _ => True) ?_ run path (fun _ _ => trivial) closed
        intro _ middle label after middleRun _ closedNow moved
        exact step_closed middleRun moved closedNow
      exact ⟨kept, run_closedEmpty (run.append path) kept⟩
    · intro index present
      obtain ⟨ledger, _, _, relates⟩ := run_ledger run
      exact (closed_iff relates).mpr (relates.knows index _ present)
  · intro index value next moved
    generalize labelEq : PoolLabel.stepped index
      (Effect.acted (MailboxAction.work (QueueEvent.popped value))) =
      label at moved
    cases Machine.step_cases moved with
    | invoked op => cases labelEq
    | stepped own choice before shared after effect present accessed =>
        cases labelEq
        rcases (step_moves accessed).popper with draining | terminal
        · exact Or.inl (draining ▸ present)
        · exact Or.inr (terminal ▸ present)

end Pools

open PoolAction Choice Op in
/-- On a mailbox of capacity one: a payload is accepted, one is handed back
because the queue is full and one because the mailbox closes; a terminal owner
takes the first and the mailbox ends closed. -/
def closeOverBacklog : List (PoolAction (Op Nat) (Choice Unit)) :=
  [invoke (enqueue 7)] ++
  List.replicate 6 (advance 0 (run false)) ++
  [invoke (enqueue 8)] ++
  List.replicate 4 (advance 1 (run false)) ++
  [invoke beginClose] ++
  List.replicate 2 (advance 2 (run false)) ++
  [invoke (enqueueAndPost 9), advance 3 (run false),
    invoke tryBeginTerminalDrain] ++
  List.replicate 11 (advance 4 (run false)) ++
  [advance 4 pop, advance 4 finish, advance 4 (run false),
    advance 4 (run false), invoke state, advance 5 (run false)]

theorem closeOverBacklog_conservesPayloads :
    ∃ pool trace,
      (machine .sixtyFour Nat Unit 1).execAll ⟨new, []⟩ closeOverBacklog =
        some (pool, trace) ∧
      ConservesPayloads trace pool ∧
      pushes trace = [(0, 7)] ∧ pops trace = [(4, 7)] ∧
      pool.shared.terminalState = terminalClosed := by
  obtain ⟨pool, trace, executed, run⟩ :=
    (machine .sixtyFour Nat Unit 1).exists_run_of_execAll
      (fun shared => shared = new) closeOverBacklog rfl (by decide)
  refine ⟨pool, trace, executed, (run_conservesPayloads run).1, ?_⟩
  have evaluated :
      ((machine .sixtyFour Nat Unit 1).execAll ⟨new, []⟩
        closeOverBacklog).map (fun result =>
          (pushes result.2, pops result.2, result.1.shared.terminalState)) =
        some ([(0, 7)], [(4, 7)], terminalClosed) := by
    decide
  simpa [executed] using evaluated

end ClosableMailbox

end RustJsi.Runtime
