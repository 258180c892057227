import RustJsi.Runtime.Mailbox

/-!
# The bounded mailbox follows its signalled queue

Every access of a call on a `BoundedMailbox` is a step of the abstract
signalled queue or leaves it alone, so no payload is ever stranded.
-/

namespace RustJsi.Runtime

open Interleaving

namespace BoundedMailbox

open SignalledQueue (Stake)

variable {Payload : Type*} {capacity : Nat}

/-- The cells show the abstract queue. -/
structure Shared.Shows (shared : Shared Payload capacity)
    (ledger : SignalledQueue Payload capacity) : Prop where
  signal : shared.signal = ledger.signal.state.raw
  queue : shared.queue = ledger.queue

/-- What the other calls leave to one call: its own shares are among those
held, and a permit it has not looked with is one nobody has looked with. -/
structure Stands (ledger : SignalledQueue Payload capacity)
    (call : Call Payload) : Prop where
  counted : ∀ stake, call.holds stake = true → 0 < ledger.held stake
  looking : call.holds .permit = true → call.holds .concluded = false →
    ledger.concluded < ledger.signal.permits

/-- How an access of a call relates to the abstract queue. -/
def Follows (ledger : SignalledQueue Payload capacity)
    (before : Call Payload) :
    Shared Payload capacity × Call Payload × Effect Payload → Prop
  | (shared, after, .quiet) =>
      shared.Shows ledger ∧
      ∀ stake, after.holds stake = before.holds stake
  | (_, _, .panicked) => False
  | (shared, after, .acted event) =>
      event.closes = false ∧
      ∃ next, SignalledQueue.Step ledger event next ∧ shared.Shows next ∧
        ∀ stake, next.held stake + (before.holds stake).toNat =
          ledger.held stake + (after.holds stake).toNat

section Accesses

variable {shared : Shared Payload capacity}
  {ledger : SignalledQueue Payload capacity}

private theorem request_follows
    (shows' : shared.Shows ledger)
    (notClosed : ledger.signal.state ≠ .closed) {point : LoopPoint UInt8}
    (stands : Stands ledger (.requesting point)) (spurious : Bool) :
    Follows ledger (.requesting point)
      (runLoop DrainSignal.requestDecision spurious shared.signal point
        (fun signal => { shared with signal })
        (fun point => (.requesting point, .quiet))
        afterRequest (.panicked, .panicked)) := by
  have pushed : 0 < ledger.publishing := stands.counted .publishing rfl
  have committed :=
    DrainSignal.requestDecision_commit ledger.signal.state
  rw [shows'.signal]
  refine runLoop_of_commit (Follows ledger (.requesting point))
    committed ?_ ?_
  · intro _
    exact ⟨⟨rfl, shows'.queue⟩, fun stake => by cases stake <;> rfl⟩
  · have requested := SignalLedger.Step.request ledger.signal
    have answered : mailboxEnqueue ledger.signal.state.request.2 ≠ none := by
      cases held : ledger.signal.state <;>
        simp_all [DrainState.request, mailboxEnqueue]
    cases outcome : mailboxEnqueue ledger.signal.state.request.2 with
    | none => exact absurd outcome answered
    | some result =>
        rw [afterRequest, outcome]
        refine ⟨rfl, _, .publish pushed requested, ⟨rfl, shows'.queue⟩, ?_⟩
        intro stake
        cases stake with
        | permit => rfl
        | concluded => rfl
        | publishing =>
            simp only [SignalledQueue.held, Call.holds, Bool.toNat_true,
              Bool.toNat_false]
            omega

private theorem acquire_follows (shows' : shared.Shows ledger)
    (notClosed : ledger.signal.state ≠ .closed) (point : LoopPoint UInt8)
    (spurious : Bool) :
    Follows ledger (.acquiring point)
      (runLoop DrainSignal.acquireDecision spurious shared.signal point
        (fun signal => { shared with signal })
        (fun point => (.acquiring point, .quiet))
        afterAcquire (.panicked, .panicked)) := by
  have committed :=
    DrainSignal.acquireDecision_commit ledger.signal.state
  rw [shows'.signal]
  refine runLoop_of_commit (Follows ledger (.acquiring point))
    committed ?_ ?_
  · intro _
    exact ⟨⟨rfl, shows'.queue⟩, fun stake => by cases stake <;> rfl⟩
  · cases held : ledger.signal.state with
    | closed => exact absurd held notClosed
    | pending =>
        refine ⟨rfl, _, .acquire (.acquire _ held), ⟨rfl, shows'.queue⟩, ?_⟩
        intro stake
        cases stake <;> rfl
    | idle =>
        have refused := SignalLedger.Step.refuse ledger.signal (by simp [held])
        rw [held] at refused
        refine ⟨rfl, _, .refuse refused, ⟨?_, shows'.queue⟩, ?_⟩
        · simp [held, DrainState.acquire]
        · intro stake
          cases stake <;> rfl
    | draining =>
        have refused := SignalLedger.Step.refuse ledger.signal (by simp [held])
        rw [held] at refused
        refine ⟨rfl, _, .refuse refused, ⟨?_, shows'.queue⟩, ?_⟩
        · simp [held, DrainState.acquire]
        · intro stake
          cases stake <;> rfl
    | drainingWithPending =>
        have refused := SignalLedger.Step.refuse ledger.signal (by simp [held])
        rw [held] at refused
        refine ⟨rfl, _, .refuse refused, ⟨?_, shows'.queue⟩, ?_⟩
        · simp [held, DrainState.acquire]
        · intro stake
          cases stake <;> rfl

private theorem preserve_follows (sound : ledger.Sound)
    (shows' : shared.Shows ledger)
    (notClosed : ledger.signal.state ≠ .closed) {dropped : Bool}
    {point : LoopPoint UInt8}
    (stands : Stands ledger (.preserving dropped point)) (spurious : Bool) :
    Follows ledger (.preserving dropped point)
      (runLoop DrainSignal.requestDecision spurious shared.signal point
        (fun signal => { shared with signal })
        (fun point => (.preserving dropped point, .quiet))
        (afterPreserve dropped) (.panicked, .panicked)) := by
  have looking := stands.looking rfl rfl
  have committed :=
    DrainSignal.requestDecision_commit ledger.signal.state
  rw [shows'.signal]
  refine runLoop_of_commit (Follows ledger (.preserving dropped point))
    committed ?_ ?_
  · intro _
    exact ⟨⟨rfl, shows'.queue⟩, fun stake => by cases stake <;> rfl⟩
  · have requested := SignalLedger.Step.request ledger.signal
    have coalesced : ledger.signal.state.request.2 = .coalesced := by
      rcases sound.signalSound.state_of_permit (by omega) with
        draining | again | closed
      · rw [draining]
        rfl
      · rw [again]
        rfl
      · exact absurd closed notClosed
    rw [coalesced] at requested ⊢
    refine ⟨rfl, _, .preserve looking requested, ⟨rfl, shows'.queue⟩, ?_⟩
    intro stake
    cases stake <;> rfl

private theorem finish_follows (shows' : shared.Shows ledger)
    {dropped : Bool} {point : LoopPoint UInt8}
    (stands : Stands ledger (.finishing dropped point)) (spurious : Bool) :
    Follows ledger (.finishing dropped point)
      (runLoop DrainSignal.finishDecision spurious shared.signal point
        (fun signal => { shared with signal })
        (fun point => (.finishing dropped point, .quiet))
        (fun after =>
          (.finished dropped after, .acted (.signal (.settled after))))
        (.panicked, .panicked)) := by
  have live : 0 < ledger.signal.permits := stands.counted .permit rfl
  have looked : 0 < ledger.concluded := stands.counted .concluded rfl
  have committed :=
    DrainSignal.finishDecision_commit ledger.signal.state
  rw [shows'.signal]
  refine runLoop_of_commit (Follows ledger (.finishing dropped point))
    committed ?_ ?_
  · intro _
    exact ⟨⟨rfl, shows'.queue⟩, fun stake => by cases stake <;> rfl⟩
  · refine ⟨rfl, _, .settle looked (.settle _ live), ⟨rfl, shows'.queue⟩, ?_⟩
    intro stake
    cases stake with
    | publishing => rfl
    | permit =>
        simp only [SignalledQueue.held, Call.holds, Bool.toNat_true,
          Bool.toNat_false]
        omega
    | concluded =>
        simp only [SignalledQueue.held, Call.holds, Bool.toNat_true,
          Bool.toNat_false]
        omega

/-- Every access of a call that stands in the ledger follows it. -/
theorem step_follows (sound : ledger.Sound) (shows' : shared.Shows ledger)
    (notClosed : ledger.signal.state ≠ .closed) {choice : Choice}
    {before : Call Payload}
    {result : Shared Payload capacity × Call Payload × Effect Payload}
    (stands : Stands ledger before)
    (stepped : step shared choice before = some result) :
    Follows ledger before result := by
  have still : ∀ {after : Call Payload},
      (∀ stake, after.holds stake = before.holds stake) →
      Follows ledger before (shared, after, .quiet) :=
    fun same => ⟨shows', same⟩
  unfold step at stepped
  split at stepped
  · split at stepped
    · rename_i value queue pushed
      cases stepped
      rw [shows'.queue] at pushed
      refine ⟨rfl, _, .push pushed, ⟨shows'.signal, rfl⟩, ?_⟩
      intro stake
      cases stake <;> rfl
    · cases stepped
      exact still fun stake => by cases stake <;> rfl
  · cases stepped
    exact request_follows shows' notClosed stands _
  · cases stepped
    exact acquire_follows shows' notClosed _ _
  · split at stepped
    · rename_i value queue popped
      cases stepped
      rw [shows'.queue] at popped
      exact ⟨rfl, _, .pop popped, ⟨shows'.signal, rfl⟩, fun _ => rfl⟩
    · cases stepped
      exact still fun stake => by cases stake <;> rfl
  · cases stepped
    exact still fun stake => by cases stake <;> rfl
  · cases stepped
    exact still fun stake => by cases stake <;> rfl
  · split at stepped
    · rename_i dropped empty
      cases stepped
      rw [shows'.queue, ArrayQueue.isEmpty_iff] at empty
      refine ⟨rfl, _, .conclude (stands.looking rfl rfl) empty,
        ⟨shows'.signal, shows'.queue⟩, ?_⟩
      intro stake
      cases stake <;> rfl
    · cases stepped
      exact still fun stake => by cases stake <;> rfl
  · cases stepped
    exact preserve_follows sound shows' notClosed stands _
  · cases stepped
    exact finish_follows shows' stands _
  · rw [shows'.signal, DrainState.stateFromRaw_raw] at stepped
    cases stepped
    exact still fun stake => by cases stake <;> rfl
  · cases stepped
    exact still fun stake => by cases stake <;> rfl
  · cases stepped
    exact still fun stake => by cases stake <;> rfl
  · cases stepped

end Accesses

/-- The event of the abstract queue a label performs, if it performs one. -/
def acted? : PoolLabel (Op Payload) (Effect Payload) →
    Option (QueueEvent Payload)
  | .stepped _ (.acted event) => some event
  | _ => none

/-- The pool shows the ledger: its cells do, the calls that hold a share are
the shares held, and the signal of a mailbox without close is not closed. -/
structure Shows (pool : Pool (Shared Payload capacity) (Call Payload))
    (ledger : SignalledQueue Payload capacity) : Prop where
  cells : pool.shared.Shows ledger
  shares : ∀ stake, pool.calls.countP (Call.holds stake) = ledger.held stake
  notClosed : ledger.signal.state ≠ .closed

/-- Only the owner of a permit looks at the queue. -/
private theorem concluded_owns (call : Call Payload)
    (looked : call.holds .concluded = true) : call.holds .permit = true := by
  cases call <;> first
    | rfl
    | cases looked

theorem Shows.stands {pool : Pool (Shared Payload capacity) (Call Payload)}
    {ledger : SignalledQueue Payload capacity} (relates : Shows pool ledger)
    {index : Nat} {call : Call Payload}
    (present : pool.calls[index]? = some call) : Stands ledger call where
  counted := by
    intro stake holds
    rw [← relates.shares]
    exact countP_pos_of_present _ present holds
  looking := by
    intro owns notLooked
    have fewer := countP_lt_of_present
      concluded_owns present owns notLooked
    rw [relates.shares, relates.shares] at fewer
    exact fewer

private theorem start_holds (op : Op Payload) (stake : Stake) :
    (start op).holds stake = false := by
  cases op <;> cases stake <;> rfl

theorem shows_step {pool next : Pool (Shared Payload capacity) (Call Payload)}
    {ledger : SignalledQueue Payload capacity}
    {label : PoolLabel (Op Payload) (Effect Payload)}
    (sound : ledger.Sound) (relates : Shows pool ledger)
    (moved : (system Payload capacity).step pool label next) :
    (SignalledQueue.system Payload capacity).Answers ledger (Shows next)
      (acted? label) := by
  cases Machine.step_cases moved with
  | invoked op =>
      refine ⟨relates.cells, ?_, relates.notClosed⟩
      intro stake
      rw [countP_append_single, relates.shares]
      exact congrArg (ledger.held stake + Bool.toNat ·) (start_holds op stake)
  | stepped index choice call shared after effect present accessed =>
      have follows := step_follows sound relates.cells relates.notClosed
        (relates.stands present) accessed
      have counted := fun stake =>
        countP_set_add (Call.holds stake) after present
      cases effect with
      | quiet =>
          obtain ⟨cells, same⟩ := follows
          refine ⟨cells, ?_, relates.notClosed⟩
          intro stake
          have moved := counted stake
          rw [same, relates.shares] at moved
          exact Nat.add_right_cancel moved
      | panicked => exact follows.elim
      | acted event =>
          obtain ⟨noClose, moved, step, cells, shares⟩ := follows
          refine ⟨moved, step, cells, ?_,
            SignalledQueue.step_notClosed step relates.notClosed noClose⟩
          intro stake
          have held := counted stake
          have owed := shares stake
          rw [relates.shares] at held
          exact Nat.add_right_cancel (held.trans owed.symm)

def simulation (Payload : Type*) (capacity : Nat) :
    Simulation (system Payload capacity)
      (SignalledQueue.system Payload capacity) acted? where
  related := Shows
  start := by
    rintro ⟨shared, calls⟩ ⟨rfl, rfl⟩
    refine ⟨SignalledQueue.fresh, rfl, ⟨rfl, rfl⟩, ?_, nofun⟩
    intro stake
    cases stake <;> rfl
  advance := by
    intro _ pool ledger label next _ ledgerRun relates moved
    exact shows_step (SignalledQueue.run_sound ledgerRun) relates moved

theorem run_ledger
    {trace : List (PoolLabel (Op Payload) (Effect Payload))}
    {pool : Pool (Shared Payload capacity) (Call Payload)}
    (run : (system Payload capacity).Run trace pool) :
    ∃ ledger, (SignalledQueue.system Payload capacity).Run
        (trace.filterMap acted?) ledger ∧
      Shows pool ledger :=
  (simulation Payload capacity).run run

/-- No producer of the pool is between its push and its request. -/
def Published (pool : Pool (Shared Payload capacity) (Call Payload)) : Prop :=
  ∀ call ∈ pool.calls, call.holds .publishing = false

/-- Waiting payloads that every producer has announced keep a normal drain
pending, or active with an owner of its own. -/
def KeepsAwake (pool : Pool (Shared Payload capacity) (Call Payload)) : Prop :=
  pool.shared.queue.items ≠ [] → Published pool →
  ∃ state, DrainSignal.stateFromRaw pool.shared.signal = some state ∧
    (state = .pending ∨
      ((state = .draining ∨ state = .drainingWithPending) ∧
        ∃ call ∈ pool.calls, call.holds .permit = true))

theorem Shows.keepsAwake
    {pool : Pool (Shared Payload capacity) (Call Payload)}
    {ledger : SignalledQueue Payload capacity} (relates : Shows pool ledger)
    (sound : ledger.Sound) : KeepsAwake pool := by
  intro waiting published
  have nobody : ledger.publishing = 0 := by
    have counted := relates.shares .publishing
    rw [List.countP_eq_zero.mpr fun call member => by
      simp [published call member]] at counted
    exact counted.symm
  have owner : 0 < ledger.signal.permits →
      ∃ call ∈ pool.calls, call.holds .permit = true := by
    intro live
    apply List.countP_pos_iff.mp
    rw [relates.shares]
    exact live
  rw [relates.cells.queue] at waiting
  refine ⟨ledger.signal.state, ?_, ?_⟩
  · rw [relates.cells.signal, DrainState.stateFromRaw_raw]
  · rcases sound.awake waiting nobody with
      pending | draining | again | closed
    · exact Or.inl pending
    · have live := sound.signalSound.permit_of_draining (Or.inl draining)
      exact Or.inr ⟨Or.inl draining, owner live⟩
    · have live := sound.signalSound.permit_of_draining (Or.inr again)
      exact Or.inr ⟨Or.inr again, owner live⟩
    · exact absurd closed relates.notClosed

end BoundedMailbox

end RustJsi.Runtime
