import RustJsi.Runtime.SignalProtocol

/-!
# Coalescing is exact on the byte

The concurrent `DrainSignal` follows the abstract signal: its byte is always
the raw word of the ledger's state and its live permits are the ledger's.
-/

namespace RustJsi.Runtime

open Interleaving

namespace DrainSignal

/-- The operation a label decides, if it decides one. -/
def decided? : PoolLabel Op Effect → Option Event
  | .stepped _ (.decided event) => some event
  | _ => none

/-- How an access of a call that found `state` in the byte relates to the
abstract signal. -/
def Follows (state : DrainState) (before : Call) :
    UInt8 × Call × Effect → Prop
  | (word, after, .quiet) =>
      word = state.raw ∧ after.ownsPermit = before.ownsPermit
  | (_, _, .panicked) => False
  | (word, after, .decided event) =>
      ∀ others, ∃ next,
        SignalLedger.Step ⟨state, others + before.ownsPermit.toNat⟩ event
          ⟨next, others + after.ownsPermit.toNat⟩ ∧ word = next.raw

private theorem afterAcquire_follows (state : DrainState)
    (point : LoopPoint UInt8) :
    Follows state (.acquiring point)
      (state.acquire.1.raw, afterAcquire state.acquire.2) := by
  cases state with
  | pending =>
      intro others
      exact ⟨_, .acquire _ rfl, rfl⟩
  | idle =>
      intro others
      exact ⟨_, .refuse _ (by simp), rfl⟩
  | draining =>
      intro others
      exact ⟨_, .refuse _ (by simp), rfl⟩
  | drainingWithPending =>
      intro others
      exact ⟨_, .refuse _ (by simp), rfl⟩
  | closed =>
      intro others
      exact ⟨_, .refuse _ (by simp), rfl⟩

theorem step_follows {state : DrainState} {choice : Choice} {before : Call}
    {result : UInt8 × Call × Effect}
    (stepped : step state.raw choice before = some result) :
    Follows state before result := by
  unfold step at stepped
  split at stepped
  · rename_i spurious point
    cases stepped
    refine runLoop_of_commit (Follows state (.requesting point))
      (requestDecision_commit state) (fun _ => ⟨rfl, rfl⟩) ?_
    exact fun _ => ⟨_, .request _, rfl⟩
  · rename_i spurious point
    cases stepped
    exact runLoop_of_commit (Follows state (.acquiring point))
      (acquireDecision_commit state) (fun _ => ⟨rfl, rfl⟩)
      (afterAcquire_follows state point)
  · cases stepped
    exact ⟨rfl, rfl⟩
  · cases stepped
    exact ⟨rfl, rfl⟩
  · rename_i spurious dropped point
    cases stepped
    refine runLoop_of_commit
      (Follows state (.finishing dropped point))
      (finishDecision_commit state) (fun _ => ⟨rfl, rfl⟩) ?_
    exact fun _ => ⟨_, .settle _ (Nat.succ_pos _), rfl⟩
  · rename_i spurious point
    cases stepped
    refine runLoop_of_commit (Follows state (.closing point))
      (closeDecision_commit state) (fun _ => ⟨rfl, rfl⟩) ?_
    exact fun _ => ⟨_, .close _, rfl⟩
  · rw [DrainState.stateFromRaw_raw] at stepped
    cases stepped
    exact ⟨rfl, rfl⟩
  · cases stepped

/-- The pool shows the ledger: the byte is its state and the calls that own a
permit are its permits. -/
structure Shows (pool : Pool UInt8 Call) (ledger : SignalLedger) : Prop where
  word : pool.shared = ledger.state.raw
  permits : livePermits pool = ledger.permits

private theorem start_ownsPermit (op : Op) :
    (start op).ownsPermit = false := by
  cases op <;> rfl

theorem shows_step {pool next : Pool UInt8 Call} {ledger : SignalLedger}
    {label : PoolLabel Op Effect}
    (relates : Shows pool ledger) (moved : system.step pool label next) :
    SignalLedger.system.Answers ledger (Shows next) (decided? label) := by
  obtain ⟨state, permits⟩ := ledger
  obtain ⟨wordEq, permitsEq⟩ := relates
  simp only at wordEq permitsEq
  cases Machine.step_cases moved with
  | invoked op =>
      refine ⟨wordEq, ?_⟩
      simp [livePermits, machine, start_ownsPermit, ← permitsEq]
  | stepped index choice call shared after effect present accessed =>
      rw [wordEq] at accessed
      have follows := step_follows accessed
      have counted :=
        countP_set_add Call.ownsPermit after present
      simp only [livePermits] at permitsEq
      cases effect with
      | quiet =>
          obtain ⟨sharedEq, sameOwner⟩ := follows
          refine ⟨sharedEq, ?_⟩
          simp only [livePermits]
          rw [sameOwner] at counted
          omega
      | panicked =>
          exact follows.elim
      | decided event =>
          obtain ⟨state', commits, sharedEq⟩ :=
            follows (permits - call.ownsPermit.toNat)
          have enough : call.ownsPermit.toNat ≤ permits := by
            rw [← permitsEq]
            cases owns : call.ownsPermit with
            | false => exact Nat.zero_le _
            | true => exact countP_pos_of_present _ present owns
          rw [Nat.sub_add_cancel enough] at commits
          refine ⟨_, commits, sharedEq, ?_⟩
          simp only [livePermits]
          omega

def simulation : Simulation system SignalLedger.system decided? where
  related := Shows
  start := by
    rintro ⟨word, calls⟩ ⟨rfl, rfl⟩
    exact ⟨SignalLedger.fresh, rfl, rfl, rfl⟩
  advance := by
    intro _ pool ledger label next _ _ relates moved
    exact shows_step relates moved

/-- The operations a trace decided, in order. -/
def events (trace : List (PoolLabel Op Effect)) : List Event :=
  trace.filterMap decided?

@[simp]
theorem events_append (before after : List (PoolLabel Op Effect)) :
    events (before ++ after) = events before ++ events after :=
  List.filterMap_append

@[simp]
theorem events_cons_decided (call : Nat) (event : Event)
    (after : List (PoolLabel Op Effect)) :
    events (.stepped call (.decided event) :: after) =
      event :: events after := rfl

theorem run_ledger {trace : List (PoolLabel Op Effect)}
    {pool : Pool UInt8 Call} (run : system.Run trace pool) :
    ∃ ledger, SignalLedger.system.Run (events trace) ledger ∧
      Shows pool ledger :=
  simulation.run run

theorem Shows.state {pool : Pool UInt8 Call} {ledger : SignalLedger}
    (relates : Shows pool ledger) :
    stateFromRaw pool.shared = some ledger.state := by
  rw [relates.word, DrainState.stateFromRaw_raw]

/-- The event a call has taken part in last: its result, or the acquisition
of the permit it owns. -/
def Call.reported : Call → Option Event
  | .requested result => some (.requested result)
  | .refused result => some (.refused result)
  | .holding => some .acquired
  | .finishing _ _ => some .acquired
  | .finished _ after => some (.settled after)
  | .closed result => some (.closed result)
  | _ => none

private theorem start_reported (op : Op) : (start op).reported = none := by
  cases op <;> rfl

/-- An access leaves the report alone or makes the event it decides the
report. -/
def ReportsEffect (before : Call) : UInt8 × Call × Effect → Prop
  | (_, after, .decided event) => after.reported = some event
  | (_, after, _) =>
      after.reported = none ∨ after.reported = before.reported

theorem step_reports {word : UInt8} {choice : Choice} {before : Call}
    {result : UInt8 × Call × Effect}
    (stepped : step word choice before = some result) :
    ReportsEffect before result := by
  unfold step at stepped
  split at stepped
  · cases stepped
    exact runLoop_induction (ReportsEffect _)
      (fun _ => Or.inl rfl) (fun _ _ _ => rfl) (fun _ => Or.inl rfl)
  · cases stepped
    refine runLoop_induction (ReportsEffect _)
      (fun _ => Or.inl rfl) ?_ (fun _ => Or.inl rfl)
    intro _ result _
    cases result <;> rfl
  · cases stepped
    exact Or.inr rfl
  · cases stepped
    exact Or.inr rfl
  · cases stepped
    exact runLoop_induction (ReportsEffect _)
      (fun _ => Or.inr rfl) (fun _ _ _ => rfl) (fun _ => Or.inl rfl)
  · cases stepped
    exact runLoop_induction (ReportsEffect _)
      (fun _ => Or.inl rfl) (fun _ _ _ => rfl) (fun _ => Or.inl rfl)
  · split at stepped <;> cases stepped <;> exact Or.inl rfl
  · cases stepped

/-- What a call reports has happened, under its own index. -/
theorem run_reported {trace : List (PoolLabel Op Effect)}
    {pool : Pool UInt8 Call} (run : system.Run trace pool) :
    ∀ (index : Nat) (call : Call), pool.calls[index]? = some call →
      ∀ event, call.reported = some event →
        .stepped index (.decided event) ∈ trace := by
  refine Interleaving.run_reported Call.reported .decided start_reported ?_ run
  intro before word choice next after effect accessed
  have reports := step_reports accessed
  cases effect with
  | decided event => exact Or.inl ⟨event, rfl, reports⟩
  | quiet | panicked => exact Or.inr reports

/-- A call that owns a permit acquired it at a moment before which the signal
had not been closed. -/
theorem run_permit_since {trace : List (PoolLabel Op Effect)}
    {pool : Pool UInt8 Call} (run : system.Run trace pool) :
    ∀ (index : Nat) (call : Call), pool.calls[index]? = some call →
      call.ownsPermit = true →
      ∃ early middle,
        trace = early ++ .stepped index (.decided .acquired) :: middle ∧
        ∀ event ∈ events early, SignalLedger.takesClose event = false := by
  refine System.Run.invariant
    (fun trace pool => ∀ (index : Nat) (call : Call),
      pool.calls[index]? = some call → call.ownsPermit = true →
      ∃ early middle,
        trace = early ++ .stepped index (.decided .acquired) :: middle ∧
        ∀ event ∈ events early, SignalLedger.takesClose event = false)
    ?_ ?_ run
  · rintro ⟨word, calls⟩ ⟨_, rfl⟩ index call present
    simp at present
  · intro trace pool label next earlier since step
    have older : ∀ (other : Nat) (call : Call),
        pool.calls[other]? = some call → call.ownsPermit = true →
        ∃ early middle,
          trace ++ [label] =
            early ++ .stepped other (.decided .acquired) :: middle ∧
          ∀ event ∈ events early,
            SignalLedger.takesClose event = false := by
      intro other call present owns
      obtain ⟨early, middle, rfl, openBefore⟩ :=
        since other call present owns
      exact ⟨early, middle ++ [label], by simp, openBefore⟩
    obtain ⟨ledger, ledgerRun, relates⟩ := run_ledger earlier
    cases Machine.step_cases step with
    | invoked op =>
        refine forall_append_single older ?_
        intro owns
        rw [show machine.start op = start op from rfl,
          start_ownsPermit] at owns
        cases owns
    | stepped index choice call shared after effect present accessed =>
        refine forall_set (fun other call _ => older other call) ?_
        intro owns
        rw [relates.word] at accessed
        have follows := step_follows accessed
        cases effect with
        | quiet =>
            exact older index call present (follows.2 ▸ owns)
        | panicked =>
            exact follows.elim
        | decided event =>
            obtain ⟨state', commits, _⟩ := follows 0
            by_cases acquires : event = .acquired
            · subst acquires
              refine ⟨trace, [], rfl, ?_⟩
              intro tested member
              apply Bool.eq_false_iff.mpr
              intro closes
              have closed := (SignalLedger.run_closed_iff ledgerRun).mpr
                ⟨tested, member, closes⟩
              have granted := (SignalLedger.step_of_closed commits closed).2
              cases granted
            · have owned : call.ownsPermit = true := by
                rw [owns] at commits
                cases before : call.ownsPermit with
                | true => rfl
                | false =>
                    rw [before] at commits
                    cases commits
                    exact absurd rfl acquires
              exact older index call present owned

/-! ## Coalescing is exact -/

/-- What holds of the trace and the pool of every run. -/
structure CoalescesExactly (trace : List (PoolLabel Op Effect))
    (pool : Pool UInt8 Call) : Prop where
  /-- At most one permit is alive. -/
  onePermit : livePermits pool ≤ 1
  /-- While one is alive, the signal is draining or was closed under it. -/
  permitState : 0 < livePermits pool →
    stateFromRaw pool.shared = some .draining ∨
    stateFromRaw pool.shared = some .drainingWithPending ∨
    stateFromRaw pool.shared = some .closed
  /-- Until close, the scheduled requests and the settlements that left the
  signal pending, less the acquisitions, are one or none as it is pending. -/
  account : (∀ event ∈ events trace,
      SignalLedger.takesClose event = false) →
    SignalLedger.drainsOwed (events trace) =
      SignalLedger.drainsGranted (events trace) +
        if stateFromRaw pool.shared = some .pending then 1 else 0
  /-- An accepted request is acquired later, or is still waiting, or the
  signal was closed. -/
  served : ∀ before call event after,
    trace = before ++ .stepped call (.decided event) :: after →
    SignalLedger.acceptsRequest event = true →
    (∃ later ∈ events after, SignalLedger.grantsDrain later = true) ∨
    (stateFromRaw pool.shared = some .pending ∨
      stateFromRaw pool.shared = some .drainingWithPending) ∨
    (∃ other ∈ events trace, SignalLedger.takesClose other = true)
  /-- A settlement reports closed exactly when close took effect between the
  acquisition of the permit and its settlement. -/
  settledClosed : ∀ before call result after,
    trace = before ++ .stepped call (.decided (.settled result)) :: after →
    (result = .closed ↔
      ∃ early middle,
        before = early ++ .stepped call (.decided .acquired) :: middle ∧
        ∃ other ∈ events middle, SignalLedger.takesClose other = true)
  /-- After close no request is accepted and no permit granted. -/
  afterClose : ∀ before call event after,
    trace = before ++ .stepped call (.decided event) :: after →
    SignalLedger.takesClose event = true →
    ∀ later ∈ events after,
      SignalLedger.acceptsRequest later = false ∧
      SignalLedger.grantsDrain later = false
  /-- What a call reports to its caller is what it decided. -/
  reported : ∀ (index : Nat) (call : Call),
    pool.calls[index]? = some call →
    ∀ event, call.reported = some event →
      .stepped index (.decided event) ∈ trace

private theorem settled_closed_iff {before after : List (PoolLabel Op Effect)}
    {index : Nat} {result : DrainAfter} {pool : Pool UInt8 Call}
    (run : system.Run
      (before ++ .stepped index (.decided (.settled result)) :: after) pool) :
    result = .closed ↔
      ∃ early middle,
        before = early ++ .stepped index (.decided .acquired) :: middle ∧
        ∃ other ∈ events middle, SignalLedger.takesClose other = true := by
  obtain ⟨source, target, earlier, step, _⟩ := run.split_at
  obtain ⟨ledger, ledgerRun, relates⟩ := run_ledger earlier
  have closedIff := SignalLedger.run_closed_iff ledgerRun
  have sound := SignalLedger.run_sound ledgerRun
  cases Machine.step_cases step with
  | stepped _ choice call shared next _ present accessed =>
      rw [relates.word] at accessed
      obtain ⟨state', commits, _⟩ := step_follows accessed 0
      obtain ⟨live, resultEq⟩ := SignalLedger.step_settled commits
      have owns : call.ownsPermit = true := by
        cases owned : call.ownsPermit with
        | true => rfl
        | false => simp [owned] at live
      have alive : 0 < ledger.permits := by
        rw [← relates.permits]
        exact countP_pos_of_present _ present owns
      have resultIff : result = .closed ↔ ledger.state = .closed := by
        rcases sound.state_of_permit alive with state | state | state <;>
          simp [resultEq, state, DrainState.settle]
      obtain ⟨early, middle, rfl, openBefore⟩ :=
        run_permit_since earlier index call present owns
      rw [resultIff, closedIff]
      constructor
      · rintro ⟨event, member, closes⟩
        refine ⟨early, middle, rfl, event, ?_, closes⟩
        simp only [events_append, events_cons_decided, List.mem_append,
          List.mem_cons] at member
        rcases member with inEarly | rfl | inMiddle
        · rw [openBefore event inEarly] at closes
          cases closes
        · cases closes
        · exact inMiddle
      · rintro ⟨early', middle', split, event, member, closes⟩
        refine ⟨event, ?_, closes⟩
        rw [split]
        simp [member]

/-- Coalescing is exact under every interleaving of requests, acquisitions,
closes, finished permits and dropped permits. -/
theorem run_coalescesExactly {trace : List (PoolLabel Op Effect)}
    {pool : Pool UInt8 Call} (run : system.Run trace pool) :
    CoalescesExactly trace pool := by
  obtain ⟨ledger, ledgerRun, relates⟩ := run_ledger run
  have sound := SignalLedger.run_sound ledgerRun
  constructor
  · rw [relates.permits]
    exact sound.permits_le_one
  · intro alive
    rw [relates.permits] at alive
    simpa [relates.state] using sound.state_of_permit alive
  · intro neverClosed
    have stillOpen : ledger.state ≠ .closed := by
      intro closed
      obtain ⟨event, member, closes⟩ :=
        (SignalLedger.run_closed_iff ledgerRun).mp closed
      rw [neverClosed event member] at closes
      cases closes
    rw [SignalLedger.run_account ledgerRun stillOpen, relates.state]
    simp [SignalLedger.pendingDrain]
  · rintro before call event after rfl accepted
    rw [events_append, events_cons_decided] at ledgerRun
    rcases SignalLedger.run_serves ledgerRun accepted with
      granted | owing | ⟨later, member, closes⟩
    · exact Or.inl granted
    · exact Or.inr (Or.inl (by
        simpa [relates.state, SignalLedger.Owing] using owing))
    · exact Or.inr (Or.inr ⟨later, by simp [member], closes⟩)
  · rintro before call result after rfl
    exact settled_closed_iff run
  · rintro before call event after rfl closes
    rw [events_append, events_cons_decided] at ledgerRun
    exact SignalLedger.run_after_close ledgerRun closes
  · exact run_reported run

/-- A close that takes effect while a permit is alive and a request waits. -/
def closeUnderPermit : List (PoolAction Op Choice) :=
  [.invoke .request, .advance 0 (.run false), .advance 0 (.run false),
    .invoke .acquire, .advance 1 (.run false), .advance 1 (.run true),
    .advance 1 (.run false), .advance 1 (.run false),
    .invoke .request, .advance 2 (.run false), .advance 2 (.run false),
    .invoke .close, .advance 3 (.run false), .advance 3 (.run false),
    .advance 1 .finish, .advance 1 (.run false)]

theorem closeUnderPermit_coalescesExactly :
    ∃ pool trace,
      machine.execAll ⟨idleWord, []⟩ closeUnderPermit = some (pool, trace) ∧
      events trace =
        [.requested .scheduled, .acquired, .requested .coalesced,
          .closed (.closed .drainingWithPending), .settled .closed] ∧
      CoalescesExactly trace pool := by
  obtain ⟨pool, trace, executed, run⟩ :=
    machine.exists_run_of_execAll (fun word => word = idleWord)
      closeUnderPermit rfl (by decide)
  refine ⟨pool, trace, executed, ?_, run_coalescesExactly run⟩
  have evaluated :
      (machine.execAll ⟨idleWord, []⟩ closeUnderPermit).map
        (fun result => events result.2) = some
          [.requested .scheduled, .acquired, .requested .coalesced,
            .closed (.closed .drainingWithPending), .settled .closed] := by
    decide
  simpa [executed] using evaluated

end DrainSignal

end RustJsi.Runtime
