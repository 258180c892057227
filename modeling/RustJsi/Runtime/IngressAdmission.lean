import RustJsi.Runtime.IngressProtocol

/-!
# The packed word counts the permits

The concurrent `IngressGate` follows the abstract gate: its word is always the
encoding of the ledger, and the ledger counts the permits that calls own.
-/

namespace RustJsi.Runtime

open Interleaving

namespace IngressGate

variable {width : PointerWidth}

/-- The operation a label decides, if it decides one. -/
def decided? : PoolLabel Op Effect → Option Event
  | .stepped _ (.decided event) => some event
  | _ => none

/-- How an access of a call that found the word of `ledger` relates to the
abstract gate. -/
def Follows (ledger : GateLedger) (before : Call width) :
    width.Usize × Call width × Effect → Prop
  | (word, after, .quiet) =>
      word = ledger.word width ∧ after.ownsPermit = before.ownsPermit
  | (_, _, .panicked) => False
  | (word, after, .decided event) =>
      ∃ next,
        GateLedger.Step (reservationLimit width) ledger event next ∧
        word = next.word width ∧
        next.live + before.ownsPermit.toNat =
          ledger.live + after.ownsPermit.toNat

private theorem afterReserve_follows (ledger : GateLedger)
    (point : LoopPoint width.Usize) :
    Follows ledger (.reserving point)
      ((ledger.reserve (reservationLimit width)).1.word width,
        afterReserve (ledger.reserve (reservationLimit width)).2) := by
  cases outcome : (ledger.reserve (reservationLimit width)).2 with
  | ok granted =>
      obtain ⟨_, _, nextEq⟩ := GateLedger.reserve_ok outcome
      exact ⟨_, .reserve ledger outcome, rfl, by rw [nextEq]; rfl⟩
  | error error =>
      rw [(GateLedger.reserve_error outcome).1]
      exact ⟨_, .refuse ledger error outcome, rfl, rfl⟩

theorem step_follows {ledger : GateLedger} {choice : Choice}
    {before : Call width} {result : width.Usize × Call width × Effect}
    (fits : ledger.live ≤ reservationLimit width)
    (alive : before.ownsPermit = true → 0 < ledger.live)
    (stepped : step (ledger.word width) choice before = some result) :
    Follows ledger before result := by
  unfold step at stepped
  split at stepped
  · rename_i spurious point
    cases stepped
    exact runLoop_of_commit (Follows ledger (.reserving point))
      (reserveDecision_commit fits) (fun _ => ⟨rfl, rfl⟩)
      (afterReserve_follows ledger point)
  · have positive : 0 < ledger.live := alive rfl
    obtain ⟨phase, live⟩ := ledger
    obtain ⟨rest, rfl⟩ := Nat.exists_eq_succ_of_ne_zero
      (Nat.pos_iff_ne_zero.mp positive)
    have counted : reservationCount
        (GateLedger.word width ⟨phase, rest.succ⟩) ≠ 0 := by
      rw [GateLedger.word, Ne, reservationCount_eq_zero_iff _ fits]
      exact Nat.succ_ne_zero rest
    rw [if_neg counted] at stepped
    cases stepped
    exact ⟨⟨phase, rest⟩, .settle _ positive,
      settleWord_encode phase rest, rfl⟩
  · cases stepped
    exact ⟨rfl, rfl⟩
  · rename_i spurious point
    cases stepped
    refine runLoop_of_commit (Follows ledger (.closing point))
      (beginCloseDecision_commit fits) (fun _ => ⟨rfl, rfl⟩) ?_
    exact ⟨_, .beginClose ledger, rfl, by rw [GateLedger.beginClose_live]; rfl⟩
  · rename_i spurious point
    cases stepped
    refine runLoop_of_commit (Follows ledger (.sealing point))
      (trySealDecision_commit fits) (fun _ => ⟨rfl, rfl⟩) ?_
    exact ⟨_, .trySeal ledger, rfl, by rw [GateLedger.trySeal_live]; rfl⟩
  · rw [GateLedger.word, stateFromRaw_encode fits] at stepped
    cases stepped
    exact ⟨rfl, rfl⟩
  · cases stepped
    exact ⟨rfl, rfl⟩
  · cases stepped

/-- The pool shows the ledger: the word encodes it and it counts the calls
that own a permit. -/
structure Shows (pool : Pool width.Usize (Call width))
    (ledger : GateLedger) : Prop where
  word : pool.shared = ledger.word width
  permits : livePermits pool = ledger.live

private theorem start_ownsPermit (op : Op) :
    (start op : Call width).ownsPermit = false := by
  cases op <;> rfl

theorem shows_step {pool next : Pool width.Usize (Call width)}
    {ledger : GateLedger} {label : PoolLabel Op Effect}
    (sound : ledger.Sound (reservationLimit width))
    (relates : Shows pool ledger)
    (moved : (system width).step pool label next) :
    (∀ call, label ≠ .stepped call .panicked) ∧
      (GateLedger.system (reservationLimit width)).Answers ledger
        (Shows next) (decided? label) := by
  obtain ⟨wordEq, permitsEq⟩ := relates
  cases Machine.step_cases moved with
  | invoked op =>
      refine ⟨nofun, wordEq, ?_⟩
      simp [livePermits, machine, start_ownsPermit, ← permitsEq]
  | stepped index choice call shared after effect present accessed =>
      have accessed' : step pool.shared choice call =
          some (shared, after, effect) := accessed
      rw [wordEq] at accessed'
      have alive : call.ownsPermit = true → 0 < ledger.live := by
        intro owns
        rw [← permitsEq]
        exact countP_pos_of_present _ present owns
      have follows := step_follows sound.fits alive accessed'
      have counted := countP_set_add Call.ownsPermit after present
      simp only [livePermits] at permitsEq
      cases effect with
      | quiet =>
          obtain ⟨sharedEq, sameOwner⟩ := follows
          refine ⟨nofun, sharedEq, ?_⟩
          simp only [livePermits]
          rw [sameOwner] at counted
          omega
      | panicked =>
          exact follows.elim
      | decided event =>
          obtain ⟨next, commits, sharedEq, live⟩ := follows
          refine ⟨nofun,
            next, commits, sharedEq, ?_⟩
          simp only [livePermits]
          omega

def simulation (width : PointerWidth) :
    Simulation (system width) (GateLedger.system (reservationLimit width))
      decided? where
  related := Shows
  start := by
    rintro ⟨word, calls⟩ ⟨rfl, rfl⟩
    exact ⟨GateLedger.fresh, rfl, openWord_eq, rfl⟩
  advance := by
    intro _ pool ledger label next _ ledgerRun relates moved
    exact (shows_step (GateLedger.run_sound ledgerRun) relates moved).2

/-- The operations a trace decided, in order. -/
def events (trace : List (PoolLabel Op Effect)) : List Event :=
  trace.filterMap decided?

theorem run_ledger {trace : List (PoolLabel Op Effect)}
    {pool : Pool width.Usize (Call width)}
    (run : (system width).Run trace pool) :
    ∃ ledger,
      (GateLedger.system (reservationLimit width)).Run
        (events trace) ledger ∧
      Shows pool ledger :=
  (simulation width).run run

/-- The event a call has taken part in last: its result, or the grant of the
permit it owns. -/
def Call.reported : Call width → Option Event
  | .refused error => some (.refused error)
  | .holding => some .reserved
  | .leaked => some .reserved
  | .settled => some .settled
  | .closed result => some (.closed result)
  | .sealed result => some (.sealed result)
  | _ => none

private theorem start_reportsNothing (op : Op) :
    (start op : Call width).reported = none := by
  cases op with
  | _ => rfl

/-- An access leaves the report alone or makes the event it decides the
report. -/
def ReportsEffect (before : Call width) :
    width.Usize × Call width × Effect → Prop
  | (_, after, .decided event) => after.reported = some event
  | (_, after, _) =>
      after.reported = none ∨ after.reported = before.reported

theorem step_reportsEffect {word : width.Usize} {choice : Choice}
    {before : Call width} {result : width.Usize × Call width × Effect}
    (stepped : step word choice before = some result) :
    ReportsEffect before result := by
  unfold step at stepped
  split at stepped
  · cases stepped
    refine runLoop_induction (ReportsEffect _)
      (fun _ => Or.inl rfl) ?_ (fun _ => Or.inl rfl)
    intro _ result _
    cases result with
    | ok => rfl
    | error error => rfl
  · split at stepped
    · cases stepped
      exact Or.inl rfl
    · cases stepped
      rfl
  · cases stepped
    exact Or.inr rfl
  · cases stepped
    exact runLoop_induction (ReportsEffect _)
      (fun _ => Or.inl rfl) (fun _ _ _ => rfl) (fun _ => Or.inl rfl)
  · cases stepped
    exact runLoop_induction (ReportsEffect _)
      (fun _ => Or.inl rfl) (fun _ _ _ => rfl) (fun _ => Or.inl rfl)
  · split at stepped
    · cases stepped
      exact Or.inl rfl
    · cases stepped
      exact Or.inl rfl
  · cases stepped
    exact Or.inl rfl
  · cases stepped

/-- What a call reports has happened, under its own index. -/
theorem run_reportsDecided {trace : List (PoolLabel Op Effect)}
    {pool : Pool width.Usize (Call width)}
    (run : (system width).Run trace pool) :
    ∀ (index : Nat) (call : Call width), pool.calls[index]? = some call →
      ∀ event, call.reported = some event →
        .stepped index (.decided event) ∈ trace := by
  refine run_reported Call.reported .decided start_reportsNothing ?_ run
  intro before word choice next after effect accessed
  have reports := step_reportsEffect accessed
  cases effect with
  | decided event => exact Or.inl ⟨event, rfl, reports⟩
  | quiet | panicked => exact Or.inr reports

/-- A call reports what it decides at once. -/
theorem step_reports {pool next : Pool width.Usize (Call width)}
    {index : Nat} {event : Event}
    (moved : (system width).step pool (.stepped index (.decided event)) next) :
    ∃ call, next.calls[index]? = some call ∧ call.reported = some event := by
  cases Machine.step_cases moved with
  | stepped index choice call shared after effect present accessed =>
      obtain ⟨bound, _⟩ := List.getElem?_eq_some_iff.mp present
      exact ⟨after, List.getElem?_set_self bound, step_reportsEffect accessed⟩

/-! ## The word is phase plus live permits -/

/-- What holds of the pool of every run. -/
structure CountsPermits (pool : Pool width.Usize (Call width)) : Prop where
  /-- The low bits are the number of granted and unsettled permits. -/
  count : (reservationCount pool.shared).toNat = livePermits pool
  /-- The phase bits are one of the three defined values. -/
  phase : ∃ state, stateFromRaw pool.shared = some state
  /-- A sealed gate has no permit, granted or leaked. -/
  sealedEmpty : stateFromRaw pool.shared = some .sealed →
    (reservationCount pool.shared).toNat = 0 ∧ livePermits pool = 0

/-- What every step out of the pool of a run does to the word. -/
structure StepsSafely (pool next : Pool width.Usize (Call width))
    (label : PoolLabel Op Effect) : Prop where
  /-- No arm the source calls unreachable and no failed assertion. -/
  noPanic : ∀ call, label ≠ .stepped call .panicked
  /-- The phase stays or moves on by one. -/
  phase : stateFromRaw next.shared = stateFromRaw pool.shared ∨
    (stateFromRaw pool.shared = some .opened ∧
      stateFromRaw next.shared = some .closing) ∨
    (stateFromRaw pool.shared = some .closing ∧
      stateFromRaw next.shared = some .sealed)
  /-- A reservation adds one below the mask, in the open phase, and leaves the
  phase bits alone. -/
  reserved : ∀ call, label = .stepped call (.decided .reserved) →
    stateFromRaw pool.shared = some .opened ∧
    stateFromRaw next.shared = some .opened ∧
    reservationCount pool.shared ≠ reservationMask width ∧
    (reservationCount next.shared).toNat =
      (reservationCount pool.shared).toNat + 1
  /-- A settlement subtracts one from a positive count and leaves the phase
  bits alone. -/
  settled : ∀ call, label = .stepped call (.decided .settled) →
    0 < (reservationCount pool.shared).toNat ∧
    stateFromRaw next.shared = stateFromRaw pool.shared ∧
    (reservationCount next.shared).toNat + 1 =
      (reservationCount pool.shared).toNat
  /-- A close reports the permits alive at its deciding step. -/
  closed : ∀ call count,
    label = .stepped call (.decided (.closed (.started count))) ∨
      label = .stepped call (.decided (.closed (.alreadyClosing count))) →
    count = livePermits pool
  /-- So does a refused seal. -/
  remaining : ∀ call count,
    label = .stepped call
      (.decided (.sealed (.error (.reservationsRemain count)))) →
    count = livePermits pool
  /-- What an access decides is what its call returns. -/
  reports : ∀ index event, label = .stepped index (.decided event) →
    ∃ call, next.calls[index]? = some call ∧ call.reported = some event

theorem Shows.count {pool : Pool width.Usize (Call width)}
    {ledger : GateLedger} (relates : Shows pool ledger)
    (sound : ledger.Sound (reservationLimit width)) :
    (reservationCount pool.shared).toNat = ledger.live := by
  rw [relates.word]
  exact reservationCount_encode sound.fits

theorem Shows.state {pool : Pool width.Usize (Call width)}
    {ledger : GateLedger} (relates : Shows pool ledger)
    (sound : ledger.Sound (reservationLimit width)) :
    stateFromRaw pool.shared = some ledger.phase := by
  rw [relates.word]
  exact stateFromRaw_encode sound.fits

private theorem countsPermits_of_shows
    {pool : Pool width.Usize (Call width)} {ledger : GateLedger}
    (relates : Shows pool ledger)
    (sound : ledger.Sound (reservationLimit width)) :
    CountsPermits pool := by
  have count := relates.count sound
  have state := relates.state sound
  constructor
  · rw [count, relates.permits]
  · exact ⟨ledger.phase, state⟩
  · intro isSealed
    rw [state, Option.some.injEq] at isSealed
    have empty := sound.sealedEmpty isSealed
    rw [count, relates.permits]
    exact ⟨empty, empty⟩

private theorem stepsSafely_of_shows
    {pool next : Pool width.Usize (Call width)} {ledger : GateLedger}
    {label : PoolLabel Op Effect} (relates : Shows pool ledger)
    (sound : ledger.Sound (reservationLimit width))
    (moved : (system width).step pool label next) :
    StepsSafely pool next label := by
  obtain ⟨noPanic, answered⟩ := shows_step sound relates moved
  have state := relates.state sound
  have count := relates.count sound
  have reports : ∀ index event, label = .stepped index (.decided event) →
      ∃ call, next.calls[index]? = some call ∧ call.reported = some event := by
    rintro index event rfl
    exact step_reports moved
  cases visible : decided? label with
  | none =>
      rw [visible] at answered
      have nextState := Shows.state answered sound
      refine ⟨noPanic, Or.inl (by rw [state, nextState]), ?_, ?_, ?_, ?_,
        reports⟩
      · rintro call rfl
        cases visible
      · rintro call rfl
        cases visible
      · rintro call count (rfl | rfl) <;> cases visible
      · rintro call count rfl
        cases visible
  | some event =>
      rw [visible] at answered
      obtain ⟨ledger', commits, nextShows⟩ := answered
      have nextSound := GateLedger.step_sound sound commits
      have nextState := nextShows.state nextSound
      have nextCount := nextShows.count nextSound
      refine ⟨noPanic, ?_, ?_, ?_, ?_, ?_, reports⟩
      · rw [state, nextState]
        simpa using GateLedger.step_phase commits
      · rintro call rfl
        cases visible
        obtain ⟨isOpen, room, rfl⟩ := GateLedger.step_reserved commits
        refine ⟨by rw [state, isOpen], by rw [nextState, isOpen], ?_, ?_⟩
        · rw [relates.word, GateLedger.word, Ne,
            reservationMask_eq_iff _ sound.fits]
          exact room
        · rw [count, nextCount]
      · rintro call rfl
        cases visible
        obtain ⟨alive, rfl⟩ := GateLedger.step_settled commits
        refine ⟨by rw [count]; exact alive, by rw [state, nextState], ?_⟩
        rw [count, nextCount]
        exact Nat.sub_add_cancel alive
      · rintro call reported (rfl | rfl) <;> cases visible <;>
          rw [relates.permits] <;>
          exact GateLedger.step_closed_count commits (by simp)
      · rintro call reported rfl
        cases visible
        rw [relates.permits]
        exact GateLedger.step_sealed_count commits

/-- At every width and under every interleaving, the word of a gate is its
phase plus its live permits, every step keeps it so without carry or borrow,
nothing is reserved once a close took effect, and calls return what they
decided. -/
theorem run_countsPermits {trace : List (PoolLabel Op Effect)}
    {pool : Pool width.Usize (Call width)}
    (run : (system width).Run trace pool) :
    CountsPermits pool ∧
    (∀ label next, (system width).step pool label next →
      StepsSafely pool next label) ∧
    (∀ before call count after,
      trace =
        before ++ .stepped call (.decided (.closed (.started count))) ::
          after →
      .reserved ∉ events after) ∧
    (∀ (index : Nat) (call : Call width), pool.calls[index]? = some call →
      ∀ event, call.reported = some event →
        .stepped index (.decided event) ∈ trace) := by
  obtain ⟨ledger, ledgerRun, relates⟩ := run_ledger run
  have sound := GateLedger.run_sound ledgerRun
  refine ⟨countsPermits_of_shows relates sound, ?_, ?_,
    run_reportsDecided run⟩
  · intro label next moved
    exact stepsSafely_of_shows relates sound moved
  · rintro before call count after rfl
    have split : events
        (before ++ .stepped call (.decided (.closed (.started count))) ::
          after) =
        events before ++ .closed (.started count) :: events after :=
      List.filterMap_append
    rw [split] at ledgerRun
    exact GateLedger.run_not_reserved_after_close ledgerRun rfl

/-- A permit is leaked and another settled around a close. -/
def closeOverPermits : List (PoolAction Op Choice) :=
  [.invoke .reserve, .advance 0 (.run false), .advance 0 (.run true),
    .advance 0 (.run false), .advance 0 (.run false),
    .invoke .reserve, .advance 1 (.run false), .advance 1 (.run false),
    .advance 0 .leak, .invoke .beginClose, .advance 2 (.run false),
    .advance 2 (.run false), .advance 1 .settle,
    .invoke .trySeal, .advance 3 (.run false)]

theorem closeOverPermits_countsPermits :
    ∃ pool trace,
      (machine .sixtyFour).execAll ⟨openWord .sixtyFour, []⟩
        closeOverPermits = some (pool, trace) ∧
      CountsPermits pool ∧ livePermits pool = 1 ∧
      stateFromRaw pool.shared = some .closing := by
  obtain ⟨pool, trace, executed, run⟩ :=
    (machine .sixtyFour).exists_run_of_execAll
      (fun word => word = openWord .sixtyFour)
      closeOverPermits rfl (by decide)
  refine ⟨pool, trace, executed, (run_countsPermits run).1, ?_⟩
  have evaluated :
      ((machine .sixtyFour).execAll ⟨openWord .sixtyFour, []⟩
        closeOverPermits).map (fun result =>
          (livePermits result.1, stateFromRaw result.1.shared)) =
        some (1, some .closing) := by
    decide
  simpa [executed] using evaluated

end IngressGate

end RustJsi.Runtime
