import RustJsi.Runtime.MailboxFlow
import RustJsi.Runtime.MailboxSimulation

/-!
# A terminal owner is alone

From the moment the terminal word is first claimed, both gates are sealed and
the signal is closed for good.  So nobody produces or drains any more, no
callback runs under an admission, and only one caller owns the terminal phase
at a time.
-/

namespace RustJsi.Runtime

open Interleaving

namespace MailboxLedger

variable {Payload : Type*} {capacity limit : Nat}
  {ledger next : MailboxLedger Payload capacity}

/-- Terminal ownership has started. -/
def Claimed (ledger : MailboxLedger Payload capacity) : Prop :=
  ledger.terminal ≠ .normal

theorem step_claimed {action : MailboxAction Payload}
    (step : Step limit ledger action next) :
    ledger.Claimed ∨ action = .claimed → next.Claimed := by
  intro before
  cases step with
  | claim closed available => exact nofun
  | release owned => exact nofun
  | complete owned empty => exact nofun
  | producer allowed step =>
      rcases before with claimed | now
      · exact claimed
      · cases now
  | normal allowed step =>
      rcases before with claimed | now
      · exact claimed
      · cases now
  | work allowed step =>
      rcases before with claimed | now
      · exact claimed
      · cases now

theorem run_claimed {trace : List (MailboxAction Payload)}
    (run : (system Payload capacity limit).Run trace ledger)
    (claimed : .claimed ∈ trace) : ledger.Claimed := by
  refine System.Run.invariant
    (fun trace ledger => .claimed ∈ trace → ledger.Claimed) ?_ ?_ run claimed
  · intro _ _ member
    cases member
  · intro trace before action after _ earlier step member
    apply step_claimed step
    rcases List.mem_append.mp member with old | now
    · exact Or.inl (earlier old)
    · exact Or.inr (List.mem_singleton.mp now).symm

/-- Once claimed, the gates are sealed and every share but the terminal one is
gone. -/
theorem Sound.claimed_alone (sound : ledger.Sound limit)
    (claimed : ledger.Claimed) :
    ledger.producer.phase = .sealed ∧ ledger.normal.phase = .sealed ∧
      ledger.producer.live = 0 ∧ ledger.normal.live = 0 := by
  have closed := sound.terminalAfter claimed
  have normalSealed := sound.signalAfter closed
  have producerSealed := sound.producer_sealed_of_normal normalSealed
  exact ⟨producerSealed, normalSealed, (sound.no_producer producerSealed).1,
    (sound.no_drain normalSealed).1⟩

end MailboxLedger

/-- The actions by which a producer or a normal drain takes part. -/
def MailboxAction.takesPart {Payload : Type*} :
    MailboxAction Payload → Bool
  | .producer .reserved => true
  | .producer .settled => true
  | .normal .reserved => true
  | .normal .settled => true
  | .work (.pushed _) => true
  | .work (.published _) => true
  | .work (.signal .acquired) => true
  | _ => false

namespace MailboxLedger

variable {Payload : Type*} {capacity limit : Nat}
  {ledger next : MailboxLedger Payload capacity}

/-- Once claimed, no producer and no normal drain takes part. -/
theorem Sound.claimed_excludes {action : MailboxAction Payload}
    (sound : ledger.Sound limit) (claimed : ledger.Claimed)
    (step : Step limit ledger action next) : action.takesPart = false := by
  obtain ⟨producerSealed, normalSealed, noProducer, noDrain⟩ :=
    sound.claimed_alone claimed
  have publishingLe := sound.publishingLe
  have permitsLe := sound.permitsLe
  cases step with
  | producer allowed step =>
      cases step with
      | reserve granted =>
          rw [(GateLedger.reserve_ok granted).1] at producerSealed
          cases producerSealed
      | settle alive => omega
      | _ => rfl
  | normal allowed step =>
      cases step with
      | reserve granted =>
          rw [(GateLedger.reserve_ok granted).1] at normalSealed
          cases normalSealed
      | settle alive => omega
      | _ => rfl
  | work allowed step =>
      cases step with
      | push pushed =>
          simp only [Allows] at allowed
          omega
      | publish pushed requested => omega
      | acquire acquired =>
          simp only [Allows] at allowed
          omega
      | _ => rfl
  | claim closed available => rfl
  | release owned => rfl
  | complete owned empty => rfl

end MailboxLedger

namespace ClosableMailbox

variable {width : PointerWidth} {Payload Fault : Type*} {capacity : Nat}

/-- The call owns a live `TerminalMailboxDrain`. -/
def Call.ownsTerminal : Call width Payload Fault → Bool
  | .terminal => true
  | .counting => true
  | .completing => true
  | .releasingTerminal _ => true
  | _ => false

/-- The call owns a live `ClosableMailboxDrain`. -/
def Call.ownsDrain : Call width Payload Fault → Bool
  | .draining => true
  | .checking _ => true
  | .preserving _ _ => true
  | .finishing _ _ => true
  | .operating _ => true
  | .releasingDrain _ => true
  | _ => false

/-- The call is a producer between its reservation and its release. -/
def Call.produces : Call width Payload Fault → Bool
  | .pushing _ _ => true
  | .publishing _ _ => true
  | .posting => true
  | .releasingProducer _ => true
  | _ => false

/-- The call runs a callback under its admission. -/
def Call.runsCallback : Call width Payload Fault → Bool
  | .posting => true
  | .operating _ => true
  | .retrying => true
  | _ => false

/-- What no label reports once a terminal owner was granted: a producer that
reserves, pushes, requests or settles, a normal drain that is granted, and a
callback that ends. -/
def Effect.excluded : Effect Payload Fault → Bool
  | .acted action => action.takesPart
  | .answered _ _ => true
  | _ => false

/-- What holds of a run whose state may have a terminal owner. -/
structure ExcludesOthers
    (trace : List (PoolLabel (Op Payload) (Effect Payload Fault)))
    (pool : Pool (Shared width Payload capacity)
      (Call width Payload Fault)) : Prop where
  /-- At most one terminal drain is live. -/
  oneOwner : pool.calls.countP Call.ownsTerminal ≤ 1
  /-- Once one was granted, nobody else is at work on the mailbox. -/
  alone : .claimed ∈ actions trace → ∀ call ∈ pool.calls,
    call.ownsDrain = false ∧ call.produces = false ∧
    call.runsCallback = false
  /-- Nobody starts, finishes or is granted anything after that. -/
  excluded : ∀ before owner after,
    trace = before ++ .stepped owner (.acted .claimed) :: after →
    ∀ call effect, .stepped call effect ∈ after → effect.excluded = false
  /-- An enqueue that succeeded was released before the first grant. -/
  succeededBefore : ∀ before owner after,
    trace = before ++ .stepped owner (.acted .claimed) :: after →
    ∀ (index : Nat) outcome,
      pool.calls[index]? = some (.enqueued (some (.ok outcome))) →
      .stepped index (.acted (.producer .settled)) ∈ before

section Pools

variable {trace : List (PoolLabel (Op Payload) (Effect Payload Fault))}
  {pool next : Pool (Shared width Payload capacity)
    (Call width Payload Fault)}
  {ledger : MailboxLedger Payload capacity}

theorem ownsTerminal_eq (call : Call width Payload Fault) :
    call.ownsTerminal = call.holds .terminal := by
  cases call with
  | observing observer load => cases observer <;> rfl
  | _ => rfl

theorem Shows.owners_le_one (relates : Shows pool ledger) :
    pool.calls.countP Call.ownsTerminal ≤ 1 := by
  have counted := relates.shares .terminal
  rw [shareholders, ← funext ownsTerminal_eq] at counted
  rw [counted, MailboxLedger.held]
  split <;> omega

/-- A call that produces, drains or runs a callback holds an admission of one
of the two gates. -/
theorem admitted_of_works (call : Call width Payload Fault)
    (works : call.ownsDrain = true ∨ call.produces = true ∨
      call.runsCallback = true) :
    call.holds .producer = true ∨ call.holds .admission = true := by
  cases call <;>
    simp_all [Call.ownsDrain, Call.produces, Call.runsCallback, Call.holds,
      Call.shares]

/-- Once claimed, no call holds an admission. -/
theorem Shows.claimed_unadmitted (relates : Shows pool ledger)
    (sound : ledger.Sound (IngressGate.reservationLimit width))
    (claimed : ledger.Claimed) {index : Nat}
    {call : Call width Payload Fault}
    (present : pool.calls[index]? = some call) :
    call.holds .producer = false ∧ call.holds .admission = false := by
  have stands := relates.stands present
  obtain ⟨_, _, noProducer, noDrain⟩ := sound.claimed_alone claimed
  constructor
  · by_contra holds
    have some' := stands.counted .producer (Bool.not_eq_false _ ▸ holds)
    exact absurd noProducer (Nat.ne_of_gt some')
  · by_contra holds
    have some' := stands.counted .admission (Bool.not_eq_false _ ▸ holds)
    exact absurd noDrain (Nat.ne_of_gt some')

theorem Shows.claimed_alone (relates : Shows pool ledger)
    (sound : ledger.Sound (IngressGate.reservationLimit width))
    (claimed : ledger.Claimed) {call : Call width Payload Fault}
    (member : call ∈ pool.calls) :
    call.ownsDrain = false ∧ call.produces = false ∧
      call.runsCallback = false := by
  obtain ⟨index, present⟩ := List.mem_iff_getElem?.mp member
  obtain ⟨noProducer, noAdmission⟩ :=
    relates.claimed_unadmitted sound claimed present
  have idle : ¬ (call.ownsDrain = true ∨ call.produces = true ∨
      call.runsCallback = true) := by
    intro works
    rcases admitted_of_works call works with produces | drains
    · rw [noProducer] at produces
      cases produces
    · rw [noAdmission] at drains
      cases drains
  simpa using idle

/-- Only a running callback answers. -/
theorem Moves.runsCallback {before after : Call width Payload Fault}
    {callback : Callback} {outcome : CallbackOutcome Fault}
    (moves : Moves before (.answered callback outcome) after) :
    before.runsCallback = true := by
  cases moves <;> rfl

/-- No step from a claimed mailbox is one of the excluded ones. -/
theorem step_excluded
    (run : (system width Payload Fault capacity).Run trace pool)
    (claimed : .claimed ∈ actions trace) {call : Nat}
    {effect : Effect Payload Fault}
    (moved : (system width Payload Fault capacity).step pool
      (.stepped call effect) next) : effect.excluded = false := by
  obtain ⟨ledger, ledgerRun, sound, relates⟩ := run_ledger run
  have started := MailboxLedger.run_claimed ledgerRun claimed
  have answered := shows_step sound relates moved
  cases effect with
  | quiet => rfl
  | panicked => rfl
  | acted action =>
      obtain ⟨ledger', step, _⟩ := answered
      exact sound.claimed_excludes started step
  | answered callback outcome =>
      generalize labelEq : PoolLabel.stepped call
        (Effect.answered callback outcome) = label at moved
      cases Machine.step_cases moved with
      | invoked op => cases labelEq
      | stepped own choice before shared after effect present accessed =>
          cases labelEq
          have running := (step_moves accessed).runsCallback
          have idle := relates.claimed_alone sound started
            (List.mem_of_getElem? present)
          rw [idle.2.2] at running
          cases running

/-- An enqueue that has succeeded has settled its admission. -/
theorem run_succeeded
    (run : (system width Payload Fault capacity).Run trace pool) :
    ∀ (index : Nat) outcome,
      pool.calls[index]? = some (.enqueued (some (.ok outcome))) →
      .stepped index (.acted (.producer .settled)) ∈ trace := by
  intro index outcome present
  have bound := (List.getElem?_eq_some_iff.mp present).1
  obtain ⟨op, invoked⟩ := (run_recorded run).invoked index bound
  have settled := run_history
    (fun _ effects call => ∀ outcome,
      call = .enqueued (some (.ok outcome)) →
      .acted (.producer .settled) ∈ effects)
    ?_ ?_ run index op _ invoked present outcome rfl
  · obtain ⟨label, member, reports⟩ := List.mem_filterMap.mp settled
    rcases label with ⟨call, started⟩ | ⟨call, effect⟩
    · cases reports
    · simp only [PoolLabel.effectOf?] at reports
      split at reports
      · rename_i own
        cases reports
        exact own ▸ member
      · cases reports
  · intro op outcome same
    cases op <;> cases same
  · rintro op effects before shared choice after call effect earlier
      stepped outcome rfl
    have moves : Moves before effect (.enqueued (some (.ok outcome))) :=
      step_moves stepped
    generalize same : Call.enqueued (some (Except.ok outcome)) = reached
      at moves
    cases moves with
    | producerSettled result =>
        exact List.mem_append_right _ (List.mem_singleton.mpr rfl)
    | settled ending point after => cases ending <;> cases same
    | observed observer load state => cases observer <;> cases same
    | _ => cases same

/-- Whatever the threads do, at most one terminal drain is live, and from the
first grant on no producer, no normal drain and no callback is at work or gets
to work. -/
theorem run_excludesOthers
    (run : (system width Payload Fault capacity).Run trace pool) :
    ExcludesOthers trace pool := by
  obtain ⟨ledger, ledgerRun, sound, relates⟩ := run_ledger run
  have excluded : ∀ before owner after,
      trace = before ++ .stepped owner (.acted .claimed) :: after →
      ∀ call effect, .stepped call effect ∈ after →
        effect.excluded = false := by
    rintro before owner after rfl call effect member
    obtain ⟨between, rest, rfl⟩ := List.append_of_mem member
    rw [← List.cons_append, ← List.append_assoc] at run
    obtain ⟨source, target, earlier, moved, _⟩ := run.split_at
    refine step_excluded earlier ?_ moved
    simp [actions, acted?]
  refine ⟨relates.owners_le_one, ?_, excluded, ?_⟩
  · intro claimed call member
    have started := MailboxLedger.run_claimed ledgerRun claimed
    exact relates.claimed_alone sound started member
  · rintro before owner after rfl index outcome present
    have settled := run_succeeded run index outcome present
    rcases List.mem_append.mp settled with earlier | later
    · exact earlier
    · rcases List.mem_cons.mp later with same | after'
      · cases same
      · have quiet := excluded before owner after rfl index _ after'
        cases quiet

end Pools

open PoolAction Choice Op in
/-- A terminal claim is refused while a normal drain is live, granted once the
drain has finished, and refused to a second claimant. -/
def claimAfterDrain : List (PoolAction (Op Nat) (Choice Unit)) :=
  [invoke (enqueue 7)] ++
  List.replicate 6 (advance 0 (run false)) ++
  [invoke acquire] ++
  List.replicate 4 (advance 1 (run false)) ++
  [invoke beginClose] ++
  List.replicate 2 (advance 2 (run false)) ++
  [invoke tryBeginTerminalDrain] ++
  List.replicate 5 (advance 3 (run false)) ++
  [advance 1 pop, advance 1 finish] ++
  List.replicate 4 (advance 1 (run false)) ++
  [invoke tryBeginTerminalDrain] ++
  List.replicate 9 (advance 4 (run false)) ++
  [invoke tryBeginTerminalDrain] ++
  List.replicate 5 (advance 5 (run false))

/-- The standing of a call, as far as a terminal claim is concerned. -/
def Call.claimOutcome : Call width Payload Fault →
    Option (Option TerminalAcquireError)
  | .terminal => some none
  | .terminalRefused error => some (some error)
  | _ => none

theorem claimAfterDrain_excludesOthers :
    ∃ pool trace,
      (machine .sixtyFour Nat Unit 2).execAll ⟨new, []⟩ claimAfterDrain =
        some (pool, trace) ∧
      ExcludesOthers trace pool ∧
      pool.calls.map Call.claimOutcome =
        [none, none, none, some (some (.normalDrainReservationsRemain 1)),
          some none, some (some .terminalDrainActive)] := by
  obtain ⟨pool, trace, executed, run⟩ :=
    (machine .sixtyFour Nat Unit 2).exists_run_of_execAll
      (fun shared => shared = new) claimAfterDrain rfl (by decide)
  refine ⟨pool, trace, executed, run_excludesOthers run, ?_⟩
  have evaluated :
      ((machine .sixtyFour Nat Unit 2).execAll ⟨new, []⟩
        claimAfterDrain).map (fun result =>
          result.1.calls.map Call.claimOutcome) =
        some [none, none, none,
          some (some (.normalDrainReservationsRemain 1)), some none,
          some (some .terminalDrainActive)] := by
    decide
  simpa [executed] using evaluated

end ClosableMailbox

end RustJsi.Runtime
