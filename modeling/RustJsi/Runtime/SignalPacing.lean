import RustJsi.Interleaving.Pacing
import RustJsi.Runtime.DrainCoalescing
import RustJsi.Runtime.IngressAdmission

/-!
# Retry loops of the signal and the gate end

`request`, `acquire`, `close` and the settlement of a permit go round as long
as others exchange the byte of a drain signal between their load and their
exchange, and the loops of an ingress gate likewise.  An exchange that succeeds
ends a loop of its own, so that any number of calls together go round a bounded
number of times.
-/

namespace RustJsi.Runtime

open Interleaving

namespace DrainSignal

/-- The accesses a call still makes if nobody exchanges the byte. -/
def work (word : UInt8) : Call → Nat
  | .requesting point => loopWork requestDecision word point
  | .acquiring point => loopWork acquireDecision word point + 4
  | .holding => 4
  | .finishing _ point => loopWork finishDecision word point
  | .closing point => loopWork closeDecision word point
  | .loading => 1
  | _ => 0

/-- The exchanges a call can still succeed with. -/
def turns : Call → Nat
  | .requesting _ => 1
  | .acquiring _ => 2
  | .holding => 1
  | .finishing _ _ => 1
  | .closing _ => 1
  | _ => 0

/-- The exchange is one that fails by itself. -/
def Choice.slips : Choice → Bool
  | .run spurious => spurious
  | _ => false

/-- The call has returned, and holds no permit. -/
def Call.ended : Call → Bool
  | .requested _ => true
  | .refused _ => true
  | .finished _ _ => true
  | .closed _ => true
  | .observed _ => true
  | _ => false

theorem work_rise (word other : UInt8) (call : Call) :
    work other call ≤ work word call + 2 := by
  cases call with
  | requesting point => exact loopWork_rise _ _ _ _
  | acquiring point =>
      have rise := loopWork_rise acquireDecision word other point
      simp only [work]
      omega
  | finishing dropped point => exact loopWork_rise _ _ _ _
  | closing point => exact loopWork_rise _ _ _ _
  | _ => exact Nat.le_add_right _ _

/-- An access leaves its call with less to do, and may leave the others with
more where it takes a turn. -/
def Paced (word : UInt8) (call : Call) (slips : Bool)
    (outcome : UInt8 × Call × Effect) : Prop :=
  ∃ turn, (∀ other, work outcome.1 other ≤ work word other + 2 * turn) ∧
    work outcome.1 outcome.2.1 + 1 ≤ work word call + 2 * slips.toNat ∧
    turns outcome.2.1 + turn ≤ turns call

theorem paced_still {word : UInt8} {call after : Call} {slips : Bool}
    {effect : Effect}
    (lowers : work word after + 1 ≤ work word call + 2 * slips.toNat)
    (keeps : turns after ≤ turns call) :
    Paced word call slips (word, after, effect) :=
  ⟨0, fun _ => Nat.le_refl _, lowers, keeps⟩

theorem paced_turn {word next : UInt8} {call after : Call} {slips : Bool}
    {effect : Effect} (lowers : work next after + 1 ≤ work word call)
    (takes : turns after + 1 ≤ turns call) :
    Paced word call slips (next, after, effect) :=
  ⟨1, work_rise word next, Nat.le_add_right_of_le lowers, takes⟩

theorem step_paced {word : UInt8} {choice : Choice} {call : Call}
    {outcome : UInt8 × Call × Effect}
    (accessed : step word choice call = some outcome) :
    Paced word call choice.slips outcome := by
  unfold step at accessed
  split at accessed
  · obtain rfl := Option.some.inj accessed
    apply runLoop_paced
    · intro after lowers
      exact paced_still lowers (Nat.le_refl _)
    · intro next result
      exact paced_turn (loopWork_pos _ _ _) (Nat.le_refl _)
    · intro next
      exact paced_turn (loopWork_pos _ _ _) (Nat.le_refl _)
  · rename_i spurious point
    obtain rfl := Option.some.inj accessed
    have pos := loopWork_pos acquireDecision word point
    apply runLoop_paced
    · intro after lowers
      refine paced_still ?_ (Nat.le_refl _)
      simp only [work, Choice.slips]
      omega
    · intro next result
      cases result with
      | acquired =>
          refine paced_turn ?_ (Nat.le_refl _)
          simp only [work]
          omega
      | _ =>
          refine paced_turn ?_ ?_
          · exact Nat.le_add_right_of_le pos
          · exact Nat.le_succ 1
    · intro next
      exact paced_turn (Nat.le_add_right_of_le pos) (Nat.le_succ 1)
  · obtain rfl := Option.some.inj accessed
    refine paced_still ?_ (Nat.le_refl _)
    exact Nat.succ_le_succ (loopWork_le finishDecision word .load)
  · obtain rfl := Option.some.inj accessed
    refine paced_still ?_ (Nat.le_refl _)
    exact Nat.succ_le_succ (loopWork_le finishDecision word .load)
  · obtain rfl := Option.some.inj accessed
    apply runLoop_paced
    · intro after lowers
      exact paced_still lowers (Nat.le_refl _)
    · intro next result
      exact paced_turn (loopWork_pos _ _ _) (Nat.le_refl _)
    · intro next
      exact paced_turn (loopWork_pos _ _ _) (Nat.le_refl _)
  · obtain rfl := Option.some.inj accessed
    apply runLoop_paced
    · intro after lowers
      exact paced_still lowers (Nat.le_refl _)
    · intro next result
      exact paced_turn (loopWork_pos _ _ _) (Nat.le_refl _)
    · intro next
      exact paced_turn (loopWork_pos _ _ _) (Nat.le_refl _)
  · split at accessed <;> obtain rfl := Option.some.inj accessed <;>
      exact paced_still (Nat.le_add_right _ _) (Nat.le_refl _)
  · cases accessed

/-- What the calls on a signal still have to do. -/
def pacing : Pacing machine where
  slips := Choice.slips
  work := work
  stock := fun _ => 0
  turns := turns
  turnStock := fun _ => 0
  first := 6
  most := 2
  rise := 2
  slip := 2
  starts := by
    intro word op
    cases op with
    | request => exact (loopWork_load_le _ _).trans (by omega)
    | acquire => exact Nat.add_le_add_right (loopWork_load_le _ _) 4
    | close => exact (loopWork_load_le _ _).trans (by omega)
    | state => exact Nat.le_add_left 1 5
  begins := by
    intro op
    cases op <;> decide
  advances := by
    intro word choice call next after effect accessed
    obtain ⟨turn, rises, lowers, turns⟩ := step_paced accessed
    refine ⟨turn, rises, ?_, ?_⟩
    · simpa only [Nat.zero_add] using lowers
    · simpa only [Nat.zero_add] using turns

/-- A call that stands in a panic after an access panicked at it. -/
def TellsPanic (outcome : UInt8 × Call × Effect) : Prop :=
  outcome.2.1 = .panicked → outcome.2.2 = .panicked

theorem step_tellsPanic {word : UInt8} {choice : Choice} {before : Call}
    {outcome : UInt8 × Call × Effect}
    (accessed : step word choice before = some outcome) :
    TellsPanic outcome := by
  unfold step at accessed
  split at accessed
  · obtain rfl := Option.some.inj accessed
    apply runLoop_induction TellsPanic
    · exact fun _ => nofun
    · exact fun _ _ _ => nofun
    · exact fun _ _ => rfl
  · obtain rfl := Option.some.inj accessed
    apply runLoop_induction TellsPanic
    · exact fun _ => nofun
    · intro next result _
      cases result <;> exact nofun
    · exact fun _ _ => rfl
  · obtain rfl := Option.some.inj accessed
    exact nofun
  · obtain rfl := Option.some.inj accessed
    exact nofun
  · obtain rfl := Option.some.inj accessed
    apply runLoop_induction TellsPanic
    · exact fun _ => nofun
    · exact fun _ _ _ => nofun
    · exact fun _ _ => rfl
  · obtain rfl := Option.some.inj accessed
    apply runLoop_induction TellsPanic
    · exact fun _ => nofun
    · exact fun _ _ _ => nofun
    · exact fun _ _ => rfl
  · split at accessed
    · obtain rfl := Option.some.inj accessed
      exact nofun
    · obtain rfl := Option.some.inj accessed
      exact fun _ => rfl
  · cases accessed

/-- No call on a signal reaches an arm the source calls unreachable. -/
theorem run_calm {trace : List (PoolLabel Op Effect)} {pool : Pool UInt8 Call}
    (run : system.Run trace pool) : .panicked ∉ pool.calls := by
  refine System.Run.invariant (fun _ pool => .panicked ∉ pool.calls)
    ?_ ?_ run
  · rintro ⟨word, calls⟩ ⟨_, rfl⟩
    exact List.not_mem_nil
  · intro trace pool label next earlier calm moved panicked
    obtain ⟨ledger, _, relates⟩ := run_ledger earlier
    cases Machine.step_cases moved with
    | invoked op =>
        rcases List.mem_append.mp panicked with before | now
        · exact calm before
        · cases op <;> cases List.mem_singleton.mp now
    | stepped index choice call shared after effect present accessed =>
        rw [relates.word] at accessed
        rcases List.mem_or_eq_of_mem_set panicked with before | now
        · exact calm before
        · have panics : effect = .panicked := step_tellsPanic accessed now.symm
          rw [panics] at accessed
          exact step_follows accessed

/-- So many calls on a signal make a bounded number of accesses under any
scheduler, and none of them is ever stopped. -/
theorem execAll_signalLockFree {actions : List (PoolAction Op Choice)}
    {pool : Pool UInt8 Call} {labels : List (PoolLabel Op Effect)}
    (executed :
      machine.execAll ⟨idleWord, []⟩ actions = some (pool, labels)) :
    LockFree machine Choice.slips Call.ended
      (fun calls => calls * (6 + 4 * calls)) 2 actions pool := by
  constructor
  · have bounded := pacing.accesses_le rfl rfl executed
    have same : ∀ calls : Nat, 6 + 2 * calls * 2 = 6 + 4 * calls := by
      intro calls
      omega
    simpa only [pacing, same] using bounded
  · intro call present unfinished
    have run : system.Run labels pool :=
      ⟨_, ⟨rfl, rfl⟩, Machine.path_of_execAll executed⟩
    cases call with
    | panicked => exact absurd present (run_calm run)
    | requesting point => exact ⟨.run false, rfl, rfl⟩
    | acquiring point => exact ⟨.run false, rfl, rfl⟩
    | holding => exact ⟨.finish, rfl, rfl⟩
    | finishing dropped point => exact ⟨.run false, rfl, rfl⟩
    | closing point => exact ⟨.run false, rfl, rfl⟩
    | loading =>
        refine ⟨.run false, rfl, ?_⟩
        simp only [machine, step]
        split <;> rfl
    | _ => cases unfinished

theorem closeUnderPermit_signalLockFree :
    ∃ pool labels,
      machine.execAll ⟨idleWord, []⟩ closeUnderPermit =
        some (pool, labels) ∧
      accesses closeUnderPermit = 12 ∧
      LockFree machine Choice.slips Call.ended
        (fun calls => calls * (6 + 4 * calls)) 2 closeUnderPermit pool := by
  have executes :
      (machine.execAll ⟨idleWord, []⟩ closeUnderPermit).isSome = true := by
    decide
  obtain ⟨⟨pool, labels⟩, executed⟩ := Option.isSome_iff_exists.mp executes
  exact ⟨pool, labels, executed, by decide, execAll_signalLockFree executed⟩

end DrainSignal

namespace IngressGate

variable {width : PointerWidth}

/-- The accesses a call still makes if nobody exchanges the word. -/
def work (word : width.Usize) : Call width → Nat
  | .reserving point => loopWork reserveDecision word point + 1
  | .holding => 1
  | .closing point => loopWork beginCloseDecision word point
  | .sealing point => loopWork trySealDecision word point
  | .loading => 1
  | .counting => 1
  | _ => 0

/-- The exchanges a call can still succeed with. -/
def turns : Call width → Nat
  | .reserving _ => 2
  | .holding => 1
  | .closing _ => 1
  | .sealing _ => 1
  | _ => 0

/-- The exchange is one that fails by itself. -/
def Choice.slips : Choice → Bool
  | .run spurious => spurious
  | _ => false

/-- The call has returned, and holds no permit that will be settled. -/
def Call.ended : Call width → Bool
  | .reserving _ => false
  | .holding => false
  | .closing _ => false
  | .sealing _ => false
  | .loading => false
  | .counting => false
  | .panicked => false
  | _ => true

theorem work_rise (word other : width.Usize) (call : Call width) :
    work other call ≤ work word call + 2 := by
  cases call with
  | reserving point =>
      have rise := loopWork_rise reserveDecision word other point
      simp only [work]
      omega
  | closing point => exact loopWork_rise _ _ _ _
  | sealing point => exact loopWork_rise _ _ _ _
  | _ => exact Nat.le_add_right _ _

/-- An access leaves its call with less to do, and may leave the others with
more where it takes a turn. -/
def Paced (word : width.Usize) (call : Call width) (slips : Bool)
    (outcome : width.Usize × Call width × Effect) : Prop :=
  ∃ turn, (∀ other, work outcome.1 other ≤ work word other + 2 * turn) ∧
    work outcome.1 outcome.2.1 + 1 ≤ work word call + 2 * slips.toNat ∧
    turns outcome.2.1 + turn ≤ turns call

section Steps

variable {word next : width.Usize} {call after : Call width} {slips : Bool}
  {effect : Effect}

theorem paced_still
    (lowers : work word after + 1 ≤ work word call + 2 * slips.toNat)
    (keeps : turns after ≤ turns call) :
    Paced word call slips (word, after, effect) :=
  ⟨0, fun _ => Nat.le_refl _, lowers, keeps⟩

theorem paced_turn (lowers : work next after + 1 ≤ work word call)
    (takes : turns after + 1 ≤ turns call) :
    Paced word call slips (next, after, effect) :=
  ⟨1, work_rise word next, Nat.le_add_right_of_le lowers, takes⟩

theorem step_paced {choice : Choice}
    {outcome : width.Usize × Call width × Effect}
    (accessed : step word choice call = some outcome) :
    Paced word call choice.slips outcome := by
  unfold step at accessed
  split at accessed
  · rename_i spurious point
    obtain rfl := Option.some.inj accessed
    have pos := loopWork_pos reserveDecision word point
    apply runLoop_paced
    · intro after lowers
      refine paced_still ?_ (Nat.le_refl _)
      simp only [work, Choice.slips]
      omega
    · intro next result
      cases result with
      | ok granted => exact paced_turn (Nat.succ_le_succ pos) (Nat.le_refl _)
      | error error =>
          exact paced_turn (Nat.le_add_right_of_le pos) (Nat.le_succ 1)
    · intro next
      exact paced_turn (Nat.le_add_right_of_le pos) (Nat.le_succ 1)
  · split at accessed <;> obtain rfl := Option.some.inj accessed <;>
      exact paced_turn (Nat.le_refl _) (Nat.le_refl _)
  · obtain rfl := Option.some.inj accessed
    exact paced_still (Nat.le_add_right _ _) (Nat.zero_le _)
  · obtain rfl := Option.some.inj accessed
    apply runLoop_paced
    · intro after lowers
      exact paced_still lowers (Nat.le_refl _)
    · intro next result
      exact paced_turn (loopWork_pos _ _ _) (Nat.le_refl _)
    · intro next
      exact paced_turn (loopWork_pos _ _ _) (Nat.le_refl _)
  · obtain rfl := Option.some.inj accessed
    apply runLoop_paced
    · intro after lowers
      exact paced_still lowers (Nat.le_refl _)
    · intro next result
      exact paced_turn (loopWork_pos _ _ _) (Nat.le_refl _)
    · intro next
      exact paced_turn (loopWork_pos _ _ _) (Nat.le_refl _)
  · split at accessed <;> obtain rfl := Option.some.inj accessed <;>
      exact paced_still (Nat.le_add_right _ _) (Nat.le_refl _)
  · obtain rfl := Option.some.inj accessed
    exact paced_still (Nat.le_add_right _ _) (Nat.le_refl _)
  · cases accessed

end Steps

/-- What the calls on a gate still have to do. -/
def pacing (width : PointerWidth) : Pacing (machine width) where
  slips := Choice.slips
  work := work
  stock := fun _ => 0
  turns := turns
  turnStock := fun _ => 0
  first := 3
  most := 2
  rise := 2
  slip := 2
  starts := by
    intro word op
    cases op with
    | reserve => exact Nat.add_le_add_right (loopWork_load_le _ _) 1
    | beginClose => exact Nat.le_succ_of_le (loopWork_load_le _ _)
    | trySeal => exact Nat.le_succ_of_le (loopWork_load_le _ _)
    | state => exact Nat.le_add_left 1 2
    | inFlightReservations => exact Nat.le_add_left 1 2
  begins := by
    intro op
    cases op <;> simp [machine, start, turns]
  advances := by
    intro word choice call next after effect accessed
    obtain ⟨turn, rises, lowers, turns⟩ := step_paced accessed
    refine ⟨turn, rises, ?_, ?_⟩
    · simpa only [Nat.zero_add] using lowers
    · simpa only [Nat.zero_add] using turns

/-- A call that stands in a panic after an access panicked at it. -/
def TellsPanic (outcome : width.Usize × Call width × Effect) : Prop :=
  outcome.2.1 = .panicked → outcome.2.2 = .panicked

theorem step_tellsPanic {word : width.Usize} {choice : Choice}
    {before : Call width} {outcome : width.Usize × Call width × Effect}
    (accessed : step word choice before = some outcome) :
    TellsPanic outcome := by
  unfold step at accessed
  split at accessed
  · obtain rfl := Option.some.inj accessed
    apply runLoop_induction TellsPanic
    · exact fun _ => nofun
    · intro next result _
      cases result <;> exact nofun
    · exact fun _ _ => rfl
  · split at accessed
    · obtain rfl := Option.some.inj accessed
      exact fun _ => rfl
    · obtain rfl := Option.some.inj accessed
      exact nofun
  · obtain rfl := Option.some.inj accessed
    exact nofun
  · obtain rfl := Option.some.inj accessed
    apply runLoop_induction TellsPanic
    · exact fun _ => nofun
    · exact fun _ _ _ => nofun
    · exact fun _ _ => rfl
  · obtain rfl := Option.some.inj accessed
    apply runLoop_induction TellsPanic
    · exact fun _ => nofun
    · exact fun _ _ _ => nofun
    · exact fun _ _ => rfl
  · split at accessed
    · obtain rfl := Option.some.inj accessed
      exact nofun
    · obtain rfl := Option.some.inj accessed
      exact fun _ => rfl
  · obtain rfl := Option.some.inj accessed
    exact nofun
  · cases accessed

/-- No call on a gate finds a word that is no state, or no permit to settle. -/
theorem run_calm {trace : List (PoolLabel Op Effect)}
    {pool : Pool width.Usize (Call width)}
    (run : (system width).Run trace pool) : .panicked ∉ pool.calls := by
  refine System.Run.invariant (fun _ pool => .panicked ∉ pool.calls)
    ?_ ?_ run
  · rintro ⟨word, calls⟩ ⟨_, rfl⟩
    exact List.not_mem_nil
  · intro trace pool label next earlier calm moved panicked
    obtain ⟨ledger, ledgerRun, relates⟩ := run_ledger earlier
    obtain ⟨silent, _⟩ :=
      shows_step (GateLedger.run_sound ledgerRun) relates moved
    cases Machine.step_cases moved with
    | invoked op =>
        rcases List.mem_append.mp panicked with before | now
        · exact calm before
        · cases op <;> cases List.mem_singleton.mp now
    | stepped index choice call shared after effect present accessed =>
        rcases List.mem_or_eq_of_mem_set panicked with before | now
        · exact calm before
        · have panics : effect = .panicked := step_tellsPanic accessed now.symm
          rw [panics] at silent
          exact silent index rfl

/-- So many calls on a gate make a bounded number of accesses under any
scheduler, and none of them is ever stopped. -/
theorem execAll_gateLockFree {actions : List (PoolAction Op Choice)}
    {pool : Pool width.Usize (Call width)}
    {labels : List (PoolLabel Op Effect)}
    (executed : (machine width).execAll ⟨openWord width, []⟩ actions =
      some (pool, labels)) :
    LockFree (machine width) Choice.slips Call.ended
      (fun calls => calls * (3 + 4 * calls)) 2 actions pool := by
  constructor
  · have bounded := (pacing width).accesses_le rfl rfl executed
    have same : ∀ calls : Nat, 3 + 2 * calls * 2 = 3 + 4 * calls := by
      intro calls
      omega
    simpa only [pacing, same] using bounded
  · intro call present unfinished
    have run : (system width).Run labels pool :=
      ⟨_, ⟨rfl, rfl⟩, Machine.path_of_execAll executed⟩
    cases call with
    | panicked => exact absurd present (run_calm run)
    | reserving point => exact ⟨.run false, rfl, rfl⟩
    | holding =>
        refine ⟨.settle, rfl, ?_⟩
        simp only [machine, step]
        split <;> rfl
    | closing point => exact ⟨.run false, rfl, rfl⟩
    | sealing point => exact ⟨.run false, rfl, rfl⟩
    | loading =>
        refine ⟨.run false, rfl, ?_⟩
        simp only [machine, step]
        split <;> rfl
    | counting => exact ⟨.run false, rfl, rfl⟩
    | _ => cases unfinished

theorem closeOverPermits_gateLockFree :
    ∃ pool labels,
      (machine .sixtyFour).execAll ⟨openWord .sixtyFour, []⟩
        closeOverPermits = some (pool, labels) ∧
      accesses closeOverPermits = 11 ∧
      LockFree (machine .sixtyFour) Choice.slips Call.ended
        (fun calls => calls * (3 + 4 * calls)) 2 closeOverPermits pool := by
  have executes : ((machine .sixtyFour).execAll ⟨openWord .sixtyFour, []⟩
      closeOverPermits).isSome = true := by
    decide
  obtain ⟨⟨pool, labels⟩, executed⟩ := Option.isSome_iff_exists.mp executes
  exact ⟨pool, labels, executed, by decide, execAll_gateLockFree executed⟩

end IngressGate

end RustJsi.Runtime
