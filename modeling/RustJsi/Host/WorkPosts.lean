import RustJsi.Host.WorkMailbox
import RustJsi.Runtime.MailboxConservation
import RustJsi.Runtime.MailboxSignal

/-!
# One outstanding host post

The mailbox owes the host a post whenever a request scheduled a drain and
whenever a settlement left one pending.  As long as every post is made by the
call that owes it and accepted, the posts accepted or still due are the drains
acquired and the one that is pending.
-/

namespace RustJsi.Host

open Interleaving RustJsi.Runtime

namespace ScheduledWorkMailbox

open ClosableMailbox (signalEvents CallbackOutcome Moves)

variable {T E : Type*} {width : PointerWidth} {capacity : Nat}
  {attachment : AttachmentId}

/-- How the host answered the post an access ended, if it ended one. -/
def postOutcome? : Effect T E → Option (CallbackOutcome E)
  | .answered .post outcome => some outcome
  | .answered (.operation after) outcome =>
      if after = .pending then some outcome else none
  | .answered .retry outcome => some outcome
  | _ => none

/-- The host accepted a post. -/
def acceptsPost (effect : Effect T E) : Bool :=
  match postOutcome? effect with
  | some .ok => true
  | _ => false

def postsAccepted (trace : List (PoolLabel (Op T) (Effect T E))) : Nat :=
  trace.countP fun label => label.effect?.any acceptsPost

/-- A drain became due in this call, and the host has not been asked yet. -/
def owesPost : Call width T E → Bool
  | .posting => true
  | .operating after => after = .pending
  | _ => false

def postsDue (pool : Pool (Shared width T capacity) (Call width T E)) : Nat :=
  pool.calls.countP owesPost

def drainsAcquired (trace : List (PoolLabel (Op T) (Effect T E))) : Nat :=
  SignalLedger.drainsGranted (signalEvents trace)

/-- Whether the signal is pending, as a number. -/
def pendingNow (pool : Pool (Shared width T capacity) (Call width T E)) :
    Nat :=
  if DrainSignal.stateFromRaw pool.shared.signal = some .pending then 1 else 0

/-! ## The discipline of posting -/

/-- Producers use `enqueue_and_post`, drains end by `finish_and_post`, nobody
retries a post, and the host accepts every one. -/
def PostsAlways : PoolAction (Op T) (Choice E) → Prop
  | .invoke (.enqueue _) => False
  | .invoke .postPending => False
  | .advance _ .finish => False
  | .advance _ .drop => False
  | .advance _ (.post (.error _)) => False
  | .advance _ (.post .unwound) => False
  | _ => True

/-- A call that keeps the discipline. -/
def Disciplined : Call width T E → Prop
  | .reservingProducer posts _ _ => posts = true
  | .pushing posts _ => posts = true
  | .publishing posts _ => posts = true
  | .checking ending => ending = .finishWith
  | .preserving ending _ => ending = .finishWith
  | .finishing ending _ => ending = .finishWith
  | .reservingRetry _ => False
  | .inspecting => False
  | .retrying => False
  | _ => True

section Steps

variable {shared next : Shared width T capacity} {choice : Choice E}
  {call after : Call width T E} {effect : Effect T E} {index : Nat}

theorem step_moves
    (accessed : step shared choice call = some (next, after, effect)) :
    Moves call effect after := by
  obtain ⟨chosen, innerAccessed⟩ := step_inner accessed
  exact ClosableMailbox.step_moves innerAccessed

/-- A disciplined drain ends by `finish_and_post`. -/
private theorem drain_ends {ending : ClosableMailbox.Ending}
    (keeps : PostsAlways (.advance index choice : PoolAction (Op T) (Choice E)))
    (accessed : step shared choice .draining =
      some (next, .checking ending, effect)) : ending = .finishWith := by
  cases choice with
  | run spurious => cases accessed
  | pop =>
      simp only [step, ClosableMailbox.step] at accessed
      split at accessed <;> cases accessed
  | finish => exact keeps.elim
  | finishAndPost =>
      cases accessed
      rfl
  | drop => exact keeps.elim
  | post outcome => cases accessed

/-- What a disciplined step leaves is disciplined. -/
theorem step_disciplined
    (keeps : PostsAlways (.advance index choice : PoolAction (Op T) (Choice E)))
    (disciplined : Disciplined call)
    (accessed : step shared choice call = some (next, after, effect)) :
    Disciplined after := by
  have moves := step_moves accessed
  cases moves with
  | ended ending => exact drain_ends keeps accessed
  | observed observer load state => cases observer <;> trivial
  | settled ending point after =>
      cases ending <;> trivial
  | _ => trivial

/-- Under the discipline the host accepts every post. -/
theorem step_accepted
    (keeps : PostsAlways (.advance index choice : PoolAction (Op T) (Choice E)))
    {callback : ClosableMailbox.Callback} {outcome : CallbackOutcome E}
    (accessed : step shared choice call =
      some (next, after, .answered callback outcome)) : outcome = .ok := by
  have moves := step_moves accessed
  have answers : choice = .post outcome ∨ outcome = .ok := by
    cases moves with
    | posted outcome =>
        cases choice <;>
          simp_all [step, ClosableMailbox.step]
    | operated after outcome =>
        cases choice <;>
          simp_all [step, ClosableMailbox.step]
    | retryAnswered outcome =>
        cases choice <;>
          simp_all [step, ClosableMailbox.step]
  rcases answers with rfl | accepted
  · cases outcome with
    | ok => rfl
    | error error => exact keeps.elim
    | unwound => exact keeps.elim
  · exact accepted

/-- A drain becomes due in the call that has the host asked for it. -/
theorem moves_owe (moves : Moves call effect after)
    (disciplined : Disciplined call)
    (accepted : ∀ callback outcome, effect = .answered callback outcome →
      outcome = .ok) (calm : after ≠ .panicked) :
    (effect.signal?.any SignalLedger.owesDrain).toNat +
        (owesPost call).toNat =
      (acceptsPost effect).toNat + (owesPost after).toNat := by
  cases moves with
  | announced point => rfl
  | published posts point result outcome mailbox noPost =>
      rcases noPost with silent | rfl
      · rw [disciplined] at silent
        cases silent
      · cases result <;> cases mailbox
        rfl
  | posted outcome =>
      obtain rfl := accepted _ _ rfl
      rfl
  | settled ending point after =>
      obtain rfl : ending = .finishWith := disciplined
      cases after <;> rfl
  | operated after outcome =>
      obtain rfl := accepted _ _ rfl
      cases after <;> rfl
  | retryAnswered outcome => exact disciplined.elim
  | retryFound => exact disciplined.elim
  | observed observer load state => cases observer <;> rfl
  | panicked => exact absurd rfl calm
  | _ => rfl

end Steps

/-! ## The balance of posts -/

/-- The disciplined runs of a mailbox. -/
def postingSystem (attachment : AttachmentId) (width : PointerWidth)
    (T E : Type*) (capacity : Nat) :
    System (Pool (Shared width T capacity) (Call width T E))
      (PoolLabel (Op T) (Effect T E)) :=
  (machine attachment width T E capacity).disciplined PostsAlways
    (fun shared => shared = ClosableMailbox.new)

section Runs

variable {trace : List (PoolLabel (Op T) (Effect T E))}
  {pool : Pool (Shared width T capacity) (Call width T E)}

/-- Every call keeps the discipline, and every drain that became due is a post
accepted or still due. -/
structure Posted (trace : List (PoolLabel (Op T) (Effect T E)))
    (pool : Pool (Shared width T capacity) (Call width T E)) : Prop where
  disciplined : ∀ (index : Nat) call, pool.calls[index]? = some call →
    Disciplined call
  owed : SignalLedger.drainsOwed (signalEvents trace) =
    postsAccepted trace + postsDue pool

private theorem start_disciplined {op : Op T}
    (keeps : PostsAlways (.invoke op : PoolAction (Op T) (Choice E))) :
    Disciplined ((machine attachment width T E capacity).start op) ∧
      owesPost ((machine attachment width T E capacity).start op) = false := by
  cases op with
  | enqueue payload => exact keeps.elim
  | postPending => exact keeps.elim
  | enqueueAndPost payload => exact ⟨rfl, rfl⟩
  | _ => exact ⟨trivial, rfl⟩

private theorem drainsOwed_snoc
    (trace : List (PoolLabel (Op T) (Effect T E)))
    (label : PoolLabel (Op T) (Effect T E)) :
    SignalLedger.drainsOwed (signalEvents (trace ++ [label])) =
      SignalLedger.drainsOwed (signalEvents trace) +
        ((label.effect?.bind ClosableMailbox.Effect.signal?).any
          SignalLedger.owesDrain).toNat := by
  rw [ClosableMailbox.signalEvents_snoc, SignalLedger.drainsOwed,
    List.countP_append]
  cases label.effect?.bind ClosableMailbox.Effect.signal? with
  | none => rfl
  | some event =>
      simp only [Option.toList_some, Option.any_some, List.countP_singleton]
      cases SignalLedger.owesDrain event <;> rfl

theorem run_posted
    (run : (postingSystem attachment width T E capacity).Run trace pool) :
    Posted trace pool := by
  refine System.Run.invariant Posted ?_ ?_ run
  · intro pool starts
    obtain ⟨shared, calls⟩ := pool
    obtain ⟨_, rfl⟩ := starts
    exact ⟨nofun, rfl⟩
  · intro trace pool label next earlier posted moved
    have calm := ClosableMailbox.run_not_panicked
      (run_inner (Machine.run_of_disciplined (earlier.snoc moved)))
    rcases Machine.disciplined_cases moved with
      ⟨op, keeps, rfl, rfl⟩ |
      ⟨index, choice, call, shared, after, effect, keeps, present, accessed,
        rfl, rfl⟩
    · have started :
          Disciplined ((machine attachment width T E capacity).start op) ∧
          owesPost ((machine attachment width T E capacity).start op) =
            false := start_disciplined keeps
      constructor
      · exact forall_append_single posted.disciplined started.1
      · have owed := posted.owed
        simp only [postsAccepted, postsDue] at owed
        rw [drainsOwed_snoc, postsAccepted, postsDue, countP_append_single,
          countP_append_single, started.2, owed]
        rfl
    · have disciplined := posted.disciplined index call present
      have accepted : ∀ callback outcome,
          effect = .answered callback outcome → outcome = .ok := by
        rintro callback outcome rfl
        exact step_accepted keeps accessed
      have bound := (List.getElem?_eq_some_iff.mp present).1
      have owe := moves_owe (step_moves accessed) disciplined accepted
        (calm index after (List.getElem?_set_self bound))
      have due := countP_set_add owesPost after present
      constructor
      · refine forall_set (fun other call _ => posted.disciplined other call)
          (step_disciplined keeps disciplined accessed)
      · have owed := posted.owed
        rw [drainsOwed_snoc, postsAccepted, postsDue, countP_append_single]
        simp only [postsAccepted, postsDue] at owed
        simp only [PoolLabel.effect?_stepped, Option.bind_some,
          Option.any_some]
        omega

/-- Every wake-up is posted once. -/
structure PostsOnce (trace : List (PoolLabel (Op T) (Effect T E)))
    (pool : Pool (Shared width T capacity) (Call width T E)) : Prop where
  /-- Until a terminal claimant closes the signal, the posts accepted and due
  exceed the drains acquired by one while the signal is pending, and by none
  otherwise. -/
  exactlyOne : DrainSignal.stateFromRaw pool.shared.signal ≠ some .closed →
    postsAccepted trace + postsDue pool =
      drainsAcquired trace + pendingNow pool
  /-- A terminal claimant that closes a pending signal takes over its work, so
  the post made for it is never answered by a drain. -/
  balance : postsAccepted trace + postsDue pool =
    drainsAcquired trace + pendingNow pool +
      SignalLedger.drainsAbandoned (signalEvents trace)

theorem Posted.postsOnce (posted : Posted trace pool)
    (run : (system attachment width T E capacity).Run trace pool) :
    PostsOnce trace pool := by
  obtain ⟨signal, signalRun, shown⟩ := ClosableMailbox.run_signal (run_inner run)
  rw [innerTrace, ClosableMailbox.signalEvents_translate] at signalRun
  have pending : pendingNow pool = SignalLedger.pendingDrain signal.state := by
    rw [pendingNow, shown, DrainState.stateFromRaw_raw]
    simp [SignalLedger.pendingDrain]
  constructor
  · intro stillOpen
    rw [shown, DrainState.stateFromRaw_raw] at stillOpen
    have account := SignalLedger.run_account signalRun
      (fun closed => stillOpen (congrArg some closed))
    rw [← posted.owed, pending]
    exact account
  · rw [← posted.owed, pending]
    exact SignalLedger.run_balance signalRun

/-- The call is inside `post_drain`. -/
def runsPoster : Call width T E → Bool
  | .posting => true
  | .operating after => after = .pending
  | .retrying => true
  | _ => false

/-- The call is about to return, or has returned, the error of its post. -/
def Reports (attachment : AttachmentId) (error : E) :
    Call width T E → Prop
  | .releasingProducer result =>
      enqueueAndPostResult attachment result =
        some (.error (.post attachment error))
  | .enqueued result =>
      enqueueAndPostResult attachment result =
        some (.error (.post attachment error))
  | .releasingDrain result =>
      finishAndPostResult attachment result =
        some (.error (.post attachment error))
  | .drained result =>
      finishAndPostResult attachment result =
        some (.error (.post attachment error))
  | .releasingRetry result => result = some (.error error)
  | .retried result => result = some (.error error)
  | _ => False

theorem Reports.keeps {call after : Call width T E} {effect : Effect T E}
    {error : E} (reports : Reports attachment error call)
    (moves : Moves call effect after) (calm : after ≠ .panicked) :
    Reports attachment error after := by
  cases moves with
  | producerSettled result => exact reports
  | drainSettled result => exact reports
  | retrySettled result => exact reports
  | panicked => exact absurd rfl calm
  | _ => exact reports.elim

theorem reports_of_failed {call after : Call width T E}
    {callback : ClosableMailbox.Callback} {error : E}
    (moves : Moves call (.answered callback (.error error)) after) :
    Reports attachment error after := by
  cases moves <;> rfl

/-- A call whose post failed reports it. -/
theorem run_reports
    (run : (system attachment width T E capacity).Run trace pool)
    {index : Nat} {callback : ClosableMailbox.Callback} {error : E}
    (failed : .stepped index (.answered callback (.error error)) ∈ trace)
    {call : Call width T E} (present : pool.calls[index]? = some call) :
    Reports attachment error call := by
  have bound := (List.getElem?_eq_some_iff.mp present).1
  obtain ⟨op, invoked⟩ := (run_recorded run).invoked index bound
  have history := run_history
    (fun _ effects call => call = .panicked ∨ ∀ callback error,
      .answered callback (.error error) ∈ effects →
      Reports attachment error call)
    ?_ ?_ run index op call invoked present
  · rcases history with crashed | reports
    · exact absurd crashed
        (ClosableMailbox.run_not_panicked (run_inner run) index call present)
    · apply reports callback error
      exact List.mem_filterMap.mpr
        ⟨_, failed, by simp [PoolLabel.effectOf?]⟩
  · intro op
    refine Or.inr ?_
    intro callback error member
    cases member
  · intro op effects before shared choice next after effect earlier accessed
    have moves := step_moves accessed
    by_cases crashed : after = .panicked
    · exact Or.inl crashed
    · refine Or.inr ?_
      intro callback error member
      rcases List.mem_append.mp member with old | now
      · rcases earlier with gone | reports
        · rw [gone] at moves
          cases moves
          exact absurd rfl crashed
        · exact (reports callback error old).keeps moves crashed
      · cases List.mem_singleton.mp now
        exact reports_of_failed moves

/-- Somebody inside `post_drain` is there because the signal was pending. -/
def SawPending (attachment : AttachmentId)
    (trace : List (PoolLabel (Op T) (Effect T E)))
    (pool : Pool (Shared width T capacity) (Call width T E))
    (index : Nat) : Prop :=
  ∃ before after middle, trace = before ++ after ∧
    (system attachment width T E capacity).Run before middle ∧
    (system attachment width T E capacity).Path middle after pool ∧
    middle.shared.signal = DrainState.pending.raw ∧
    ∃ call, middle.calls[index]? = some call ∧ runsPoster call = true

theorem SawPending.append
    {later : List (PoolLabel (Op T) (Effect T E))}
    {next : Pool (Shared width T capacity) (Call width T E)} {index : Nat}
    (saw : SawPending attachment trace pool index)
    (path : (system attachment width T E capacity).Path pool later next) :
    SawPending attachment (trace ++ later) next index := by
  obtain ⟨before, after, middle, rfl, run, first, pending, inside⟩ := saw
  exact ⟨before, after ++ later, middle, List.append_assoc _ _ _, run,
    first.append path, pending, inside⟩

/-- `post_pending` goes on to the host only when it finds the signal
pending. -/
theorem step_finds {shared next : Shared width T capacity}
    {choice : Choice E} {effect : Effect T E}
    (accessed : step shared choice .inspecting =
      some (next, .retrying, effect)) :
    next = shared ∧
      DrainSignal.stateFromRaw shared.signal = some .pending := by
  cases choice with
  | run spurious =>
      simp only [step, ClosableMailbox.step] at accessed
      split at accessed
      · rename_i pending
        cases accessed
        exact ⟨rfl, pending⟩
      · cases accessed
      · cases accessed
  | _ => cases accessed

/-- A call goes inside `post_drain` only on a pending signal. -/
theorem step_entersPoster
    {label : PoolLabel (Op T) (Effect T E)}
    {next : Pool (Shared width T capacity) (Call width T E)}
    (run : (system attachment width T E capacity).Run trace pool)
    (moved : (system attachment width T E capacity).step pool label next)
    {index : Nat} {after : Call width T E}
    (present : next.calls[index]? = some after)
    (inside : runsPoster after = true) :
    (∃ call, pool.calls[index]? = some call ∧ runsPoster call = true) ∨
      next.shared.signal = DrainState.pending.raw := by
  obtain ⟨ledger, _, sound, relates⟩ := ClosableMailbox.run_ledger (run_inner run)
  have innerMoved := (wraps attachment).step moved
  have signalled := ClosableMailbox.step_signal sound relates innerMoved
  cases Machine.step_cases moved with
  | invoked op =>
      by_cases earlier : index < pool.calls.length
      · rw [List.getElem?_append_left earlier] at present
        exact Or.inl ⟨after, present, inside⟩
      · rw [List.getElem?_append_right (by omega),
          List.getElem?_singleton] at present
        split at present
        · cases present
          cases op <;> cases inside
        · cases present
  | stepped stepping choice call shared next effect found accessed =>
      by_cases own : stepping = index
      · subst own
        have bound := (List.getElem?_eq_some_iff.mp found).1
        rw [List.getElem?_set_self bound] at present
        cases present
        have moves := step_moves accessed
        have owed : ∀ {event : DrainSignal.Event},
            effect.signal? = some event →
            SignalLedger.owesDrain event = true →
            shared.signal = DrainState.pending.raw := by
          intro event reported owes
          have answered : SignalLedger.system.Answers ledger.work.signal
            (fun signal => shared.signal = signal.state.raw)
            effect.signal? := signalled
          rw [reported] at answered
          obtain ⟨signal, step, shown⟩ := answered
          rw [shown, SignalLedger.step_owesDrain step owes]
        cases moves with
        | announced point => exact Or.inr (owed rfl rfl)
        | settled ending point after =>
            cases ending with
            | finish => cases inside
            | dropped => cases inside
            | finishWith =>
                cases after with
                | pending => exact Or.inr (owed rfl rfl)
                | idle => cases inside
                | closed => cases inside
        | retryFound =>
            obtain ⟨rfl, pending⟩ := step_finds accessed
            rw [relates.cells.signal, DrainState.stateFromRaw_raw,
              Option.some.injEq] at pending
            exact Or.inr (by rw [relates.cells.signal, pending])
        | observed observer load state => cases observer <;> cases inside
        | _ => cases inside
      · rw [List.getElem?_set_ne own] at present
        exact Or.inl ⟨after, present, inside⟩

theorem run_sawPending
    (run : (system attachment width T E capacity).Run trace pool) :
    ∀ (index : Nat) call, pool.calls[index]? = some call →
      runsPoster call = true → SawPending attachment trace pool index := by
  refine System.Run.invariant
    (fun trace pool => ∀ (index : Nat) call,
      pool.calls[index]? = some call → runsPoster call = true →
      SawPending attachment trace pool index) ?_ ?_ run
  · intro pool starts index call present
    rw [starts.2] at present
    cases present
  · intro trace pool label next earlier saw moved index call present inside
    rcases step_entersPoster earlier moved present inside with
      ⟨before, found, running⟩ | pending
    · exact (saw index before found running).append
        (System.Path.single moved)
    · exact ⟨trace ++ [label], [], next, (List.append_nil _).symm,
        earlier.snoc moved, System.Path.refl next, pending,
        call, present, inside⟩

/-- Only a call inside `post_drain` has its post fail, and that changes no
cell. -/
theorem step_failed {shared next : Shared width T capacity}
    {choice : Choice E} {call after : Call width T E}
    {callback : ClosableMailbox.Callback} {error : E}
    (accessed : step shared choice call =
      some (next, after, .answered callback (.error error))) :
    runsPoster call = true ∧ next = shared := by
  have moves := step_moves accessed
  cases moves with
  | posted =>
      cases choice with
      | post outcome =>
          simp only [step, ClosableMailbox.step, Option.some.injEq,
            Prod.mk.injEq] at accessed
          exact ⟨rfl, accessed.1.symm⟩
      | _ => cases accessed
  | retryAnswered =>
      cases choice with
      | post outcome =>
          simp only [step, ClosableMailbox.step, Option.some.injEq,
            Prod.mk.injEq] at accessed
          exact ⟨rfl, accessed.1.symm⟩
      | _ => cases accessed
  | operated after =>
      cases choice with
      | post outcome =>
          simp only [step] at accessed
          split at accessed
          · rename_i pending
            subst pending
            cases accessed
            exact ⟨rfl, rfl⟩
          · cases accessed
      | run spurious =>
          simp only [step] at accessed
          split at accessed
          · cases accessed
          · cases accessed
      | _ => cases accessed

/-- What holds of the posts of a run and of the state it ends in. -/
structure KeepsFailedPosts (attachment : AttachmentId)
    (trace : List (PoolLabel (Op T) (Effect T E)))
    (pool : Pool (Shared width T capacity) (Call width T E)) : Prop where
  /-- A call whose post failed reports the failure. -/
  reported : ∀ index callback error,
    .stepped index (.answered callback (.error error)) ∈ trace →
    ∃ call, pool.calls[index]? = some call ∧ Reports attachment error call
  /-- Its payload was pushed, and is popped in its turn or still queued. -/
  retained : ∀ index payload error,
    .invoked index (.enqueueAndPost payload) ∈ trace →
    .stepped index (.answered .post (.error error)) ∈ trace →
    ∃ earlier later,
      ClosableMailbox.pushes (innerTrace attachment trace) =
        earlier ++ (index, ⟨attachment, payload⟩) :: later ∧
      ((∃ popper,
        (ClosableMailbox.pops (innerTrace attachment trace))[earlier.length]? =
          some (popper, ⟨attachment, payload⟩)) ∨
      pool.shared.queue.items[earlier.length -
          (ClosableMailbox.pops (innerTrace attachment trace)).length]? =
        some ⟨attachment, payload⟩)
  /-- Until a terminal claimant closes the signal, it is still pending, or a
  drain was acquired since the call went inside the poster. -/
  pending : ∀ index callback error,
    .stepped index (.answered callback (.error error)) ∈ trace →
    DrainSignal.stateFromRaw pool.shared.signal ≠ some .closed →
    DrainSignal.stateFromRaw pool.shared.signal = some .pending ∨
    ∃ before after middle, trace = before ++ after ∧
      (system attachment width T E capacity).Run before middle ∧
      (∃ call, middle.calls[index]? = some call ∧ runsPoster call = true) ∧
      ∃ event ∈ signalEvents after, SignalLedger.grantsDrain event = true
  /-- The failure itself changes no cell. -/
  unchanged : ∀ index callback error next,
    (system attachment width T E capacity).step pool
      (.stepped index (.answered callback (.error error))) next →
    next.shared = pool.shared
  /-- `post_pending` calls the host only when it observes a pending signal. -/
  observed : ∀ label next (index : Nat),
    (system attachment width T E capacity).step pool label next →
    next.calls[index]? = some .retrying →
    pool.calls[index]? = some .retrying ∨
    DrainSignal.stateFromRaw pool.shared.signal = some .pending
  /-- While the signal is pending and the normal gate admits, a `post_pending`
  left to itself calls the host. -/
  reposted : DrainSignal.stateFromRaw pool.shared.signal = some .pending →
    IngressGate.stateFromRaw pool.shared.normalDrainGate = some .opened →
    IngressGate.reservationCount pool.shared.normalDrainGate ≠
      IngressGate.reservationMask width →
    ∃ next labels,
      (machine attachment width T E capacity).execAll pool
        (.invoke .postPending ::
          List.replicate 3 (.advance pool.calls.length (.run false))) =
        some (next, labels) ∧
      next.calls[pool.calls.length]? = some .retrying

/-- A payload that was pushed is popped in its turn or still queued. -/
private theorem retained_of_fifo {Payload : Type*}
    {pushes pops earlier later : List (Nat × Payload)}
    {items : List Payload} {index : Nat} {value : Payload}
    (fifo : pushes.map Prod.snd = pops.map Prod.snd ++ items)
    (pushed : pushes = earlier ++ (index, value) :: later) :
    (∃ popper, pops[earlier.length]? = some (popper, value)) ∨
      items[earlier.length - pops.length]? = some value := by
  have placed : (pushes.map Prod.snd)[earlier.length]? = some value := by
    rw [pushed]
    simp
  rw [fifo, List.getElem?_append, List.length_map] at placed
  split at placed
  · rw [List.getElem?_map, Option.map_eq_some_iff] at placed
    obtain ⟨⟨popper, popped⟩, taken, rfl⟩ := placed
    exact Or.inl ⟨popper, taken⟩
  · exact Or.inr placed

/-- What `enqueue_and_post` pushed before its post failed. -/
private theorem run_retains
    (run : (system attachment width T E capacity).Run trace pool)
    {index : Nat} {payload : T} {error : E}
    (invoked : .invoked index (.enqueueAndPost payload) ∈ trace)
    (failed : .stepped index (.answered .post (.error error)) ∈ trace) :
    ∃ earlier later,
      ClosableMailbox.pushes (innerTrace attachment trace) =
        earlier ++ (index, ⟨attachment, payload⟩) :: later := by
  have innerRun := run_inner run
  have bound := (run_recorded run).invokedBound index _ invoked
  have present := List.getElem?_eq_getElem bound
  have reports := run_reports run failed present
  have innerInvoked : .invoked index
      (.enqueueAndPost (⟨attachment, payload⟩ : ScheduledWork T)) ∈
      innerTrace attachment trace :=
    List.mem_map_of_mem invoked
  have pushed := ClosableMailbox.run_pushed innerRun index _ _ innerInvoked
    present
  have own : ClosableMailbox.pushedBy index (innerTrace attachment trace) =
      [⟨attachment, payload⟩] := by
    generalize pool.calls[index] = call at reports pushed
    have settled : ∀ {result},
        enqueueAndPostResult attachment result =
          some (.error (.post attachment error)) →
        ClosableMailbox.Settles
          (.enqueueAndPost (⟨attachment, payload⟩ : ScheduledWork T))
          (ClosableMailbox.pushedBy index (innerTrace attachment trace))
          result →
        ClosableMailbox.pushedBy index (innerTrace attachment trace) =
          [⟨attachment, payload⟩] := by
      intro result answer settles
      unfold ClosableMailbox.Settles at settles
      split at settles
      · cases answer
      · obtain ⟨value, offered, only⟩ := settles
        cases offered
        exact only
    cases call with
    | releasingProducer result => exact settled reports pushed
    | enqueued result => exact settled reports pushed
    | releasingDrain result => cases pushed.1
    | drained result => cases pushed.1
    | releasingRetry result => cases pushed.1
    | retried result => cases pushed.1
    | _ => exact reports.elim
  have member : (index, (⟨attachment, payload⟩ : ScheduledWork T)) ∈
      ClosableMailbox.pushes (innerTrace attachment trace) := by
    have among : (⟨attachment, payload⟩ : ScheduledWork T) ∈
        ClosableMailbox.pushedBy index (innerTrace attachment trace) := by
      rw [own]
      exact List.mem_singleton.mpr rfl
    obtain ⟨⟨pusher, value⟩, filtered, rfl⟩ := List.mem_map.mp among
    obtain ⟨member, ownPush⟩ := List.mem_filter.mp filtered
    obtain rfl : pusher = index := by simpa using ownPush
    exact member
  exact List.append_of_mem member

/-- A failed post leaves the signal pending unless a drain was acquired. -/
private theorem run_failed_pending
    (run : (system attachment width T E capacity).Run trace pool)
    {index : Nat} {callback : ClosableMailbox.Callback} {error : E}
    (failed : .stepped index (.answered callback (.error error)) ∈ trace)
    (stillOpen : DrainSignal.stateFromRaw pool.shared.signal ≠ some .closed) :
    DrainSignal.stateFromRaw pool.shared.signal = some .pending ∨
    ∃ before after middle, trace = before ++ after ∧
      (system attachment width T E capacity).Run before middle ∧
      (∃ call, middle.calls[index]? = some call ∧ runsPoster call = true) ∧
      ∃ event ∈ signalEvents after,
        SignalLedger.grantsDrain event = true := by
  have saw : SawPending attachment trace pool index := by
    obtain ⟨before, after, rfl⟩ := List.append_of_mem failed
    obtain ⟨source, target, earlier, moved, path⟩ := run.split_at
    have inside : ∃ call, source.calls[index]? = some call ∧
        runsPoster call = true := by
      generalize labelEq : PoolLabel.stepped index
        (ClosableMailbox.Effect.answered callback
          (CallbackOutcome.error error)) = label at moved
      cases Machine.step_cases moved with
      | invoked op => cases labelEq
      | stepped own choice call shared next effect present accessed =>
          cases labelEq
          exact ⟨call, present, (step_failed accessed).1⟩
    obtain ⟨call, present, running⟩ := inside
    exact (run_sawPending earlier index call present running).append
      (System.Path.cons moved path)
  obtain ⟨before, after, middle, traceEq, earlier, path, pending, inside⟩ := saw
  by_cases granted : ∃ event ∈ signalEvents after,
      SignalLedger.grantsDrain event = true
  · exact Or.inr ⟨before, after, middle, traceEq, earlier, inside, granted⟩
  · refine Or.inl ?_
    have innerPath := (wraps attachment).path path
    have quiet : ∀ event ∈ signalEvents
        (after.map (PoolLabel.translate (inner attachment))),
        SignalLedger.grantsDrain event = false ∧
        SignalLedger.takesClose event = false := by
      intro event member
      rw [ClosableMailbox.signalEvents_translate] at member
      constructor
      · exact Bool.eq_false_iff.mpr fun grants => granted ⟨event, member, grants⟩
      · apply Bool.eq_false_iff.mpr
        intro closes
        apply stillOpen
        obtain ⟨signal, signalRun, shown⟩ :=
          ClosableMailbox.run_signal (run_inner run)
        rw [innerTrace, ClosableMailbox.signalEvents_translate] at signalRun
        have closed := (SignalLedger.run_closed_iff signalRun).mpr
          ⟨event, by
            rw [traceEq, signalEvents, List.filterMap_append]
            exact List.mem_append_right _ member, closes⟩
        rw [shown, DrainState.stateFromRaw_raw, closed]
    have still := ClosableMailbox.path_pending (run_inner earlier) innerPath
      pending quiet
    rw [still, DrainState.stateFromRaw_raw]

theorem run_keepsFailedPosts
    (run : (system attachment width T E capacity).Run trace pool) :
    KeepsFailedPosts attachment trace pool where
  reported := by
    intro index callback error failed
    have bound : index < pool.calls.length := by
      apply (run_recorded run).effectBound index
      apply List.ne_nil_of_mem
      exact List.mem_filterMap.mpr
        ⟨_, failed, by simp [PoolLabel.effectOf?]; rfl⟩
    have present := List.getElem?_eq_getElem bound
    exact ⟨_, present, run_reports run failed present⟩
  retained := by
    intro index payload error invoked failed
    obtain ⟨earlier, later, pushed⟩ := run_retains run invoked failed
    exact ⟨earlier, later, pushed,
      retained_of_fifo (ClosableMailbox.run_fifo (run_inner run)) pushed⟩
  pending := by
    intro index callback error failed stillOpen
    exact run_failed_pending run failed stillOpen
  unchanged := by
    intro index callback error next moved
    generalize labelEq : PoolLabel.stepped index
      (ClosableMailbox.Effect.answered callback
        (CallbackOutcome.error error)) = label at moved
    cases Machine.step_cases moved with
    | invoked op => cases labelEq
    | stepped own choice call shared next effect present accessed =>
        cases labelEq
        exact (step_failed accessed).2
  observed := by
    intro label next index moved present
    cases Machine.step_cases moved with
    | invoked op =>
        refine Or.inl ?_
        by_cases earlier : index < pool.calls.length
        · rwa [List.getElem?_append_left earlier] at present
        · rw [List.getElem?_append_right (by omega),
            List.getElem?_singleton] at present
          split at present
          · cases op <;> cases present
          · cases present
    | stepped stepping choice call shared after effect found accessed =>
        by_cases own : stepping = index
        · subst own
          have bound := (List.getElem?_eq_some_iff.mp found).1
          rw [List.getElem?_set_self bound] at present
          cases present
          have moves := step_moves accessed
          generalize same : ClosableMailbox.Call.retrying = after at moves
          cases moves with
          | retryFound => exact Or.inr (step_finds accessed).2
          | settled ending point after => cases ending <;> cases same
          | observed observer load state => cases observer <;> cases same
          | _ => cases same
        · rw [List.getElem?_set_ne own] at present
          exact Or.inl present
  reposted := by
    intro pending opened room
    have admits : IngressGate.reserveDecision pool.shared.normalDrainGate =
        .exchange (pool.shared.normalDrainGate + 1) (.ok ()) := by
      simp [IngressGate.reserveDecision, opened, room]
    simp [Machine.execAll, Machine.exec, machine, step, inner,
      ClosableMailbox.start, ClosableMailbox.step, runLoop, loopStep, admits,
      ClosableMailbox.afterReserveRetry, pending,
      ClosableMailbox.Shared.setNormalDrainGate]

end Runs

/-- While every post is accepted, the posts accepted and due are the drains
acquired and the one pending; and a post that fails loses neither its payload
nor its drain. -/
theorem run_postsOnce (attachment : AttachmentId) (width : PointerWidth)
    (T E : Type*) (capacity : Nat) :
    (∀ {trace pool},
      (postingSystem attachment width T E capacity).Run trace pool →
      PostsOnce trace pool) ∧
    (∀ {trace pool},
      (system attachment width T E capacity).Run trace pool →
      KeepsFailedPosts attachment trace pool) := by
  constructor
  · intro trace pool run
    exact (run_posted run).postsOnce (Machine.run_of_disciplined run)
  · intro trace pool run
    exact run_keepsFailedPosts run

open PoolAction Choice Op in
/-- A producer posts late, after its payload was drained; meanwhile another
payload arrives, and the drain ends owing the post of its successor. -/
def postOverDrain : List (PoolAction (Op Nat) (Choice Unit)) :=
  [invoke (enqueueAndPost 7)] ++
  List.replicate 5 (advance 0 (run false)) ++
  [invoke acquire] ++
  List.replicate 4 (advance 1 (run false)) ++
  [advance 1 pop, advance 0 (post .ok), invoke (enqueueAndPost 8)] ++
  List.replicate 5 (advance 2 (run false)) ++
  [advance 1 finishAndPost] ++
  List.replicate 4 (advance 1 (run false))

open PoolAction Choice Op in
/-- A post fails, and `post_pending` makes it again. -/
def postAgain : List (PoolAction (Op Nat) (Choice Unit)) :=
  [invoke (enqueueAndPost 7)] ++
  List.replicate 5 (advance 0 (run false)) ++
  [advance 0 (post (.error ())), advance 0 (run false),
    invoke postPending] ++
  List.replicate 3 (advance 1 (run false)) ++
  [advance 1 (post .ok)]

/-- The first attachment of the first runtime. -/
def firstAttachment : AttachmentId where
  runtimeId := ⟨.one⟩
  epoch := ⟨.one⟩

theorem postOverDrain_postsOnce :
    (∃ pool trace,
      (machine firstAttachment .sixtyFour Nat Unit 2).execAll
        ⟨ClosableMailbox.new, []⟩ postOverDrain = some (pool, trace) ∧
      PostsOnce trace pool ∧
      (postsAccepted trace, postsDue pool, drainsAcquired trace,
        pendingNow pool) = (1, 1, 1, 1)) ∧
    (∃ pool trace,
      (machine firstAttachment .sixtyFour Nat Unit 2).execAll
        ⟨ClosableMailbox.new, []⟩ postAgain = some (pool, trace) ∧
      KeepsFailedPosts firstAttachment trace pool ∧
      (postsAccepted trace, pendingNow pool, pool.shared.queue.items) =
        (1, 1, [⟨firstAttachment, 7⟩])) := by
  constructor
  · obtain ⟨pool, trace, executed, run⟩ :=
      (machine firstAttachment .sixtyFour Nat Unit
        2).exists_run_of_execAll_disciplined PostsAlways
        (fun shared => shared = ClosableMailbox.new) postOverDrain rfl
        (by simp [postOverDrain, PostsAlways, or_imp, forall_and])
        (by decide)
    refine ⟨pool, trace, executed,
      (run_postsOnce firstAttachment .sixtyFour Nat Unit 2).1 run, ?_⟩
    have evaluated :
        ((machine firstAttachment .sixtyFour Nat Unit 2).execAll
          ⟨ClosableMailbox.new, []⟩ postOverDrain).map (fun result =>
            (postsAccepted result.2, postsDue result.1,
              drainsAcquired result.2, pendingNow result.1)) =
          some (1, 1, 1, 1) := by
      decide
    simpa [executed] using evaluated
  · obtain ⟨pool, trace, executed, run⟩ :=
      (machine firstAttachment .sixtyFour Nat Unit 2).exists_run_of_execAll
        (fun shared => shared = ClosableMailbox.new) postAgain rfl (by decide)
    refine ⟨pool, trace, executed,
      (run_postsOnce firstAttachment .sixtyFour Nat Unit 2).2 run, ?_⟩
    have evaluated :
        ((machine firstAttachment .sixtyFour Nat Unit 2).execAll
          ⟨ClosableMailbox.new, []⟩ postAgain).map (fun result =>
            (postsAccepted result.2, pendingNow result.1,
              result.1.shared.queue.items)) =
          some (1, 1, [⟨firstAttachment, 7⟩]) := by
      decide
    simpa [executed] using evaluated

end ScheduledWorkMailbox

end RustJsi.Host
