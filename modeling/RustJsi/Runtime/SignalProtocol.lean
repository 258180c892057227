import RustJsi.Runtime.Drain

/-!
# What a drain signal is for

The abstract signal is its decoded state together with the number of permits
alive.  Each operation is one indivisible step.  The facts proved here (one
permit, an exact account of wake-ups, nothing after close) are about that
object alone; every code path that uses a signal is shown to follow it.
-/

namespace RustJsi.Runtime

open Interleaving

namespace DrainState

/-- The state a request leaves and what it reports. -/
def request : DrainState → DrainState × DrainRequest
  | .idle => (.pending, .scheduled)
  | .pending => (.pending, .coalesced)
  | .draining => (.drainingWithPending, .coalesced)
  | .drainingWithPending => (.drainingWithPending, .coalesced)
  | .closed => (.closed, .closed)

/-- The state an acquisition attempt leaves and what it reports. -/
def acquire : DrainState → DrainState × DrainAcquire
  | .idle => (.idle, .idle)
  | .pending => (.draining, .acquired)
  | .draining => (.draining, .busy)
  | .drainingWithPending => (.drainingWithPending, .busy)
  | .closed => (.closed, .closed)

/-- The state a close leaves and what it reports. -/
def close : DrainState → DrainState × DrainClose
  | .closed => (.closed, .alreadyClosed)
  | state => (.closed, .closed state)

/-- The state the settlement of a permit leaves and what it reports. -/
def settle : DrainState → DrainState × DrainAfter
  | .draining => (.idle, .idle)
  | .drainingWithPending => (.pending, .pending)
  | state => (state, .closed)

end DrainState

namespace DrainSignal

theorem requestDecision_commit (state : DrainState) :
    (requestDecision state.raw).commit state.raw =
      some (state.request.1.raw, state.request.2) := by
  cases state <;> rfl

theorem acquireDecision_commit (state : DrainState) :
    (acquireDecision state.raw).commit state.raw =
      some (state.acquire.1.raw, state.acquire.2) := by
  cases state <;> rfl

theorem closeDecision_commit (state : DrainState) :
    (closeDecision state.raw).commit state.raw =
      some (state.close.1.raw, state.close.2) := by
  cases state <;> rfl

theorem finishDecision_commit (state : DrainState) :
    (finishDecision state.raw).commit state.raw =
      some (state.settle.1.raw, state.settle.2) := by
  cases state <;> rfl

end DrainSignal

/-- A decoded signal and the permits granted on it that have not settled. -/
structure SignalLedger where
  state : DrainState
  permits : Nat
  deriving DecidableEq, Repr

namespace SignalLedger

open DrainSignal (Event)

/-- One indivisible operation on the signal.  Only a live permit settles. -/
inductive Step : SignalLedger → Event → SignalLedger → Prop
  | request (ledger : SignalLedger) :
      Step ledger (.requested ledger.state.request.2)
        { ledger with state := ledger.state.request.1 }
  | acquire (ledger : SignalLedger) (available : ledger.state = .pending) :
      Step ledger .acquired
        { state := .draining, permits := ledger.permits + 1 }
  | refuse (ledger : SignalLedger) (unavailable : ledger.state ≠ .pending) :
      Step ledger (.refused ledger.state.acquire.2) ledger
  | settle (ledger : SignalLedger) (live : 0 < ledger.permits) :
      Step ledger (.settled ledger.state.settle.2)
        { state := ledger.state.settle.1, permits := ledger.permits - 1 }
  | close (ledger : SignalLedger) :
      Step ledger (.closed ledger.state.close.2)
        { ledger with state := ledger.state.close.1 }

theorem step_settled {ledger next : SignalLedger} {result : DrainAfter}
    (step : Step ledger (.settled result) next) :
    0 < ledger.permits ∧ result = ledger.state.settle.2 := by
  cases step with
  | settle live => exact ⟨live, rfl⟩

/-- The signal created by `DrainSignal::new`. -/
def fresh : SignalLedger := ⟨.idle, 0⟩

def system : System SignalLedger Event where
  initial := fun ledger => ledger = fresh
  step := Step

/-- How many permits each state allows. -/
def Sound (ledger : SignalLedger) : Prop :=
  match ledger.state with
  | .idle | .pending => ledger.permits = 0
  | .draining | .drainingWithPending => ledger.permits = 1
  | .closed => ledger.permits ≤ 1

theorem step_sound {ledger next : SignalLedger} {event : Event}
    (sound : ledger.Sound) (step : Step ledger event next) :
    next.Sound := by
  obtain ⟨state, permits⟩ := ledger
  cases step with
  | request =>
      cases state <;>
        simpa [Sound, DrainState.request] using sound
  | acquire available =>
      subst available
      simpa [Sound] using sound
  | refuse unavailable =>
      exact sound
  | settle live =>
      cases state <;>
        simp only [Sound, DrainState.settle] at sound live ⊢ <;>
        omega
  | close =>
      cases state <;>
        simp only [Sound, DrainState.close] at sound ⊢ <;>
        omega

theorem run_sound {trace : List Event} {ledger : SignalLedger}
    (run : system.Run trace ledger) : ledger.Sound := by
  refine System.Run.invariant (fun _ ledger => ledger.Sound)
    ?_ ?_ run
  · rintro ledger rfl
    exact rfl
  · intro _ earlier event next _ sound step
    exact step_sound sound step

theorem Sound.permits_le_one {ledger : SignalLedger}
    (sound : ledger.Sound) : ledger.permits ≤ 1 := by
  obtain ⟨state, permits⟩ := ledger
  cases state <;> simp only [Sound] at sound ⊢ <;> omega

/-- While a permit is alive the signal is draining or was closed under it. -/
theorem Sound.state_of_permit {ledger : SignalLedger}
    (sound : ledger.Sound) (live : 0 < ledger.permits) :
    ledger.state = .draining ∨ ledger.state = .drainingWithPending ∨
      ledger.state = .closed := by
  obtain ⟨state, permits⟩ := ledger
  cases state <;> simp only [Sound] at sound live ⊢ <;> simp <;> omega

/-- A draining signal has a live permit. -/
theorem Sound.permit_of_draining {ledger : SignalLedger}
    (sound : ledger.Sound)
    (draining : ledger.state = .draining ∨
      ledger.state = .drainingWithPending) : 0 < ledger.permits := by
  obtain ⟨state, permits⟩ := ledger
  rcases draining with rfl | rfl <;> simp only [Sound] at sound ⊢ <;> omega

/-- The events after which a drain is owed that was not owed before: a
scheduled request, and a settlement that left the signal pending. -/
def owesDrain : Event → Bool
  | .requested .scheduled => true
  | .settled .pending => true
  | _ => false

def grantsDrain : Event → Bool
  | .acquired => true
  | _ => false

/-- The events at which close took effect. -/
def takesClose : Event → Bool
  | .closed (.closed _) => true
  | _ => false

/-- A request that was accepted. -/
def acceptsRequest : Event → Bool
  | .requested .scheduled => true
  | .requested .coalesced => true
  | _ => false

def drainsOwed (trace : List Event) : Nat := trace.countP owesDrain

def drainsGranted (trace : List Event) : Nat := trace.countP grantsDrain

/-- The drain owed by the present state, as a number. -/
def pendingDrain (state : DrainState) : Nat :=
  if state = .pending then 1 else 0

/-- A close that found a drain owed leaves it to nobody. -/
def abandonsDrain : Event → Bool
  | .closed (.closed .pending) => true
  | _ => false

def drainsAbandoned (trace : List Event) : Nat := trace.countP abandonsDrain

private theorem step_balance {ledger next : SignalLedger} {event : Event}
    (sound : ledger.Sound) (step : Step ledger event next) :
    (owesDrain event).toNat + pendingDrain ledger.state =
      (grantsDrain event).toNat + pendingDrain next.state +
        (abandonsDrain event).toNat := by
  obtain ⟨state, permits⟩ := ledger
  cases step with
  | request =>
      cases state <;> rfl
  | acquire available =>
      subst available
      rfl
  | refuse unavailable =>
      cases state <;> rfl
  | settle live =>
      cases state with
      | idle =>
          simp only [Sound] at sound live
          omega
      | pending =>
          simp only [Sound] at sound live
          omega
      | draining => rfl
      | drainingWithPending => rfl
      | closed => rfl
  | close =>
      cases state <;> rfl

/-- The drains owed so far are those granted, those abandoned by a close and
the one a pending signal announces. -/
theorem run_balance {trace : List Event} {ledger : SignalLedger}
    (run : system.Run trace ledger) :
    drainsOwed trace =
      drainsGranted trace + pendingDrain ledger.state +
        drainsAbandoned trace := by
  refine System.Run.invariant
    (fun trace ledger => drainsOwed trace =
      drainsGranted trace + pendingDrain ledger.state +
        drainsAbandoned trace) ?_ ?_ run
  · intro ledger starts
    subst starts
    rfl
  · intro trace ledger event next earlier balance step
    have moved := step_balance (run_sound earlier) step
    simp only [drainsOwed, drainsGranted, drainsAbandoned] at balance ⊢
    rw [countP_append_single, countP_append_single, countP_append_single]
    omega

theorem step_closed {ledger next : SignalLedger} {event : Event}
    (step : Step ledger event next) (closed : ledger.state = .closed) :
    next.state = .closed := by
  cases step <;>
    simp_all [DrainState.request, DrainState.settle, DrainState.close]

theorem step_takesClose {ledger next : SignalLedger} {event : Event}
    (step : Step ledger event next) :
    next.state = .closed ↔
      ledger.state = .closed ∨ takesClose event = true := by
  obtain ⟨state, permits⟩ := ledger
  cases step with
  | request => cases state <;> simp [DrainState.request, takesClose]
  | acquire available =>
      subst available
      simp [takesClose]
  | refuse unavailable => cases state <;> simp [takesClose]
  | settle live => cases state <;> simp [DrainState.settle, takesClose]
  | close => cases state <;> simp [DrainState.close, takesClose]

/-- The signal is closed exactly when a close has taken effect. -/
theorem run_closed_iff {trace : List Event} {ledger : SignalLedger}
    (run : system.Run trace ledger) :
    ledger.state = .closed ↔ ∃ event ∈ trace, takesClose event = true := by
  refine System.Run.invariant
    (fun trace ledger => ledger.state = .closed ↔
      ∃ event ∈ trace, takesClose event = true)
    ?_ ?_ run
  · rintro ledger rfl
    simp [fresh]
  · intro trace ledger event next earlier closedIff step
    rw [step_takesClose step, closedIff]
    simp only [List.mem_append, List.mem_singleton]
    constructor
    · rintro (⟨tested, member, closes⟩ | closes)
      · exact ⟨tested, Or.inl member, closes⟩
      · exact ⟨event, Or.inr rfl, closes⟩
    · rintro ⟨tested, member | rfl, closes⟩
      · exact Or.inl ⟨tested, member, closes⟩
      · exact Or.inr closes

/-- Nothing is abandoned while the signal is not closed. -/
theorem run_abandoned {trace : List Event} {ledger : SignalLedger}
    (run : system.Run trace ledger) (stillOpen : ledger.state ≠ .closed) :
    drainsAbandoned trace = 0 := by
  apply List.countP_eq_zero.mpr
  intro event member abandons
  apply stillOpen
  apply (run_closed_iff run).mpr
  refine ⟨event, member, ?_⟩
  unfold abandonsDrain at abandons
  split at abandons
  · rfl
  · cases abandons

/-- Until close, the drains owed so far and not yet granted are exactly the
one that a pending signal announces. -/
theorem run_account {trace : List Event} {ledger : SignalLedger}
    (run : system.Run trace ledger) (stillOpen : ledger.state ≠ .closed) :
    drainsOwed trace = drainsGranted trace + pendingDrain ledger.state := by
  have balance := run_balance run
  rw [run_abandoned run stillOpen] at balance
  exact balance

/-- A closed signal accepts no request and grants no permit. -/
theorem step_of_closed {ledger next : SignalLedger} {event : Event}
    (step : Step ledger event next) (closed : ledger.state = .closed) :
    acceptsRequest event = false ∧ grantsDrain event = false := by
  obtain ⟨state, permits⟩ := ledger
  subst closed
  cases step with
  | request => exact ⟨rfl, rfl⟩
  | acquire available => cases available
  | refuse unavailable => exact ⟨rfl, rfl⟩
  | settle live => exact ⟨rfl, rfl⟩
  | close => exact ⟨rfl, rfl⟩

/-! ## Accepted requests are served -/

/-- The states in which some accepted request still waits for a drain. -/
def Owing (ledger : SignalLedger) : Prop :=
  ledger.state = .pending ∨ ledger.state = .drainingWithPending

theorem step_owing_of_accepts {ledger next : SignalLedger} {event : Event}
    (step : Step ledger event next) (accepted : acceptsRequest event = true) :
    next.Owing := by
  obtain ⟨state, permits⟩ := ledger
  cases step with
  | request =>
      cases state <;>
        simp [Owing, DrainState.request, acceptsRequest] at accepted ⊢
  | acquire available => cases accepted
  | refuse unavailable => cases accepted
  | settle live => cases accepted
  | close => cases accepted

/-- Only an acquisition or a close ends the wait. -/
theorem step_owing {ledger next : SignalLedger} {event : Event}
    (step : Step ledger event next) (owing : ledger.Owing)
    (notGranted : grantsDrain event = false)
    (notClosed : takesClose event = false) : next.Owing := by
  obtain ⟨state, permits⟩ := ledger
  cases step with
  | request => rcases owing with rfl | rfl <;> simp [Owing, DrainState.request]
  | acquire available => cases notGranted
  | refuse unavailable => exact owing
  | settle live => rcases owing with rfl | rfl <;> simp [Owing, DrainState.settle]
  | close => rcases owing with rfl | rfl <;> cases notClosed

/-- A drain that becomes due leaves the signal pending. -/
theorem step_owesDrain {ledger next : SignalLedger} {event : Event}
    (step : Step ledger event next) (owes : owesDrain event = true) :
    next.state = .pending := by
  obtain ⟨state, permits⟩ := ledger
  cases step with
  | request => cases state <;> first | rfl | cases owes
  | acquire available => cases owes
  | refuse unavailable => cases owes
  | settle live => cases state <;> first | rfl | cases owes
  | close => cases owes

/-- Only an acquisition or a close ends a pending signal. -/
theorem step_pending {ledger next : SignalLedger} {event : Event}
    (step : Step ledger event next) (pending : ledger.state = .pending)
    (notGranted : grantsDrain event = false)
    (notClosed : takesClose event = false) : next.state = .pending := by
  obtain ⟨state, permits⟩ := ledger
  subst pending
  cases step with
  | request => rfl
  | acquire available => cases notGranted
  | refuse unavailable => rfl
  | settle live => rfl
  | close => cases notClosed

/-- An accepted request is followed by an acquisition, or it still keeps the
signal pending, or the signal was closed after it. -/
theorem run_serves {before after : List Event} {event : Event}
    {ledger : SignalLedger}
    (run : system.Run (before ++ event :: after) ledger)
    (accepted : acceptsRequest event = true) :
    (∃ later ∈ after, grantsDrain later = true) ∨ ledger.Owing ∨
      (∃ later ∈ after, takesClose later = true) := by
  by_cases granted : ∃ later ∈ after, grantsDrain later = true
  · exact Or.inl granted
  · by_cases closed : ∃ later ∈ after, takesClose later = true
    · exact Or.inr (Or.inr closed)
    · obtain ⟨source, target, earlier, step, path⟩ := run.split_at
      refine Or.inr (Or.inl ?_)
      refine System.Run.stable Owing
        (fun later =>
          grantsDrain later = false ∧ takesClose later = false)
        ?_ (earlier.snoc step) path ?_ (step_owing_of_accepts step accepted)
      · intro _ ledger later next _ admitted owing moved
        exact step_owing moved owing admitted.1 admitted.2
      · intro later member
        constructor
        · exact Bool.eq_false_iff.mpr fun grants =>
            granted ⟨later, member, grants⟩
        · exact Bool.eq_false_iff.mpr fun closes =>
            closed ⟨later, member, closes⟩

theorem run_after_close {before after : List Event} {event : Event}
    {ledger : SignalLedger}
    (run : system.Run (before ++ event :: after) ledger)
    (closes : takesClose event = true) :
    ∀ later ∈ after,
      acceptsRequest later = false ∧ grantsDrain later = false := by
  intro later member
  obtain ⟨between, rest, rfl⟩ := List.append_of_mem member
  rw [← List.cons_append, ← List.append_assoc] at run
  obtain ⟨source, target, earlier, step, _⟩ := run.split_at
  have closed : source.state = .closed :=
    (run_closed_iff earlier).mpr ⟨event, by simp, closes⟩
  exact step_of_closed step closed

end SignalLedger

end RustJsi.Runtime
