import RustJsi.Runtime.ArrayQueue
import RustJsi.Runtime.SignalProtocol

/-!
# A queue with a coalesced wake-up

Both mailboxes pair a bounded queue with a drain signal.  A producer pushes
first and requests afterwards; a drain that ends looks at the queue first and
settles afterwards.  The abstract object counts the producers between their two
steps and the drains between theirs.

Two facts are proved about it.  Payloads are conserved in order, and a payload
that no producer is about to announce is never left without a wake-up.
-/

namespace RustJsi.Runtime

open Interleaving

/-- A signal, its queue, the producers that pushed and have not requested yet,
and the drains that have looked at the queue and have not settled yet. -/
structure SignalledQueue (Payload : Type*) (capacity : Nat) where
  signal : SignalLedger
  queue : ArrayQueue Payload capacity
  publishing : Nat
  concluded : Nat

/-- What can happen to a signalled queue. -/
inductive QueueEvent (Payload : Type*) where
  | pushed (value : Payload)
  | popped (value : Payload)
  /-- A producer requested a drain for the payload it pushed. -/
  | published (result : DrainRequest)
  /-- An ending drain saw payloads and requested a successor. -/
  | preserved (result : DrainRequest)
  /-- An ending drain saw no payload. -/
  | concluded
  | signal (event : DrainSignal.Event)

namespace QueueEvent

variable {Payload : Type*}

/-- The operation on the signal, if the event is one. -/
def signal? : QueueEvent Payload → Option DrainSignal.Event
  | .published result => some (.requested result)
  | .preserved result => some (.requested result)
  | .signal event => some event
  | _ => none

def closes : QueueEvent Payload → Bool
  | .signal (.closed _) => true
  | _ => false

def pushed? : QueueEvent Payload → Option Payload
  | .pushed value => some value
  | _ => none

def popped? : QueueEvent Payload → Option Payload
  | .popped value => some value
  | _ => none

end QueueEvent

namespace SignalledQueue

variable {Payload : Type*} {capacity : Nat}

def fresh : SignalledQueue Payload capacity where
  signal := SignalLedger.fresh
  queue := ArrayQueue.new
  publishing := 0
  concluded := 0

/-- One indivisible step.  Only a producer that pushed publishes, and a drain
settles only after it has looked at the queue. -/
inductive Step (state : SignalledQueue Payload capacity) :
    QueueEvent Payload → SignalledQueue Payload capacity → Prop
  | push {value : Payload} {queue : ArrayQueue Payload capacity}
      (pushed : state.queue.push value = some queue) :
      Step state (.pushed value)
        { state with queue, publishing := state.publishing + 1 }
  | pop {value : Payload} {queue : ArrayQueue Payload capacity}
      (popped : state.queue.pop = some (value, queue)) :
      Step state (.popped value) { state with queue }
  | publish {result : DrainRequest} {signal : SignalLedger}
      (pushed : 0 < state.publishing)
      (requested : SignalLedger.Step state.signal (.requested result) signal) :
      Step state (.published result)
        { state with signal, publishing := state.publishing - 1 }
  | preserve {result : DrainRequest} {signal : SignalLedger}
      (draining : state.concluded < state.signal.permits)
      (requested : SignalLedger.Step state.signal (.requested result) signal) :
      Step state (.preserved result)
        { state with signal, concluded := state.concluded + 1 }
  | conclude (draining : state.concluded < state.signal.permits)
      (empty : state.queue.items = []) :
      Step state .concluded
        { state with concluded := state.concluded + 1 }
  | acquire {signal : SignalLedger}
      (acquired : SignalLedger.Step state.signal .acquired signal) :
      Step state (.signal .acquired) { state with signal }
  | refuse {result : DrainAcquire} {signal : SignalLedger}
      (refused : SignalLedger.Step state.signal (.refused result) signal) :
      Step state (.signal (.refused result)) { state with signal }
  | settle {result : DrainAfter} {signal : SignalLedger}
      (looked : 0 < state.concluded)
      (settled : SignalLedger.Step state.signal (.settled result) signal) :
      Step state (.signal (.settled result))
        { state with signal, concluded := state.concluded - 1 }
  | close {result : DrainClose} {signal : SignalLedger}
      (closed : SignalLedger.Step state.signal (.closed result) signal) :
      Step state (.signal (.closed result)) { state with signal }

def system (Payload : Type*) (capacity : Nat) :
    System (SignalledQueue Payload capacity) (QueueEvent Payload) where
  initial := fun state => state = fresh
  step := Step

/-- What a caller can have a share in. -/
inductive Stake where
  | permit
  | publishing
  | concluded
  deriving DecidableEq, Repr

/-- How many callers hold a share of each kind. -/
def held (state : SignalledQueue Payload capacity) : Stake → Nat
  | .permit => state.signal.permits
  | .publishing => state.publishing
  | .concluded => state.concluded

/-- Seen through its signal, a signalled queue is a drain signal. -/
theorem step_signal {state next : SignalledQueue Payload capacity}
    {event : QueueEvent Payload} (step : Step state event next) :
    SignalLedger.system.Answers state.signal
      (fun signal => next.signal = signal) event.signal? := by
  cases step with
  | push pushed => rfl
  | pop popped => rfl
  | publish pushed requested => exact ⟨_, requested, rfl⟩
  | preserve draining requested => exact ⟨_, requested, rfl⟩
  | conclude draining empty => rfl
  | acquire acquired => exact ⟨_, acquired, rfl⟩
  | refuse refused => exact ⟨_, refused, rfl⟩
  | settle looked settled => exact ⟨_, settled, rfl⟩
  | close closed => exact ⟨_, closed, rfl⟩

/-- A closed signal stays closed whatever happens to the queue. -/
theorem step_closed {state next : SignalledQueue Payload capacity}
    {event : QueueEvent Payload} (step : Step state event next)
    (closed : state.signal.state = .closed) :
    next.signal.state = .closed := by
  have answered := step_signal step
  cases seen : event.signal? with
  | none =>
      rw [seen] at answered
      exact (congrArg SignalLedger.state answered).trans closed
  | some operation =>
      rw [seen] at answered
      obtain ⟨signal, moved, signalEq⟩ := answered
      rw [signalEq]
      exact SignalLedger.step_closed moved closed

def signalSimulation (Payload : Type*) (capacity : Nat) :
    Simulation (system Payload capacity) SignalLedger.system
      QueueEvent.signal? where
  related := fun state signal => state.signal = signal
  start := by
    rintro state rfl
    exact ⟨SignalLedger.fresh, rfl, rfl⟩
  advance := by
    intro _ state signal event next _ _ related step
    subst related
    exact step_signal step

theorem step_conserves {state next : SignalledQueue Payload capacity}
    {event : QueueEvent Payload} (step : Step state event next) :
    state.queue.items ++ event.pushed?.toList =
      event.popped?.toList ++ next.queue.items := by
  cases step with
  | push pushed =>
      rw [ArrayQueue.push_items pushed]
      rfl
  | pop popped =>
      rw [ArrayQueue.pop_items popped]
      simp [QueueEvent.pushed?, QueueEvent.popped?]
  | publish => simp [QueueEvent.pushed?, QueueEvent.popped?]
  | preserve => simp [QueueEvent.pushed?, QueueEvent.popped?]
  | conclude => simp [QueueEvent.pushed?, QueueEvent.popped?]
  | acquire => simp [QueueEvent.pushed?, QueueEvent.popped?]
  | refuse => simp [QueueEvent.pushed?, QueueEvent.popped?]
  | settle => simp [QueueEvent.pushed?, QueueEvent.popped?]
  | close => simp [QueueEvent.pushed?, QueueEvent.popped?]

/-- The payloads pushed so far are those popped so far followed by those still
queued, in the same order. -/
theorem run_conserves {trace : List (QueueEvent Payload)}
    {state : SignalledQueue Payload capacity}
    (run : (system Payload capacity).Run trace state) :
    trace.filterMap QueueEvent.pushed? =
      trace.filterMap QueueEvent.popped? ++ state.queue.items := by
  refine System.Run.invariant
    (fun trace state => trace.filterMap QueueEvent.pushed? =
      trace.filterMap QueueEvent.popped? ++ state.queue.items) ?_ ?_ run
  · rintro state rfl
    rfl
  · intro trace state event next _ conserved step
    rw [filterMap_snoc, filterMap_snoc, conserved, List.append_assoc,
      List.append_assoc, step_conserves step]

/-! ## No payload is stranded -/

/-- Payloads wait, nobody is about to announce them, and the signal is idle or
about to become idle. -/
def Stranded (state : SignalledQueue Payload capacity) : Prop :=
  state.queue.items ≠ [] ∧ state.publishing = 0 ∧
    (state.signal.state = .idle ∨
      (state.signal.state = .draining ∧ 0 < state.concluded))

structure Sound (state : SignalledQueue Payload capacity) : Prop where
  signalSound : state.signal.Sound
  concludedLe : state.concluded ≤ state.signal.permits
  notStranded : ¬ state.Stranded

/-- A request leaves the signal awake. -/
theorem requested_awake {signal next : SignalLedger} {result : DrainRequest}
    (requested : SignalLedger.Step signal (.requested result) next) :
    next.permits = signal.permits ∧
      next.state ≠ .idle ∧ next.state ≠ .draining := by
  cases requested with
  | request => cases signal.state <;> simp [DrainState.request]

theorem step_sound {state next : SignalledQueue Payload capacity}
    {event : QueueEvent Payload} (sound : state.Sound)
    (step : Step state event next) : next.Sound := by
  obtain ⟨signalSound, concludedLe, notStranded⟩ := sound
  cases step with
  | push pushed =>
      refine ⟨signalSound, concludedLe, ?_⟩
      rintro ⟨_, silent, _⟩
      exact absurd silent (Nat.succ_ne_zero _)
  | pop popped =>
      refine ⟨signalSound, concludedLe, ?_⟩
      rintro ⟨waiting, silent, asleep⟩
      have shape := ArrayQueue.pop_items popped
      exact notStranded ⟨by simp [shape], silent, asleep⟩
  | publish pushed requested =>
      obtain ⟨samePermits, notIdle, notDraining⟩ := requested_awake requested
      refine ⟨SignalLedger.step_sound signalSound requested, ?_, ?_⟩
      · simp only
        omega
      · rintro ⟨_, _, idle | ⟨draining, _⟩⟩
        · exact notIdle idle
        · exact notDraining draining
  | preserve draining requested =>
      obtain ⟨samePermits, notIdle, notDraining⟩ := requested_awake requested
      refine ⟨SignalLedger.step_sound signalSound requested, ?_, ?_⟩
      · simp only
        omega
      · rintro ⟨_, _, idle | ⟨draining, _⟩⟩
        · exact notIdle idle
        · exact notDraining draining
  | conclude draining empty =>
      refine ⟨signalSound, draining, ?_⟩
      rintro ⟨waiting, _⟩
      exact waiting empty
  | acquire acquired =>
      have nextSound := SignalLedger.step_sound signalSound acquired
      obtain ⟨⟨signalState, permits⟩, queue, publishing, concluded⟩ := state
      cases acquired with
      | acquire available =>
          simp only at available
          subst available
          simp only [SignalLedger.Sound] at signalSound concludedLe
          refine ⟨nextSound, ?_, ?_⟩
          · simp only
            omega
          · rintro ⟨_, _, idle | ⟨_, looked⟩⟩
            · cases idle
            · simp only at looked
              omega
  | refuse refused =>
      cases refused with
      | refuse unavailable =>
          exact ⟨signalSound, concludedLe, notStranded⟩
  | settle looked settled =>
      have nextSound := SignalLedger.step_sound signalSound settled
      obtain ⟨⟨signalState, permits⟩, queue, publishing, concluded⟩ := state
      cases settled with
      | settle live =>
          simp only at concludedLe looked
          refine ⟨nextSound, ?_, ?_⟩
          · simp only
            omega
          · rintro ⟨waiting, silent, asleep⟩
            refine notStranded ⟨waiting, silent, ?_⟩
            cases signalState with
            | idle => exact Or.inl rfl
            | draining => exact Or.inr ⟨rfl, looked⟩
            | pending => simp [DrainState.settle] at asleep
            | drainingWithPending => simp [DrainState.settle] at asleep
            | closed => simp [DrainState.settle] at asleep
  | close closed =>
      have nextSound := SignalLedger.step_sound signalSound closed
      cases closed with
      | close =>
          refine ⟨nextSound, concludedLe, ?_⟩
          rintro ⟨_, _, asleep⟩
          cases held : state.signal.state <;>
            simp [held, DrainState.close] at asleep

/-- Only a close closes the signal. -/
theorem step_notClosed {state next : SignalledQueue Payload capacity}
    {event : QueueEvent Payload} (step : Step state event next)
    (notClosed : state.signal.state ≠ .closed)
    (noClose : event.closes = false) : next.signal.state ≠ .closed := by
  have keeps : ∀ {signal : SignalLedger} {operation : DrainSignal.Event},
      SignalLedger.Step state.signal operation signal →
      SignalLedger.takesClose operation = false →
      signal.state ≠ .closed := by
    intro signal operation moved quiet closed
    rcases (SignalLedger.step_takesClose moved).mp closed with before | now
    · exact notClosed before
    · rw [quiet] at now
      cases now
  cases step with
  | push pushed => exact notClosed
  | pop popped => exact notClosed
  | publish pushed requested => exact keeps requested rfl
  | preserve draining requested => exact keeps requested rfl
  | conclude draining empty => exact notClosed
  | acquire acquired => exact keeps acquired rfl
  | refuse refused => exact keeps refused rfl
  | settle looked settled => exact keeps settled rfl
  | close closed => cases noClose

theorem run_sound {trace : List (QueueEvent Payload)}
    {state : SignalledQueue Payload capacity}
    (run : (system Payload capacity).Run trace state) : state.Sound := by
  refine System.Run.invariant (fun _ state => state.Sound) ?_ ?_ run
  · rintro state rfl
    exact ⟨rfl, Nat.le_refl _, fun stranded => stranded.1 rfl⟩
  · intro _ state event next _ sound step
    exact step_sound sound step

/-- With no producer between push and request and no drain between its look at
the queue and its settlement, waiting payloads keep the signal awake or the
signal is closed. -/
theorem Sound.awake {state : SignalledQueue Payload capacity}
    (sound : state.Sound) (waiting : state.queue.items ≠ [])
    (published : state.publishing = 0) :
    state.signal.state = .pending ∨ state.signal.state = .draining ∨
      state.signal.state = .drainingWithPending ∨
      state.signal.state = .closed := by
  cases held : state.signal.state with
  | idle => exact absurd ⟨waiting, published, Or.inl held⟩ sound.notStranded
  | pending => exact Or.inl rfl
  | draining => exact Or.inr (Or.inl rfl)
  | drainingWithPending => exact Or.inr (Or.inr (Or.inl rfl))
  | closed => exact Or.inr (Or.inr (Or.inr rfl))

end SignalledQueue

end RustJsi.Runtime
