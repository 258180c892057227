import RustJsi.NonZero
import Mathlib.Data.Finset.Card

/-!
# The work-queue model

The reference for bounded work admission, drain and terminal ownership.  It
orders operations and knows no threads: reservations and leases are numbers
that are issued once, and every operation returns its answer with the model it
leaves.
-/

namespace RustJsi.Testkit

/-- Monotonic admission state for a bounded work queue. -/
inductive WorkQueueState where
  | opened
  | closing
  | terminalPending
  | terminalDraining
  | closed
  deriving DecidableEq, Repr

/-- One producer admission granted while the model was open. -/
structure SubmitReservation where
  sequence : NonZeroU64
  deriving DecidableEq, Repr

/-- One active consumer drain. -/
structure DrainLease where
  sequence : NonZeroU64
  deriving DecidableEq, Repr

/-- One close-owner lease for terminal payload transfer. -/
structure TerminalDrainLease where
  sequence : NonZeroU64
  deriving DecidableEq, Repr

/-- Failure to acquire a new `SubmitReservation`. -/
inductive ReserveError where
  | notOpen (state : WorkQueueState)
  | reservationSpaceExhausted
  deriving DecidableEq, Repr

/-- Failure to settle a producer reservation. -/
inductive PublishError (T : Type*) where
  | staleReservation (payload : T)
  | full (payload : T)
  deriving DecidableEq, Repr

/-- Failure to abandon a producer reservation. -/
inductive AbandonError where
  | staleReservation
  deriving DecidableEq, Repr

/-- Failure to start or operate a consumer drain. -/
inductive DrainError where
  | empty
  | busy
  | closed
  | terminalOwnership
  | staleLease
  | leaseSpaceExhausted
  deriving DecidableEq, Repr

/-- Why `begin_terminal_drain` cannot yet transfer terminal ownership. -/
inductive TerminalDrainError where
  | invalidState (state : WorkQueueState)
  | reservationsRemain (count : Nat)
  | drainActive
  | terminalDrainActive
  | leaseSpaceExhausted
  | staleLease
  | payloadsRemain (count : Nat)
  deriving DecidableEq, Repr

/-- Pure model of bounded work admission, drain, and terminal ownership. -/
structure WorkQueueModel (T : Type*) where
  capacity : Nat
  state : WorkQueueState
  queue : List T
  reservations : Finset NonZeroU64
  activeDrain : Option NonZeroU64
  activeTerminalDrain : Option NonZeroU64
  nextReservation : Option NonZeroU64
  nextLease : Option NonZeroU64
  nextTerminalLease : Option NonZeroU64

namespace WorkQueueModel

variable {T : Type*}

/-- An open queue with a fixed payload capacity. -/
def new (capacity : Nat) : WorkQueueModel T where
  capacity := capacity
  state := .opened
  queue := []
  reservations := ∅
  activeDrain := none
  activeTerminalDrain := none
  nextReservation := NonZeroU64.new 1
  nextLease := NonZeroU64.new 1
  nextTerminalLease := NonZeroU64.new 1

def reserve (model : WorkQueueModel T) :
    Except ReserveError SubmitReservation × WorkQueueModel T :=
  if model.state ≠ .opened then
    (.error (.notOpen model.state), model)
  else
    match model.nextReservation with
    | none => (.error .reservationSpaceExhausted, model)
    | some sequence =>
        (.ok ⟨sequence⟩,
          { model with
            nextReservation := sequence.checkedSucc
            reservations := insert sequence model.reservations })

/-- The reservation settles regardless of whether publication succeeds. -/
def publish (model : WorkQueueModel T) (reservation : SubmitReservation)
    (payload : T) : Except (PublishError T) Unit × WorkQueueModel T :=
  if reservation.sequence ∈ model.reservations then
    let settled :=
      { model with
        reservations := model.reservations.erase reservation.sequence }
    if settled.queue.length = settled.capacity then
      (.error (.full payload), settled)
    else
      (.ok (), { settled with queue := settled.queue ++ [payload] })
  else
    (.error (.staleReservation payload), model)

def abandon (model : WorkQueueModel T) (reservation : SubmitReservation) :
    Except AbandonError Unit × WorkQueueModel T :=
  if reservation.sequence ∈ model.reservations then
    (.ok (),
      { model with
        reservations := model.reservations.erase reservation.sequence })
  else
    (.error .staleReservation, model)

def beginClose (model : WorkQueueModel T) : WorkQueueModel T :=
  if model.state = .opened then { model with state := .closing } else model

/-- Closing still allows a drain. -/
def beginDrain (model : WorkQueueModel T) :
    Except DrainError DrainLease × WorkQueueModel T :=
  match model.state with
  | .closed => (.error .closed, model)
  | .terminalPending => (.error .terminalOwnership, model)
  | .terminalDraining => (.error .terminalOwnership, model)
  | _ =>
      if model.activeDrain.isSome then
        (.error .busy, model)
      else if model.queue.isEmpty then
        (.error .empty, model)
      else
        match model.nextLease with
        | none => (.error .leaseSpaceExhausted, model)
        | some sequence =>
            (.ok ⟨sequence⟩,
              { model with
                nextLease := sequence.checkedSucc
                activeDrain := some sequence })

def pop (model : WorkQueueModel T) (lease : DrainLease) :
    Except DrainError (Option T) × WorkQueueModel T :=
  if model.activeDrain = some lease.sequence then
    (.ok model.queue.head?, { model with queue := model.queue.tail })
  else
    (.error .staleLease, model)

def finishDrain (model : WorkQueueModel T) (lease : DrainLease) :
    Except DrainError Unit × WorkQueueModel T :=
  if model.activeDrain = some lease.sequence then
    (.ok (), { model with activeDrain := none })
  else
    (.error .staleLease, model)

/-- What issuing a terminal lease leaves and reports. -/
def issueTerminalLease (model : WorkQueueModel T) :
    Except TerminalDrainError TerminalDrainLease × WorkQueueModel T :=
  match model.nextTerminalLease with
  | none => (.error .leaseSpaceExhausted, model)
  | some sequence =>
      (.ok ⟨sequence⟩,
        { model with
          nextTerminalLease := sequence.checkedSucc
          activeTerminalDrain := some sequence
          state := .terminalDraining })

def beginTerminalDrain (model : WorkQueueModel T) :
    Except TerminalDrainError TerminalDrainLease × WorkQueueModel T :=
  match model.state with
  | .opened => (.error (.invalidState model.state), model)
  | .closed => (.error (.invalidState model.state), model)
  | .terminalDraining => (.error .terminalDrainActive, model)
  | .closing =>
      if model.reservations ≠ ∅ then
        (.error (.reservationsRemain model.reservations.card), model)
      else if model.activeDrain.isSome then
        (.error .drainActive, model)
      else
        model.issueTerminalLease
  | .terminalPending => model.issueTerminalLease

def popTerminal (model : WorkQueueModel T) (lease : TerminalDrainLease) :
    Except TerminalDrainError (Option T) × WorkQueueModel T :=
  if model.activeTerminalDrain = some lease.sequence then
    (.ok model.queue.head?, { model with queue := model.queue.tail })
  else
    (.error .staleLease, model)

def finishTerminalDrain (model : WorkQueueModel T)
    (lease : TerminalDrainLease) :
    Except TerminalDrainError Unit × WorkQueueModel T :=
  if model.activeTerminalDrain = some lease.sequence then
    if model.queue.isEmpty then
      (.ok (), { model with activeTerminalDrain := none, state := .closed })
    else
      (.error (.payloadsRemain model.queue.length), model)
  else
    (.error .staleLease, model)

def releaseTerminalDrain (model : WorkQueueModel T)
    (lease : TerminalDrainLease) :
    Except TerminalDrainError Unit × WorkQueueModel T :=
  if model.activeTerminalDrain = some lease.sequence then
    (.ok (),
      { model with activeTerminalDrain := none, state := .terminalPending })
  else
    (.error .staleLease, model)

/-- A producer that reserves and publishes at once; whether it got through. -/
def enqueue (model : WorkQueueModel T) (payload : T) :
    Bool × WorkQueueModel T :=
  match model.reserve with
  | (.error _, left) => (false, left)
  | (.ok reservation, reserved) =>
      ((reserved.publish reservation payload).1.isOk,
        (reserved.publish reservation payload).2)

section Answers

variable {model : WorkQueueModel T}

theorem reserve_granted {sequence : NonZeroU64}
    (opened : model.state = .opened)
    (issued : model.nextReservation = some sequence) :
    model.reserve =
      (.ok ⟨sequence⟩,
        { model with
          nextReservation := sequence.checkedSucc
          reservations := insert sequence model.reservations }) := by
  rw [reserve, if_neg (not_not.mpr opened), issued]

theorem enqueue_notOpen (left : model.state ≠ .opened) (payload : T) :
    model.enqueue payload = (false, model) := by
  rw [enqueue, reserve, if_pos left]

theorem enqueue_opened {sequence : NonZeroU64}
    (opened : model.state = .opened)
    (issued : model.nextReservation = some sequence)
    (unreserved : model.reservations = ∅) (payload : T) :
    model.enqueue payload =
      if model.queue.length = model.capacity then
        (false, { model with nextReservation := sequence.checkedSucc })
      else
        (true,
          { model with
            nextReservation := sequence.checkedSucc
            queue := model.queue ++ [payload] }) := by
  have settled :
      ((insert sequence ∅ : Finset NonZeroU64).erase sequence) = ∅ := by
    simp
  rw [enqueue, reserve, if_neg (not_not.mpr opened), issued, unreserved]
  simp only [publish, Finset.mem_insert, Finset.notMem_empty, or_false,
    if_true, settled]
  split
  · rw [← unreserved]
    rfl
  · rw [← unreserved]
    rfl

theorem beginDrain_granted {sequence : NonZeroU64}
    (opened : model.state = .opened ∨ model.state = .closing)
    (inactive : model.activeDrain = none) (waiting : model.queue ≠ [])
    (issued : model.nextLease = some sequence) :
    model.beginDrain =
      (.ok ⟨sequence⟩,
        { model with
          nextLease := sequence.checkedSucc
          activeDrain := some sequence }) := by
  obtain ⟨value, rest, shape⟩ := List.exists_cons_of_ne_nil waiting
  cases opened with
  | inl held => simp [beginDrain, held, inactive, shape, issued]
  | inr held => simp [beginDrain, held, inactive, shape, issued]

/-- No drain is granted over a live one, nor once a terminal owner was. -/
theorem beginDrain_refused
    (taken : model.activeDrain ≠ none ∨
      (model.state ≠ .opened ∧ model.state ≠ .closing)) :
    ∃ error, model.beginDrain = (.error error, model) := by
  cases held : model.state with
  | closed => exact ⟨.closed, by rw [beginDrain, held]⟩
  | terminalPending => exact ⟨.terminalOwnership, by rw [beginDrain, held]⟩
  | terminalDraining => exact ⟨.terminalOwnership, by rw [beginDrain, held]⟩
  | opened | closing =>
      have active : model.activeDrain ≠ none := by
        simpa [held] using taken
      have live := Option.isSome_iff_ne_none.mpr active
      exact ⟨.busy, by simp only [beginDrain, held, live, if_true]⟩

theorem pop_held {lease : DrainLease}
    (held : model.activeDrain = some lease.sequence) :
    model.pop lease =
      (.ok model.queue.head?, { model with queue := model.queue.tail }) :=
  if_pos held

theorem finishDrain_held {lease : DrainLease}
    (held : model.activeDrain = some lease.sequence) :
    model.finishDrain lease = (.ok (), { model with activeDrain := none }) :=
  if_pos held

theorem beginTerminalDrain_granted {sequence : NonZeroU64}
    (free : model.state = .closing ∨ model.state = .terminalPending)
    (unreserved : model.reservations = ∅)
    (inactive : model.activeDrain = none)
    (issued : model.nextTerminalLease = some sequence) :
    model.beginTerminalDrain =
      (.ok ⟨sequence⟩,
        { model with
          nextTerminalLease := sequence.checkedSucc
          activeTerminalDrain := some sequence
          state := .terminalDraining }) := by
  cases free with
  | inl held =>
      simp [beginTerminalDrain, held, unreserved, inactive,
        issueTerminalLease, issued]
  | inr held => simp [beginTerminalDrain, held, issueTerminalLease, issued]

/-- A live drain keeps a closing queue from terminal ownership. -/
theorem beginTerminalDrain_refused
    (taken : (model.state = .closing ∧ model.activeDrain ≠ none) ∨
      (model.state ≠ .closing ∧ model.state ≠ .terminalPending)) :
    ∃ error, model.beginTerminalDrain = (.error error, model) := by
  cases held : model.state with
  | opened => exact ⟨.invalidState .opened, by rw [beginTerminalDrain, held]⟩
  | closed => exact ⟨.invalidState .closed, by rw [beginTerminalDrain, held]⟩
  | terminalDraining =>
      exact ⟨.terminalDrainActive, by rw [beginTerminalDrain, held]⟩
  | terminalPending => simp [held] at taken
  | closing =>
      have active : model.activeDrain ≠ none := by
        simpa [held] using taken
      have live := Option.isSome_iff_ne_none.mpr active
      by_cases reserved : model.reservations ≠ ∅
      · exact ⟨.reservationsRemain model.reservations.card, by
          simp only [beginTerminalDrain, held, if_pos reserved]⟩
      · exact ⟨.drainActive, by
          simp only [beginTerminalDrain, held, if_neg reserved, live,
            if_true]⟩

theorem popTerminal_held {lease : TerminalDrainLease}
    (held : model.activeTerminalDrain = some lease.sequence) :
    model.popTerminal lease =
      (.ok model.queue.head?, { model with queue := model.queue.tail }) :=
  if_pos held

theorem finishTerminalDrain_held {lease : TerminalDrainLease}
    (held : model.activeTerminalDrain = some lease.sequence)
    (empty : model.queue = []) :
    model.finishTerminalDrain lease =
      (.ok (), { model with activeTerminalDrain := none, state := .closed }) := by
  rw [finishTerminalDrain, if_pos held, empty]
  rfl

theorem finishTerminalDrain_residual {lease : TerminalDrainLease}
    (held : model.activeTerminalDrain = some lease.sequence)
    (residual : model.queue ≠ []) :
    model.finishTerminalDrain lease =
      (.error (.payloadsRemain model.queue.length), model) := by
  have waiting : ¬model.queue.isEmpty = true :=
    (not_congr List.isEmpty_iff).mpr residual
  rw [finishTerminalDrain, if_pos held, if_neg waiting]

theorem releaseTerminalDrain_held {lease : TerminalDrainLease}
    (held : model.activeTerminalDrain = some lease.sequence) :
    model.releaseTerminalDrain lease =
      (.ok (),
        { model with activeTerminalDrain := none, state := .terminalPending }) :=
  if_pos held

end Answers

end WorkQueueModel

end RustJsi.Testkit
