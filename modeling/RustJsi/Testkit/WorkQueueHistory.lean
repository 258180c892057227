import RustJsi.Interleaving.Component
import RustJsi.Interleaving.Counting
import RustJsi.Interleaving.Tokens
import RustJsi.Testkit.WorkQueue

/-!
# Histories of the work-queue model

Any sequence of operations on a new queue, with any tokens: what the answers
told so far determines which tokens are live and which payloads are queued.
-/

namespace RustJsi.Testkit

open Interleaving

section Operations

variable (T : Type*)

inductive WorkQueueOp where
  | reserve
  | publish (reservation : SubmitReservation) (payload : T)
  | abandon (reservation : SubmitReservation)
  | beginClose
  | beginDrain
  | pop (lease : DrainLease)
  | finishDrain (lease : DrainLease)
  | beginTerminalDrain
  | popTerminal (lease : TerminalDrainLease)
  | finishTerminalDrain (lease : TerminalDrainLease)
  | releaseTerminalDrain (lease : TerminalDrainLease)
  deriving DecidableEq, Repr

inductive WorkQueueReply where
  | reserve (answer : Except ReserveError SubmitReservation)
  | publish (answer : Except (PublishError T) Unit)
  | abandon (answer : Except AbandonError Unit)
  | beginClose
  | beginDrain (answer : Except DrainError DrainLease)
  | pop (answer : Except DrainError (Option T))
  | finishDrain (answer : Except DrainError Unit)
  | beginTerminalDrain (answer : Except TerminalDrainError TerminalDrainLease)
  | popTerminal (answer : Except TerminalDrainError (Option T))
  | finishTerminalDrain (answer : Except TerminalDrainError Unit)
  | releaseTerminalDrain (answer : Except TerminalDrainError Unit)

/-- What an answer told its caller. -/
inductive WorkQueueEvent where
  | reserved (sequence : NonZeroU64)
  | published (sequence : NonZeroU64) (payload : T)
  | full (sequence : NonZeroU64)
  | abandoned (sequence : NonZeroU64)
  | drainBegun (sequence : NonZeroU64)
  | popped (payload : T)
  | drainFinished (sequence : NonZeroU64)
  | terminalBegun (sequence : NonZeroU64)
  | terminalEnded (sequence : NonZeroU64)

abbrev WorkQueueExchange : Type _ :=
  Exchange (WorkQueueOp T) (WorkQueueReply T)

end Operations

variable {T : Type*}

def WorkQueueModel.perform (model : WorkQueueModel T) :
    WorkQueueOp T → WorkQueueReply T × WorkQueueModel T
  | .reserve => (.reserve model.reserve.1, model.reserve.2)
  | .publish reservation payload =>
      (.publish (model.publish reservation payload).1,
        (model.publish reservation payload).2)
  | .abandon reservation =>
      (.abandon (model.abandon reservation).1, (model.abandon reservation).2)
  | .beginClose => (.beginClose, model.beginClose)
  | .beginDrain => (.beginDrain model.beginDrain.1, model.beginDrain.2)
  | .pop lease => (.pop (model.pop lease).1, (model.pop lease).2)
  | .finishDrain lease =>
      (.finishDrain (model.finishDrain lease).1, (model.finishDrain lease).2)
  | .beginTerminalDrain =>
      (.beginTerminalDrain model.beginTerminalDrain.1,
        model.beginTerminalDrain.2)
  | .popTerminal lease =>
      (.popTerminal (model.popTerminal lease).1, (model.popTerminal lease).2)
  | .finishTerminalDrain lease =>
      (.finishTerminalDrain (model.finishTerminalDrain lease).1,
        (model.finishTerminalDrain lease).2)
  | .releaseTerminalDrain lease =>
      (.releaseTerminalDrain (model.releaseTerminalDrain lease).1,
        (model.releaseTerminalDrain lease).2)

def workQueue : Component (WorkQueueModel T) (WorkQueueOp T)
    (WorkQueueReply T) where
  perform := fun model op => some (model.perform op)

/-- Every sequence of operations, with any tokens, on a new queue. -/
def workQueueSystem (capacity : Nat) :
    System (WorkQueueModel T) (WorkQueueExchange T) :=
  workQueue.system fun model => model = .new capacity

section Histories

/-- A publication that found the queue full told so, and still settled. -/
def WorkQueueExchange.event :
    WorkQueueExchange T → Option (WorkQueueEvent T)
  | ⟨.reserve, .reserve (.ok reservation)⟩ =>
      some (.reserved reservation.sequence)
  | ⟨.publish reservation payload, .publish (.ok ())⟩ =>
      some (.published reservation.sequence payload)
  | ⟨.publish reservation _, .publish (.error (.full _))⟩ =>
      some (.full reservation.sequence)
  | ⟨.abandon reservation, .abandon (.ok ())⟩ =>
      some (.abandoned reservation.sequence)
  | ⟨.beginDrain, .beginDrain (.ok lease)⟩ =>
      some (.drainBegun lease.sequence)
  | ⟨.pop _, .pop (.ok (some payload))⟩ => some (.popped payload)
  | ⟨.finishDrain lease, .finishDrain (.ok ())⟩ =>
      some (.drainFinished lease.sequence)
  | ⟨.beginTerminalDrain, .beginTerminalDrain (.ok lease)⟩ =>
      some (.terminalBegun lease.sequence)
  | ⟨.popTerminal _, .popTerminal (.ok (some payload))⟩ =>
      some (.popped payload)
  | ⟨.finishTerminalDrain lease, .finishTerminalDrain (.ok ())⟩ =>
      some (.terminalEnded lease.sequence)
  | ⟨.releaseTerminalDrain lease, .releaseTerminalDrain (.ok ())⟩ =>
      some (.terminalEnded lease.sequence)
  | _ => none

namespace WorkQueueEvent

def reservation : WorkQueueEvent T → Option NonZeroU64
  | .reserved sequence => some sequence
  | _ => none

def settlement : WorkQueueEvent T → Option NonZeroU64
  | .published sequence _ => some sequence
  | .full sequence => some sequence
  | .abandoned sequence => some sequence
  | _ => none

def publication : WorkQueueEvent T → Option T
  | .published _ payload => some payload
  | _ => none

def delivery : WorkQueueEvent T → Option T
  | .popped payload => some payload
  | _ => none

def drain : WorkQueueEvent T → Option NonZeroU64
  | .drainBegun sequence => some sequence
  | _ => none

def finish : WorkQueueEvent T → Option NonZeroU64
  | .drainFinished sequence => some sequence
  | _ => none

def terminal : WorkQueueEvent T → Option NonZeroU64
  | .terminalBegun sequence => some sequence
  | _ => none

def ending : WorkQueueEvent T → Option NonZeroU64
  | .terminalEnded sequence => some sequence
  | _ => none

end WorkQueueEvent

def eventsOf (trace : List (WorkQueueExchange T)) : List (WorkQueueEvent T) :=
  trace.filterMap WorkQueueExchange.event

theorem eventsOf_snoc (trace : List (WorkQueueExchange T))
    (exchange : WorkQueueExchange T) :
    eventsOf (trace ++ [exchange]) =
      eventsOf trace ++ exchange.event.toList :=
  filterMap_snoc _ trace exchange

end Histories

/-! ## What an operation does -/

/-- The states after the last reservation and drain settled. -/
def WorkQueueState.isTerminal : WorkQueueState → Bool
  | .opened | .closing => false
  | .terminalPending | .terminalDraining | .closed => true

/-- Where a queue may be after one operation: a terminal lease comes and goes
until the queue is closed. -/
def WorkQueueState.successors : WorkQueueState → List WorkQueueState
  | .opened => [.opened, .closing]
  | .closing => [.closing, .terminalDraining]
  | .terminalPending => [.terminalPending, .terminalDraining]
  | .terminalDraining => [.terminalDraining, .terminalPending, .closed]
  | .closed => [.closed]

theorem WorkQueueState.mem_successors (state : WorkQueueState) :
    state ∈ state.successors := by
  cases state with
  | _ => exact List.mem_cons_self

namespace WorkQueueModel

/-- What an operation does to a queue, by what it told. -/
inductive Moves (model : WorkQueueModel T) :
    Option (WorkQueueEvent T) → WorkQueueModel T → Prop
  | kept : Moves model none model
  | reserved {sequence : NonZeroU64} (opened : model.state = .opened)
      (issued : model.nextReservation = some sequence) :
      Moves model (some (.reserved sequence))
        { model with
          nextReservation := sequence.checkedSucc
          reservations := insert sequence model.reservations }
  | published {sequence : NonZeroU64} (payload : T)
      (held : sequence ∈ model.reservations)
      (room : model.queue.length ≠ model.capacity) :
      Moves model (some (.published sequence payload))
        { model with
          reservations := model.reservations.erase sequence
          queue := model.queue ++ [payload] }
  | full {sequence : NonZeroU64} (held : sequence ∈ model.reservations) :
      Moves model (some (.full sequence))
        { model with reservations := model.reservations.erase sequence }
  | abandoned {sequence : NonZeroU64}
      (held : sequence ∈ model.reservations) :
      Moves model (some (.abandoned sequence))
        { model with reservations := model.reservations.erase sequence }
  | closing (opened : model.state = .opened) :
      Moves model none { model with state := .closing }
  | drainBegun {sequence : NonZeroU64}
      (free : model.state = .opened ∨ model.state = .closing)
      (inactive : model.activeDrain = none)
      (issued : model.nextLease = some sequence) :
      Moves model (some (.drainBegun sequence))
        { model with
          nextLease := sequence.checkedSucc
          activeDrain := some sequence }
  | popped {payload : T} {rest : List T}
      (queued : model.queue = payload :: rest) :
      Moves model (some (.popped payload)) { model with queue := rest }
  | drainFinished {sequence : NonZeroU64}
      (held : model.activeDrain = some sequence) :
      Moves model (some (.drainFinished sequence))
        { model with activeDrain := none }
  | terminalBegun {sequence : NonZeroU64}
      (free : model.state = .terminalPending ∨
        (model.state = .closing ∧ model.reservations = ∅ ∧
          model.activeDrain = none))
      (issued : model.nextTerminalLease = some sequence) :
      Moves model (some (.terminalBegun sequence))
        { model with
          nextTerminalLease := sequence.checkedSucc
          activeTerminalDrain := some sequence
          state := .terminalDraining }
  | terminalFinished {sequence : NonZeroU64}
      (held : model.activeTerminalDrain = some sequence)
      (empty : model.queue = []) :
      Moves model (some (.terminalEnded sequence))
        { model with activeTerminalDrain := none, state := .closed }
  | terminalReleased {sequence : NonZeroU64}
      (held : model.activeTerminalDrain = some sequence) :
      Moves model (some (.terminalEnded sequence))
        { model with activeTerminalDrain := none, state := .terminalPending }

section Inversion

theorem reserve_moves (model : WorkQueueModel T) :
    model.Moves (WorkQueueExchange.event ⟨.reserve, .reserve model.reserve.1⟩)
      model.reserve.2 := by
  unfold reserve
  split
  · exact .kept
  · rename_i opened
    split
    · exact .kept
    · rename_i sequence issued
      exact .reserved (not_not.mp opened) issued

theorem publish_moves (model : WorkQueueModel T)
    (reservation : SubmitReservation) (payload : T) :
    model.Moves
      (WorkQueueExchange.event ⟨.publish reservation payload,
        .publish (model.publish reservation payload).1⟩)
      (model.publish reservation payload).2 := by
  unfold publish
  split
  · rename_i held
    dsimp only
    split
    · exact .full held
    · rename_i room
      exact .published payload held room
  · exact .kept

theorem abandon_moves (model : WorkQueueModel T)
    (reservation : SubmitReservation) :
    model.Moves
      (WorkQueueExchange.event
        ⟨.abandon reservation, .abandon (model.abandon reservation).1⟩)
      (model.abandon reservation).2 := by
  unfold abandon
  split
  · rename_i held
    exact .abandoned held
  · exact .kept

theorem beginClose_moves (model : WorkQueueModel T) :
    model.Moves none model.beginClose := by
  unfold beginClose
  split
  · rename_i opened
    exact .closing opened
  · exact .kept

theorem beginDrain_moves (model : WorkQueueModel T) :
    model.Moves
      (WorkQueueExchange.event ⟨.beginDrain, .beginDrain model.beginDrain.1⟩)
      model.beginDrain.2 := by
  unfold beginDrain
  split
  · exact .kept
  · exact .kept
  · exact .kept
  · rename_i unclosed unreleased unowned
    have free : model.state = .opened ∨ model.state = .closing := by
      cases state : model.state with
      | opened => exact Or.inl rfl
      | closing => exact Or.inr rfl
      | closed => exact absurd state unclosed
      | terminalPending => exact absurd state unreleased
      | terminalDraining => exact absurd state unowned
    split
    · exact .kept
    · rename_i inactive
      split
      · exact .kept
      · split
        · exact .kept
        · rename_i sequence issued
          exact .drainBegun free (Option.not_isSome_iff_eq_none.mp inactive)
            issued

theorem pop_moves (model : WorkQueueModel T) (lease : DrainLease) :
    model.Moves
      (WorkQueueExchange.event ⟨.pop lease, .pop (model.pop lease).1⟩)
      (model.pop lease).2 := by
  unfold pop
  split
  · cases queued : model.queue with
    | nil =>
        have same : { model with queue := [] } = model := by
          rw [← queued]
        rw [List.tail_nil, same]
        exact .kept
    | cons payload rest => exact .popped queued
  · exact .kept

theorem finishDrain_moves (model : WorkQueueModel T) (lease : DrainLease) :
    model.Moves
      (WorkQueueExchange.event
        ⟨.finishDrain lease, .finishDrain (model.finishDrain lease).1⟩)
      (model.finishDrain lease).2 := by
  unfold finishDrain
  split
  · rename_i held
    exact .drainFinished held
  · exact .kept

theorem issueTerminalLease_moves (model : WorkQueueModel T)
    (free : model.state = .terminalPending ∨
      (model.state = .closing ∧ model.reservations = ∅ ∧
        model.activeDrain = none)) :
    model.Moves
      (WorkQueueExchange.event ⟨.beginTerminalDrain,
        .beginTerminalDrain model.issueTerminalLease.1⟩)
      model.issueTerminalLease.2 := by
  unfold issueTerminalLease
  split
  · exact .kept
  · rename_i sequence issued
    exact .terminalBegun free issued

theorem beginTerminalDrain_moves (model : WorkQueueModel T) :
    model.Moves
      (WorkQueueExchange.event ⟨.beginTerminalDrain,
        .beginTerminalDrain model.beginTerminalDrain.1⟩)
      model.beginTerminalDrain.2 := by
  cases state : model.state with
  | opened | closed | terminalDraining =>
      simp only [beginTerminalDrain, state]
      exact .kept
  | terminalPending =>
      have shape : model.beginTerminalDrain = model.issueTerminalLease := by
        simp only [beginTerminalDrain, state]
      rw [shape]
      exact issueTerminalLease_moves model (Or.inl state)
  | closing =>
      have shape : model.beginTerminalDrain =
          if model.reservations ≠ ∅ then
            (.error (.reservationsRemain model.reservations.card), model)
          else if model.activeDrain.isSome then
            (.error .drainActive, model)
          else model.issueTerminalLease := by
        simp only [beginTerminalDrain, state]
      rw [shape]
      split
      · exact .kept
      · rename_i unreserved
        split
        · exact .kept
        · rename_i inactive
          apply issueTerminalLease_moves model
          exact Or.inr ⟨state, not_not.mp unreserved,
            Option.not_isSome_iff_eq_none.mp inactive⟩

theorem popTerminal_moves (model : WorkQueueModel T)
    (lease : TerminalDrainLease) :
    model.Moves
      (WorkQueueExchange.event
        ⟨.popTerminal lease, .popTerminal (model.popTerminal lease).1⟩)
      (model.popTerminal lease).2 := by
  unfold popTerminal
  split
  · cases queued : model.queue with
    | nil =>
        have same : { model with queue := [] } = model := by
          rw [← queued]
        rw [List.tail_nil, same]
        exact .kept
    | cons payload rest => exact .popped queued
  · exact .kept

theorem finishTerminalDrain_moves (model : WorkQueueModel T)
    (lease : TerminalDrainLease) :
    model.Moves
      (WorkQueueExchange.event ⟨.finishTerminalDrain lease,
        .finishTerminalDrain (model.finishTerminalDrain lease).1⟩)
      (model.finishTerminalDrain lease).2 := by
  unfold finishTerminalDrain
  split
  · rename_i held
    split
    · rename_i empty
      exact .terminalFinished held (List.isEmpty_iff.mp empty)
    · exact .kept
  · exact .kept

theorem releaseTerminalDrain_moves (model : WorkQueueModel T)
    (lease : TerminalDrainLease) :
    model.Moves
      (WorkQueueExchange.event ⟨.releaseTerminalDrain lease,
        .releaseTerminalDrain (model.releaseTerminalDrain lease).1⟩)
      (model.releaseTerminalDrain lease).2 := by
  unfold releaseTerminalDrain
  split
  · rename_i held
    exact .terminalReleased held
  · exact .kept

theorem perform_moves (model : WorkQueueModel T) (op : WorkQueueOp T) :
    model.Moves (WorkQueueExchange.event ⟨op, (model.perform op).1⟩)
      (model.perform op).2 := by
  cases op with
  | reserve => exact reserve_moves model
  | publish reservation payload => exact publish_moves model reservation payload
  | abandon reservation => exact abandon_moves model reservation
  | beginClose => exact beginClose_moves model
  | beginDrain => exact beginDrain_moves model
  | pop lease => exact pop_moves model lease
  | finishDrain lease => exact finishDrain_moves model lease
  | beginTerminalDrain => exact beginTerminalDrain_moves model
  | popTerminal lease => exact popTerminal_moves model lease
  | finishTerminalDrain lease => exact finishTerminalDrain_moves model lease
  | releaseTerminalDrain lease => exact releaseTerminalDrain_moves model lease

end Inversion

section Keeping

variable {model next : WorkQueueModel T} {event : Option (WorkQueueEvent T)}
  {events : List (WorkQueueEvent T)}

theorem Moves.capacity (moves : model.Moves event next) :
    next.capacity = model.capacity := by
  cases moves with
  | kept => rfl
  | _ => rfl

theorem Moves.bounded (moves : model.Moves event next)
    (bounded : model.queue.length ≤ model.capacity) :
    next.queue.length ≤ next.capacity := by
  cases moves with
  | published payload held room =>
      rw [List.length_append, List.length_singleton]
      exact Nat.lt_of_le_of_ne bounded room
  | popped queued =>
      rw [queued, List.length_cons] at bounded
      exact Nat.le_of_succ_le bounded
  | _ => exact bounded

theorem Moves.terminal (moves : model.Moves event next)
    (owned : model.activeTerminalDrain ≠ none ↔
      model.state = .terminalDraining)
    (settled : model.state.isTerminal = true →
      model.reservations = ∅ ∧ model.activeDrain = none)
    (terminal : next.state.isTerminal = true) :
    next.reservations = ∅ ∧ next.activeDrain = none := by
  cases moves with
  | kept => exact settled terminal
  | reserved opened | closing opened =>
      simp [opened, WorkQueueState.isTerminal] at terminal
  | published payload held | full held | abandoned held =>
      rw [(settled terminal).1] at held
      exact absurd held (Finset.notMem_empty _)
  | drainBegun free =>
      cases free with
      | inl opened => simp [opened, WorkQueueState.isTerminal] at terminal
      | inr closing => simp [closing, WorkQueueState.isTerminal] at terminal
  | popped => exact settled terminal
  | drainFinished held => exact ⟨(settled terminal).1, rfl⟩
  | terminalBegun free =>
      cases free with
      | inl pending => exact settled (by rw [pending]; rfl)
      | inr closing => exact closing.2
  | terminalFinished held | terminalReleased held =>
      have draining := owned.mp (by rw [held]; exact Option.some_ne_none _)
      exact settled (by rw [draining]; rfl)

/-- A queue is terminally drained exactly while a terminal lease is live. -/
theorem Moves.owned (moves : model.Moves event next)
    (owned : model.activeTerminalDrain ≠ none ↔
      model.state = .terminalDraining) :
    next.activeTerminalDrain ≠ none ↔ next.state = .terminalDraining := by
  cases moves with
  | closing opened =>
      have unowned := (not_congr owned).mpr (by rw [opened]; nofun)
      exact iff_of_false unowned nofun
  | terminalBegun => exact iff_of_true (Option.some_ne_none _) rfl
  | terminalFinished | terminalReleased =>
      exact iff_of_false (not_not.mpr rfl) nofun
  | _ => exact owned

theorem Moves.emptied (moves : model.Moves event next)
    (settled : model.state.isTerminal = true →
      model.reservations = ∅ ∧ model.activeDrain = none)
    (emptied : model.state = .closed → model.queue = [])
    (closed : next.state = .closed) : next.queue = [] := by
  cases moves with
  | published payload held =>
      rw [(settled (by rw [closed]; rfl)).1] at held
      exact absurd held (Finset.notMem_empty _)
  | closing => cases closed
  | popped queued =>
      rw [emptied closed] at queued
      cases queued
  | terminalBegun => cases closed
  | terminalFinished held empty => exact empty
  | terminalReleased => cases closed
  | _ => exact emptied closed

theorem Moves.follows (moves : model.Moves event next)
    (owned : model.activeTerminalDrain ≠ none ↔
      model.state = .terminalDraining) :
    next.state ∈ model.state.successors := by
  cases moves with
  | closing opened =>
      rw [opened]
      exact List.mem_cons_of_mem _ List.mem_cons_self
  | terminalBegun free =>
      cases free with
      | inl pending =>
          rw [pending]
          exact List.mem_cons_of_mem _ List.mem_cons_self
      | inr closing =>
          rw [closing.1]
          exact List.mem_cons_of_mem _ List.mem_cons_self
  | terminalFinished held | terminalReleased held =>
      have draining := owned.mp (by rw [held]; exact Option.some_ne_none _)
      rw [draining]
      simp [WorkQueueState.successors]
  | _ => exact model.state.mem_successors

theorem Moves.reservations (moves : model.Moves event next)
    (below : NonZeroU64.Below (events.filterMap WorkQueueEvent.reservation)
      model.nextReservation)
    (tokens : Tokens (events.filterMap WorkQueueEvent.reservation)
      (events.filterMap WorkQueueEvent.settlement)
      (· ∈ model.reservations)) :
    NonZeroU64.Below
        ((events ++ event.toList).filterMap WorkQueueEvent.reservation)
        next.nextReservation ∧
      Tokens ((events ++ event.toList).filterMap WorkQueueEvent.reservation)
        ((events ++ event.toList).filterMap WorkQueueEvent.settlement)
        (· ∈ next.reservations) := by
  rw [filterMap_toList, filterMap_toList]
  cases moves with
  | reserved opened issued =>
      rw [issued] at below
      refine ⟨below.issue, ?_⟩
      have kept := tokens.issue _ below.fresh fun _ => Finset.mem_insert
      simpa [WorkQueueEvent.settlement, WorkQueueEvent.reservation] using kept
  | published payload held | full held | abandoned held =>
      have kept := tokens.spend _ held fun _ => Finset.mem_erase
      exact ⟨by simpa [WorkQueueEvent.reservation] using below,
        by simpa [WorkQueueEvent.settlement, WorkQueueEvent.reservation]
          using kept⟩
  | _ =>
      simp only [Option.bind, Option.toList, WorkQueueEvent.reservation,
        WorkQueueEvent.settlement, List.append_nil]
      exact ⟨below, tokens⟩

theorem Moves.drains (moves : model.Moves event next)
    (below : NonZeroU64.Below (events.filterMap WorkQueueEvent.drain)
      model.nextLease)
    (tokens : Tokens (events.filterMap WorkQueueEvent.drain)
      (events.filterMap WorkQueueEvent.finish)
      (model.activeDrain = some ·)) :
    NonZeroU64.Below
        ((events ++ event.toList).filterMap WorkQueueEvent.drain)
        next.nextLease ∧
      Tokens ((events ++ event.toList).filterMap WorkQueueEvent.drain)
        ((events ++ event.toList).filterMap WorkQueueEvent.finish)
        (next.activeDrain = some ·) := by
  rw [filterMap_toList, filterMap_toList]
  cases moves with
  | @drainBegun sequence free inactive issued =>
      rw [issued] at below
      have kept := tokens.issue (some sequence = some ·) below.fresh
        fun other => by rw [inactive, Option.some_inj]; simp [eq_comm]
      refine ⟨below.issue, ?_⟩
      simpa [WorkQueueEvent.drain, WorkQueueEvent.finish] using kept
  | @drainFinished sequence held =>
      have kept := tokens.spend (none = some ·) held
        fun other => by rw [held, Option.some_inj]; simp [eq_comm]
      exact ⟨by simpa [WorkQueueEvent.drain] using below,
        by simpa [WorkQueueEvent.drain, WorkQueueEvent.finish] using kept⟩
  | _ =>
      simp only [Option.bind, Option.toList, WorkQueueEvent.drain,
        WorkQueueEvent.finish, List.append_nil]
      exact ⟨below, tokens⟩

theorem Moves.terminals (moves : model.Moves event next)
    (owned : model.activeTerminalDrain ≠ none ↔
      model.state = .terminalDraining)
    (below : NonZeroU64.Below (events.filterMap WorkQueueEvent.terminal)
      model.nextTerminalLease)
    (tokens : Tokens (events.filterMap WorkQueueEvent.terminal)
      (events.filterMap WorkQueueEvent.ending)
      (model.activeTerminalDrain = some ·)) :
    NonZeroU64.Below
        ((events ++ event.toList).filterMap WorkQueueEvent.terminal)
        next.nextTerminalLease ∧
      Tokens ((events ++ event.toList).filterMap WorkQueueEvent.terminal)
        ((events ++ event.toList).filterMap WorkQueueEvent.ending)
        (next.activeTerminalDrain = some ·) := by
  rw [filterMap_toList, filterMap_toList]
  cases moves with
  | @terminalBegun sequence free issued =>
      have inactive : model.activeTerminalDrain = none := by
        apply not_not.mp
        apply (not_congr owned).mpr
        cases free with
        | inl pending => rw [pending]; nofun
        | inr closing => rw [closing.1]; nofun
      rw [issued] at below
      have kept := tokens.issue (some sequence = some ·) below.fresh
        fun other => by rw [inactive, Option.some_inj]; simp [eq_comm]
      refine ⟨below.issue, ?_⟩
      simpa [WorkQueueEvent.terminal, WorkQueueEvent.ending] using kept
  | @terminalFinished sequence held | @terminalReleased sequence held =>
      have kept := tokens.spend (none = some ·) held
        fun other => by rw [held, Option.some_inj]; simp [eq_comm]
      exact ⟨by simpa [WorkQueueEvent.terminal] using below,
        by simpa [WorkQueueEvent.terminal, WorkQueueEvent.ending] using kept⟩
  | _ =>
      simp only [Option.bind, Option.toList, WorkQueueEvent.terminal,
        WorkQueueEvent.ending, List.append_nil]
      exact ⟨below, tokens⟩

/-- Payloads leave in the order they were published. -/
theorem Moves.fifo (moves : model.Moves event next)
    (fifo : events.filterMap WorkQueueEvent.publication =
      events.filterMap WorkQueueEvent.delivery ++ model.queue) :
    (events ++ event.toList).filterMap WorkQueueEvent.publication =
      (events ++ event.toList).filterMap WorkQueueEvent.delivery ++
        next.queue := by
  rw [filterMap_toList, filterMap_toList, fifo]
  cases moves with
  | published => simp [WorkQueueEvent.publication, WorkQueueEvent.delivery]
  | popped queued =>
      simp [WorkQueueEvent.publication, WorkQueueEvent.delivery, queued]
  | _ => simp [WorkQueueEvent.publication, WorkQueueEvent.delivery]

end Keeping

/-! ## Runs -/

section Runs

/-- A token of a history that was issued and not spent since. -/
def Outstanding (issued spent : WorkQueueEvent T → Option NonZeroU64)
    (trace : List (WorkQueueExchange T)) (sequence : NonZeroU64) : Prop :=
  sequence ∈ (eventsOf trace).filterMap issued ∧
    sequence ∉ (eventsOf trace).filterMap spent

/-- A queue agrees with its history. -/
structure Recorded (capacity : Nat) (events : List (WorkQueueEvent T))
    (model : WorkQueueModel T) : Prop where
  capacity : model.capacity = capacity
  bounded : model.queue.length ≤ model.capacity
  terminal : model.state.isTerminal = true →
    model.reservations = ∅ ∧ model.activeDrain = none
  owned : model.activeTerminalDrain ≠ none ↔
    model.state = .terminalDraining
  emptied : model.state = .closed → model.queue = []
  reservations :
    NonZeroU64.Below (events.filterMap WorkQueueEvent.reservation)
        model.nextReservation ∧
      Tokens (events.filterMap WorkQueueEvent.reservation)
        (events.filterMap WorkQueueEvent.settlement)
        (· ∈ model.reservations)
  drains :
    NonZeroU64.Below (events.filterMap WorkQueueEvent.drain)
        model.nextLease ∧
      Tokens (events.filterMap WorkQueueEvent.drain)
        (events.filterMap WorkQueueEvent.finish)
        (model.activeDrain = some ·)
  terminals :
    NonZeroU64.Below (events.filterMap WorkQueueEvent.terminal)
        model.nextTerminalLease ∧
      Tokens (events.filterMap WorkQueueEvent.terminal)
        (events.filterMap WorkQueueEvent.ending)
        (model.activeTerminalDrain = some ·)
  fifo : events.filterMap WorkQueueEvent.publication =
    events.filterMap WorkQueueEvent.delivery ++ model.queue

theorem new_recorded (capacity : Nat) :
    Recorded capacity [] (.new capacity : WorkQueueModel T) where
  capacity := rfl
  bounded := Nat.zero_le _
  terminal := nofun
  owned := iff_of_false (not_not.mpr rfl) nofun
  emptied := nofun
  reservations := ⟨.empty _, .empty fun _ => Finset.notMem_empty _⟩
  drains := ⟨.empty _, .empty nofun⟩
  terminals := ⟨.empty _, .empty nofun⟩
  fifo := rfl

variable {capacity : Nat} {trace : List (WorkQueueExchange T)}
  {model : WorkQueueModel T}

theorem reserve_exhausted (opened : model.state = .opened)
    (exhausted : model.nextReservation = none) :
    model.reserve = (.error .reservationSpaceExhausted, model) := by
  rw [reserve, if_neg (not_not.mpr opened), exhausted]

theorem beginDrain_exhausted
    (free : model.state = .opened ∨ model.state = .closing)
    (inactive : model.activeDrain = none) (waiting : model.queue ≠ [])
    (exhausted : model.nextLease = none) :
    model.beginDrain = (.error .leaseSpaceExhausted, model) := by
  cases free with
  | inl held => simp [beginDrain, held, inactive, waiting, exhausted]
  | inr held => simp [beginDrain, held, inactive, waiting, exhausted]

theorem beginTerminalDrain_exhausted (pending : model.state = .terminalPending)
    (exhausted : model.nextTerminalLease = none) :
    model.beginTerminalDrain = (.error .leaseSpaceExhausted, model) := by
  simp only [beginTerminalDrain, pending, issueTerminalLease, exhausted]

theorem Moves.recorded {event : Option (WorkQueueEvent T)}
    {events : List (WorkQueueEvent T)} {next : WorkQueueModel T}
    (moves : model.Moves event next)
    (recorded : model.Recorded capacity events) :
    next.Recorded capacity (events ++ event.toList) where
  capacity := moves.capacity.trans recorded.capacity
  bounded := moves.bounded recorded.bounded
  terminal := moves.terminal recorded.owned recorded.terminal
  owned := moves.owned recorded.owned
  emptied := moves.emptied recorded.terminal recorded.emptied
  reservations :=
    moves.reservations recorded.reservations.1 recorded.reservations.2
  drains := moves.drains recorded.drains.1 recorded.drains.2
  terminals := moves.terminals recorded.owned recorded.terminals.1
    recorded.terminals.2
  fifo := moves.fifo recorded.fifo

theorem step_moves {exchange : WorkQueueExchange T} {next : WorkQueueModel T}
    (step : (workQueueSystem capacity).step model exchange next) :
    model.Moves exchange.event next := by
  have moves := perform_moves model exchange.op
  rw [Option.some.inj (step : some (model.perform exchange.op) = _)] at moves
  exact moves

theorem run_recorded (run : (workQueueSystem capacity).Run trace model) :
    model.Recorded capacity (eventsOf trace) := by
  refine System.Run.invariant
    (fun trace model => model.Recorded capacity (eventsOf trace)) ?_ ?_ run
  · intro model fresh
    rw [fresh]
    exact new_recorded capacity
  · intro trace model exchange next _ recorded step
    rw [eventsOf_snoc]
    exact (step_moves step).recorded recorded

/-- What holds of a queue after any history. -/
structure Invariants (capacity : Nat) (trace : List (WorkQueueExchange T))
    (model : WorkQueueModel T) : Prop where
  bounded : model.queue.length ≤ capacity
  terminal :
    model.state = .terminalPending ∨ model.state = .terminalDraining ∨
        model.state = .closed →
      model.reservations = ∅ ∧ model.activeDrain = none
  owned : model.activeTerminalDrain ≠ none ↔
    model.state = .terminalDraining
  emptied : model.state = .closed → model.queue = []
  follows : ∀ exchange next,
    (workQueueSystem capacity).step model exchange next →
      next.state ∈ model.state.successors
  /-- No number is issued twice, also when the numbers are used up. -/
  reservedOnce : ((eventsOf trace).filterMap WorkQueueEvent.reservation).Nodup
  drainedOnce : ((eventsOf trace).filterMap WorkQueueEvent.drain).Nodup
  ownedOnce : ((eventsOf trace).filterMap WorkQueueEvent.terminal).Nodup
  exhausted :
    (model.state = .opened → model.nextReservation = none →
      model.reserve = (.error .reservationSpaceExhausted, model)) ∧
    (model.state = .opened ∨ model.state = .closing →
      model.activeDrain = none → model.queue ≠ [] → model.nextLease = none →
      model.beginDrain = (.error .leaseSpaceExhausted, model)) ∧
    (model.state = .terminalPending → model.nextTerminalLease = none →
      model.beginTerminalDrain = (.error .leaseSpaceExhausted, model))
  /-- A reservation that is not outstanding changes nothing. -/
  staleReservation : ∀ reservation : SubmitReservation,
    ¬Outstanding WorkQueueEvent.reservation WorkQueueEvent.settlement trace
        reservation.sequence →
      (∀ payload, model.publish reservation payload =
        (.error (.staleReservation payload), model)) ∧
      model.abandon reservation = (.error .staleReservation, model)
  staleDrain : ∀ lease : DrainLease,
    ¬Outstanding WorkQueueEvent.drain WorkQueueEvent.finish trace
        lease.sequence →
      model.pop lease = (.error .staleLease, model) ∧
        model.finishDrain lease = (.error .staleLease, model)
  staleTerminal : ∀ lease : TerminalDrainLease,
    ¬Outstanding WorkQueueEvent.terminal WorkQueueEvent.ending trace
        lease.sequence →
      model.popTerminal lease = (.error .staleLease, model) ∧
        model.finishTerminalDrain lease = (.error .staleLease, model) ∧
        model.releaseTerminalDrain lease = (.error .staleLease, model)
  /-- An outstanding reservation settles at its first use, whether or not
  there was room. -/
  settles : ∀ reservation : SubmitReservation,
    Outstanding WorkQueueEvent.reservation WorkQueueEvent.settlement trace
        reservation.sequence →
      reservation.sequence ∈ model.reservations ∧
      (∀ payload, model.publish reservation payload =
        let settled :=
          { model with
            reservations := model.reservations.erase reservation.sequence }
        if model.queue.length = capacity then (.error (.full payload), settled)
        else (.ok (), { settled with queue := model.queue ++ [payload] })) ∧
      model.abandon reservation =
        (.ok (),
          { model with
            reservations := model.reservations.erase reservation.sequence })
  /-- The holder of a drain takes the head of the queue out of it. -/
  pops : ∀ lease : DrainLease,
    Outstanding WorkQueueEvent.drain WorkQueueEvent.finish trace
        lease.sequence →
      model.pop lease =
        (.ok model.queue.head?, { model with queue := model.queue.tail }) ∧
      model.finishDrain lease = (.ok (), { model with activeDrain := none })
  /-- So does the terminal owner, and closes the queue once it is empty. -/
  popsTerminal : ∀ lease : TerminalDrainLease,
    Outstanding WorkQueueEvent.terminal WorkQueueEvent.ending trace
        lease.sequence →
      model.popTerminal lease =
        (.ok model.queue.head?, { model with queue := model.queue.tail }) ∧
      (model.queue = [] → model.finishTerminalDrain lease =
        (.ok (), { model with activeTerminalDrain := none, state := .closed })) ∧
      (model.queue ≠ [] → model.finishTerminalDrain lease =
        (.error (.payloadsRemain model.queue.length), model)) ∧
      model.releaseTerminalDrain lease =
        (.ok (),
          { model with activeTerminalDrain := none, state := .terminalPending })
  /-- Tokens are issued wherever nobody is in the way. -/
  grants :
    (∀ sequence, model.state = .opened →
      model.nextReservation = some sequence →
      model.reserve =
        (.ok ⟨sequence⟩,
          { model with
            nextReservation := sequence.checkedSucc
            reservations := insert sequence model.reservations })) ∧
    (∀ sequence, model.state = .opened ∨ model.state = .closing →
      model.activeDrain = none → model.queue ≠ [] →
      model.nextLease = some sequence →
      model.beginDrain =
        (.ok ⟨sequence⟩,
          { model with
            nextLease := sequence.checkedSucc
            activeDrain := some sequence })) ∧
    (∀ sequence, model.state = .closing ∨ model.state = .terminalPending →
      model.reservations = ∅ → model.activeDrain = none →
      model.nextTerminalLease = some sequence →
      model.beginTerminalDrain =
        (.ok ⟨sequence⟩,
          { model with
            nextTerminalLease := sequence.checkedSucc
            activeTerminalDrain := some sequence
            state := .terminalDraining }))
  settledOnce : ((eventsOf trace).filterMap WorkQueueEvent.settlement).Nodup
  settledIssued : ∀ sequence ∈
    (eventsOf trace).filterMap WorkQueueEvent.settlement,
      sequence ∈ (eventsOf trace).filterMap WorkQueueEvent.reservation
  /-- The payloads taken out are the published ones, in order and each once. -/
  fifo : (eventsOf trace).filterMap WorkQueueEvent.publication =
    (eventsOf trace).filterMap WorkQueueEvent.delivery ++ model.queue

theorem run_workQueueInvariants (run : (workQueueSystem capacity).Run trace model) :
    model.Invariants capacity trace := by
  have recorded := run_recorded run
  refine ⟨?_, ?_, recorded.owned, recorded.emptied, ?_,
    recorded.reservations.2.issuedOnce, recorded.drains.2.issuedOnce,
    recorded.terminals.2.issuedOnce, ?_, ?_, ?_, ?_, ?_, ?_, ?_, ?_,
    recorded.reservations.2.spentOnce, recorded.reservations.2.known,
    recorded.fifo⟩
  · rw [← recorded.capacity]
    exact recorded.bounded
  · intro terminal
    apply recorded.terminal
    rcases terminal with state | state | state
    · rw [state]; rfl
    · rw [state]; rfl
    · rw [state]; rfl
  · intro exchange next step
    exact (step_moves step).follows recorded.owned
  · exact ⟨reserve_exhausted, beginDrain_exhausted,
      beginTerminalDrain_exhausted⟩
  · intro reservation stale
    have gone : reservation.sequence ∉ model.reservations :=
      (not_congr (recorded.reservations.2.live_iff _)).mpr stale
    exact ⟨fun payload => if_neg gone, if_neg gone⟩
  · intro lease stale
    have gone : model.activeDrain ≠ some lease.sequence :=
      (not_congr (recorded.drains.2.live_iff _)).mpr stale
    exact ⟨if_neg gone, if_neg gone⟩
  · intro lease stale
    have gone : model.activeTerminalDrain ≠ some lease.sequence :=
      (not_congr (recorded.terminals.2.live_iff _)).mpr stale
    exact ⟨if_neg gone, if_neg gone, if_neg gone⟩
  · intro reservation outstanding
    have held : reservation.sequence ∈ model.reservations :=
      (recorded.reservations.2.live_iff _).mpr outstanding
    refine ⟨held, ?_, if_pos held⟩
    intro payload
    rw [publish, if_pos held, ← recorded.capacity]
  · intro lease outstanding
    have held : model.activeDrain = some lease.sequence :=
      (recorded.drains.2.live_iff _).mpr outstanding
    exact ⟨pop_held held, finishDrain_held held⟩
  · intro lease outstanding
    have held : model.activeTerminalDrain = some lease.sequence :=
      (recorded.terminals.2.live_iff _).mpr outstanding
    exact ⟨popTerminal_held held, finishTerminalDrain_held held,
      finishTerminalDrain_residual held, releaseTerminalDrain_held held⟩
  · refine ⟨?_, ?_, ?_⟩
    · intro sequence opened issued
      exact reserve_granted opened issued
    · intro sequence free inactive waiting issued
      exact beginDrain_granted free inactive waiting issued
    · intro sequence free unreserved inactive issued
      exact beginTerminalDrain_granted free unreserved inactive issued

/-- A queue of one payload: a full publication, tokens used twice, a drain, a
terminal lease given up and another one that closes the queue. -/
def residualWork : List (WorkQueueOp Nat) :=
  let first : NonZeroU64 := .one
  let second : NonZeroU64 := .two
  [.reserve, .reserve, .publish ⟨first⟩ 7, .publish ⟨second⟩ 8,
    .publish ⟨second⟩ 8, .beginDrain, .pop ⟨first⟩, .finishDrain ⟨first⟩,
    .pop ⟨first⟩, .reserve, .beginClose, .publish ⟨⟨3, by decide⟩⟩ 9,
    .beginTerminalDrain, .releaseTerminalDrain ⟨first⟩,
    .popTerminal ⟨first⟩, .beginTerminalDrain, .finishTerminalDrain ⟨second⟩,
    .popTerminal ⟨second⟩, .finishTerminalDrain ⟨second⟩, .reserve]

theorem residualWork_invariants :
    ∃ trace model,
      workQueue.performAll (.new 1) residualWork = some (trace, model) ∧
      model.state = .closed ∧ Invariants 1 trace model := by
  obtain ⟨trace, model, performed, run⟩ :=
    workQueue.exists_run_of_performAll (fun model => model = .new 1)
      residualWork rfl rfl
  have closed : (workQueue.performAll (.new 1) residualWork).map
      (·.2.state) = some .closed := rfl
  rw [performed] at closed
  exact ⟨trace, model, performed, Option.some.inj closed,
    run_workQueueInvariants run⟩

end Runs

end WorkQueueModel

end RustJsi.Testkit
