import RustJsi.Runtime.MailboxAlone
import RustJsi.Runtime.MailboxConservation
import RustJsi.Testkit.WorkQueue

/-!
# The closable mailbox against its reference

A driver on one thread performs every call on a mailbox and on a work-queue
model.  A mailbox that refuses a terminal attempt because of a live normal
drain has closed its normal gate by then, and the model has closed nothing.
The two keep in step exactly in the runs that ask for no drain from there.
-/

namespace RustJsi.Testkit

open Interleaving RustJsi.Runtime
open ClosableMailbox (Shared Call Cells Ends TerminalResult start)

/-- The mailbox state a model state stands for. -/
def mailboxState : WorkQueueState → ClosableMailboxState
  | .opened => .opened
  | .closing => .closing
  | .terminalPending => .terminalPending
  | .terminalDraining => .terminalDraining
  | .closed => .closed

/-- A mailbox and a model, with the drains and leases the driver holds. -/
structure Driver (width : PointerWidth) (T : Type*) (capacity : Nat) where
  mailbox : Shared width T capacity
  drains : Nat
  terminals : Nat
  model : WorkQueueModel T
  lease : Option DrainLease
  terminalLease : Option TerminalDrainLease

/-- What the mailbox and the model answered to one call. -/
inductive Answers (T : Type*) where
  | enqueued (accepted modelAccepts : Bool)
  | acquired (granted modelGrants : Bool)
  | popped (payload : Option T) (model : Except DrainError (Option T))
  | drainEnded (model : Except DrainError Unit)
  | closeBegun
  | claimed (granted modelGrants : Bool)
  | terminalPopped (payload : Option T)
      (model : Except TerminalDrainError (Option T))
  | terminalEnded (model : Except TerminalDrainError Unit)

/-- Both accepted or neither did, and both popped the same payload. -/
def Answers.Agree {T : Type*} : Answers T → Prop
  | .enqueued accepted modelAccepts => accepted = modelAccepts
  | .acquired granted modelGrants => granted = modelGrants
  | .popped payload model => model = .ok payload
  | .drainEnded model => model = .ok ()
  | .closeBegun => True
  | .claimed granted modelGrants => granted = modelGrants
  | .terminalPopped payload model => model = .ok payload
  | .terminalEnded model => model = .ok ()

namespace Driver

variable {width : PointerWidth} {T : Type*} {capacity : Nat}

def fresh : Driver width T capacity where
  mailbox := ClosableMailbox.new
  drains := 0
  terminals := 0
  model := WorkQueueModel.new capacity
  lease := none
  terminalLease := none

/-- No callback is passed to the mailbox. -/
abbrev Standing (width : PointerWidth) (T : Type*) := Call width T Empty

/-- The enqueue was accepted. -/
def accepts : Standing width T → Bool
  | .enqueued (some (.ok _)) => true
  | _ => false

/-- The call was granted a normal drain. -/
def grantsDrain : Standing width T → Bool
  | .draining => true
  | _ => false

/-- The call was granted a terminal drain. -/
def grantsTerminal : Standing width T → Bool
  | .terminal => true
  | _ => false

/-- The model's part in the end of a terminal drain: only one that finished is
finished, every other is released. -/
def endTerminal (model : WorkQueueModel T) (lease : TerminalDrainLease) :
    Standing width T → Except TerminalDrainError Unit × WorkQueueModel T
  | .terminalEnded .finished => model.finishTerminalDrain lease
  | _ => model.releaseTerminalDrain lease

/-- One call on both sides.  `acquire` is only called over a waiting payload,
and the model has identities left. -/
inductive Step (driver : Driver width T capacity) :
    Answers T → Driver width T capacity → Prop
  | enqueue {mailbox : Shared width T capacity} {call : Standing width T}
      (value : T) (issuable : driver.model.nextReservation ≠ none)
      (ends : Ends driver.mailbox (start (.enqueue value)) mailbox call) :
      Step driver
        (.enqueued (accepts call) (driver.model.enqueue value).1)
        { driver with mailbox, model := (driver.model.enqueue value).2 }
  | acquire {mailbox : Shared width T capacity} {call : Standing width T}
      (waiting : driver.mailbox.queue.items ≠ [])
      (issuable : driver.model.nextLease ≠ none)
      (ends : Ends driver.mailbox (start .acquire) mailbox call) :
      Step driver
        (.acquired (grantsDrain call) driver.model.beginDrain.1.isOk)
        { driver with
          mailbox
          drains := driver.drains + (grantsDrain call).toNat
          model := driver.model.beginDrain.2
          lease := driver.model.beginDrain.1.toOption.or driver.lease }
  | pop {mailbox : Shared width T capacity}
      {effect : ClosableMailbox.Effect T Empty} {lease : DrainLease}
      (live : 0 < driver.drains) (held : driver.lease = some lease)
      (popped : ClosableMailbox.step driver.mailbox .pop .draining =
        some (mailbox, .draining, effect)) :
      Step driver (.popped effect.popped? (driver.model.pop lease).1)
        { driver with mailbox, model := (driver.model.pop lease).2 }
  | endDrain {middle mailbox : Shared width T capacity}
      {call after : Standing width T}
      {effect : ClosableMailbox.Effect T Empty} {lease : DrainLease}
      (choice : ClosableMailbox.Choice Empty)
      (ending : choice = .finish ∨ choice = .drop)
      (live : 0 < driver.drains) (held : driver.lease = some lease)
      (begun : ClosableMailbox.step driver.mailbox choice .draining =
        some (middle, call, effect))
      (ends : Ends middle call mailbox after) :
      Step driver (.drainEnded (driver.model.finishDrain lease).1)
        { driver with
          mailbox
          drains := driver.drains - 1
          model := (driver.model.finishDrain lease).2
          lease := none }
  | beginClose {mailbox : Shared width T capacity}
      {call : Standing width T}
      (ends : Ends driver.mailbox (start .beginClose) mailbox call) :
      Step driver .closeBegun
        { driver with mailbox, model := driver.model.beginClose }
  | claim {mailbox : Shared width T capacity} {call : Standing width T}
      (issuable : driver.model.nextTerminalLease ≠ none)
      (ends : Ends driver.mailbox (start .tryBeginTerminalDrain)
        mailbox call) :
      Step driver
        (.claimed (grantsTerminal call)
          driver.model.beginTerminalDrain.1.isOk)
        { driver with
          mailbox
          terminals := driver.terminals + (grantsTerminal call).toNat
          model := driver.model.beginTerminalDrain.2
          terminalLease :=
            driver.model.beginTerminalDrain.1.toOption.or
              driver.terminalLease }
  | popTerminal {mailbox : Shared width T capacity}
      {effect : ClosableMailbox.Effect T Empty}
      {lease : TerminalDrainLease}
      (live : 0 < driver.terminals)
      (held : driver.terminalLease = some lease)
      (popped : ClosableMailbox.step driver.mailbox .pop .terminal =
        some (mailbox, .terminal, effect)) :
      Step driver
        (.terminalPopped effect.popped? (driver.model.popTerminal lease).1)
        { driver with mailbox, model := (driver.model.popTerminal lease).2 }
  | endTerminal {middle mailbox : Shared width T capacity}
      {call after : Standing width T}
      {effect : ClosableMailbox.Effect T Empty}
      {lease : TerminalDrainLease}
      (choice : ClosableMailbox.Choice Empty)
      (ending : choice = .finish ∨ choice = .drop)
      (live : 0 < driver.terminals)
      (held : driver.terminalLease = some lease)
      (begun : ClosableMailbox.step driver.mailbox choice .terminal =
        some (middle, call, effect))
      (ends : Ends middle call mailbox after) :
      Step driver
        (.terminalEnded (endTerminal driver.model lease after).1)
        { driver with
          mailbox
          terminals := driver.terminals - 1
          model := (endTerminal driver.model lease after).2
          terminalLease := none }

/-- Every run of a driver over a new mailbox and a new model. -/
def system (width : PointerWidth) (T : Type*) (capacity : Nat) :
    System (Driver width T capacity) (Answers T) where
  initial := fun driver => driver = fresh
  step := Step

/-- No drain is asked for where a refused terminal attempt has closed the
normal gate: the gate is open, a drain is live, or terminal ownership has
started. -/
def AvoidsClosedGate (driver : Driver width T capacity) :
    Answers T → Prop
  | .acquired _ _ =>
      IngressGate.stateFromRaw driver.mailbox.normalDrainGate =
          some .opened ∨
        0 < driver.drains ∨
        driver.mailbox.terminalState ≠ ClosableMailbox.normal
  | _ => True

/-- The mailbox and the model show the same. -/
structure Corresponds (driver : Driver width T capacity) : Prop where
  /-- `state` answers the state of the model. -/
  state : ∀ last (after : Standing width T),
    Ends driver.mailbox (start .state) last after ↔
      last = driver.mailbox ∧
      after = .observed (mailboxState driver.model.state)
  contents : driver.mailbox.queue.items = driver.model.queue
  /-- Every live drain has its lease. -/
  drains : driver.drains = driver.lease.isSome.toNat
  terminals : driver.terminals = driver.terminalLease.isSome.toNat

/-- Where the cells stand in each state of the model. -/
def Phase (cells : Cells T capacity) (terminals : Nat) :
    WorkQueueState → Prop
  | .opened =>
      cells.producer.phase = .opened ∧ cells.normal.phase = .opened ∧
        cells.terminal = .normal ∧ cells.signal ≠ .closed ∧ terminals = 0
  | .closing =>
      cells.producer.phase ≠ .opened ∧ cells.normal.phase ≠ .sealed ∧
        cells.terminal = .normal ∧ cells.signal ≠ .closed ∧ terminals = 0
  | .terminalPending =>
      cells = cells.quiesced ∧ cells.terminal = .pending ∧ terminals = 0
  | .terminalDraining =>
      cells = cells.quiesced ∧ cells.terminal = .active ∧ terminals = 1
  | .closed =>
      cells = cells.quiesced ∧ cells.terminal = .closed ∧ terminals = 0

/-- What a driver keeps to on both sides, in terms of decoded cells. -/
structure Linked (driver : Driver width T capacity)
    (cells : Cells T capacity) : Prop where
  shown : driver.mailbox = cells.shared width
  producerIdle : cells.producer.live = 0
  admissions : cells.normal.live = driver.drains
  oneDrain : driver.drains ≤ 1
  draining : 0 < driver.drains →
    cells.signal = .draining ∨ cells.signal = .drainingWithPending
  resting : driver.drains = 0 →
    cells.signal = .closed ∨ cells.signal = .pending ∨
      (cells.signal = .idle ∧ cells.queue.items = [])
  contents : cells.queue.items = driver.model.queue
  bound : driver.model.capacity = capacity
  unreserved : driver.model.reservations = ∅
  lease : driver.model.activeDrain = driver.lease.map DrainLease.sequence
  drains : driver.drains = driver.lease.isSome.toNat
  terminalLease : driver.model.activeTerminalDrain =
    driver.terminalLease.map TerminalDrainLease.sequence
  terminals : driver.terminals = driver.terminalLease.isSome.toNat
  phase : Phase cells driver.terminals driver.model.state

section Steps

variable {driver next : Driver width T capacity} {cells : Cells T capacity}

theorem fresh_linked :
    Linked (fresh : Driver width T capacity) Cells.fresh where
  shown := Cells.fresh_shared.symm
  producerIdle := rfl
  admissions := rfl
  oneDrain := Nat.zero_le _
  draining := nofun
  resting := fun _ => Or.inr (Or.inr ⟨rfl, rfl⟩)
  contents := rfl
  bound := rfl
  unreserved := rfl
  lease := rfl
  drains := rfl
  terminalLease := rfl
  terminals := rfl
  phase := ⟨rfl, rfl, rfl, nofun, rfl⟩

theorem Linked.producerFits (linked : Linked driver cells) :
    cells.producer.live ≤ IngressGate.reservationLimit width := by
  rw [linked.producerIdle]
  exact Nat.zero_le _

theorem Linked.room (linked : Linked driver cells) :
    cells.normal.live < IngressGate.reservationLimit width := by
  have large : 1 < IngressGate.reservationLimit width :=
    IngressGate.reservationLimit_pos
  have one := linked.oneDrain
  rw [linked.admissions]
  omega

theorem Linked.normalFits (linked : Linked driver cells) :
    cells.normal.live ≤ IngressGate.reservationLimit width :=
  Nat.le_of_lt linked.room

theorem Linked.state (linked : Linked driver cells) :
    cells.state = mailboxState driver.model.state := by
  have phase := linked.phase
  cases held : driver.model.state <;> rw [held] at phase
  · simp [Cells.state, phase.2.2.1, phase.1, mailboxState]
  · obtain ⟨left, _, normal, _⟩ := phase
    cases producer : cells.producer.phase with
    | opened => exact absurd producer left
    | _ => simp [Cells.state, normal, mailboxState, producer]
  · simp [Cells.state, phase.2.1, mailboxState]
  · simp [Cells.state, phase.2.1, mailboxState]
  · simp [Cells.state, phase.2.1, mailboxState]

theorem Linked.corresponds (linked : Linked driver cells) :
    Corresponds driver where
  state := by
    intro last after
    rw [linked.shown, ClosableMailbox.ends_state linked.producerFits,
      linked.state]
  contents := by
    rw [linked.shown]
    exact linked.contents
  drains := linked.drains
  terminals := linked.terminals

/-- Only an open queue admits producers. -/
theorem Linked.open_iff (linked : Linked driver cells) :
    cells.producer.phase = .opened ↔ driver.model.state = .opened := by
  have phase := linked.phase
  cases held : driver.model.state <;> rw [held] at phase
  · simpa using phase.1
  · simpa using phase.1
  all_goals
    have quiet := phase.1
    rw [quiet]
    simp [Cells.quiesced]

/-- Normal drains are admitted until a terminal owner was, or was refused. -/
theorem Linked.admitting (linked : Linked driver cells)
    (admitted : cells.normal.phase = .opened) :
    driver.model.state = .opened ∨ driver.model.state = .closing := by
  have phase := linked.phase
  cases held : driver.model.state with
  | opened => exact Or.inl rfl
  | closing => exact Or.inr rfl
  | terminalPending | terminalDraining | closed =>
      rw [held] at phase
      rw [phase.1] at admitted
      cases admitted

theorem Linked.owned_iff (linked : Linked driver cells) :
    cells.terminal ≠ .normal ↔
      driver.model.state ≠ .opened ∧ driver.model.state ≠ .closing := by
  have phase := linked.phase
  cases held : driver.model.state <;> rw [held] at phase
  · simpa using phase.2.2.1
  · simpa using phase.2.2.1
  all_goals simp [phase.2.1]

theorem Linked.signal_open (linked : Linked driver cells)
    (unowned : cells.terminal = .normal) : cells.signal ≠ .closed := by
  have phase := linked.phase
  cases held : driver.model.state with
  | opened | closing =>
      rw [held] at phase
      exact phase.2.2.2.1
  | terminalPending | terminalDraining | closed =>
      have owned := linked.owned_iff.mpr (by rw [held]; exact ⟨nofun, nofun⟩)
      exact absurd unowned owned

/-- Where a drain can be asked for, in terms of decoded cells. -/
theorem Linked.avoids_iff (linked : Linked driver cells)
    {granted modelGrants : Bool} :
    AvoidsClosedGate driver (.acquired granted modelGrants) ↔
      cells.normal.phase = .opened ∨ 0 < driver.drains ∨
        cells.terminal ≠ .normal := by
  have decoded : IngressGate.stateFromRaw driver.mailbox.normalDrainGate =
      some cells.normal.phase := by
    rw [linked.shown]
    exact IngressGate.stateFromRaw_encode linked.normalFits
  have terminal : driver.mailbox.terminalState = ClosableMailbox.normal ↔
      cells.terminal = .normal := by
    have word : driver.mailbox.terminalState = cells.terminal.raw := by
      rw [linked.shown]
      rfl
    rw [word]
    cases cells.terminal <;> decide
  rw [AvoidsClosedGate, decoded, Option.some_inj, ne_eq, terminal]

theorem Linked.idle_lease (linked : Linked driver cells)
    (idle : driver.drains = 0) : driver.lease = none := by
  have drains := linked.drains
  cases held : driver.lease with
  | none => rfl
  | some lease =>
      rw [held, idle] at drains
      cases drains

theorem Linked.push (linked : Linked driver cells)
    (opened : cells.producer.phase = .opened)
    {queue : ArrayQueue T capacity} {value : T}
    (pushed : cells.queue.push value = some queue)
    (sequence : Option NonZeroU64) :
    Linked
      { driver with
        mailbox := Cells.shared width
          { cells with queue, signal := cells.signal.request.1 }
        model :=
          { driver.model with
            nextReservation := sequence
            queue := driver.model.queue ++ [value] } }
      { cells with queue, signal := cells.signal.request.1 } := by
  have held := linked.open_iff.mp opened
  have phase := linked.phase
  rw [held] at phase
  obtain ⟨_, admitted, normal, signal, terminals⟩ := phase
  refine { linked with
    shown := rfl
    draining := ?_
    resting := ?_
    contents := ?_
    phase := ?_ }
  · intro live
    cases linked.draining live with
    | inl draining => simp [draining, DrainState.request]
    | inr draining => simp [draining, DrainState.request]
  · intro idle
    rcases linked.resting idle with closed | pending | idle
    · exact absurd closed signal
    · simp [pending, DrainState.request]
    · simp [idle.1, DrainState.request]
  · rw [← linked.contents]
    exact ArrayQueue.push_items pushed
  · simp only [held]
    refine ⟨opened, admitted, normal, ?_, terminals⟩
    intro closed
    apply signal
    cases state : cells.signal with
    | closed => rfl
    | _ =>
        simp only [state, DrainState.request] at closed
        cases closed

theorem enqueue_linked (linked : Linked driver cells)
    {mailbox : Shared width T capacity} {call : Standing width T}
    (value : T) (issuable : driver.model.nextReservation ≠ none)
    (ends : Ends driver.mailbox (start (.enqueue value)) mailbox call) :
    accepts call = (driver.model.enqueue value).1 ∧
      ∃ after, Linked
        { driver with mailbox, model := (driver.model.enqueue value).2 }
        after := by
  have fits := linked.producerFits
  rw [linked.shown] at ends
  cases admission :
      (cells.producer.reserve (IngressGate.reservationLimit width)).2 with
  | error error =>
      have left : driver.model.state ≠ .opened := by
        intro held
        have room : cells.producer.live < IngressGate.reservationLimit width := by
          rw [linked.producerIdle]
          exact Nat.lt_of_succ_lt IngressGate.reservationLimit_pos
        rw [GateLedger.reserve_opened (linked.open_iff.mpr held) room]
          at admission
        cases admission
      obtain ⟨rfl, rfl⟩ :=
        (ClosableMailbox.ends_enqueue_refused fits admission).mp ends
      rw [WorkQueueModel.enqueue_notOpen left]
      exact ⟨rfl, cells, { linked with shown := rfl }⟩
  | ok _ =>
      have opened := (GateLedger.reserve_ok admission).1
      have held := linked.open_iff.mp opened
      obtain ⟨sequence, issued⟩ := Option.ne_none_iff_exists'.mp issuable
      have answered :=
        WorkQueueModel.enqueue_opened held issued linked.unreserved value
      have full_iff : driver.model.queue.length = driver.model.capacity ↔
          cells.queue.push value = none := by
        rw [ArrayQueue.push_eq_none_iff, linked.contents, linked.bound]
      cases pushed : cells.queue.push value with
      | none =>
          obtain ⟨rfl, rfl⟩ :=
            (ClosableMailbox.ends_enqueue_full fits admission pushed).mp ends
          rw [if_pos (full_iff.mpr pushed)] at answered
          rw [answered]
          exact ⟨rfl, cells, { linked with shown := rfl }⟩
      | some queue =>
          have room : ¬driver.model.queue.length = driver.model.capacity := by
            rw [full_iff, pushed]
            exact nofun
          have signal : cells.signal ≠ .closed := by
            have phase := linked.phase
            rw [held] at phase
            exact phase.2.2.2.1
          obtain ⟨outcome, accepted⟩ :
              ∃ outcome, mailboxEnqueue cells.signal.request.2 =
                some outcome := by
            cases state : cells.signal with
            | closed => exact absurd state signal
            | idle => exact ⟨_, rfl⟩
            | _ => exact ⟨.coalesced, rfl⟩
          obtain ⟨rfl, rfl⟩ := (ClosableMailbox.ends_enqueue_pushed fits
            admission pushed accepted).mp ends
          rw [if_neg room] at answered
          rw [answered]
          exact ⟨rfl, _, linked.push opened pushed _⟩

theorem beginClose_linked (linked : Linked driver cells)
    {mailbox : Shared width T capacity} {call : Standing width T}
    (ends : Ends driver.mailbox (start .beginClose) mailbox call) :
    ∃ after, Linked
      { driver with mailbox, model := driver.model.beginClose } after := by
  rw [linked.shown] at ends
  obtain ⟨rfl, rfl⟩ :=
    (ClosableMailbox.ends_beginClose linked.producerFits).mp ends
  by_cases held : driver.model.state = .opened
  · have phase := linked.phase
    rw [held] at phase
    have closed : driver.model.beginClose =
        { driver.model with state := .closing } := if_pos held
    rw [closed]
    refine ⟨_, { linked with
      shown := rfl
      producerIdle := ?_
      phase := ?_ }⟩
    · rw [← linked.producerIdle]
      exact GateLedger.beginClose_live _
    · refine ⟨GateLedger.beginClose_left _, ?_, phase.2.2⟩
      simp only [phase.2.1]
      exact nofun
  · have still : driver.model.beginClose = driver.model := if_neg held
    have left := mt linked.open_iff.mp held
    have unmoved : cells.producer.beginClose.1 = cells.producer := by
      obtain ⟨queue, signal, ⟨phase, live⟩, normal, terminal⟩ := cells
      cases phase with
      | opened => exact absurd rfl left
      | _ => rfl
    rw [still]
    refine ⟨cells, { linked with shown := ?_ }⟩
    simp only [unmoved]

theorem Linked.active (linked : Linked driver cells)
    (live : 0 < driver.drains) : driver.model.activeDrain ≠ none := by
  have drains := linked.drains
  cases held : driver.lease with
  | none =>
      rw [held] at drains
      exact absurd drains (Nat.ne_of_gt live)
  | some own =>
      rw [linked.lease, held]
      exact nofun

/-- What both sides are like once a drain was granted. -/
theorem Linked.grant (linked : Linked driver cells)
    (admitted : cells.normal.phase = .opened) (idle : driver.drains = 0)
    (sequence : NonZeroU64) (following : Option NonZeroU64) :
    Linked
      { driver with
        mailbox := Cells.shared width
          { cells with
            signal := .draining
            normal := { cells.normal with live := cells.normal.live + 1 } }
        drains := driver.drains + 1
        model :=
          { driver.model with
            nextLease := following
            activeDrain := some sequence }
        lease := some ⟨sequence⟩ }
      { cells with
        signal := .draining
        normal := { cells.normal with live := cells.normal.live + 1 } } := by
  refine { linked with
    shown := rfl
    admissions := ?_
    oneDrain := ?_
    draining := fun _ => Or.inl rfl
    resting := nofun
    lease := rfl
    drains := ?_
    phase := ?_ }
  · exact congrArg (· + 1) linked.admissions
  · rw [idle]
  · rw [idle]
    rfl
  · have phase := linked.phase
    cases linked.admitting admitted with
    | inl held =>
        simp only [held] at phase ⊢
        exact ⟨phase.1, phase.2.1, phase.2.2.1, nofun, phase.2.2.2.2⟩
    | inr held =>
        simp only [held] at phase ⊢
        exact ⟨phase.1, phase.2.1, phase.2.2.1, nofun, phase.2.2.2.2⟩

/-- Over a waiting payload and no live drain the model grants one as long as
nobody owns the terminal drain. -/
theorem Linked.model_grants (linked : Linked driver cells)
    (idle : driver.drains = 0)
    (opened : driver.model.state = .opened ∨ driver.model.state = .closing)
    (waiting : cells.queue.items ≠ [])
    (issuable : driver.model.nextLease ≠ none) :
    ∃ sequence, driver.model.beginDrain =
      (.ok ⟨sequence⟩,
        { driver.model with
          nextLease := sequence.checkedSucc
          activeDrain := some sequence }) := by
  have unleased := linked.lease
  rw [linked.idle_lease idle] at unleased
  have nonempty : driver.model.queue ≠ [] := by
    rw [← linked.contents]
    exact waiting
  obtain ⟨sequence, issued⟩ := Option.ne_none_iff_exists'.mp issuable
  exact ⟨sequence,
    WorkQueueModel.beginDrain_granted opened unleased nonempty issued⟩

theorem acquire_linked (linked : Linked driver cells)
    {mailbox : Shared width T capacity} {call : Standing width T}
    (avoids : cells.normal.phase = .opened ∨ 0 < driver.drains ∨
      cells.terminal ≠ .normal)
    (waiting : driver.mailbox.queue.items ≠ [])
    (issuable : driver.model.nextLease ≠ none)
    (ends : Ends driver.mailbox (start .acquire) mailbox call) :
    grantsDrain call = driver.model.beginDrain.1.isOk ∧
      ∃ after, Linked
        { driver with
          mailbox
          drains := driver.drains + (grantsDrain call).toNat
          model := driver.model.beginDrain.2
          lease := driver.model.beginDrain.1.toOption.or driver.lease }
        after := by
  have fits := linked.normalFits
  rw [linked.shown] at ends waiting
  -- Neither side grants anything.
  have refused (model : ∃ error, driver.model.beginDrain =
        (.error error, driver.model))
      (stands : mailbox = cells.shared width)
      (declined : grantsDrain call = false) :
      grantsDrain call = driver.model.beginDrain.1.isOk ∧
        ∃ after, Linked
          { driver with
            mailbox
            drains := driver.drains + (grantsDrain call).toNat
            model := driver.model.beginDrain.2
            lease := driver.model.beginDrain.1.toOption.or driver.lease }
          after := by
    obtain ⟨error, answered⟩ := model
    rw [answered, declined, stands]
    exact ⟨rfl, cells, { linked with shown := rfl }⟩
  by_cases admitted : cells.normal.phase = .opened
  · have admission := GateLedger.reserve_opened admitted linked.room
    by_cases idle : driver.drains = 0
    · have signal : cells.signal = .pending := by
        have unowned : cells.terminal = .normal := by
          by_contra owned
          have held := linked.owned_iff.mp owned
          exact (linked.admitting admitted).elim held.1 held.2
        rcases linked.resting idle with closed | pending | empty
        · exact absurd closed (linked.signal_open unowned)
        · exact pending
        · exact absurd empty.2 waiting
      obtain ⟨sequence, granted⟩ := linked.model_grants idle
        (linked.admitting admitted) waiting issuable
      obtain ⟨rfl, rfl⟩ := (ClosableMailbox.ends_acquire_granted fits
        admission signal).mp ends
      rw [granted]
      exact ⟨rfl, _, linked.grant admitted idle sequence _⟩
    · have live := Nat.pos_of_ne_zero idle
      obtain ⟨stands, declined⟩ := (ClosableMailbox.ends_acquire_busy fits
        admission (linked.draining live)).mp ends
      apply refused _ stands (by rw [declined]; rfl)
      exact WorkQueueModel.beginDrain_refused (Or.inl (linked.active live))
  · obtain ⟨stands, declined⟩ := (ClosableMailbox.ends_acquire_refused
      linked.producerFits fits (GateLedger.reserve_left admitted)).mp ends
    apply refused _ stands (by rw [declined]; rfl)
    apply WorkQueueModel.beginDrain_refused
    cases avoids.resolve_left admitted with
    | inl live => exact Or.inl (linked.active live)
    | inr owned => exact Or.inr (linked.owned_iff.mp owned)

/-- Behind a normal gate that a refused terminal attempt has closed, the
mailbox refuses what the model grants. -/
theorem acquire_disagrees (linked : Linked driver cells)
    {mailbox : Shared width T capacity} {call : Standing width T}
    (meets : ¬(cells.normal.phase = .opened ∨ 0 < driver.drains ∨
      cells.terminal ≠ .normal))
    (waiting : driver.mailbox.queue.items ≠ [])
    (issuable : driver.model.nextLease ≠ none)
    (ends : Ends driver.mailbox (start .acquire) mailbox call) :
    grantsDrain call ≠ driver.model.beginDrain.1.isOk := by
  rw [linked.shown] at ends waiting
  obtain ⟨left, dead, unowned⟩ := by
    simpa only [not_or] using meets
  have opened : driver.model.state = .opened ∨
      driver.model.state = .closing := by
    by_contra owned
    exact unowned (linked.owned_iff.mpr (not_or.mp owned))
  obtain ⟨sequence, granted⟩ := linked.model_grants
    (Nat.eq_zero_of_not_pos dead) opened waiting issuable
  obtain ⟨_, declined⟩ := (ClosableMailbox.ends_acquire_refused
    linked.producerFits linked.normalFits
    (GateLedger.reserve_left left)).mp ends
  rw [granted, declined]
  exact nofun

/-- Taking the front payload on both sides. -/
theorem Linked.tail (linked : Linked driver cells)
    {queue : ArrayQueue T capacity}
    (rest : queue.items = cells.queue.items.tail) :
    Linked
      { driver with
        mailbox := Cells.shared width { cells with queue }
        model := { driver.model with queue := driver.model.queue.tail } }
      { cells with queue } := by
  refine { linked with
    shown := rfl
    resting := ?_
    contents := ?_
    phase := ?_ }
  · intro idle
    rcases linked.resting idle with closed | pending | empty
    · exact Or.inl closed
    · exact Or.inr (Or.inl pending)
    · refine Or.inr (Or.inr ⟨empty.1, ?_⟩)
      rw [rest, empty.2]
      rfl
  · rw [← linked.contents]
    exact rest
  · have phase := linked.phase
    have quiet (same : cells = cells.quiesced) :
        { cells with queue } = Cells.quiesced { cells with queue } := by
      rw [same]
      rfl
    cases held : driver.model.state <;> simp only [held] at phase ⊢
    · exact phase
    · exact phase
    · exact ⟨quiet phase.1, phase.2⟩
    · exact ⟨quiet phase.1, phase.2⟩
    · exact ⟨quiet phase.1, phase.2⟩

/-- A pop of either owner takes the front payload. -/
theorem pop_front {mailbox : Shared width T capacity}
    {owner : Standing width T} {effect : ClosableMailbox.Effect T Empty}
    (owns : owner = .draining ∨ owner = .terminal)
    (popped : ClosableMailbox.step (cells.shared width) .pop owner =
      some (mailbox, owner, effect)) :
    effect.popped? = cells.queue.items.head? ∧
      ∃ queue : ArrayQueue T capacity,
        mailbox = Cells.shared width { cells with queue } ∧
        queue.items = cells.queue.items.tail := by
  have queueSame : (cells.shared width).queue = cells.queue := rfl
  cases front : cells.queue.pop with
  | none =>
      have empty := ArrayQueue.pop_eq_none_iff.mp front
      have shape : some (cells.shared width, owner, .quiet) =
          some (mailbox, owner, effect) := by
        rw [← popped]
        cases owns with
        | inl draining => simp only [draining, ClosableMailbox.step, queueSame, front]
        | inr terminal => simp only [terminal, ClosableMailbox.step, queueSame, front]
      cases shape
      rw [empty]
      exact ⟨rfl, cells.queue, rfl, empty⟩
  | some entry =>
      obtain ⟨value, queue⟩ := entry
      have items := ArrayQueue.pop_items front
      have shape : some (Cells.shared width { cells with queue }, owner,
          ClosableMailbox.Effect.acted (.work (.popped value))) =
          some (mailbox, owner, effect) := by
        rw [← popped]
        cases owns with
        | inl draining =>
            simp only [draining, ClosableMailbox.step, queueSame, front]
            rfl
        | inr terminal =>
            simp only [terminal, ClosableMailbox.step, queueSame, front]
            rfl
      cases shape
      rw [items]
      exact ⟨rfl, queue, rfl, rfl⟩

theorem pop_linked (linked : Linked driver cells)
    {mailbox : Shared width T capacity}
    {effect : ClosableMailbox.Effect T Empty} {lease : DrainLease}
    (held : driver.lease = some lease)
    (popped : ClosableMailbox.step driver.mailbox .pop .draining =
      some (mailbox, .draining, effect)) :
    (driver.model.pop lease).1 = .ok effect.popped? ∧
      ∃ after, Linked
        { driver with mailbox, model := (driver.model.pop lease).2 }
        after := by
  have active : driver.model.activeDrain = some lease.sequence := by
    rw [linked.lease, held]
    rfl
  rw [linked.shown] at popped
  obtain ⟨front, queue, rfl, rest⟩ := pop_front (Or.inl rfl) popped
  rw [WorkQueueModel.pop_held active, front, linked.contents]
  exact ⟨rfl, _, linked.tail rest⟩

theorem endDrain_linked (linked : Linked driver cells)
    {middle mailbox : Shared width T capacity}
    {call after : Standing width T}
    {effect : ClosableMailbox.Effect T Empty} {lease : DrainLease}
    {choice : ClosableMailbox.Choice Empty}
    (ending : choice = .finish ∨ choice = .drop)
    (live : 0 < driver.drains) (held : driver.lease = some lease)
    (begun : ClosableMailbox.step driver.mailbox choice .draining =
      some (middle, call, effect))
    (ends : Ends middle call mailbox after) :
    (driver.model.finishDrain lease).1 = .ok () ∧
      ∃ cells, Linked
        { driver with
          mailbox
          drains := driver.drains - 1
          model := (driver.model.finishDrain lease).2
          lease := none }
        cells := by
  have active : driver.model.activeDrain = some lease.sequence := by
    rw [linked.lease, held]
    rfl
  have draining := linked.draining live
  have admitted : 0 < cells.normal.live := by
    rw [linked.admissions]
    exact live
  have one : driver.drains - 1 = 0 := by
    have := linked.oneDrain
    omega
  rw [linked.shown] at begun
  obtain ⟨kind, plain, checked⟩ : ∃ kind, kind ≠ .finishWith ∧
      Ends (cells.shared width) (.checking kind) mailbox after := by
    cases ending with
    | inl finish =>
        subst finish
        cases begun
        exact ⟨.finish, (by intro same; cases same), ends⟩
    | inr drop =>
        subst drop
        cases begun
        exact ⟨.dropped, (by intro same; cases same), ends⟩
  obtain ⟨rfl, rfl⟩ := (ClosableMailbox.ends_checking plain draining
    admitted linked.normalFits).mp checked
  -- A payload left behind turns the drain into a pending one.
  have settled : (cells.settledSignal.1 = .idle ∧ cells.queue.items = []) ∨
      cells.settledSignal.1 = .pending := by
    by_cases empty : cells.queue.items = []
    · rw [Cells.settledSignal, if_pos empty]
      cases draining with
      | inl state => exact Or.inl ⟨by rw [state]; rfl, empty⟩
      | inr state => exact Or.inr (by rw [state]; rfl)
    · rw [Cells.settledSignal, if_neg empty]
      cases draining with
      | inl state => exact Or.inr (by rw [state]; rfl)
      | inr state => exact Or.inr (by rw [state]; rfl)
  rw [WorkQueueModel.finishDrain_held active]
  refine ⟨rfl, _, { linked with
    shown := rfl
    admissions := ?_
    oneDrain := ?_
    draining := ?_
    resting := ?_
    lease := rfl
    drains := one
    phase := ?_ }⟩
  · exact congrArg (· - 1) linked.admissions
  · rw [one]
    exact Nat.zero_le 1
  · intro more
    rw [one] at more
    exact absurd more (Nat.lt_irrefl 0)
  · intro _
    cases settled with
    | inl idle => exact Or.inr (Or.inr idle)
    | inr pending => exact Or.inr (Or.inl pending)
  · have phase := linked.phase
    have signal : cells.settledSignal.1 ≠ .closed := by
      intro closed
      rw [closed] at settled
      cases settled with
      | inl idle => cases idle.1
      | inr pending => cases pending
    have busy (same : cells = cells.quiesced) : False := by
      rw [same] at admitted
      exact absurd admitted (Nat.lt_irrefl 0)
    cases state : driver.model.state <;> simp only [state] at phase ⊢
    · exact ⟨phase.1, phase.2.1, phase.2.2.1, signal, phase.2.2.2.2⟩
    · exact ⟨phase.1, phase.2.1, phase.2.2.1, signal, phase.2.2.2.2⟩
    · exact (busy phase.1).elim
    · exact (busy phase.1).elim
    · exact (busy phase.1).elim

theorem claim_linked (linked : Linked driver cells)
    {mailbox : Shared width T capacity} {call : Standing width T}
    (issuable : driver.model.nextTerminalLease ≠ none)
    (ends : Ends driver.mailbox (start .tryBeginTerminalDrain)
      mailbox call) :
    grantsTerminal call = driver.model.beginTerminalDrain.1.isOk ∧
      ∃ after, Linked
        { driver with
          mailbox
          terminals := driver.terminals + (grantsTerminal call).toNat
          model := driver.model.beginTerminalDrain.2
          terminalLease :=
            driver.model.beginTerminalDrain.1.toOption.or
              driver.terminalLease }
        after := by
  rw [linked.shown] at ends
  have phase := linked.phase
  by_cases opened : cells.producer.phase = .opened
  · have held := linked.open_iff.mp opened
    obtain ⟨rfl, rfl⟩ := (ClosableMailbox.ends_claim_open opened
      linked.producerFits).mp ends
    have unclaimable : driver.model.state ≠ .closing ∧
        driver.model.state ≠ .terminalPending := by
      rw [held]
      exact ⟨nofun, nofun⟩
    obtain ⟨reason, refused⟩ :=
      WorkQueueModel.beginTerminalDrain_refused (Or.inr unclaimable)
    rw [refused]
    exact ⟨rfl, cells, { linked with shown := rfl }⟩
  by_cases idle : driver.drains = 0
  · have quiet : cells.normal.live = 0 := linked.admissions.trans idle
    have unleased := linked.lease
    rw [linked.idle_lease idle] at unleased
    -- The owner that is granted finds nobody else at work.
    have granted (free : cells.terminal = .normal ∨ cells.terminal = .pending)
        (claimable : driver.model.state = .closing ∨
          driver.model.state = .terminalPending)
        (none : driver.terminals = 0) :
        grantsTerminal call = driver.model.beginTerminalDrain.1.isOk ∧
          ∃ after, Linked
            { driver with
              mailbox
              terminals := driver.terminals + (grantsTerminal call).toNat
              model := driver.model.beginTerminalDrain.2
              terminalLease :=
                driver.model.beginTerminalDrain.1.toOption.or
                  driver.terminalLease }
            after := by
      obtain ⟨sequence, issued⟩ := Option.ne_none_iff_exists'.mp issuable
      obtain ⟨rfl, rfl⟩ := (ClosableMailbox.ends_claim_free opened
        linked.producerIdle quiet free).mp ends
      rw [WorkQueueModel.beginTerminalDrain_granted claimable
        linked.unreserved unleased issued, none]
      refine ⟨rfl, _, { linked with
        shown := rfl
        producerIdle := rfl
        admissions := idle.symm
        draining := ?_
        resting := fun _ => Or.inl rfl
        terminalLease := rfl
        terminals := rfl
        phase := ⟨rfl, rfl, rfl⟩ }⟩
      intro live
      exact absurd idle (Nat.ne_of_gt live)
    have refused {error : TerminalAcquireError}
        (taken : (cells.terminal = .active ∧ error = .terminalDrainActive) ∨
          (cells.terminal = .closed ∧ error = .closed))
        (still : cells = cells.quiesced)
        (unclaimable : driver.model.state ≠ .closing ∧
          driver.model.state ≠ .terminalPending) :
        grantsTerminal call = driver.model.beginTerminalDrain.1.isOk ∧
          ∃ after, Linked
            { driver with
              mailbox
              terminals := driver.terminals + (grantsTerminal call).toNat
              model := driver.model.beginTerminalDrain.2
              terminalLease :=
                driver.model.beginTerminalDrain.1.toOption.or
                  driver.terminalLease }
            after := by
      obtain ⟨rfl, rfl⟩ := (ClosableMailbox.ends_claim_taken opened
        linked.producerIdle quiet taken).mp ends
      obtain ⟨reason, refused⟩ :=
        WorkQueueModel.beginTerminalDrain_refused (Or.inr unclaimable)
      rw [refused, ← still]
      exact ⟨rfl, cells, { linked with shown := rfl }⟩
    cases held : driver.model.state with
    | opened => exact absurd (linked.open_iff.mpr held) opened
    | closing =>
        rw [held] at phase
        exact granted (Or.inl phase.2.2.1) (Or.inl held) phase.2.2.2.2
    | terminalPending =>
        rw [held] at phase
        exact granted (Or.inr phase.2.1) (Or.inr held) phase.2.2
    | terminalDraining =>
        rw [held] at phase
        exact refused (Or.inl ⟨phase.2.1, rfl⟩) phase.1
          (by rw [held]; exact ⟨nofun, nofun⟩)
    | closed =>
        rw [held] at phase
        exact refused (Or.inr ⟨phase.2.1, rfl⟩) phase.1
          (by rw [held]; exact ⟨nofun, nofun⟩)
  · -- A live drain: both refuse, and the mailbox has closed its normal gate.
    have live := Nat.pos_of_ne_zero idle
    have admitted : 0 < cells.normal.live := by
      rw [linked.admissions]
      exact live
    have busy (same : cells = cells.quiesced) : False := by
      rw [same] at admitted
      exact absurd admitted (Nat.lt_irrefl 0)
    cases held : driver.model.state with
    | opened => exact absurd (linked.open_iff.mpr held) opened
    | terminalPending | terminalDraining | closed =>
        rw [held] at phase
        exact (busy phase.1).elim
    | closing =>
        rw [held] at phase
        obtain ⟨rfl, rfl⟩ := (ClosableMailbox.ends_claim_drain opened
          linked.producerIdle admitted phase.2.1 linked.normalFits).mp ends
        obtain ⟨reason, refused⟩ :=
          WorkQueueModel.beginTerminalDrain_refused
            (Or.inl ⟨held, linked.active live⟩)
        rw [refused]
        refine ⟨rfl, _, { linked with shown := rfl, phase := ?_ }⟩
        simp only [held]
        exact ⟨nofun, nofun, phase.2.2⟩

/-- A terminal owner has the mailbox to itself. -/
theorem Linked.owned (linked : Linked driver cells)
    (live : 0 < driver.terminals) :
    cells = cells.quiesced ∧ cells.terminal = .active ∧
      driver.terminals = 1 := by
  have phase := linked.phase
  cases held : driver.model.state with
  | terminalDraining =>
      rw [held] at phase
      exact phase
  | opened | closing =>
      rw [held] at phase
      exact absurd phase.2.2.2.2 (Nat.ne_of_gt live)
  | terminalPending | closed =>
      rw [held] at phase
      exact absurd phase.2.2 (Nat.ne_of_gt live)

theorem popTerminal_linked (linked : Linked driver cells)
    {mailbox : Shared width T capacity}
    {effect : ClosableMailbox.Effect T Empty}
    {lease : TerminalDrainLease}
    (held : driver.terminalLease = some lease)
    (popped : ClosableMailbox.step driver.mailbox .pop .terminal =
      some (mailbox, .terminal, effect)) :
    (driver.model.popTerminal lease).1 = .ok effect.popped? ∧
      ∃ after, Linked
        { driver with mailbox, model := (driver.model.popTerminal lease).2 }
        after := by
  have active : driver.model.activeTerminalDrain = some lease.sequence := by
    rw [linked.terminalLease, held]
    rfl
  rw [linked.shown] at popped
  obtain ⟨front, queue, rfl, rest⟩ := pop_front (Or.inr rfl) popped
  rw [WorkQueueModel.popTerminal_held active, front, linked.contents]
  exact ⟨rfl, _, linked.tail rest⟩

theorem endTerminal_linked (linked : Linked driver cells)
    {middle mailbox : Shared width T capacity}
    {call after : Standing width T}
    {effect : ClosableMailbox.Effect T Empty}
    {lease : TerminalDrainLease} {choice : ClosableMailbox.Choice Empty}
    (ending : choice = .finish ∨ choice = .drop)
    (live : 0 < driver.terminals)
    (held : driver.terminalLease = some lease)
    (begun : ClosableMailbox.step driver.mailbox choice .terminal =
      some (middle, call, effect))
    (ends : Ends middle call mailbox after) :
    (endTerminal driver.model lease after).1 = .ok () ∧
      ∃ cells, Linked
        { driver with
          mailbox
          terminals := driver.terminals - 1
          model := (endTerminal driver.model lease after).2
          terminalLease := none }
        cells := by
  have active : driver.model.activeTerminalDrain = some lease.sequence := by
    rw [linked.terminalLease, held]
    rfl
  obtain ⟨quiet, owned, one⟩ := linked.owned live
  rw [linked.shown] at begun
  -- A terminal drain that did not finish is the next claimant's.
  have released (result : TerminalResult) (unfinished : result ≠ .finished)
      (stands : mailbox = Cells.shared width { cells with terminal := .pending })
      (answered : after = .terminalEnded result) :
      (endTerminal driver.model lease after).1 = .ok () ∧
        ∃ cells, Linked
          { driver with
            mailbox
            terminals := driver.terminals - 1
            model := (endTerminal driver.model lease after).2
            terminalLease := none }
          cells := by
    have model : endTerminal driver.model lease after =
        driver.model.releaseTerminalDrain lease := by
      rw [answered]
      cases result with
      | finished => exact absurd rfl unfinished
      | _ => rfl
    rw [model, WorkQueueModel.releaseTerminalDrain_held active, stands, one]
    refine ⟨rfl, _, { linked with
      shown := rfl
      terminalLease := rfl
      terminals := rfl
      phase := ⟨?_, rfl, rfl⟩ }⟩
    rw [quiet]
    rfl
  cases ending with
  | inr drop =>
      subst drop
      cases begun
      obtain ⟨stands, answered⟩ :=
        (ClosableMailbox.ends_releasingTerminal owned).mp ends
      exact released .dropped nofun stands answered
  | inl finish =>
      subst finish
      cases begun
      by_cases empty : cells.queue.items = []
      · obtain ⟨rfl, rfl⟩ :=
          (ClosableMailbox.ends_counting_empty owned empty).mp ends
        have drained : driver.model.queue = [] := by
          rw [← linked.contents]
          exact empty
        have model : endTerminal driver.model lease
            (.terminalEnded .finished : Standing width T) =
            driver.model.finishTerminalDrain lease := rfl
        rw [model, WorkQueueModel.finishTerminalDrain_held active drained,
          one]
        refine ⟨rfl, _, { linked with
          shown := rfl
          terminalLease := rfl
          terminals := rfl
          phase := ⟨?_, rfl, rfl⟩ }⟩
        rw [quiet]
        rfl
      · obtain ⟨stands, answered⟩ :=
          (ClosableMailbox.ends_counting_remaining owned empty).mp ends
        exact released (.failed _) nofun stands answered

/-- One call answers alike on both sides and leaves them linked. -/
theorem step_linked {label : Answers T} (linked : Linked driver cells)
    (avoids : AvoidsClosedGate driver label) (step : Step driver label next) :
    label.Agree ∧ ∃ after, Linked next after := by
  cases step with
  | enqueue value issuable ends =>
      exact enqueue_linked linked value issuable ends
  | acquire waiting issuable ends =>
      exact acquire_linked linked (linked.avoids_iff.mp avoids) waiting
        issuable ends
  | pop live held popped => exact pop_linked linked held popped
  | endDrain choice ending live held begun ends =>
      exact endDrain_linked linked ending live held begun ends
  | beginClose ends => exact ⟨trivial, beginClose_linked linked ends⟩
  | claim issuable ends => exact claim_linked linked issuable ends
  | popTerminal live held popped => exact popTerminal_linked linked held popped
  | endTerminal choice ending live held begun ends =>
      exact endTerminal_linked linked ending live held begun ends

theorem step_avoids {label : Answers T} (linked : Linked driver cells)
    (agrees : label.Agree) (step : Step driver label next) :
    AvoidsClosedGate driver label := by
  cases step with
  | acquire waiting issuable ends =>
      rw [linked.avoids_iff]
      by_contra meets
      exact acquire_disagrees linked meets waiting issuable ends agrees
  | _ => trivial

end Steps

section Runs

variable {width : PointerWidth} {T : Type*} {capacity : Nat}
  {trace : List (Answers T)} {driver : Driver width T capacity}

theorem run_linked
    (run : ((system width T capacity).restrict AvoidsClosedGate).Run
      trace driver) :
    (∀ label ∈ trace, label.Agree) ∧ ∃ cells, Linked driver cells := by
  apply run.invariant
    (fun trace driver => (∀ label ∈ trace, label.Agree) ∧
      ∃ cells, Linked driver cells)
  · intro start isFresh
    obtain rfl := isFresh
    exact ⟨nofun, _, fresh_linked⟩
  · intro trace driver label next _ kept taken
    obtain ⟨agreed, cells, linked⟩ := kept
    obtain ⟨agrees, after⟩ := step_linked linked taken.1 taken.2
    refine ⟨?_, after⟩
    intro tested member
    cases List.mem_append.mp member with
    | inl before => exact agreed tested before
    | inr last =>
        rw [List.mem_singleton.mp last]
        exact agrees

/-- A run whose answers agree never asked for a drain behind a closed gate. -/
theorem run_avoids (run : (system width T capacity).Run trace driver)
    (agreed : ∀ label ∈ trace, label.Agree) :
    ((system width T capacity).restrict AvoidsClosedGate).Run trace driver := by
  revert agreed
  apply run.invariant
    (fun trace driver => (∀ label ∈ trace, label.Agree) →
      ((system width T capacity).restrict AvoidsClosedGate).Run trace driver)
  · intro start isFresh _
    exact System.Run.nil isFresh
  · intro trace driver label next _ kept taken agreed
    have before := kept fun tested member =>
      agreed tested (List.mem_append_left _ member)
    obtain ⟨_, cells, linked⟩ := run_linked before
    have agrees := agreed label (by simp)
    exact before.snoc ⟨step_avoids linked agrees taken, taken⟩

/-- The mailbox answers and shows what its reference does exactly in the runs
that ask for no drain behind a closed normal gate. -/
theorem run_refines_iff
    (run : (system width T capacity).Run trace driver) :
    ((∀ label ∈ trace, label.Agree) ∧ driver.Corresponds) ↔
      ((system width T capacity).restrict AvoidsClosedGate).Run
        trace driver := by
  constructor
  · intro refines
    exact run_avoids run refines.1
  · intro avoiding
    obtain ⟨agreed, cells, linked⟩ := run_linked avoiding
    exact ⟨agreed, linked.corresponds⟩

private theorem pushed_alone :
    Ends (Cells.shared .sixtyFour Cells.fresh) (start (.enqueue 7))
      (Cells.shared .sixtyFour
        (⟨⟨[7], by decide⟩, .pending, .fresh, .fresh, .normal⟩ : Cells Nat 1))
      (.enqueued (some (.ok .scheduled)) : Standing .sixtyFour Nat) := by
  have room : 0 < IngressGate.reservationLimit .sixtyFour :=
    Nat.lt_of_succ_lt IngressGate.reservationLimit_pos
  apply (ClosableMailbox.ends_enqueue_pushed (Nat.zero_le _)
    (GateLedger.reserve_opened rfl room) rfl rfl).mpr
  exact ⟨rfl, rfl⟩

/-- A terminal attempt over a live drain is refused, and the drain goes on. -/
theorem popAfterRefusedClaim_refines :
    ∃ driver : Driver .sixtyFour Nat 1,
      (system .sixtyFour Nat 1).Run
        [.enqueued true true, .acquired true true, .closeBegun,
          .claimed false false, .popped (some 7) (.ok (some 7))] driver ∧
      (∀ label ∈ ([.enqueued true true, .acquired true true, .closeBegun,
          .claimed false false, .popped (some 7) (.ok (some 7))] :
          List (Answers Nat)), label.Agree) ∧
      driver.Corresponds := by
  have large : 1 < IngressGate.reservationLimit .sixtyFour :=
    IngressGate.reservationLimit_pos
  have none : 0 ≤ IngressGate.reservationLimit .sixtyFour := Nat.zero_le _
  have room : 0 < IngressGate.reservationLimit .sixtyFour := by omega
  have one : 1 ≤ IngressGate.reservationLimit .sixtyFour := by omega
  have started :
      ((system .sixtyFour Nat 1).restrict AvoidsClosedGate).Run [] fresh :=
    System.Run.nil rfl
  have enqueued := started.snoc
    ⟨by exact trivial, .enqueue 7 (by exact nofun) pushed_alone⟩
  have acquired := enqueued.snoc ⟨by exact Or.inl rfl,
    .acquire (by exact nofun) (by exact nofun)
      ((ClosableMailbox.ends_acquire_granted none
        (GateLedger.reserve_opened rfl room) rfl).mpr ⟨rfl, rfl⟩)⟩
  have closing := acquired.snoc ⟨by exact trivial,
    .beginClose ((ClosableMailbox.ends_beginClose none).mpr ⟨rfl, rfl⟩)⟩
  have refused := closing.snoc ⟨by exact trivial,
    .claim (by exact nofun)
      ((ClosableMailbox.ends_claim_drain (by exact nofun) rfl Nat.one_pos
        (by exact nofun) one).mpr ⟨rfl, rfl⟩)⟩
  have popped := refused.snoc ⟨by exact trivial, .pop Nat.one_pos rfl rfl⟩
  exact ⟨_, popped.unrestricted,
    (run_refines_iff popped.unrestricted).mpr popped⟩

/-- A terminal attempt over a live drain is refused, the drain ends over its
payload, and the mailbox refuses the next drain. -/
theorem drainAfterRefusedClaim_disagrees :
    ∃ driver : Driver .sixtyFour Nat 1,
      (system .sixtyFour Nat 1).Run
        [.enqueued true true, .acquired true true, .closeBegun,
          .claimed false false, .drainEnded (.ok ()), .acquired false true]
        driver ∧
      ¬(∀ label ∈ ([.enqueued true true, .acquired true true, .closeBegun,
          .claimed false false, .drainEnded (.ok ()),
          .acquired false true] : List (Answers Nat)), label.Agree) := by
  have large : 1 < IngressGate.reservationLimit .sixtyFour :=
    IngressGate.reservationLimit_pos
  have none : 0 ≤ IngressGate.reservationLimit .sixtyFour := Nat.zero_le _
  have room : 0 < IngressGate.reservationLimit .sixtyFour := by omega
  have one : 1 ≤ IngressGate.reservationLimit .sixtyFour := by omega
  have plain : ClosableMailbox.Ending.finish ≠ .finishWith := nofun
  have started : (system .sixtyFour Nat 1).Run [] fresh :=
    System.Run.nil rfl
  have enqueued := started.snoc (.enqueue 7 (by exact nofun) pushed_alone)
  have acquired := enqueued.snoc (.acquire (by exact nofun) (by exact nofun)
    ((ClosableMailbox.ends_acquire_granted none
      (GateLedger.reserve_opened rfl room) rfl).mpr ⟨rfl, rfl⟩))
  have closing := acquired.snoc (.beginClose
    ((ClosableMailbox.ends_beginClose none).mpr ⟨rfl, rfl⟩))
  have refused := closing.snoc (.claim (by exact nofun)
    ((ClosableMailbox.ends_claim_drain (by exact nofun) rfl Nat.one_pos
      (by exact nofun) one).mpr ⟨rfl, rfl⟩))
  have ended := refused.snoc (.endDrain .finish (Or.inl rfl) Nat.one_pos rfl
    rfl ((ClosableMailbox.ends_checking plain (Or.inl rfl) Nat.one_pos
      one).mpr ⟨rfl, rfl⟩))
  have again := ended.snoc (.acquire (by exact nofun) (by exact nofun)
    ((ClosableMailbox.ends_acquire_refused none none
      (GateLedger.reserve_left (by exact nofun))).mpr ⟨rfl, rfl⟩))
  refine ⟨_, again, ?_⟩
  intro agree
  have last : (Answers.acquired false true : Answers Nat).Agree :=
    agree _ (by simp)
  exact Bool.false_ne_true last

end Runs

end Driver

end RustJsi.Testkit
