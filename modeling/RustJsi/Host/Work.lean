import RustJsi.Host.WorkMailbox
import RustJsi.Interleaving.Component

/-!
# Dispatch of scheduled work

A record enters a backend through the host it was captured for.  The record
moves through an option that the closure given to the host takes it from, so
whatever the host does with the closure, the record was consumed by one
operation or is still there to be returned.
-/

namespace RustJsi.Host

open Interleaving
open RustJsi.Runtime (ArrayQueue)

variable {State Backend Error T R : Type*}

set_option linter.dupNamespace false

/-- What a host does in one call of `with_backend`.  The closure can be invoked
once, and its result, of a type the host knows nothing of, is only had by
invoking it. -/
inductive HostEntry (State Backend Error : Type*) where
  /-- An error, and the closure was not invoked. -/
  | rejected (error : Error) (after : State)
  /-- The closure is invoked on a backend.  With what it has made of that the
  host returns its result, or an error against the contract. -/
  | entered (backend : Backend)
      (leave : Backend → Except Error Unit × State)

structure Host (State Backend Error : Type*) where
  attachmentId : State → AttachmentId
  entry : State → HostEntry State Backend Error

/-- `Host::with_backend`, for a closure and what it has captured. -/
def Host.withBackend {Captured : Type*} (host : Host State Backend Error)
    (state : State)
    (operation : Captured → Backend → R × Captured × Backend)
    (captured : Captured) : Except Error R × Captured × State :=
  match host.entry state with
  | .rejected error after => (.error error, captured, after)
  | .entered backend leave =>
      let (value, captured, backend) := operation captured backend
      match leave backend with
      | (.error error, after) => (.error error, captured, after)
      | (.ok (), after) => (.ok value, captured, after)

/-- Failure to dispatch scheduled work through a host. -/
inductive WorkDispatchError (T Error : Type*) where
  | attachmentMismatch (work : ScheduledWork T)
      (activeAttachment : AttachmentId)
  | entry (work : ScheduledWork T) (error : Error)
  | hostContractViolation (activeAttachment : AttachmentId)
      (work : Option (ScheduledWork T))

/-- The rejected record when the host did not consume it. -/
def WorkDispatchError.intoWork :
    WorkDispatchError T Error → Option (ScheduledWork T)
  | .attachmentMismatch work _ => some work
  | .entry work _ => some work
  | .hostContractViolation _ work => work

inductive WorkInvocation (R : Type*) where
  | ran (value : R)
  | missingPayload

/-- What the closure of a dispatch has captured, with the payloads that the
operation was run on. -/
structure Captured (T : Type*) where
  work : Option (ScheduledWork T)
  operations : List T

/-- The closure of a dispatch. -/
def invocation (operation : Backend → T → R × Backend)
    (captured : Captured T) (backend : Backend) :
    WorkInvocation R × Captured T × Backend :=
  match captured.work with
  | some work =>
      let (value, backend) := operation backend work.payload
      (.ran value,
        { work := none
          operations := captured.operations ++ [work.payload] },
        backend)
  | none => (.missingPayload, captured, backend)

/-- What a dispatch returns and has done. -/
structure Dispatched (State T Error R : Type*) where
  result : Except (WorkDispatchError T Error) R
  operations : List T
  state : State

namespace ScheduledWork

def dispatch (work : ScheduledWork T) (host : Host State Backend Error)
    (state : State) (operation : Backend → T → R × Backend) :
    Dispatched State T Error R :=
  let activeAttachment := host.attachmentId state
  if work.attachment ≠ activeAttachment then
    { result := .error (.attachmentMismatch work activeAttachment)
      operations := []
      state := state }
  else
    match host.withBackend state (invocation operation) ⟨some work, []⟩ with
    | (.ok (.ran value), captured, after) =>
        { result := .ok value
          operations := captured.operations
          state := after }
    | (.ok .missingPayload, captured, after) =>
        { result :=
            .error (.hostContractViolation activeAttachment captured.work)
          operations := captured.operations
          state := after }
    | (.error error, captured, after) =>
        { result :=
            match captured.work with
            | some work => .error (.entry work error)
            | none => .error (.hostContractViolation activeAttachment none)
          operations := captured.operations
          state := after }

end ScheduledWork

/-! ## Drains -/

/-- A normal drain of a `ScheduledWorkMailbox`, with what the mailbox retains
for it. -/
structure ScheduledWorkDrain (T : Type*) where
  attachment : AttachmentId
  capacity : Nat
  queue : ArrayQueue (ScheduledWork T) capacity

namespace ScheduledWorkDrain

def pop (drain : ScheduledWorkDrain T) :
    Option (ScheduledWork T) × ScheduledWorkDrain T :=
  match drain.queue.pop with
  | some (work, queue) => (some work, { drain with queue := queue })
  | none => (none, drain)

/-- A producer that was admitted pushes its record while the drain goes on. -/
def arrive (drain : ScheduledWorkDrain T) (payload : T) :
    Except (ScheduledWorkEnqueueError T) Unit × ScheduledWorkDrain T :=
  let work : ScheduledWork T := ⟨drain.attachment, payload⟩
  match drain.queue.push work with
  | some queue => (.ok (), { drain with queue := queue })
  | none => (.error (.full work), drain)

/-- `ScheduledWorkDrain::dispatch_next`. -/
def dispatchNext (drain : ScheduledWorkDrain T)
    (host : Host State Backend Error) (state : State)
    (operation : Backend → T → R × Backend) :
    Dispatched State T Error (Option R) × ScheduledWorkDrain T :=
  match drain.pop with
  | (none, drain) =>
      ({ result := .ok none, operations := [], state := state }, drain)
  | (some work, drain) =>
      let dispatched := work.dispatch host state operation
      ({ dispatched with result := dispatched.result.map some }, drain)

/-- A drain takes the first record out, if there is one. -/
theorem pop_cases (drain : ScheduledWorkDrain T) :
    (drain.queue.items = [] ∧ drain.pop = (none, drain)) ∨
    ∃ work left, drain.queue.items = work :: left.queue.items ∧
      drain.pop = (some work, left) := by
  unfold pop
  cases popped : drain.queue.pop with
  | none => exact Or.inl ⟨ArrayQueue.pop_eq_none_iff.mp popped, rfl⟩
  | some found =>
      obtain ⟨work, queue⟩ := found
      refine Or.inr ⟨work, { drain with queue := queue }, ?_, rfl⟩
      exact ArrayQueue.pop_items popped

theorem pop_items (drain : ScheduledWorkDrain T) :
    drain.queue.items = drain.pop.1.toList ++ drain.pop.2.queue.items := by
  rcases drain.pop_cases with ⟨_, popped⟩ | ⟨work, left, shape, popped⟩
  · rw [popped]
    rfl
  · rw [popped]
    exact shape

end ScheduledWorkDrain

section Mailboxes

variable {width : Runtime.PointerWidth} {capacity : Nat}

/-- The drain of a mailbox. -/
def ScheduledWorkMailbox.drainOf (attachment : AttachmentId)
    (shared : ScheduledWorkMailbox.Shared width T capacity) :
    ScheduledWorkDrain T :=
  ⟨attachment, capacity, shared.queue⟩

/-- A drain of the mailbox pops in one access. -/
theorem ScheduledWorkMailbox.step_pop (attachment : AttachmentId)
    {shared next : ScheduledWorkMailbox.Shared width T capacity}
    {call : ScheduledWorkMailbox.Call width T Error}
    {effect : ScheduledWorkMailbox.Effect T Error}
    (accessed : ScheduledWorkMailbox.step shared .pop .draining =
      some (next, call, effect)) :
    call = .draining ∧
      ((effect = .quiet ∧ (drainOf attachment shared).pop =
        (none, drainOf attachment next)) ∨
      ∃ work, effect = .acted (.work (.popped work)) ∧
        (drainOf attachment shared).pop =
          (some work, drainOf attachment next)) := by
  simp only [ScheduledWorkMailbox.step, Runtime.ClosableMailbox.step]
    at accessed
  cases popped : shared.queue.pop with
  | none =>
      simp only [popped] at accessed
      cases accessed
      refine ⟨rfl, Or.inl ⟨rfl, ?_⟩⟩
      simp only [drainOf, ScheduledWorkDrain.pop, popped]
  | some found =>
      obtain ⟨work, queue⟩ := found
      simp only [popped] at accessed
      cases accessed
      refine ⟨rfl, Or.inr ⟨work, rfl, ?_⟩⟩
      simp only [drainOf, ScheduledWorkDrain.pop, popped]

end Mailboxes

namespace ScheduledWork

/-- The three ways of a dispatch. -/
inductive Dispatches (work : ScheduledWork T)
    (host : Host State Backend Error) (state : State)
    (operation : Backend → T → R × Backend) :
    Dispatched State T Error R → Prop
  | mismatched (other : work.attachment ≠ host.attachmentId state) :
      Dispatches work host state operation
        ⟨.error (.attachmentMismatch work (host.attachmentId state)), [],
          state⟩
  | rejected {error : Error} {after : State}
      (current : work.attachment = host.attachmentId state)
      (entry : host.entry state = .rejected error after) :
      Dispatches work host state operation
        ⟨.error (.entry work error), [], after⟩
  | ran {backend : Backend} {leave : Backend → Except Error Unit × State}
      {after : State} {result : Except (WorkDispatchError T Error) R}
      (current : work.attachment = host.attachmentId state)
      (entry : host.entry state = .entered backend leave)
      (reports : ((leave (operation backend work.payload).2).1 = .ok () ∧
          result = .ok (operation backend work.payload).1) ∨
        ((leave (operation backend work.payload).2).1 ≠ .ok () ∧
          result = .error
            (.hostContractViolation (host.attachmentId state) none))) :
      Dispatches work host state operation ⟨result, [work.payload], after⟩

end ScheduledWork

/-! ## Any number of dispatches -/

/-- What a caller does with its records and its drains. -/
inductive WorkOp (Backend T R : Type*) where
  | dispatch (work : ScheduledWork T) (operation : Backend → T → R × Backend)
  | dispatchNext (drain : Nat) (operation : Backend → T → R × Backend)
  | pop (drain : Nat)
  /-- A producer reaches the mailbox of a drain. -/
  | arrive (drain : Nat) (payload : T)

structure WorkReply (T Error R : Type*) where
  result : Except (WorkDispatchError T Error) (Option R)
  operations : List T

/-- The record that an error has returned. -/
def WorkReply.returned (reply : WorkReply T Error R) :
    Option (ScheduledWork T) :=
  match reply.result with
  | .ok _ => none
  | .error error => error.intoWork

inductive WorkAnswer (T Error R : Type*) where
  | dispatched (reply : WorkReply T Error R)
  | popped (work : Option (ScheduledWork T))
  | arrived (result : Except (ScheduledWorkEnqueueError T) Unit)

/-- A host, and the drains that records are dispatched from. -/
structure Dispatching (State T : Type*) where
  host : State
  drains : List (ScheduledWorkDrain T)

/-- The drain with this number goes on as it is left. -/
def Dispatching.leave (state : Dispatching State T) (index : Nat)
    (left : ScheduledWorkDrain T) : Dispatching State T :=
  { state with drains := state.drains.set index left }

/-- What a dispatch owes to its record. -/
structure DispatchAccounts (host : Host State Backend Error)
    (work : ScheduledWork T) (operation : Backend → T → R × Backend)
    (before : State) (reply : WorkReply T Error R) (after : State) :
    Prop where
  /-- The operation runs at most once, and only on a current record. -/
  once : reply.operations = [] ∨ reply.operations = [work.payload]
  current : reply.operations ≠ [] →
    work.attachment = host.attachmentId before
  /-- A value is returned exactly when the operation ran and the host reported
  success, and it is the value of the operation. -/
  returns_iff : ∀ value, reply.result = .ok value ↔
    ∃ backend leave, work.attachment = host.attachmentId before ∧
      host.entry before = .entered backend leave ∧
      (leave (operation backend work.payload).2).1 = .ok () ∧
      value = some (operation backend work.payload).1
  succeeded : ∀ value, reply.result = .ok value →
    reply.operations = [work.payload]
  mismatched : ∀ rejected active,
    reply.result = .error (.attachmentMismatch rejected active) →
      rejected = work ∧ active = host.attachmentId before ∧
        rejected.attachment ≠ active ∧ reply.operations = [] ∧ after = before
  refused : ∀ rejected error, reply.result = .error (.entry rejected error) →
    rejected = work ∧ reply.operations = []
  violated : ∀ active,
    reply.result = .error (.hostContractViolation active none) →
      reply.operations = [work.payload]
  /-- The record was consumed by one operation or is in the error. -/
  settled : (reply.operations = [work.payload] ∧ reply.returned = none) ∨
    (reply.operations = [] ∧ reply.returned = some work)

theorem ScheduledWork.Dispatches.accounts
    {host : Host State Backend Error} {work : ScheduledWork T}
    {operation : Backend → T → R × Backend} {before : State}
    {dispatched : Dispatched State T Error R}
    (dispatches : work.Dispatches host before operation dispatched) :
    DispatchAccounts host work operation before
      ⟨dispatched.result.map some, dispatched.operations⟩
      dispatched.state := by
  cases dispatches with
  | mismatched other =>
      refine ⟨Or.inl rfl, nofun, ?_, nofun, ?_, nofun, nofun,
        Or.inr ⟨rfl, rfl⟩⟩
      · intro value
        refine iff_of_false nofun ?_
        intro ran
        obtain ⟨_, _, current, _⟩ := ran
        exact other current
      · intro rejected active same
        cases same
        exact ⟨rfl, rfl, other, rfl, rfl⟩
  | rejected current entry =>
      refine ⟨Or.inl rfl, nofun, ?_, nofun, nofun, ?_, nofun,
        Or.inr ⟨rfl, rfl⟩⟩
      · intro value
        refine iff_of_false nofun ?_
        intro ran
        obtain ⟨_, _, _, entered, _⟩ := ran
        exact nomatch entry.symm.trans entered
      · intro rejected error same
        cases same
        exact ⟨rfl, rfl⟩
  | @ran backend leave after result current entry reports =>
      cases reports with
      | inl success =>
          obtain ⟨left, rfl⟩ := success
          refine ⟨Or.inr rfl, fun _ => current, ?_, fun _ _ => rfl, nofun,
            nofun, nofun, Or.inl ⟨rfl, rfl⟩⟩
          intro value
          constructor
          · intro same
            cases same
            exact ⟨backend, leave, current, entry, left, rfl⟩
          · intro ran
            obtain ⟨other, otherLeave, _, entered, _, rfl⟩ := ran
            cases entry.symm.trans entered
            rfl
      | inr broken =>
          obtain ⟨left, rfl⟩ := broken
          refine ⟨Or.inr rfl, fun _ => current, ?_, nofun, nofun, nofun,
            fun _ _ => rfl, Or.inl ⟨rfl, rfl⟩⟩
          intro value
          refine iff_of_false nofun ?_
          intro ran
          obtain ⟨other, otherLeave, _, entered, success, _⟩ := ran
          cases entry.symm.trans entered
          exact left success

/-- What `dispatch_next` owes to a drain: it takes the first record out and
dispatches it, and an empty drain enters no host. -/
def NextAccounts (host : Host State Backend Error)
    (drain left : ScheduledWorkDrain T)
    (operation : Backend → T → R × Backend) (before : State)
    (reply : WorkReply T Error R) (after : State) : Prop :=
  (drain.queue.items = [] ∧ left = drain ∧ reply.result = .ok none ∧
    reply.operations = [] ∧ after = before) ∨
  ∃ work, drain.queue.items = work :: left.queue.items ∧
    DispatchAccounts host work operation before reply after

/-- What one call owes to the records and the drains. -/
def CallAccounts (host : Host State Backend Error)
    (before : Dispatching State T)
    (exchange : Exchange (WorkOp Backend T R) (WorkAnswer T Error R))
    (after : Dispatching State T) : Prop :=
  match exchange.op, exchange.reply with
  | .dispatch work operation, .dispatched reply =>
      DispatchAccounts host work operation before.host reply after.host ∧
        after.drains = before.drains
  | .dispatchNext index operation, .dispatched reply =>
      ∃ drain left, before.drains[index]? = some drain ∧
        after.drains = before.drains.set index left ∧
        NextAccounts host drain left operation before.host reply after.host
  | .pop index, .popped found =>
      ∃ drain left, before.drains[index]? = some drain ∧
        after = before.leave index left ∧
        drain.queue.items = found.toList ++ left.queue.items ∧
        (found = none → drain.queue.items = [])
  | .arrive index payload, .arrived result =>
      ∃ drain left, before.drains[index]? = some drain ∧
        after = before.leave index left ∧
        ((result = .ok () ∧ left.queue.items =
          drain.queue.items ++ [⟨drain.attachment, payload⟩]) ∨
        (result = .error (.full ⟨drain.attachment, payload⟩) ∧ left = drain))
  | _, _ => False

/-- The payloads that a drain retains, in order. -/
def Dispatching.retained (state : Dispatching State T) (index : Nat) :
    List T :=
  (state.drains[index]?).toList.flatMap fun drain =>
    drain.queue.items.map ScheduledWork.payload

/-- The payloads that one call put into a drain. -/
def arrivedAt (index : Nat)
    (exchange : Exchange (WorkOp Backend T R) (WorkAnswer T Error R)) :
    List T :=
  match exchange.op, exchange.reply with
  | .arrive drain payload, .arrived (.ok ()) =>
      if drain = index then [payload] else []
  | _, _ => []

/-- The payloads that one call took from a drain: consumed by its operation,
returned in its error, or popped by its caller. -/
def takenFrom (index : Nat)
    (exchange : Exchange (WorkOp Backend T R) (WorkAnswer T Error R)) :
    List T :=
  match exchange.op, exchange.reply with
  | .dispatchNext drain _, .dispatched reply =>
      if drain = index then
        reply.operations ++ reply.returned.toList.map ScheduledWork.payload
      else []
  | .pop drain, .popped work =>
      if drain = index then work.toList.map ScheduledWork.payload else []
  | _, _ => []

section Runs

variable {host : Host State Backend Error}
  {start before after : Dispatching State T}
  {exchange : Exchange (WorkOp Backend T R) (WorkAnswer T Error R)}
  {trace : List (Exchange (WorkOp Backend T R) (WorkAnswer T Error R))}

/-- A record is consumed by one operation or returned in the error. -/
theorem DispatchAccounts.conserved {work : ScheduledWork T}
    {operation : Backend → T → R × Backend} {before after : State}
    {reply : WorkReply T Error R}
    (accounts : DispatchAccounts host work operation before reply after) :
    reply.operations ++ reply.returned.toList.map ScheduledWork.payload =
      [work.payload] := by
  cases accounts.settled with
  | inl consumed =>
      rw [consumed.1, consumed.2]
      rfl
  | inr returned =>
      rw [returned.1, returned.2]
      rfl

theorem retained_set (index other : Nat) (left : ScheduledWorkDrain T)
    {drain : ScheduledWorkDrain T}
    (present : before.drains[index]? = some drain)
    (same : after.drains = before.drains.set index left) :
    after.retained other =
      if index = other then left.queue.items.map ScheduledWork.payload
      else before.retained other := by
  unfold Dispatching.retained
  rw [same]
  obtain ⟨bound, _⟩ := List.getElem?_eq_some_iff.mp present
  by_cases own : index = other
  · subst own
    rw [if_pos rfl, List.getElem?_set_self bound]
    simp
  · rw [if_neg own, List.getElem?_set_ne own]

theorem retained_of_present {index : Nat} {drain : ScheduledWorkDrain T}
    (present : before.drains[index]? = some drain) :
    before.retained index =
      drain.queue.items.map ScheduledWork.payload := by
  simp [Dispatching.retained, present]

/-- What a call puts into a drain and takes from it accounts for what the
drain retains. -/
theorem CallAccounts.balance (accounts : CallAccounts host before exchange after)
    (index : Nat) :
    before.retained index ++ arrivedAt index exchange =
      takenFrom index exchange ++ after.retained index := by
  obtain ⟨op, reply⟩ := exchange
  cases op with
  | dispatch work operation =>
      cases reply with
      | dispatched reply =>
          obtain ⟨_, same⟩ := accounts
          simp [arrivedAt, takenFrom, Dispatching.retained, same]
      | _ => exact accounts.elim
  | dispatchNext other operation =>
      cases reply with
      | dispatched reply =>
          obtain ⟨drain, left, present, same, next⟩ := accounts
          rw [retained_set other index left present same]
          by_cases own : other = index
          · subst own
            rw [retained_of_present present]
            rcases next with ⟨empty, rfl, result, operations, _⟩ |
              ⟨work, shape, dispatched⟩
            · simp [arrivedAt, takenFrom, WorkReply.returned, empty, result,
                operations]
            · have conserved := dispatched.conserved
              simp only [arrivedAt, takenFrom, if_true, conserved, shape]
              simp
          · simp [arrivedAt, takenFrom, own]
      | _ => exact accounts.elim
  | pop other =>
      cases reply with
      | popped found =>
          obtain ⟨drain, left, present, same, shape, _⟩ := accounts
          rw [retained_set other index left present (congrArg _ same)]
          by_cases own : other = index
          · subst own
            rw [retained_of_present present]
            simp [arrivedAt, takenFrom, shape]
          · simp [arrivedAt, takenFrom, own]
      | _ => exact accounts.elim
  | arrive other payload =>
      cases reply with
      | arrived result =>
          obtain ⟨drain, left, present, same, outcome⟩ := accounts
          rw [retained_set other index left present (congrArg _ same)]
          by_cases own : other = index
          · subst own
            rw [retained_of_present present]
            rcases outcome with ⟨rfl, shape⟩ | ⟨rfl, rfl⟩
            · simp [arrivedAt, takenFrom, shape]
            · simp [arrivedAt, takenFrom]
          · rcases outcome with ⟨rfl, shape⟩ | ⟨rfl, rfl⟩
            · simp [arrivedAt, takenFrom, own]
            · simp [arrivedAt, takenFrom, own]
      | _ => exact accounts.elim

end Runs

/-- A rejected record, and what a drain has: a consumed record, one lost to a
broken host, one that arrived late, and nothing more. -/
def dispatches : List (WorkOp Nat Nat Nat) :=
  [.dispatch ⟨⟨⟨.one⟩, ⟨.one⟩⟩, 4⟩ fun backend payload =>
      (payload, backend + 2),
    .arrive 0 8,
    .dispatchNext 0 fun backend payload => (payload, backend + 2),
    .arrive 0 7,
    .dispatchNext 0 fun backend payload => (payload, backend + 1),
    .pop 0, .dispatchNext 0 fun backend payload => (payload, backend)]

end RustJsi.Host
