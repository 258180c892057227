import RustJsi.Host.DrainRegistration
import RustJsi.Host.WorkMailbox
import RustJsi.Interleaving.Executable

/-!
# The owner of attachment work

An owner has one registration and one current mailbox, whose ingress it closes
and which it replaces; senders keep the mailbox they were made for.  The
methods of the owner run on its thread one after another, and each call they
and the senders make on a mailbox runs among all others.
-/

namespace RustJsi.Host

open Interleaving RustJsi.Runtime

/-- A mailbox is given by its number, as an `Arc` is by its address. -/
structure AttachmentWorkOwner where
  registration : DrainRegistration
  mailbox : Nat
  deriving DecidableEq, Repr

/-- Host-owner resolution of a future attachment drain task. -/
inductive AttachmentWorkResolution where
  | current (mailbox : Nat)
  | closing
  | retired
  | unregisteredAttachment
  | foreignRuntime
  deriving DecidableEq, Repr

inductive AttachmentWorkReplaceError where
  | mailboxNotTerminallyClosed (state : ClosableMailboxState)
  | registration (error : DrainRegistrationReplaceError)
  deriving DecidableEq, Repr

namespace AttachmentWorkOwner

def attachmentId (owner : AttachmentWorkOwner) : AttachmentId :=
  owner.registration.attachmentId

def state (owner : AttachmentWorkOwner) : DrainRegistrationState :=
  owner.registration.state

def resolveDrainTask (owner : AttachmentWorkOwner)
    (attachment : AttachmentId) : AttachmentWorkResolution :=
  match owner.registration.resolve attachment with
  | .current => .current owner.mailbox
  | .closing => .closing
  | .retired => .retired
  | .unregisteredAttachment => .unregisteredAttachment
  | .foreignRuntime => .foreignRuntime

/-- What `begin_close` does before it closes the ingress of the mailbox. -/
def beginClose (owner : AttachmentWorkOwner) : AttachmentWorkOwner :=
  { owner with registration := owner.registration.beginClose }

/-- What `replace` does with the state it has read of the old mailbox. -/
def replace (owner : AttachmentWorkOwner) (oldState : ClosableMailboxState)
    (replacement : AttachmentId) (replacementMailbox : Nat) :
    Except AttachmentWorkReplaceError Unit × AttachmentWorkOwner :=
  if oldState ≠ .closed then
    (.error (.mailboxNotTerminallyClosed oldState), owner)
  else
    match owner.registration.replace replacement with
    | (.error error, registration) =>
        (.error (.registration error), { owner with registration })
    | (.ok (), registration) =>
        (.ok (), { registration, mailbox := replacementMailbox })

end AttachmentWorkOwner

/-- One mailbox, and the calls made on it. -/
structure BoundMailbox (width : PointerWidth) (T E : Type*) where
  attachment : AttachmentId
  capacity : Nat
  pool : Pool (ScheduledWorkMailbox.Shared width T capacity)
    (ScheduledWorkMailbox.Call width T E)

namespace BoundMailbox

variable {width : PointerWidth} {T E : Type*}

def new (attachment : AttachmentId) (capacity : Nat) :
    BoundMailbox width T E where
  attachment := attachment
  capacity := capacity
  pool := ⟨ClosableMailbox.new, []⟩

/-- One action on the mailbox. -/
def exec (mailbox : BoundMailbox width T E)
    (action : PoolAction (ScheduledWorkMailbox.Op T)
      (ScheduledWorkMailbox.Choice E)) :
    Option (BoundMailbox width T E ×
      PoolLabel (ScheduledWorkMailbox.Op T)
        (ScheduledWorkMailbox.Effect T E)) :=
  ((ScheduledWorkMailbox.machine mailbox.attachment width T E
    mailbox.capacity).exec mailbox.pool action).map fun (pool, label) =>
      ({ mailbox with pool }, label)

/-- The machine of the mailbox takes a step. -/
def Step (mailbox : BoundMailbox width T E)
    (label : PoolLabel (ScheduledWorkMailbox.Op T)
      (ScheduledWorkMailbox.Effect T E))
    (next : BoundMailbox width T E) : Prop :=
  ∃ pool, next = { mailbox with pool } ∧
    (ScheduledWorkMailbox.system mailbox.attachment width T E
      mailbox.capacity).step mailbox.pool label pool

theorem step_of_exec {mailbox next : BoundMailbox width T E} {action label}
    (performed : mailbox.exec action = some (next, label)) :
    mailbox.Step label next := by
  obtain ⟨⟨pool, told⟩, done, same⟩ := Option.map_eq_some_iff.mp performed
  cases same
  exact ⟨pool, rfl, action, done⟩

end BoundMailbox

/-- Who starts a call on a mailbox.  A resolution lends the current one, with
all that a shared mailbox offers. -/
inductive Caller (T : Type*) where
  | enqueue (sender : Nat) (payload : T)
  | enqueueAndPost (sender : Nat) (payload : T)
  | lent (op : ScheduledWorkMailbox.Op T)
  | beginClose
  | postPending
  | tryBeginTerminalDrain
  | replace (replacement : AttachmentId) (capacity : Nat)
  deriving DecidableEq, Repr

/-- The operation of the mailbox that is called. -/
def Caller.op {T : Type*} : Caller T → ScheduledWorkMailbox.Op T
  | .enqueue _ payload => .enqueue payload
  | .enqueueAndPost _ payload => .enqueueAndPost payload
  | .lent op => op
  | .beginClose => .beginClose
  | .postPending => .postPending
  | .tryBeginTerminalDrain => .tryBeginTerminalDrain
  | .replace _ _ => .state

/-- A method of `&mut self` that waits for its call on the mailbox. -/
inductive Exclusive where
  | beginClose (call : Nat)
  | replace (call : Nat) (replacement : AttachmentId) (capacity : Nat)
  deriving DecidableEq, Repr

/-- An owner, every mailbox that was made for it, the mailboxes of the senders
that were issued, and how many resolutions lend the current one. -/
structure Workplace (width : PointerWidth) (T E : Type*) where
  owner : AttachmentWorkOwner
  mailboxes : List (BoundMailbox width T E)
  senders : List Nat
  lent : Nat
  exclusive : Option Exclusive

inductive WorkAction (T E : Type*) where
  | sender
  | start (caller : Caller T)
  | advance (mailbox call : Nat) (choice : ScheduledWorkMailbox.Choice E)
  | declinePost
  | resolve (attachment : AttachmentId)
  /-- The borrow of a resolution ends. -/
  | release
  /-- The method that has the owner to itself ends. -/
  | finish
  deriving DecidableEq, Repr

inductive WorkLabel (T E : Type*) where
  | sender
  | started (caller : Caller T) (mailbox call : Nat)
  | stepped (mailbox call : Nat) (effect : ScheduledWorkMailbox.Effect T E)
  /-- `post_pending` returned `Ok(false)` at once. -/
  | postDeclined
  | resolved (attachment : AttachmentId)
      (resolution : AttachmentWorkResolution)
  | released
  | closed (result : IngressClose)
  | replaced (replacement : AttachmentId)
      (result : Except AttachmentWorkReplaceError Unit)

namespace Workplace

variable {width : PointerWidth} {T E : Type*}

/-- `AttachmentWorkOwner::new`. -/
def new (attachment : AttachmentId) (capacity : Nat) :
    Workplace width T E where
  owner := ⟨.new attachment, 0⟩
  mailboxes := [.new attachment capacity]
  senders := []
  lent := 0
  exclusive := none

/-- The mailbox that a caller can reach; `&mut self` excludes a resolution. -/
def target (place : Workplace width T E) : Caller T → Option Nat
  | .enqueue sender _ => place.senders[sender]?
  | .enqueueAndPost sender _ => place.senders[sender]?
  | .lent _ => if 0 < place.lent then some place.owner.mailbox else none
  | .postPending =>
      if place.exclusive = none ∧ place.owner.state = .active then
        some place.owner.mailbox
      else none
  | .tryBeginTerminalDrain =>
      if place.exclusive = none then some place.owner.mailbox else none
  | .beginClose =>
      if place.exclusive = none ∧ place.lent = 0 then
        some place.owner.mailbox
      else none
  | .replace _ _ =>
      if place.exclusive = none ∧ place.lent = 0 then
        some place.owner.mailbox
      else none

/-- What a call changes on the side of the owner. -/
def begin (place : Workplace width T E) (call : Nat) :
    Caller T → Workplace width T E
  | .beginClose =>
      { place with
        owner := place.owner.beginClose
        exclusive := some (.beginClose call) }
  | .replace replacement capacity =>
      { place with exclusive := some (.replace call replacement capacity) }
  | _ => place

def setMailbox (place : Workplace width T E) (index : Nat)
    (mailbox : BoundMailbox width T E) : Workplace width T E :=
  { place with mailboxes := place.mailboxes.set index mailbox }

/-- Where a call on the current mailbox stands. -/
def callOf (place : Workplace width T E) (call : Nat) :
    Option (ScheduledWorkMailbox.Call width T E) :=
  place.mailboxes[place.owner.mailbox]?.bind fun mailbox =>
    mailbox.pool.calls[call]?

/-- `replace`, once it has read the state of the old mailbox. -/
def replace (place : Workplace width T E) (oldState : ClosableMailboxState)
    (replacement : AttachmentId) (capacity : Nat) :
    Except AttachmentWorkReplaceError Unit × Workplace width T E :=
  match place.owner.replace oldState replacement place.mailboxes.length with
  | (.ok (), owner) =>
      (.ok (),
        { place with
          owner := owner
          mailboxes := place.mailboxes ++ [.new replacement capacity]
          exclusive := none })
  | (.error error, owner) =>
      (.error error, { place with owner := owner, exclusive := none })

/-- The method that has the owner to itself ends with its call. -/
def finish (place : Workplace width T E) :
    Option (Workplace width T E × WorkLabel T E) :=
  match place.exclusive with
  | none => none
  | some (.beginClose call) =>
      match place.callOf call with
      | some (.closeBegun result) =>
          some ({ place with exclusive := none }, .closed result)
      | _ => none
  | some (.replace call replacement capacity) =>
      match place.callOf call with
      | some (.observed oldState) =>
          let (result, next) := place.replace oldState replacement capacity
          some (next, .replaced replacement result)
      | _ => none

def exec (place : Workplace width T E) :
    WorkAction T E → Option (Workplace width T E × WorkLabel T E)
  | .sender =>
      if place.exclusive = none then
        some ({ place with senders := place.senders ++ [place.owner.mailbox] },
          .sender)
      else none
  | .start caller =>
      (place.target caller).bind fun index =>
        place.mailboxes[index]?.bind fun mailbox =>
          let call := mailbox.pool.calls.length
          (mailbox.exec (.invoke caller.op)).map fun (next, _) =>
            ((place.begin call caller).setMailbox index next,
              .started caller index call)
  | .advance index call choice =>
      place.mailboxes[index]?.bind fun mailbox =>
        (mailbox.exec (.advance call choice)).bind fun (next, label) =>
          label.effect?.map fun effect =>
            (place.setMailbox index next, .stepped index call effect)
  | .declinePost =>
      if place.exclusive = none ∧ place.owner.state ≠ .active then
        some (place, .postDeclined)
      else none
  | .resolve attachment =>
      if place.exclusive = none then
        let resolution := place.owner.resolveDrainTask attachment
        match resolution with
        | .current _ =>
            some ({ place with lent := place.lent + 1 },
              .resolved attachment resolution)
        | _ => some (place, .resolved attachment resolution)
      else none
  | .release =>
      if 0 < place.lent then
        some ({ place with lent := place.lent - 1 }, .released)
      else none
  | .finish => place.finish

/-- Every run of an owner and of all that use its mailboxes. -/
def system (attachment : AttachmentId) (capacity : Nat)
    (width : PointerWidth) (T E : Type*) :
    System (Workplace width T E) (WorkLabel T E) :=
  executable exec fun place => place = new attachment capacity

end Workplace

end RustJsi.Host
