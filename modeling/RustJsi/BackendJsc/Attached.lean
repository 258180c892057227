import RustJsi.BackendJsc.Shared

/-!
# An attachment at work

The calls that are under way on an attachment form a stack: entries, the
scopes opened in them, and the operations that wait for the engine.  Engine
and user code run between two steps of such an operation, and may start calls
of their own.  Leases are dropped and finalizers signal at any time.

What the engine answers is given with the operation that asks it.
-/

namespace RustJsi.BackendJsc

open Counted
open RustJsi.Host (AttachmentId EntryGate FinalEntryOutcome HostState)

/-- The values of `JSType`. -/
inductive JsType where
  | undefined
  | null
  | boolean
  | number
  | string
  | object
  | symbol
  | bigInt
  | unknown (code : Nat)
  deriving DecidableEq, Repr

/-- What the engine tells of a value. -/
structure Engine (Raw : Type*) where
  valueGetType : Raw → JsType
  objectKind : Raw → Except BackendError ValueKind
  /-- Whether an object gives its private data back. -/
  objectSetPrivate : Raw → Bool

/-- An object that stores private data gives it back when asked to. -/
def Engine.HandsBack {Raw : Type*} (engine : Engine Raw) : Prop :=
  ∀ object, engine.objectSetPrivate object = true

/-- The calls of `value_protect` and `value_unprotect` so far. -/
structure Protections (Raw : Type*) where
  protectCalls : List Raw
  unprotectCalls : List Raw

/-- The calls of `value_protect` for a value, less those of
`value_unprotect`. -/
def Protections.count {Raw : Type*} [DecidableEq Raw]
    (protections : Protections Raw) (value : Raw) : Int :=
  protections.protectCalls.count value - protections.unprotectCalls.count value

/-- An operation that produces one local value. -/
inductive Production where
  | eval
  | string
  | evaluate
  | call
  | externalize
  deriving DecidableEq, Repr

/-- A `Context::call` that converts its arguments. -/
structure CallFrame (Raw : Type*) where
  function : Raw
  reservation : Reservation
  argumentReservation : Reservation
  arguments : List Value
  argumentRoots : List Raw

/-- One call under way, with what it gives back when it ends. -/
inductive Activation (Raw Payload : Type*) where
  /-- An `ActiveEntryFrame`. -/
  | entry
  | context (localRoots : LocalRoots Raw) (scopeDepth : Nat)
  | scope (roots : LocalRoots Raw)
  | producing (production : Production) (reservation : Reservation)
  | calling (call : CallFrame Raw)
  /-- `install_host_function`, publishing the function. -/
  | registering (function : Raw)
  /-- `try_install_native_state`, before its object is made. -/
  | creating (id : NativeId)
  /-- The same with a `PublicationRoot`, publishing the object. -/
  | publishing (object : Raw) (id : NativeId)
  /-- The same, after `rollback_native_object`. -/
  | rolledBack (object : Raw) (error : JsError)
  /-- `with_native_state`, with its `NativeLease`. -/
  | operating (lease : AnyRc Payload)
  /-- `reclaim_finalized`, with the rest of its list. -/
  | reclaiming (tokens : List NativeId) (report : FinalizerDrain)

namespace Activation

variable {Raw Payload : Type*}

/-- The slots of the local budget that a call has charged. -/
def slots : Activation Raw Payload → Nat
  | .context localRoots _ => localRoots.values.length
  | .scope roots => roots.values.length
  | .producing _ reservation => reservation.held
  | .calling call => call.reservation.held + call.argumentReservation.held
  | _ => 0

/-- The values a call has protected, besides those of the registries. -/
def protects : Activation Raw Payload → List Raw
  | .context localRoots _ => localRoots.values
  | .scope roots => roots.values
  | .calling call => call.argumentRoots
  | .publishing object _ => [object]
  | .rolledBack object _ => [object]
  | _ => []

/-- The boxes a call owns. -/
def boxes : Activation Raw Payload → List Nat
  | .operating lease => [lease.box]
  | _ => []

def isEntry : Activation Raw Payload → Bool
  | .entry => true
  | _ => false

/-- A context or a scope with one more root. -/
def hold (value : Raw) :
    Activation Raw Payload → Option (Activation Raw Payload)
  | .context localRoots scopeDepth =>
      some (.context (localRoots.push value) scopeDepth)
  | .scope roots => some (.scope (roots.push value))
  | _ => none

end Activation

inductive TeardownKind where
  /-- `destroy_owned_runtime`. -/
  | owned
  /-- `Attachment::detach_with_context`. -/
  | withContext
  /-- `Attachment::detach_without_context`. -/
  | withoutContext
  /-- `Drop` of an `Attachment`, and whether `finish_drain` was `Ok`. -/
  | dropped (finished : Bool)
  deriving DecidableEq, Repr

/-- How far a teardown has come. -/
inductive TeardownPhase (Payload : Type*) where
  /-- The callbacks are being dropped; the queue is closed next. -/
  | closing
  | reclaiming (tokens : List NativeId) (report : FinalizerDrain)
  | retiring (states : List (AnyRc Payload)) (report : FinalizerDrain)
      (retiredNativeStates : Nat)

structure Teardown (Payload : Type*) where
  kind : TeardownKind
  roots : Nat
  functions : Nat
  finalEntry : Option FinalEntryOutcome
  phase : TeardownPhase Payload

/-- The boxes a teardown has still to give up. -/
def TeardownPhase.boxes {Payload : Type*} :
    TeardownPhase Payload → List Nat
  | .retiring states _ _ => states.map AnyRc.box
  | _ => []

structure ResourceLedger where
  persistentRoots : Nat
  callbackRegistrations : Nat
  nativeStates : Nat
  deriving DecidableEq, Repr

structure DetachReport where
  finalEntry : FinalEntryOutcome
  settled : ResourceLedger
  unresolved : ResourceLedger
  drainedNativeFinalizerSignals : Nat
  deriving DecidableEq, Repr

/-- Who owns the context of the attachment. -/
inductive Owner where
  /-- A `Runtime`, which forgets the context it has released. -/
  | runtime (context : Option Nat)
  /-- The host of an `Attachment`. -/
  | host
  /-- The attachment itself was dropped. -/
  | gone
  deriving DecidableEq, Repr

structure Attached (Raw Payload : Type*) where
  shared : Shared Raw Payload
  owner : Owner
  protections : Protections Raw
  /-- Protections that no call will take back. -/
  abandoned : List Raw
  heap : Heap
  /-- The call made last comes first. -/
  stack : List (Activation Raw Payload)
  teardown : Option (Teardown Payload)

/-- The `Err` of an operation. -/
inductive Failure where
  | runtime (error : RuntimeError)
  | js (error : JsError)
  | backend (error : BackendError)
  /-- `OwnershipTransferError::Rejected`. -/
  | rejected (error : BackendError)
  /-- `OwnershipTransferError::Accepted`. -/
  | accepted (error : BackendError)
  deriving DecidableEq, Repr

inductive Reply (Raw Payload : Type*) where
  | done
  /-- The call goes on. -/
  | begun
  | failed (failure : Failure)
  | faulted (fault : Fault)
  /-- A local value that took no root. -/
  | scalar (value : Raw)
  /-- A local value with a root of its own. -/
  | rooted (value : Raw)
  | persisted (id : RootId)
  | installedFunction (key : Raw)
  | installedState (id : NativeId)
  | rejected (state : NativeState Payload) (error : RuntimeError)
  | leased (state : NativeState Payload)
  | drained (report : FinalizerDrain)
  | invalidated
  | detached (report : DetachReport)

/-- A scoped value of a `Context`. -/
structure Local (Raw : Type*) where
  attachment : AttachmentId
  value : Raw

/-- A scoped value of the common backend. -/
structure JscValue (Raw : Type*) where
  attachment : AttachmentId
  raw : Raw

structure JscRoot where
  attachment : AttachmentId
  id : RootId

/-- The lease of a `Persistent`. -/
structure RootLease where
  runtime : WeakShared
  attachment : AttachmentId
  id : RootId

structure HostFunction (Raw : Type*) where
  runtime : WeakShared
  attachment : AttachmentId
  key : Raw

/-- A handle of a state of the given type. -/
structure NativeObject where
  runtime : WeakShared
  id : NativeId
  typeId : TypeId

/-- A value that is returned, and whether it takes a root. -/
inductive Settled (Raw : Type*) where
  | scalar (value : Raw)
  | managed (value : Raw)

namespace Attached

variable {Raw Payload : Type*}

def protect (attached : Attached Raw Payload) (value : Raw) :
    Attached Raw Payload :=
  { attached with
    protections.protectCalls := attached.protections.protectCalls ++ [value] }

def unprotect (attached : Attached Raw Payload) (value : Raw) :
    Attached Raw Payload :=
  { attached with
    protections.unprotectCalls :=
      attached.protections.unprotectCalls ++ [value] }

/-- One call of `value_unprotect` after the other. -/
def unprotectAll (attached : Attached Raw Payload) (values : List Raw) :
    Attached Raw Payload :=
  { attached with
    protections.unprotectCalls :=
      attached.protections.unprotectCalls ++ values }

def withBudget (attached : Attached Raw Payload) (budget : LocalBudget) :
    Attached Raw Payload :=
  { attached with shared.localBudget := budget }

def withStack (attached : Attached Raw Payload)
    (stack : List (Activation Raw Payload)) : Attached Raw Payload :=
  { attached with stack := stack }

def withGate (attached : Attached Raw Payload) (gate : EntryGate) :
    Attached Raw Payload :=
  { attached with shared.gate := gate }

/-- `drop_state` of a value that was taken out of the registry, if any. -/
def dropState (attached : Attached Raw Payload)
    (state : Option (AnyRc Payload)) : Attached Raw Payload :=
  match state with
  | none => attached
  | some state => { attached with heap := attached.heap.drop state.box }

/-- Go on with a result, unless the program stopped. -/
def orFault {Result : Type*} (attached : Attached Raw Payload)
    (result : Except Fault Result)
    (next : Result → Reply Raw Payload × Attached Raw Payload) :
    Reply Raw Payload × Attached Raw Payload :=
  match result with
  | .error fault => (.faulted fault, attached)
  | .ok result => next result

end Attached

end RustJsi.BackendJsc
