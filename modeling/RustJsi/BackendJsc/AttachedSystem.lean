import RustJsi.BackendJsc.AttachedTeardown
import RustJsi.Interleaving.Component

/-!
# Runs of an attachment

Every order of operations that the stack of calls admits, with every answer
the engine may give.
-/

namespace RustJsi.BackendJsc

open Counted Interleaving
open RustJsi.Host (AttachmentId EntryGate FinalEntryPolicy NonZeroU32)

structure JscRuntimeLimits where
  localRoots : Nat
  persistentSlots : Nat
  outboundCall : CallLimits
  hostFunctions : Nat
  nativeStates : Nat
  deriving DecidableEq, Repr

def entryLimit : NonZeroU32 where
  value := 64
  nonZero := by decide

section Fresh

variable {Raw Payload : Type*}

def Shared.new (id : AttachmentId) (address owner : Nat)
    (finalEntryPolicy : FinalEntryPolicy) (limits : JscRuntimeLimits) :
    Shared Raw Payload where
  id := id
  address := address
  owner := owner
  gate := .new entryLimit finalEntryPolicy
  roots := .new limits.persistentSlots
  localBudget := .new limits.localRoots
  callLimits := limits.outboundCall
  hostFunctionLimit := limits.hostFunctions
  hostFunctions := []
  nativeStates := .new limits.nativeStates
  nativeFinalizers := .new

def Attached.new (shared : Shared Raw Payload) (owner : Owner) :
    Attached Raw Payload where
  shared := shared
  owner := owner
  protections := ⟨[], []⟩
  abandoned := []
  heap := .new
  stack := []
  teardown := none

/-- What `Runtime::new` and `Attachment::new` make. -/
inductive Attached.Fresh (limits : JscRuntimeLimits) :
    Attached Raw Payload → Prop
  | runtime (id : AttachmentId) (address owner context : Nat) :
      Fresh limits (.new (.new id address owner .guaranteed limits)
        (.runtime (some context)))
  | attachment (id : AttachmentId) (address owner : Nat)
      (finalEntryPolicy : FinalEntryPolicy) :
      Fresh limits (.new (.new id address owner finalEntryPolicy limits)
        .host)

end Fresh

inductive Op (Raw Payload : Type*) where
  | enter (supplied : Option Nat) (active : ActiveEntry)
  | leave
  | drainNativeFinalizers
  | reclaim
  | drainRootReleases
  | lendContext
  | openScope
  | withScope
  | close
  | eval (script url : Bool)
  | string (created : Bool)
  | evaluate (script url : Bool)
  | callValue (function : JscValue Raw) (receiver : Option (JscValue Raw))
      (arguments : List (JscValue Raw))
  | externalize (reserved : Except RuntimeError Unit)
  | produced (value : Option Raw) (exception : Option JsException)
  | externalized (object : Except JsError Raw)
  | resolve (lease : RootLease)
  | resolveRoot (root : JscRoot)
  | persist (value : Local Raw)
  | persistValue (value : JscValue Raw)
  | release (root : JscRoot)
  | dropLease (lease : RootLease)
  | call (function : HostFunction Raw) (arguments : List Value)
  | prepareArgument (created : Bool) (value : Option Raw)
  | called (value : Option Raw) (exception : Option JsException)
  | unwind
  | installHostFunction (name : Bool) (function : Option Raw)
  | publishHostFunction (global : Bool) (exception : Option JsException)
  | tryInstallNativeState (state : NativeState Payload)
  | makeNativeObject (made : Bool) (object : Option Raw)
  | publishNativeObject (name global : Bool)
      (exception : Option JsException)
  | endRollback
  | withNativeState (handle : NativeObject)
  | endOperation
  | signal (token : NativeId)
  | invalidate (active : ActiveEntry) (independent : Bool)
  | destroyOwnedRuntime
  | detachWithContext (supplied : Option Nat) (active : ActiveEntry)
  | detachWithoutContext
  | dropAttachment
  | advanceTeardown

/-- An operation and the thread it is called on. -/
structure Invocation (Raw Payload : Type*) where
  thread : Nat
  op : Op Raw Payload

namespace Attached

variable {Raw Payload : Type*} [DecidableEq Raw]

/-- The engine gives a new function an address that no protected function
has. -/
def functionFresh (attached : Attached Raw Payload)
    (function : Option Raw) : Bool :=
  match function with
  | none => true
  | some function => function ∉ attached.shared.hostFunctions

/-- The owner can use the attachment: it is not lent to a teardown. -/
def available (attached : Attached Raw Payload) : Bool :=
  attached.teardown.isNone && attached.owner ≠ .gone

/-- One operation, if the call on top of the stack can be the one to make
it. -/
def perform (engine : Engine Raw) (attached : Attached Raw Payload)
    (invocation : Invocation Raw Payload) :
    Option (Reply Raw Payload × Attached Raw Payload) :=
  match invocation.op, attached.stack with
  | .enter supplied active, _ =>
      if attached.available then
        some (attached.enter invocation.thread supplied active)
      else none
  | .leave, .entry :: rest => some (attached.leave rest)
  | .drainNativeFinalizers, .entry :: _ => some attached.drainNativeFinalizers
  | .reclaim, .reclaiming tokens report :: rest =>
      some (attached.reclaim tokens report rest)
  | .drainRootReleases, .entry :: _ => some attached.drainRootReleases
  | .lendContext, .entry :: _ => some attached.lendContext
  | .openScope, .entry :: _ => some (attached.openScope invocation.thread)
  | .withScope, .context _ scopeDepth :: _ =>
      some (attached.withScope invocation.thread scopeDepth)
  | .close, .context localRoots _ :: rest =>
      some (attached.close localRoots rest)
  | .close, .scope roots :: rest => some (attached.close roots rest)
  | .eval script url, .context _ _ :: _ =>
      some (attached.eval invocation.thread script url)
  | .string created, .scope _ :: _ => some (attached.string created)
  | .evaluate script url, .scope _ :: _ => some (attached.evaluate script url)
  | .callValue function receiver arguments, .scope _ :: _ =>
      some (callValue engine attached function receiver arguments)
  | .externalize reserved, .scope _ :: _ => some (attached.externalize reserved)
  | .produced value exception, .producing production reservation :: holder ::
      rest =>
      if production = .externalize then none
      else
        attached.settle holder rest reservation
          (produced engine production value exception)
  | .externalized object, .producing production reservation :: holder ::
      rest =>
      if production = .externalize then
        attached.settle holder rest reservation (externalized object)
      else none
  | .resolve lease, .context localRoots scopeDepth :: rest =>
      resolve engine attached (.context localRoots scopeDepth) rest lease
  | .resolveRoot root, .scope roots :: rest =>
      attached.resolveRoot (.scope roots) rest root
  | .persist value, .context _ _ :: _ =>
      some (attached.persist invocation.thread value)
  | .persistValue value, .scope _ :: _ => some (attached.persistValue value)
  | .release root, .scope _ :: _ => some (attached.release root)
  | .dropLease lease, _ =>
      some (.done,
        { attached with
          shared := attached.shared.dropLease invocation.thread lease.runtime
            lease.attachment lease.id })
  | .call function arguments, .context _ _ :: _ =>
      some (attached.call function arguments)
  | .prepareArgument created value, .calling call :: rest =>
      attached.prepareArgument call rest created value
  | .called value exception, .calling call :: holder :: rest =>
      if call.arguments = [] then
        called engine attached call holder rest value exception
      else none
  | .unwind, .producing _ reservation :: rest =>
      some (attached.orFault (reservation.drop attached.shared.localBudget)
        fun budget => (.done, (attached.withBudget budget).withStack rest))
  | .unwind, .calling call :: rest =>
      some (attached.abandonCall call rest .done)
  | .installHostFunction name function, .context _ _ :: _ =>
      if attached.functionFresh function then
        some (attached.installHostFunction invocation.thread name function)
      else none
  | .publishHostFunction global exception, .registering function :: rest =>
      some (attached.publishHostFunction function rest global exception)
  | .tryInstallNativeState state, .context _ _ :: _ =>
      some (attached.tryInstallNativeState invocation.thread state)
  | .makeNativeObject made object, .creating id :: rest =>
      some (attached.makeNativeObject id rest made object)
  | .publishNativeObject name global exception, .publishing object id ::
      rest =>
      some (attached.publishNativeObject engine object id rest name global
        exception)
  | .endRollback, .rolledBack object error :: rest =>
      some (attached.endRollback object error rest)
  | .withNativeState handle, .context _ _ :: _ =>
      some (attached.withNativeState invocation.thread handle)
  | .endOperation, .operating lease :: rest =>
      some (attached.endOperation lease rest)
  | .signal token, _ => some (attached.signal token)
  | .invalidate active independent, _ =>
      match attached.owner with
      | .runtime context =>
          if attached.available then
            some (attached.invalidate invocation.thread context active
              independent)
          else none
      | _ => none
  | .destroyOwnedRuntime, _ =>
      match attached.owner with
      | .runtime (some _) =>
          if attached.available then some attached.destroyOwnedRuntime
          else none
      | _ => none
  | .detachWithContext supplied active, _ =>
      if attached.available && attached.owner = .host then
        some (attached.detachWithContext invocation.thread supplied active)
      else none
  | .detachWithoutContext, _ =>
      if attached.available && attached.owner = .host then
        some (attached.detachWithoutContext invocation.thread)
      else none
  | .dropAttachment, stack =>
      if attached.available && attached.owner = .host && stack.isEmpty then
        some attached.dropAttachment
      else none
  | .advanceTeardown, _ =>
      attached.teardown.map fun teardown => attached.advanceTeardown teardown
  | _, _ => none

end Attached

variable {Raw Payload : Type*} [DecidableEq Raw]

/-- An attachment under one caller, with its engine. -/
def attachment (engine : Engine Raw) :
    Component (Attached Raw Payload) (Invocation Raw Payload)
      (Reply Raw Payload) where
  perform := Attached.perform engine

/-- Every run of a fresh attachment. -/
def attachmentSystem (engine : Engine Raw) (limits : JscRuntimeLimits) :
    System (Attached Raw Payload)
      (Exchange (Invocation Raw Payload) (Reply Raw Payload)) :=
  (attachment engine).system (Attached.Fresh limits)

end RustJsi.BackendJsc
