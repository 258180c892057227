import Mathlib.Data.List.AList
import RustJsi.BackendJsc.AttachedSystem
import RustJsi.BackendJsc.InboundStrings

/-!
# The callbacks of the host functions

An attachment at work, with the callbacks its host functions call.  The
registry owns one count of each callback, and a call of a function shares it
while it runs.  The callbacks are counted boxes, numbered in the order in which
they were passed to `install_host_function`.

Engine and user code run between any two steps.  A destructor may panic.
-/

namespace RustJsi.BackendJsc

open Counted Interleaving

/-- The callback of each registered function. -/
abbrev HostFunctions (Raw : Type*) := AList fun _ : Raw => Nat

def HostFunctions.callbacks {Raw : Type*} (functions : HostFunctions Raw) :
    List Nat :=
  functions.entries.map fun entry => entry.2

/-- A callback that runs, with the height of the stack that waits for it. -/
structure CallbackRun where
  callback : Nat
  height : Nat
  deriving DecidableEq, Repr

/-- An attachment with the callbacks of its host functions. -/
structure Hosted (Raw Payload : Type*) where
  attached : Attached Raw Payload
  inboundArguments : Nat
  hostFunctions : HostFunctions Raw
  callbacks : Heap
  /-- The callback called last comes first. -/
  running : List CallbackRun
  /-- What a teardown took out of the registry and has still to drop. -/
  dropping : List Nat
  callbackDropPanics : Nat

/-- What the engine passes to `host_function_callback`. -/
structure HostCall (Raw : Type*) where
  activeContext : Nat
  context : Option Nat
  globalContext : Nat
  function : Raw
  argumentCount : Nat
  nullArguments : Bool

def HostError.inboundCallbackArgumentLimitReached : HostError :=
  .new "inbound callback argument limit reached"

namespace Hosted

variable {Raw Payload : Type*}

/-- Drops one count of a callback, whose destructor may panic. -/
def dropCallback (hosted : Hosted Raw Payload) (callback : Nat)
    (panics : Bool) : Hosted Raw Payload :=
  { hosted with
    callbacks := hosted.callbacks.drop callback
    callbackDropPanics :=
      if panics then min (hosted.callbackDropPanics + 1) (2 ^ 64 - 1)
      else hosted.callbackDropPanics }

/-- A callback that was passed, and is dropped with the other arguments. -/
def refuse (hosted : Hosted Raw Payload) : Hosted Raw Payload :=
  { hosted with
    callbacks := hosted.callbacks.alloc.2.drop hosted.callbacks.alloc.1 }

/-- `release_engine_resources` and `abandon_engine_resources` take the
registry. -/
def takeHostFunctions (hosted : Hosted Raw Payload) : Hosted Raw Payload :=
  { hosted with
    hostFunctions := ∅
    dropping := hosted.hostFunctions.callbacks }

/-- A callback has returned or unwound. -/
def returned (hosted : Hosted Raw Payload) :
    Option (Hosted Raw Payload) :=
  match hosted.running with
  | [] => none
  | run :: rest =>
      if hosted.attached.stack.length = run.height then
        some { hosted with
          callbacks := hosted.callbacks.drop run.callback, running := rest }
      else none

/-- The next turn of the loop over the callbacks of a teardown; a hash map
gives them in any order. -/
def dropNext (hosted : Hosted Raw Payload) (index : Nat) (panics : Bool) :
    Option (Hosted Raw Payload) :=
  match hosted.dropping[index]? with
  | none => none
  | some callback =>
      some ({ hosted with
        dropping := hosted.dropping.eraseIdx index }.dropCallback callback
        panics)

variable [DecidableEq Raw]

/-- The new function is registered with the callback that was passed.  No
registered function has its address, so that no callback is replaced. -/
def register (hosted : Hosted Raw Payload) (function : Raw) :
    Hosted Raw Payload :=
  { hosted with
    hostFunctions :=
      hosted.hostFunctions.insert function hosted.callbacks.alloc.1
    callbacks := hosted.callbacks.alloc.2 }

/-- The registration is gone before the callback is dropped. -/
def rollbackHostFunction (hosted : Hosted Raw Payload) (function : Raw)
    (panics : Bool) : Hosted Raw Payload :=
  let removed := hosted.hostFunctions.lookup function
  let rolledBack :=
    { hosted with hostFunctions := hosted.hostFunctions.erase function }
  match removed with
  | none => rolledBack
  | some callback => rolledBack.dropCallback callback panics

/-- `host_function_callback` up to the call of the callback, which is shared
while it runs. -/
def hostFunctionCallback (hosted : Hosted Raw Payload) (call : HostCall Raw) :
    Except HostError Nat × Hosted Raw Payload :=
  if hosted.attached.stack = [] then
    (.error (.new "host function called outside an active RustJSI entry"),
      hosted)
  else if call.activeContext ≠ call.globalContext then
    (.error (.new "host function called with the wrong JSC context"), hosted)
  else if call.argumentCount ≠ 0 ∧ call.nullArguments then
    (.error (.new "JSC supplied null arguments"), hosted)
  else if call.argumentCount > hosted.inboundArguments then
    (.error .inboundCallbackArgumentLimitReached, hosted)
  else
    match hosted.hostFunctions.lookup call.function with
    | none => (.error (.new "host function registration is stale"), hosted)
    | some callback =>
        match call.context with
        | none =>
            -- The share that was made before this check is given back.
            (.error (.new "JSC supplied a null context"),
              { hosted with
                callbacks :=
                  (hosted.callbacks.clone callback).drop callback })
        | some _ =>
            (.ok callback,
              { hosted with
                callbacks := hosted.callbacks.clone callback
                running := ⟨callback, hosted.attached.stack.length⟩ ::
                  hosted.running })

/-- What an operation of the attachment does to the callbacks. -/
def follow (hosted : Hosted Raw Payload) (op : Op Raw Payload) (panics : Bool)
    (reply : Reply Raw Payload) (next : Attached Raw Payload) :
    Hosted Raw Payload :=
  let followed := { hosted with attached := next }
  match op with
  | .installHostFunction _ function =>
      match reply, function with
      | .begun, some function => followed.register function
      | _, _ => followed.refuse
  | .publishHostFunction _ _ =>
      match reply, hosted.attached.stack with
      | .failed _, .registering function :: _ =>
          followed.rollbackHostFunction function panics
      | _, _ => followed
  | _ =>
      if hosted.attached.teardown.isNone && next.teardown.isSome then
        followed.takeHostFunctions
      else followed

end Hosted

inductive HostedOp (Raw Payload : Type*) where
  /-- An operation of the attachment, and whether the destructor of a callback
  it rejects panics. -/
  | attachment (invocation : Invocation Raw Payload) (panics : Bool)
  | call (call : HostCall Raw)
  | returned
  | dropNext (index : Nat) (panics : Bool)

inductive HostedReply (Raw Payload : Type*) where
  | attachment (reply : Reply Raw Payload)
  /-- The callback that runs now, or the error that is thrown. -/
  | call (result : Except HostError Nat)
  | done

namespace Hosted

variable {Raw Payload : Type*} [DecidableEq Raw]

/-- The teardown goes on when all callbacks are dropped, and what waits for a
callback goes on when it has returned. -/
def admits (hosted : Hosted Raw Payload) (op : Op Raw Payload)
    (next : Attached Raw Payload) : Bool :=
  match op with
  | .advanceTeardown => hosted.dropping.isEmpty
  | _ => hosted.running.all fun run => run.height ≤ next.stack.length

def perform (engine : Engine Raw) (hosted : Hosted Raw Payload)
    (op : HostedOp Raw Payload) :
    Option (HostedReply Raw Payload × Hosted Raw Payload) :=
  match op with
  | .attachment invocation panics =>
      match hosted.attached.perform engine invocation with
      | none => none
      | some (reply, next) =>
          if hosted.admits invocation.op next then
            some (.attachment reply,
              hosted.follow invocation.op panics reply next)
          else none
  | .call call =>
      let (result, next) := hosted.hostFunctionCallback call
      some (.call result, next)
  | .returned => hosted.returned.map fun next => (.done, next)
  | .dropNext index panics =>
      (hosted.dropNext index panics).map fun next => (.done, next)

/-- A fresh attachment has no host functions. -/
structure Fresh (limits : JscRuntimeLimits) (hosted : Hosted Raw Payload) :
    Prop where
  attached : hosted.attached.Fresh limits
  hostFunctions : hosted.hostFunctions = ∅
  callbacks : hosted.callbacks = .new
  running : hosted.running = []
  dropping : hosted.dropping = []
  callbackDropPanics : hosted.callbackDropPanics = 0

end Hosted

/-- An attachment and its callbacks under one caller. -/
def hosting {Raw Payload : Type*} [DecidableEq Raw] (engine : Engine Raw) :
    Component (Hosted Raw Payload) (HostedOp Raw Payload)
      (HostedReply Raw Payload) where
  perform := Hosted.perform engine

def hostedSystem {Raw Payload : Type*} [DecidableEq Raw]
    (engine : Engine Raw) (limits : JscRuntimeLimits) :
    System (Hosted Raw Payload)
      (Exchange (HostedOp Raw Payload) (HostedReply Raw Payload)) :=
  (hosting engine).system (Hosted.Fresh limits)

end RustJsi.BackendJsc
