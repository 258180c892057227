import RustJsi.BackendJsc.AttachedScopes

/-!
# Host functions, native states and teardown

The operations that keep something for as long as the attachment lives, and
the teardowns that give it back.
-/

namespace RustJsi.BackendJsc

open Counted
open RustJsi.Host (EntryGate FinalEntryOutcome GateError)

namespace Attached

variable {Raw Payload : Type*} [DecidableEq Raw]

/-- `install_host_function` up to the publication.  A function that is listed
already keeps its place. -/
def installHostFunction (attached : Attached Raw Payload) (thread : Nat)
    (name : Bool) (function : Option Raw) :
    Reply Raw Payload × Attached Raw Payload :=
  match attached.shared.ensureActive thread with
  | .error error => (.failed (.js (.runtime error)), attached)
  | .ok () =>
      if attached.shared.hostFunctions.length ≥
          attached.shared.hostFunctionLimit then
        (.failed (.js (.runtime .hostFunctionLimitReached)), attached)
      else
        match jsString name with
        | .error error => (.failed (.js error), attached)
        | .ok () =>
            match function with
            | none =>
                (.failed (.js (.backend
                  "JavaScriptCore returned a null host function")), attached)
            | some function =>
                let next : Attached Raw Payload :=
                  { attached with
                    shared.hostFunctions :=
                      attached.shared.hostFunctions.insert function }
                (.begun, (next.protect function).withStack
                  (.registering function :: attached.stack))

def rollbackHostFunction (attached : Attached Raw Payload) (function : Raw) :
    Attached Raw Payload :=
  { attached with
    shared.hostFunctions :=
      attached.shared.hostFunctions.erase function }.unprotect function

/-- The publication of a host function, which a null global object or the
setter of a property may refuse. -/
def publishHostFunction (attached : Attached Raw Payload) (function : Raw)
    (rest : List (Activation Raw Payload)) (global : Bool)
    (exception : Option JsException) :
    Reply Raw Payload × Attached Raw Payload :=
  if !global then
    (.failed (.js (.backend "JavaScriptCore returned a null global object")),
      (attached.rollbackHostFunction function).withStack rest)
  else
    match exception with
    | some exception =>
        (.failed (.js (.exception exception)),
          (attached.rollbackHostFunction function).withStack rest)
    | none => (.installedFunction function, attached.withStack rest)

omit [DecidableEq Raw]

/-- `try_install_native_state` up to the making of the class. -/
def tryInstallNativeState (attached : Attached Raw Payload) (thread : Nat)
    (state : NativeState Payload) :
    Reply Raw Payload × Attached Raw Payload :=
  match attached.shared.ensureActive thread with
  | .error error => (.rejected state error, attached)
  | .ok () =>
      match attached.shared.nativeStates.insert state attached.heap with
      | .error panic => (.faulted (.panicked panic), attached)
      | .ok (_, _, .error state) =>
          (.rejected state .nativeStateRegistrationLimitReached, attached)
      | .ok (registry, heap, .ok id) =>
          (.begun,
            { attached with
              shared.nativeStates := registry
              heap := heap
              stack := .creating id :: attached.stack })

/-- The state is taken back out of the registry, and destroyed. -/
def removeNativeState (attached : Attached Raw Payload) (id : NativeId) :
    Attached Raw Payload :=
  let (registry, state) := attached.shared.nativeStates.remove id
  { attached with shared.nativeStates := registry }.dropState state

/-- The class and the object of a native state. -/
def makeNativeObject (attached : Attached Raw Payload) (id : NativeId)
    (rest : List (Activation Raw Payload)) (made : Bool)
    (object : Option Raw) : Reply Raw Payload × Attached Raw Payload :=
  if !made then
    (.failed (.js (.backend "JavaScriptCore class creation failed")),
      (attached.removeNativeState id).withStack rest)
  else
    match object with
    | none =>
        (.failed (.js (.backend "JavaScriptCore object creation failed")),
          (attached.removeNativeState id).withStack rest)
    | some object =>
        (.begun, (attached.protect object).withStack
          (.publishing object id :: rest))

/-- `rollback_native_object`; the state stays with a token that the engine
keeps. -/
def rollbackNativeObject (engine : Engine Raw)
    (attached : Attached Raw Payload) (object : Raw) (id : NativeId)
    (error : JsError) (rest : List (Activation Raw Payload)) :
    Reply Raw Payload × Attached Raw Payload :=
  if engine.objectSetPrivate object then
    (.begun,
      (attached.removeNativeState id).withStack
        (.rolledBack object error :: rest))
  else
    (.begun, attached.withStack (.rolledBack object error :: rest))

/-- The publication of the object, under a name the engine may refuse. -/
def publishNativeObject (engine : Engine Raw)
    (attached : Attached Raw Payload) (object : Raw) (id : NativeId)
    (rest : List (Activation Raw Payload)) (name global : Bool)
    (exception : Option JsException) :
    Reply Raw Payload × Attached Raw Payload :=
  match jsString name with
  | .error error => attached.rollbackNativeObject engine object id error rest
  | .ok () =>
      if !global then
        attached.rollbackNativeObject engine object id
          (.backend "JavaScriptCore returned a null global object") rest
      else
        match exception with
        | some exception =>
            attached.rollbackNativeObject engine object id
              (.exception exception) rest
        | none =>
            (.installedState id,
              (attached.unprotect object).withStack rest)

/-- The `PublicationRoot` is dropped after a rollback. -/
def endRollback (attached : Attached Raw Payload) (object : Raw)
    (error : JsError) (rest : List (Activation Raw Payload)) :
    Reply Raw Payload × Attached Raw Payload :=
  (.failed (.js error), (attached.unprotect object).withStack rest)

/-- `with_native_state` up to the user's operation. -/
def withNativeState (attached : Attached Raw Payload) (thread : Nat)
    (handle : NativeObject) : Reply Raw Payload × Attached Raw Payload :=
  match attached.shared.ensureActive thread with
  | .error error => (.failed (.js (.runtime error)), attached)
  | .ok () =>
      match handle.runtime with
      | none => (.failed (.js (.runtime .invalidated)), attached)
      | some address =>
          if address ≠ attached.shared.address then
            (.failed (.js (.runtime .wrongRuntime)), attached)
          else
            match attached.shared.nativeStates.get handle.typeId handle.id with
            | none => (.failed (.js (.runtime .staleHandle)), attached)
            | some lease =>
                (.leased lease.state,
                  { attached with
                    heap := attached.heap.clone lease.box
                    stack := .operating lease :: attached.stack })

/-- `Drop` of a `NativeLease`, on return or unwind. -/
def endOperation (attached : Attached Raw Payload) (lease : AnyRc Payload)
    (rest : List (Activation Raw Payload)) :
    Reply Raw Payload × Attached Raw Payload :=
  (.done, (attached.dropState (some lease)).withStack rest)

/-- `native_state_finalize`, or a signal that should not have been sent. -/
def signal (attached : Attached Raw Payload) (token : NativeId) :
    Reply Raw Payload × Attached Raw Payload :=
  (.done,
    { attached with
      shared.nativeFinalizers := attached.shared.nativeFinalizers.push token })

/-! ## Teardown -/

/-- `release_engine_resources` up to the dropping of the callbacks. -/
def releaseEngineResources (attached : Attached Raw Payload)
    (kind : TeardownKind) : Attached Raw Payload :=
  let (registry, roots) := attached.shared.roots.drain
  let functions := attached.shared.hostFunctions
  let released : Attached Raw Payload :=
    { attached with
      shared.roots := registry
      shared.hostFunctions := []
      teardown := some {
        kind := kind
        roots := roots.length
        functions := functions.length
        finalEntry := none
        phase := .closing } }
  released.unprotectAll (roots ++ functions)

/-- `abandon_engine_resources` up to the dropping of the callbacks. -/
def abandonEngineResources (attached : Attached Raw Payload)
    (kind : TeardownKind) (finalEntry : Option FinalEntryOutcome) :
    Attached Raw Payload :=
  let (registry, roots) := attached.shared.roots.drain
  let functions := attached.shared.hostFunctions
  { attached with
    shared.roots := registry
    shared.hostFunctions := []
    abandoned := attached.abandoned ++ (roots ++ functions)
    teardown := some {
      kind := kind
      roots := roots.length
      functions := functions.length
      finalEntry := finalEntry
      phase := .closing } }

/-- A teardown that may enter the engine begins. -/
def beginCleanup (attached : Attached Raw Payload) (kind : TeardownKind) :
    Reply Raw Payload × Attached Raw Payload :=
  let draining := attached.withGate attached.shared.gate.requestDrain
  match draining.shared.gate.tryBeginCleanup with
  | (.error error, gate) =>
      (.failed (.runtime (.host error)), draining.withGate gate)
  | (.ok _, gate) =>
      (.begun, (draining.withGate gate).releaseEngineResources kind)

/-- `destroy_owned_runtime`. -/
def destroyOwnedRuntime (attached : Attached Raw Payload) :
    Reply Raw Payload × Attached Raw Payload :=
  attached.beginCleanup .owned

/-- `Runtime::invalidate`, where the context group may be known not to be the
one of the active entry. -/
def invalidate (attached : Attached Raw Payload) (thread : Nat)
    (context : Option Nat) (active : ActiveEntry) (independent : Bool) :
    Reply Raw Payload × Attached Raw Payload :=
  match attached.shared.ensureThread thread with
  | .error error => (.failed (.runtime error), attached)
  | .ok () =>
      if attached.shared.gate.state = .destroyed then
        (.invalidated, attached)
      else
        match context with
        | none => (.failed (.runtime .invalidated), attached)
        | some context =>
            match attached.shared.ensureEntryCompatible thread active
                context with
            | .error error =>
                if error ≠ .activeEntryConflict ∨ !independent then
                  (.failed (.runtime error), attached)
                else
                  attached.destroyOwnedRuntime
            | .ok () => attached.destroyOwnedRuntime

/-- `empty_report`. -/
def emptyReport (attached : Attached Raw Payload) : DetachReport where
  finalEntry := attached.shared.gate.finalEntry.getD .unavailable
  settled := ⟨0, 0, 0⟩
  unresolved := ⟨0, 0, 0⟩
  drainedNativeFinalizerSignals := 0

def detachWithContext (attached : Attached Raw Payload) (thread : Nat)
    (supplied : Option Nat) (active : ActiveEntry) :
    Reply Raw Payload × Attached Raw Payload :=
  match attached.shared.ensureThread thread with
  | .error error => (.failed (.runtime error), attached)
  | .ok () =>
      match supplied with
      | none => (.failed (.runtime .nullContext), attached)
      | some context =>
          match attached.shared.ensureEntryCompatible thread active context with
          | .error error => (.failed (.runtime error), attached)
          | .ok () =>
              if attached.shared.gate.state = .destroyed then
                (.detached attached.emptyReport, attached)
              else
                attached.beginCleanup .withContext

def detachWithoutContext (attached : Attached Raw Payload) (thread : Nat) :
    Reply Raw Payload × Attached Raw Payload :=
  match attached.shared.ensureThread thread with
  | .error error => (.failed (.runtime error), attached)
  | .ok () =>
      if attached.shared.gate.state = .destroyed then
        (.detached attached.emptyReport, attached)
      else
        let draining := attached.withGate attached.shared.gate.requestDrain
        match draining.shared.gate.finishDrain with
        | (.error error, gate) =>
            (.failed (.runtime (.host error)), draining.withGate gate)
        | (.ok finalEntry, gate) =>
            (.begun, (draining.withGate gate).abandonEngineResources
              .withoutContext (some finalEntry))

/-- `Drop` of an `Attachment`. -/
def dropAttachment (attached : Attached Raw Payload) :
    Reply Raw Payload × Attached Raw Payload :=
  let attached := { attached with owner := .gone }
  if attached.shared.gate.state = .destroyed then
    (.done, attached)
  else
    let draining := attached.withGate attached.shared.gate.requestDrain
    match draining.shared.gate.finishDrain with
    | (.ok finalEntry, gate) =>
        (.begun, (draining.withGate gate).abandonEngineResources
          (.dropped true) (some finalEntry))
    | (.error _, gate) =>
        (.begun, (draining.withGate gate).abandonEngineResources
          (.dropped false) none)

def withPhase (attached : Attached Raw Payload) (teardown : Teardown Payload)
    (phase : TeardownPhase Payload) : Attached Raw Payload :=
  { attached with teardown := some { teardown with phase := phase } }

/-- `retire_native_states` up to the first state it drops. -/
def retireNativeStates (attached : Attached Raw Payload)
    (teardown : Teardown Payload) (report : FinalizerDrain) :
    Attached Raw Payload :=
  let (registry, states) := attached.shared.nativeStates.drain
  { attached with shared.nativeStates := registry }.withPhase teardown
    (.retiring states report (report.retiredNativeStates + states.length))

/-- The cleanup is over: the drain is finished, and a `Runtime` releases its
context. -/
def completeCleanup (attached : Attached Raw Payload)
    (teardown : Teardown Payload) (report : FinalizerDrain) :
    Reply Raw Payload × Attached Raw Payload :=
  let completed := attached.withGate attached.shared.gate.complete
  match completed.shared.gate.finishDrain with
  | (.error error, gate) =>
      (.failed (.runtime (.host error)),
        { completed.withGate gate with teardown := none })
  | (.ok finalEntry, gate) =>
      (.begun, (completed.withGate gate).retireNativeStates
        { teardown with finalEntry := some finalEntry } report)

/-- The report of a detach. -/
def report (teardown : Teardown Payload) (report : FinalizerDrain)
    (retiredNativeStates : Nat) : DetachReport where
  finalEntry := teardown.finalEntry.getD .unavailable
  settled :=
    match teardown.kind with
    | .withContext =>
        ⟨teardown.roots, teardown.functions, retiredNativeStates⟩
    | _ => ⟨0, 0, retiredNativeStates⟩
  unresolved :=
    match teardown.kind with
    | .withContext => ⟨0, 0, 0⟩
    | _ => ⟨teardown.roots, teardown.functions, 0⟩
  drainedNativeFinalizerSignals := report.signals

/-- The end of a teardown, which names the attachment destroyed. -/
def finish (attached : Attached Raw Payload) (teardown : Teardown Payload)
    (drain : FinalizerDrain) (retiredNativeStates : Nat) :
    Reply Raw Payload × Attached Raw Payload :=
  let ended := { attached with teardown := none }
  match teardown.kind with
  | .dropped false => (.done, ended)
  | .dropped true =>
      (.done, ended.withGate ended.shared.gate.markDestroyed.2)
  | .owned =>
      match ended.shared.gate.markDestroyed with
      | (.error error, gate) =>
          (.failed (.runtime (.host error)), ended.withGate gate)
      | (.ok (), gate) =>
          (.invalidated,
            { ended.withGate gate with owner := .runtime none })
  | .withContext | .withoutContext =>
      match ended.shared.gate.markDestroyed with
      | (.error error, gate) =>
          (.failed (.runtime (.host error)), ended.withGate gate)
      | (.ok (), gate) =>
          (.detached (Attached.report teardown drain retiredNativeStates),
            ended.withGate gate)

/-- The next step of a teardown; user destructors run before it. -/
def advanceTeardown (attached : Attached Raw Payload)
    (teardown : Teardown Payload) :
    Reply Raw Payload × Attached Raw Payload :=
  match teardown.phase with
  | .closing =>
      let (signals, tokens) := attached.shared.nativeFinalizers.close
      (.begun,
        { attached with shared.nativeFinalizers := signals }.withPhase
          teardown (.reclaiming tokens ⟨0, 0⟩))
  | .reclaiming (token :: tokens) report =>
      let (report, next) := attached.reclaimOne token report
      (.begun, next.withPhase teardown (.reclaiming tokens report))
  | .reclaiming [] report =>
      match teardown.kind with
      | .owned | .withContext => attached.completeCleanup teardown report
      | .withoutContext | .dropped _ =>
          (.begun, attached.retireNativeStates teardown report)
  | .retiring (state :: states) report retired =>
      (.begun, (attached.dropState (some state)).withPhase teardown
        (.retiring states report retired))
  | .retiring [] report retired => attached.finish teardown report retired

end Attached

end RustJsi.BackendJsc
