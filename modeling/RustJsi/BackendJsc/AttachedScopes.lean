import RustJsi.BackendJsc.Attached

/-!
# Entries, scopes and local values

The operations of a `Context` and of a scope of the common backend, each cut
where the engine or user code runs.
-/

namespace RustJsi.BackendJsc

open Counted
open RustJsi.Host (EntryGate)

namespace Attached

variable {Raw Payload : Type*}

/-- The context of an entry: the one a `Runtime` owns, or the one the host
supplies. -/
def entryContext (attached : Attached Raw Payload) (supplied : Option Nat) :
    Except RuntimeError Nat :=
  match attached.owner with
  | .runtime none => .error .invalidated
  | .runtime (some context) => .ok context
  | .host =>
      match supplied with
      | none => .error .nullContext
      | some context => .ok context
  | .gone => .error .invalidated

/-- `with_context` and `with_backend` up to their `ActiveEntryFrame`. -/
def enter (attached : Attached Raw Payload) (thread : Nat)
    (supplied : Option Nat) (active : ActiveEntry) :
    Reply Raw Payload × Attached Raw Payload :=
  match attached.shared.ensureActive thread with
  | .error error => (.failed (.runtime error), attached)
  | .ok () =>
      match attached.entryContext supplied with
      | .error error => (.failed (.runtime error), attached)
      | .ok context =>
          match attached.shared.ensureEntryCompatible thread active context with
          | .error error => (.failed (.runtime error), attached)
          | .ok () =>
              match attached.shared.gate.tryEnter with
              | (.error error, gate) =>
                  (.failed (.runtime (.host error)), attached.withGate gate)
              | (.ok _, gate) =>
                  (.begun, (attached.withGate gate).withStack
                    (.entry :: attached.stack))

/-- `Drop` of an `ActiveEntryFrame`, on return or unwind. -/
def leave (attached : Attached Raw Payload)
    (rest : List (Activation Raw Payload)) :
    Reply Raw Payload × Attached Raw Payload :=
  (.done,
    (attached.withGate attached.shared.gate.dropEntry).withStack rest)

/-- `drain_native_finalizers`, which takes the queue and reclaims it. -/
def drainNativeFinalizers (attached : Attached Raw Payload) :
    Reply Raw Payload × Attached Raw Payload :=
  let (signals, tokens) := attached.shared.nativeFinalizers.take
  (.begun,
    { attached with
      shared.nativeFinalizers := signals
      stack := .reclaiming tokens ⟨0, 0⟩ :: attached.stack })

/-- One round of the loop of `reclaim_finalized`. -/
def reclaimOne (attached : Attached Raw Payload) (token : NativeId)
    (report : FinalizerDrain) : FinalizerDrain × Attached Raw Payload :=
  let (registry, state) := attached.shared.nativeStates.remove token
  ({ signals := report.signals + 1
     retiredNativeStates := report.retiredNativeStates + state.isSome.toNat },
    { attached with shared.nativeStates := registry }.dropState state)

def reclaim (attached : Attached Raw Payload) (tokens : List NativeId)
    (report : FinalizerDrain) (rest : List (Activation Raw Payload)) :
    Reply Raw Payload × Attached Raw Payload :=
  match tokens with
  | [] => (.drained report, attached.withStack rest)
  | token :: tokens =>
      let (report, next) := attached.reclaimOne token report
      (.begun, next.withStack (.reclaiming tokens report :: rest))

/-- One round of the loop of `drain_root_releases`. -/
def drainRootReleases (attached : Attached Raw Payload) :
    Reply Raw Payload × Attached Raw Payload :=
  match attached.shared.roots.takePending with
  | .error panic => (.faulted (.panicked panic), attached)
  | .ok (registry, value) =>
      let next := { attached with shared.roots := registry }
      match value with
      | none => (.done, next)
      | some value => (.done, next.unprotect value)

/-- The `Context` that an entry lends. -/
def lendContext (attached : Attached Raw Payload) :
    Reply Raw Payload × Attached Raw Payload :=
  (.begun, attached.withStack (.context .new 0 :: attached.stack))

def openScope (attached : Attached Raw Payload) (thread : Nat) :
    Reply Raw Payload × Attached Raw Payload :=
  match attached.shared.ensureActive thread with
  | .error error => (.failed (.backend (mapRuntimeError error)), attached)
  | .ok () => (.begun, attached.withStack (.scope .new :: attached.stack))

def maxScopeDepth : Nat :=
  64

def withScope (attached : Attached Raw Payload) (thread : Nat)
    (scopeDepth : Nat) : Reply Raw Payload × Attached Raw Payload :=
  match attached.shared.ensureActive thread with
  | .error error => (.failed (.runtime error), attached)
  | .ok () =>
      if scopeDepth ≥ maxScopeDepth then
        (.failed (.runtime .scopeDepthExceeded), attached)
      else
        (.begun,
          attached.withStack (.context .new (scopeDepth + 1) ::
            attached.stack))

/-- The loop of `Drop` of a `Context` and of a `JscScope`. -/
def dropRoots (attached : Attached Raw Payload) :
    List Raw → Except Fault (Attached Raw Payload)
  | [] => .ok attached
  | value :: rest =>
      let unprotected := attached.unprotect value
      match unprotected.shared.localBudget.release with
      | .error fault => .error fault
      | .ok budget => (unprotected.withBudget budget).dropRoots rest

/-- A context or a scope ends, on return or unwind. -/
def close (attached : Attached Raw Payload) (roots : LocalRoots Raw)
    (rest : List (Activation Raw Payload)) :
    Reply Raw Payload × Attached Raw Payload :=
  attached.orFault (attached.dropRoots roots.values) fun next =>
    (.done, next.withStack rest)

/-! ## Local values -/

/-- `JsString::new`, which the engine may refuse. -/
def jsString (created : Bool) : Except JsError Unit :=
  if created then .ok ()
  else .error (.backend "JavaScriptCore string creation failed")

def jsStrings : List Bool → Except JsError Unit
  | [] => .ok ()
  | created :: rest =>
      match jsString created with
      | .error error => .error error
      | .ok () => jsStrings rest

/-- `Context::root_local`. -/
def rootLocal (engine : Engine Raw) (value : Raw) : Settled Raw :=
  match engine.valueGetType value with
  | .undefined | .null | .boolean | .number => .scalar value
  | _ => .managed value

/-- `Context::local_or_exception`. -/
def localOrException (engine : Engine Raw) (value : Option Raw)
    (exception : Option JsException) : Except JsError (Settled Raw) :=
  match exception with
  | some exception => .error (.exception exception)
  | none =>
      match value with
      | none => .error (.backend "JavaScriptCore returned a null value")
      | some value => .ok (rootLocal engine value)

/-- `JscScope::rooted`. -/
def rootedValue (value : Option Raw) : Except BackendError (Settled Raw) :=
  match value with
  | none => .error (.failure "JavaScriptCore returned a null value")
  | some value => .ok (.managed value)

/-- `JscScope::local_result`. -/
def localResult (engine : Engine Raw) (value : Option Raw) :
    Except BackendError (Settled Raw) :=
  match value with
  | none =>
      .error (.failure
        "JavaScriptCore returned a null value without an exception")
  | some value =>
      match engine.valueGetType value with
      | .string | .object | .symbol | .bigInt => .ok (.managed value)
      | _ => .ok (.scalar value)

/-- The result of an operation, from the value and the exception of the
engine.  A string is made without an exception, and a buffer is made
elsewhere. -/
def produced (engine : Engine Raw) (production : Production)
    (value : Option Raw) (exception : Option JsException) :
    Except Failure (Settled Raw) :=
  match production with
  | .eval => (localOrException engine value exception).mapError .js
  | .string | .externalize => (rootedValue value).mapError .backend
  | .evaluate =>
      match exception with
      | some exception => .error (.backend (.exception exception))
      | none => (rootedValue value).mapError .backend
  | .call =>
      match exception with
      | some exception => .error (.backend (.exception exception))
      | none => (localResult engine value).mapError .backend

/-- Reserve a slot, and start the operation it is for. -/
def produce (attached : Attached Raw Payload) (production : Production)
    (refuse : RuntimeError → Failure) (prepared : Except Failure Unit) :
    Reply Raw Payload × Attached Raw Payload :=
  match attached.shared.localBudget.reserve with
  | .error error => (.failed (refuse error), attached)
  | .ok (budget, reservation) =>
      match prepared with
      | .error failure =>
          attached.orFault (reservation.drop budget) fun budget =>
            (.failed failure, attached.withBudget budget)
      | .ok () =>
          (.begun, (attached.withBudget budget).withStack
            (.producing production reservation :: attached.stack))

/-- What is done with a reserved slot: a managed value is rooted in the scope
and keeps it, anything else gives it back. -/
def settle (attached : Attached Raw Payload)
    (holder : Activation Raw Payload) (rest : List (Activation Raw Payload))
    (reservation : Reservation) (result : Except Failure (Settled Raw)) :
    Option (Reply Raw Payload × Attached Raw Payload) :=
  match result with
  | .error failure =>
      some (attached.orFault (reservation.drop attached.shared.localBudget)
        fun budget =>
          (.failed failure, (attached.withBudget budget).withStack
            (holder :: rest)))
  | .ok (.scalar value) =>
      some (attached.orFault (reservation.drop attached.shared.localBudget)
        fun budget =>
          (.scalar value, (attached.withBudget budget).withStack
            (holder :: rest)))
  | .ok (.managed value) =>
      (holder.hold value).map fun holder =>
        let next := (attached.withStack (holder :: rest)).protect value
        attached.orFault (reservation.commit.drop next.shared.localBudget)
          fun budget => (.rooted value, next.withBudget budget)

def eval (attached : Attached Raw Payload) (thread : Nat)
    (script url : Bool) : Reply Raw Payload × Attached Raw Payload :=
  match attached.shared.ensureActive thread with
  | .error error => (.failed (.js (.runtime error)), attached)
  | .ok () =>
      attached.produce .eval (fun error => .js (.runtime error))
        ((jsStrings [script, url]).mapError .js)

def string (attached : Attached Raw Payload) (created : Bool) :
    Reply Raw Payload × Attached Raw Payload :=
  attached.produce .string (fun error => .backend (mapRuntimeError error))
    ((jsString created).mapError fun error => .backend (mapJsError error))

def evaluate (attached : Attached Raw Payload) (script url : Bool) :
    Reply Raw Payload × Attached Raw Payload :=
  attached.produce .evaluate (fun error => .backend (mapRuntimeError error))
    ((jsStrings [script, url]).mapError fun error =>
      .backend (mapJsError error))

def ensureValue (attached : Attached Raw Payload) (value : JscValue Raw) :
    Except BackendError Unit :=
  if value.attachment = attached.shared.id then .ok ()
  else .error .wrongBackend

def ensureRoot (attached : Attached Raw Payload) (root : JscRoot) :
    Except BackendError Unit :=
  if root.attachment = attached.shared.id then .ok ()
  else .error .wrongBackend

def rawKind (engine : Engine Raw) (value : Raw) :
    Except BackendError ValueKind :=
  match engine.valueGetType value with
  | .undefined => .ok .undefined
  | .null => .ok .null
  | .boolean => .ok .boolean
  | .number => .ok .number
  | .string => .ok .string
  | .symbol => .ok .symbol
  | .bigInt => .ok .bigInt
  | .object => engine.objectKind value
  | .unknown _ => .error (.failure "JavaScriptCore returned an unknown value type")

/-- The function of a call, which has to be one. -/
def ensureFunction (engine : Engine Raw) (attached : Attached Raw Payload)
    (function : JscValue Raw) : Except BackendError Unit :=
  match attached.ensureValue function with
  | .error error => .error error
  | .ok () =>
      match rawKind engine function.raw with
      | .error error => .error error
      | .ok actual =>
          if actual ≠ .function then .error (.type .function actual)
          else .ok ()

/-- The receiver of a call, if it is not the global object. -/
def ensureReceiver (engine : Engine Raw) (attached : Attached Raw Payload)
    (receiver : Option (JscValue Raw)) : Except BackendError Unit :=
  match receiver with
  | none => .ok ()
  | some receiver =>
      match attached.ensureValue receiver with
      | .error error => .error error
      | .ok () =>
          match rawKind engine receiver.raw with
          | .error error => .error error
          | .ok actual =>
              if actual = .object ∨ actual = .function ∨ actual = .buffer then
                .ok ()
              else .error (.type .object actual)

def ensureArguments (attached : Attached Raw Payload) :
    List (JscValue Raw) → Except BackendError Unit
  | [] => .ok ()
  | argument :: rest =>
      match attached.ensureValue argument with
      | .error error => .error error
      | .ok () => attached.ensureArguments rest

/-- `JscScope::call`. -/
def callValue (engine : Engine Raw) (attached : Attached Raw Payload)
    (function : JscValue Raw) (receiver : Option (JscValue Raw))
    (arguments : List (JscValue Raw)) :
    Reply Raw Payload × Attached Raw Payload :=
  match ensureFunction engine attached function with
  | .error error => (.failed (.backend error), attached)
  | .ok () =>
      match ensureReceiver engine attached receiver with
      | .error error => (.failed (.backend error), attached)
      | .ok () =>
          match attached.ensureArguments arguments with
          | .error error => (.failed (.backend error), attached)
          | .ok () =>
              attached.produce .call
                (fun error => .backend (mapRuntimeError error)) (.ok ())

/-- The ledger of external buffers may refuse the bytes. -/
def externalize (attached : Attached Raw Payload)
    (reserved : Except RuntimeError Unit) :
    Reply Raw Payload × Attached Raw Payload :=
  attached.produce .externalize
    (fun error => .rejected (mapRuntimeError error))
    (reserved.mapError fun error => .rejected (mapRuntimeError error))

/-- What `externalize` does with the object it made, or could not make. -/
def externalized (object : Except JsError Raw) :
    Except Failure (Settled Raw) :=
  match object with
  | .error error => .error (.accepted (mapJsError error))
  | .ok object => .ok (.managed object)

def persist (attached : Attached Raw Payload) (thread : Nat)
    (value : Local Raw) : Reply Raw Payload × Attached Raw Payload :=
  match attached.shared.ensureActive thread with
  | .error error => (.failed (.js (.runtime error)), attached)
  | .ok () =>
      if value.attachment ≠ attached.shared.id then
        (.failed (.js (.runtime .wrongRuntime)), attached)
      else
        match attached.shared.roots.insert value.value with
        | .error panic => (.faulted (.panicked panic), attached)
        | .ok (_, .error error) => (.failed (.js (.runtime error)), attached)
        | .ok (registry, .ok id) =>
            (.persisted id,
              { attached with shared.roots := registry }.protect value.value)

/-- `RootScope::persist`. -/
def persistValue (attached : Attached Raw Payload) (value : JscValue Raw) :
    Reply Raw Payload × Attached Raw Payload :=
  match attached.ensureValue value with
  | .error error => (.failed (.backend error), attached)
  | .ok () =>
      match attached.shared.roots.insert value.raw with
      | .error panic => (.faulted (.panicked panic), attached)
      | .ok (_, .error error) =>
          (.failed (.backend (mapRuntimeError error)), attached)
      | .ok (registry, .ok id) =>
          (.persisted id,
            { attached with shared.roots := registry }.protect value.raw)

def resolve (engine : Engine Raw) (attached : Attached Raw Payload)
    (holder : Activation Raw Payload) (rest : List (Activation Raw Payload))
    (lease : RootLease) :
    Option (Reply Raw Payload × Attached Raw Payload) :=
  match attached.shared.ensureHandle lease.runtime lease.attachment with
  | .error error => some (.failed (.js (.runtime error)), attached)
  | .ok () =>
      match attached.shared.roots.get lease.id with
      | none => some (.failed (.js (.runtime .staleHandle)), attached)
      | some value =>
          match attached.shared.localBudget.reserve with
          | .error error => some (.failed (.js (.runtime error)), attached)
          | .ok (budget, reservation) =>
              (attached.withBudget budget).settle holder rest reservation
                (.ok (rootLocal engine value))

/-- `RootScope::resolve`. -/
def resolveRoot (attached : Attached Raw Payload)
    (holder : Activation Raw Payload) (rest : List (Activation Raw Payload))
    (root : JscRoot) : Option (Reply Raw Payload × Attached Raw Payload) :=
  match attached.ensureRoot root with
  | .error error => some (.failed (.backend error), attached)
  | .ok () =>
      match attached.shared.roots.get root.id with
      | none => some (.failed (.backend .staleHandle), attached)
      | some value =>
          match attached.shared.localBudget.reserve with
          | .error error =>
              some (.failed (.backend (mapRuntimeError error)), attached)
          | .ok (budget, reservation) =>
              (attached.withBudget budget).settle holder rest reservation
                (.ok (.managed value))

/-- `RootScope::release`. -/
def release (attached : Attached Raw Payload) (root : JscRoot) :
    Reply Raw Payload × Attached Raw Payload :=
  match attached.ensureRoot root with
  | .error error => (.failed (.backend error), attached)
  | .ok () =>
      match attached.shared.roots.remove root.id with
      | (_, none) => (.failed (.backend .staleHandle), attached)
      | (registry, some value) =>
          (.done,
            { attached with shared.roots := registry }.unprotect value)

variable [DecidableEq Raw]

def call (attached : Attached Raw Payload) (function : HostFunction Raw)
    (arguments : List Value) : Reply Raw Payload × Attached Raw Payload :=
  match attached.shared.ensureHandle function.runtime function.attachment with
  | .error error => (.failed (.js (.runtime error)), attached)
  | .ok () =>
      if function.key ∉ attached.shared.hostFunctions then
        (.failed (.js (.runtime .staleHandle)), attached)
      else
        match attached.shared.callLimits.validate arguments with
        | .error error => (.failed (.js (.runtime error)), attached)
        | .ok stringArguments =>
            match attached.shared.localBudget.reserve with
            | .error error => (.failed (.js (.runtime error)), attached)
            | .ok (budget, reservation) =>
                match budget.reserveMany stringArguments with
                | .error error =>
                    attached.orFault (reservation.drop budget) fun budget =>
                      (.failed (.js (.runtime error)),
                        attached.withBudget budget)
                | .ok (budget, argumentReservation) =>
                    (.begun, (attached.withBudget budget).withStack
                      (.calling ⟨function.key, reservation,
                        argumentReservation, arguments, []⟩ ::
                        attached.stack))

omit [DecidableEq Raw] in
/-- The argument roots and the slots reserved for them are given back. -/
def dropArguments (attached : Attached Raw Payload) (call : CallFrame Raw)
    (reply : Reply Raw Payload) : Reply Raw Payload × Attached Raw Payload :=
  let unprotected := attached.unprotectAll call.argumentRoots
  attached.orFault
    (call.argumentReservation.drop unprotected.shared.localBudget)
    fun budget => (reply, unprotected.withBudget budget)

/-- An early return, or an unwind, of a call from Rust. -/
def abandonCall (attached : Attached Raw Payload) (call : CallFrame Raw)
    (rest : List (Activation Raw Payload)) (reply : Reply Raw Payload) :
    Reply Raw Payload × Attached Raw Payload :=
  let unprotected := attached.unprotectAll call.argumentRoots
  unprotected.orFault
    (call.argumentReservation.drop unprotected.shared.localBudget)
    fun budget =>
      unprotected.orFault (call.reservation.drop budget) fun budget =>
        (reply, (unprotected.withBudget budget).withStack rest)

/-- `prepare_argument` of the next argument: only a string asks the engine for
a value that needs a root. -/
def prepareArgument (attached : Attached Raw Payload) (call : CallFrame Raw)
    (rest : List (Activation Raw Payload)) (created : Bool)
    (value : Option Raw) :
    Option (Reply Raw Payload × Attached Raw Payload) :=
  match call.arguments with
  | [] => none
  | .string _ :: arguments =>
      match jsString created with
      | .error error =>
          some (attached.abandonCall call rest (.failed (.js error)))
      | .ok () =>
          match value with
          | none =>
              some (attached.abandonCall call rest (.failed (.js (.backend
                "JavaScriptCore returned a null string value"))))
          | some value =>
              some (.begun, (attached.protect value).withStack
                (.calling { call with
                  arguments := arguments
                  argumentRoots := call.argumentRoots ++ [value] } :: rest))
  | _ :: arguments =>
      some (.begun, attached.withStack
        (.calling { call with arguments := arguments } :: rest))

/-- The end of `Context::call`, once the engine has returned. -/
def called (engine : Engine Raw) (attached : Attached Raw Payload)
    (call : CallFrame Raw) (holder : Activation Raw Payload)
    (rest : List (Activation Raw Payload)) (value : Option Raw)
    (exception : Option JsException) :
    Option (Reply Raw Payload × Attached Raw Payload) :=
  (attached.settle holder rest call.reservation
    ((localOrException engine value exception).mapError .js)).map
      fun (reply, next) => next.dropArguments call reply

end Attached

end RustJsi.BackendJsc
