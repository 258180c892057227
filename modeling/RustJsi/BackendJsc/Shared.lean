import RustJsi.BackendJsc.LocalBudget
import RustJsi.BackendJsc.NativeRegistry
import RustJsi.Host.Identity

/-!
# The state of one attachment

What a runtime or an attachment keeps for its engine context: the gate that
admits entries, the registries of roots, host functions and native states, the
budget of local roots, and the queue of finalizer signals.
-/

namespace RustJsi.BackendJsc

open Counted
open RustJsi.Host (AttachmentId EntryGate HostState)

structure JsException where
  message : String
  truncated : Bool
  deriving DecidableEq, Repr

/-- A failure of a `Context` operation. -/
inductive JsError where
  | runtime (error : RuntimeError)
  | exception (exception : JsException)
  | type (expected : String)
  | backend (message : String)
  deriving DecidableEq, Repr

inductive ValueKind where
  | undefined
  | null
  | boolean
  | number
  | string
  | symbol
  | bigInt
  | object
  | function
  | buffer
  deriving DecidableEq, Repr

/-- A failure of an operation of the common backend. -/
inductive BackendError where
  | exception (exception : JsException)
  | wrongBackend
  | staleHandle
  | type (expected actual : ValueKind)
  | failure (message : String)
  deriving DecidableEq, Repr

def mapRuntimeError : RuntimeError → BackendError
  | .wrongRuntime => .wrongBackend
  | .staleHandle => .staleHandle
  | .host _ => .failure "JavaScriptCore host entry rejected"
  | .creationFailed => .failure "JavaScriptCore creation failed"
  | .nullContext => .failure "JavaScriptCore context is null"
  | .invalidated => .failure "JavaScriptCore runtime is invalid"
  | .wrongThread => .failure "JavaScriptCore runtime thread mismatch"
  | .activeEntryConflict => .failure "another RustJSI runtime entry is active"
  | .identityExhausted => .failure "runtime identity exhausted"
  | .scopeDepthExceeded => .failure "Context scope depth exceeded"
  | .persistentRootLimitReached =>
      .failure "persistent root slot limit reached"
  | .localRootLimitReached => .failure "local result root limit reached"
  | .callArgumentLimitReached => .failure "call argument limit reached"
  | .callStringDataLimitReached => .failure "call string data limit reached"
  | .externalBufferAllocationLimitReached =>
      .failure "external-buffer allocation limit reached"
  | .externalBufferByteLimitReached =>
      .failure "external-buffer byte limit reached"
  | .hostFunctionLimitReached =>
      .failure "host function registration limit reached"
  | .nativeStateRegistrationLimitReached =>
      .failure "native-state registration limit reached"

def mapJsError : JsError → BackendError
  | .runtime error => mapRuntimeError error
  | .exception exception => .exception exception
  | .type _ => .failure "JavaScriptCore type mismatch"
  | .backend message => .failure message

/-- A number is given by its bits. -/
inductive Value where
  | undefined
  | null
  | boolean (value : Bool)
  | number (bits : UInt64)
  | string (value : String)
  deriving DecidableEq, Repr

def Value.isString : Value → Bool
  | .string _ => true
  | _ => false

structure CallLimits where
  arguments : Nat
  stringUtf8Bytes : Nat
  deriving DecidableEq, Repr

namespace CallLimits

/-- The loop of `validate`, over the number of strings and their bytes. -/
def countStrings : List Value → Nat → Nat → Except RuntimeError (Nat × Nat)
  | [], stringArguments, stringUtf8Bytes =>
      .ok (stringArguments, stringUtf8Bytes)
  | .string string :: rest, stringArguments, stringUtf8Bytes =>
      match checkedAdd stringUtf8Bytes string.utf8ByteSize with
      | none => .error .callStringDataLimitReached
      | some sum => countStrings rest (stringArguments + 1) sum
  | _ :: rest, stringArguments, stringUtf8Bytes =>
      countStrings rest stringArguments stringUtf8Bytes

def validate (limits : CallLimits) (arguments : List Value) :
    Except RuntimeError Nat :=
  if arguments.length > limits.arguments then
    .error .callArgumentLimitReached
  else
    match countStrings arguments 0 0 with
    | .error error => .error error
    | .ok (stringArguments, stringUtf8Bytes) =>
        if stringUtf8Bytes > limits.stringUtf8Bytes then
          .error .callStringDataLimitReached
        else
          .ok stringArguments

theorem countStrings_eq_ok {arguments : List Value} :
    ∀ {strings bytes total totalBytes : Nat},
      countStrings arguments strings bytes = .ok (total, totalBytes) →
      total = strings + arguments.countP Value.isString := by
  induction arguments with
  | nil =>
      intro strings bytes total totalBytes counted
      cases counted
      rfl
  | cons argument rest inductionHypothesis =>
      intro strings bytes total totalBytes counted
      cases argument with
      | string string =>
          simp only [countStrings] at counted
          split at counted
          · cases counted
          · have total := inductionHypothesis counted
            rw [total, List.countP_cons_of_pos rfl]
            omega
      | undefined => exact inductionHypothesis counted
      | null => exact inductionHypothesis counted
      | boolean value => exact inductionHypothesis counted
      | number bits => exact inductionHypothesis counted

/-- A call is charged for its string arguments. -/
theorem validate_eq_ok {limits : CallLimits} {arguments : List Value}
    {strings : Nat} (valid : limits.validate arguments = .ok strings) :
    strings = arguments.countP Value.isString := by
  unfold validate at valid
  split at valid
  · cases valid
  · split at valid
    · cases valid
    · rename_i total bytes counted
      split at valid
      · cases valid
      · cases valid
        rw [countStrings_eq_ok counted, Nat.zero_add]

end CallLimits

/-- What one batch of finalizer signals amounted to. -/
structure FinalizerDrain where
  signals : Nat
  retiredNativeStates : Nat
  deriving DecidableEq, Repr

/-- The queue of finalizer signals as its owner sees it: the tokens linked so
far, the last one first, until the queue is closed. -/
structure FinalizerSignals where
  tokens : List NativeId
  closed : Bool
  deriving DecidableEq

namespace FinalizerSignals

def new : FinalizerSignals where
  tokens := []
  closed := false

/-- A producer that finds the queue closed drops its token. -/
def push (signals : FinalizerSignals) (token : NativeId) : FinalizerSignals :=
  if signals.closed then signals
  else { signals with tokens := token :: signals.tokens }

def take (signals : FinalizerSignals) :
    FinalizerSignals × List NativeId :=
  if signals.closed then (signals, [])
  else ({ signals with tokens := [] }, signals.tokens)

def close (signals : FinalizerSignals) :
    FinalizerSignals × List NativeId :=
  if signals.closed then (signals, [])
  else ({ tokens := [], closed := true }, signals.tokens)

end FinalizerSignals

/-- The pair a thread keeps of the entry it is in. -/
structure ActiveEntry where
  runtime : Option Nat
  context : Option Nat
  deriving DecidableEq, Repr

/-- A callback lives as long as its function is listed, which is its key. -/
structure Shared (Raw Payload : Type*) where
  id : AttachmentId
  /-- Where the record itself lives. -/
  address : Nat
  owner : Nat
  gate : EntryGate
  roots : RootRegistry Raw
  localBudget : LocalBudget
  callLimits : CallLimits
  hostFunctionLimit : Nat
  hostFunctions : List Raw
  nativeStates : NativeRegistry Payload
  nativeFinalizers : FinalizerSignals

/-- A weak reference, as what it upgrades to. -/
abbrev WeakShared : Type :=
  Option Nat

namespace Shared

variable {Raw Payload : Type*}

def ensureThread (shared : Shared Raw Payload) (thread : Nat) :
    Except RuntimeError Unit :=
  if shared.owner = thread then .ok () else .error .wrongThread

def ensureActive (shared : Shared Raw Payload) (thread : Nat) :
    Except RuntimeError Unit :=
  match shared.ensureThread thread with
  | .error error => .error error
  | .ok () =>
      if shared.gate.state = .active then .ok () else .error .invalidated

def ensureNoForeignActiveEntry (shared : Shared Raw Payload) (thread : Nat)
    (active : ActiveEntry) : Except RuntimeError Unit :=
  match shared.ensureThread thread with
  | .error error => .error error
  | .ok () =>
      if active.runtime = none ∨ active.runtime = some shared.address then
        .ok ()
      else
        .error .activeEntryConflict

def ensureEntryCompatible (shared : Shared Raw Payload) (thread : Nat)
    (active : ActiveEntry) (context : Nat) : Except RuntimeError Unit :=
  match shared.ensureNoForeignActiveEntry thread active with
  | .error error => .error error
  | .ok () =>
      if active.runtime = none ∨
          (active.runtime = some shared.address ∧
            active.context = some context) then
        .ok ()
      else
        .error .activeEntryConflict

/-- The check of a handle that keeps a weak reference to its runtime. -/
def ensureHandle (shared : Shared Raw Payload) (runtime : WeakShared)
    (attachment : AttachmentId) : Except RuntimeError Unit :=
  match runtime with
  | none => .error .invalidated
  | some address =>
      if attachment ≠ shared.id ∨ address ≠ shared.address then
        .error .wrongRuntime
      else
        .ok ()

/-- `Drop` of a `RootLease`. -/
def dropLease (shared : Shared Raw Payload) (thread : Nat)
    (runtime : WeakShared) (attachment : AttachmentId) (id : RootId) :
    Shared Raw Payload :=
  if runtime = some shared.address then
    if shared.id ≠ attachment ∨ shared.ensureThread thread ≠ .ok () ∨
        shared.gate.state ≠ .active then
      shared
    else
      { shared with roots := shared.roots.requestRelease id }
  else
    shared

end Shared

end RustJsi.BackendJsc
