import RustJsi.BackendJsc.EngineString
import RustJsi.Interleaving.Component
import RustJsi.Interleaving.Counting

/-!
# Strings read by a callback

A callback may copy a limited number of bytes out of its string arguments.
The engine is asked to convert one byte more than remains, so that a string
that does not fit is found incomplete.
-/

namespace RustJsi.Host

/-- `Debug` of a state. -/
def HostState.debug : HostState → String
  | .active => "Active"
  | .draining => "Draining"
  | .invalid => "Invalid"
  | .destroyed => "Destroyed"

def GateError.display : GateError → String
  | .notActive state => "host is not active: " ++ state.debug
  | .depthLimit => "host entry depth limit reached"
  | .entriesRemain count => toString count ++ " host entries remain"
  | .cleanupInProgress => "host cleanup entry remains"
  | .finalEntryRequired => "guaranteed final host entry has not completed"
  | .finalEntryUnavailable => "host does not provide a final engine entry"
  | .finalEntryComplete => "host final-entry cleanup already completed"
  | .invalidTransition state operation =>
      "cannot " ++ operation ++ " while host is " ++ state.debug

end RustJsi.Host

namespace RustJsi.BackendJsc

open Text Interleaving

def RuntimeError.display : RuntimeError → String
  | .creationFailed => "JavaScriptCore runtime creation failed"
  | .nullContext => "host supplied a null JavaScriptCore context"
  | .invalidated => "runtime is invalidated"
  | .wrongThread => "runtime entered from the wrong thread"
  | .activeEntryConflict =>
      "another RustJSI runtime entry is active on this thread"
  | .wrongRuntime => "handle belongs to another runtime"
  | .staleHandle => "handle is stale"
  | .identityExhausted => "runtime identity space is exhausted"
  | .scopeDepthExceeded => "Context scope depth limit exceeded"
  | .persistentRootLimitReached => "persistent root slot limit reached"
  | .localRootLimitReached => "local result root limit reached"
  | .callArgumentLimitReached => "call argument limit reached"
  | .callStringDataLimitReached => "call string data limit reached"
  | .externalBufferAllocationLimitReached =>
      "external-buffer allocation limit reached"
  | .externalBufferByteLimitReached => "external-buffer byte limit reached"
  | .hostFunctionLimitReached => "host function registration limit reached"
  | .nativeStateRegistrationLimitReached =>
      "native-state registration limit reached"
  | .host error => error.display

def JsError.display : JsError → String
  | .runtime error => error.display
  | .exception thrown => "JavaScript exception: " ++ thrown.message
  | .type expected => "expected JavaScript " ++ expected
  | .backend message => message

inductive HostErrorDisclosure where
  | exposed
  | redacted
  deriving DecidableEq, Repr

/-- A failure returned by a host function. -/
structure HostError where
  message : String
  disclosure : HostErrorDisclosure
  deriving DecidableEq, Repr

namespace HostError

def new (message : String) : HostError where
  message := message
  disclosure := .exposed

def fromJs (error : JsError) : HostError :=
  .new error.display

def inboundCallbackStringDataLimitReached : HostError :=
  .new "inbound callback string data limit reached"

end HostError

inductive InboundStringError where
  | js (error : JsError)
  | limitReached
  deriving DecidableEq, Repr

/-- What `JSValueToStringCopy` answers: an exception of the conversion, owned
already, or a string that may be null. -/
structure StringCopy where
  exception : Option JsException
  string : Option JsString

/-- `usize::checked_add(1)`. -/
def checkedAddOne (value : USize) : Option USize :=
  if value.toNat + 1 < USize.size then some (value + 1) else none

def copyJsStringWithLimit (string : JsString)
    (remainingUtf8Bytes : USize) : Except InboundStringError String :=
  match string.copyWithin fun maximum =>
    min maximum ((checkedAddOne remainingUtf8Bytes).getD maximum) with
  | .error error => .error (.js error)
  | .ok (value, incomplete) =>
      if incomplete then
        .error .limitReached
      else if remainingUtf8Bytes.toNat < value.utf8ByteSize then
        .error (.js (.backend
          "JavaScriptCore exceeded the inbound string data limit"))
      else
        .ok value

def valueToStringWithInboundLimit (copied : StringCopy)
    (remainingUtf8Bytes : USize) : Except InboundStringError String :=
  match copied.exception with
  | some exception => .error (.js (.exception exception))
  | none =>
      match copied.string with
      | none =>
          .error (.js (.backend "JavaScriptCore returned a null string"))
      | some string => copyJsStringWithLimit string remainingUtf8Bytes

/-- The arguments of one call of a host function. -/
structure Call (Raw : Type*) where
  arguments : List Raw
  stringUtf8BytesRemaining : USize

namespace Call

variable {Raw : Type*}

def argument (call : Call Raw) (index : Nat) : Except HostError Raw :=
  match call.arguments[index]? with
  | none => .error (.new ("missing argument at index " ++ toString index))
  | some value => .ok value

/-- Read a string; the engine answers anew on every conversion. -/
def string (call : Call Raw) (index : Nat)
    (valueToStringCopy : Raw → StringCopy) :
    Except HostError String × Call Raw :=
  let remaining := call.stringUtf8BytesRemaining
  match call.argument index with
  | .error error => (.error error, call)
  | .ok value =>
      match valueToStringWithInboundLimit (valueToStringCopy value)
        remaining with
      | .ok value =>
          (.ok value,
            { call with
              stringUtf8BytesRemaining :=
                remaining - USize.ofNat value.utf8ByteSize })
      | .error .limitReached =>
          (.error .inboundCallbackStringDataLimitReached, call)
      | .error (.js error) => (.error (.fromJs error), call)

end Call

section Reading

theorem checkedAddOne_getD (value maximum : USize) :
    (min maximum ((checkedAddOne value).getD maximum)).toNat =
      min maximum.toNat (value.toNat + 1) := by
  have bounded := maximum.toNat_lt_size
  rw [toNat_min, checkedAddOne]
  split
  · rename_i fits
    have next : (value + 1).toNat = value.toNat + 1 := by
      rw [USize.toNat_add, USize.toNat_one]
      exact Nat.mod_eq_of_lt fits
    rw [Option.getD_some, next]
  · rename_i full
    rw [Option.getD_none]
    omega

variable {string : JsString} {units : List UInt16}

/-- A string is copied if and only if all of it fits. -/
theorem copyJsStringWithLimit_eq (converts : string.Converts units)
    (remaining : USize) :
    copyJsStringWithLimit string remaining =
      if (completeText units).utf8ByteSize ≤ remaining.toNat then
        .ok (completeText units)
      else
        .error .limitReached := by
  have maximum := converts.maximum
  have capacity := checkedAddOne_getD remaining string.maximumUtf8Size
  have size : (completeText units).utf8ByteSize =
      utf8Size (decodeUtf16 units) := utf8ByteSize_ofList _
  have copied := converts.copyWithin
    (fun maximum =>
      min maximum ((checkedAddOne remaining).getD maximum))
    (by rw [capacity]; omega)
  rw [capacity] at copied
  rw [copyJsStringWithLimit, copied, size]
  by_cases fits : utf8Size (decodeUtf16 units) ≤ remaining.toNat
  · have room : utf8Size (decodeUtf16 units) ≤
        min string.maximumUtf8Size.toNat (remaining.toNat + 1) - 1 := by
      omega
    simp only [fitting_of_le room, Nat.not_lt.mpr room, decide_false,
      Bool.false_eq_true, if_false, utf8ByteSize_ofList,
      Nat.not_lt.mpr fits, if_pos fits, completeText]
  · have past : min string.maximumUtf8Size.toNat (remaining.toNat + 1) - 1 <
        utf8Size (decodeUtf16 units) := by
      omega
    simp only [past, decide_true, if_true, if_neg fits]

/-- Whatever the engine answers, a copied string fits. -/
theorem copyJsStringWithLimit_fits {remaining : USize} {value : String}
    (copied : copyJsStringWithLimit string remaining = .ok value) :
    value.utf8ByteSize ≤ remaining.toNat := by
  unfold copyJsStringWithLimit at copied
  split at copied
  · cases copied
  · split at copied
    · cases copied
    · split at copied
      · cases copied
      · rename_i fits
        cases copied
        exact Nat.le_of_not_lt fits

end Reading

/-! ## The reads of one callback -/

namespace Call

variable {Raw : Type*}

/-- One read, with the engine's conversions at that moment. -/
structure Read (Raw : Type*) where
  index : Nat
  valueToStringCopy : Raw → StringCopy

def reading : Component (Call Raw) (Read Raw) (Except HostError String) where
  perform := fun call read =>
    some (call.string read.index read.valueToStringCopy)

/-- Every sequence of reads of a call with these arguments. -/
def readingSystem (arguments : List Raw) (limit : USize) :
    System (Call Raw) (Exchange (Read Raw) (Except HostError String)) :=
  reading.system fun call => call = ⟨arguments, limit⟩

/-- The bytes a read returned. -/
def returnedBytes (read : Exchange (Read Raw) (Except HostError String)) :
    Nat :=
  match read.reply with
  | .ok value => value.utf8ByteSize
  | .error _ => 0

section Runs

variable {arguments : List Raw} {limit : USize} {call next : Call Raw}
  {trace : List (Exchange (Read Raw) (Except HostError String))}

/-- A read either returns a string that fits and pays for it, or it fails and
costs nothing. -/
theorem string_cases (call : Call Raw) (index : Nat)
    (copy : Raw → StringCopy) :
    (∃ error, call.string index copy = (.error error, call)) ∨
    ∃ value : String,
      value.utf8ByteSize ≤ call.stringUtf8BytesRemaining.toNat ∧
        call.string index copy =
          (.ok value,
            { call with
              stringUtf8BytesRemaining := call.stringUtf8BytesRemaining -
                USize.ofNat value.utf8ByteSize }) := by
  unfold string
  dsimp only
  split
  · exact Or.inl ⟨_, rfl⟩
  · rename_i value _
    generalize answered : copy value = copied
    split
    · rename_i value read
      refine Or.inr ⟨value, ?_, rfl⟩
      unfold valueToStringWithInboundLimit at read
      split at read
      · cases read
      · split at read
        · cases read
        · exact copyJsStringWithLimit_fits read
    · exact Or.inl ⟨_, rfl⟩
    · exact Or.inl ⟨_, rfl⟩

/-- Paying for what fits does not underflow. -/
theorem remaining_sub {remaining : USize} {size : Nat}
    (fits : size ≤ remaining.toNat) :
    (remaining - USize.ofNat size).toNat = remaining.toNat - size := by
  have bounded := remaining.toNat_lt_size
  have same : (USize.ofNat size).toNat = size :=
    USize.toNat_ofNat_of_lt' (by omega)
  rw [USize.toNat_sub_of_le _ _ (USize.le_iff_toNat_le.mpr (by omega)), same]

/-- A string that converts as documented is returned if it fits. -/
theorem string_converts {index : Nat} {value : Raw}
    {copy : Raw → StringCopy} {string : JsString} {units : List UInt16}
    (present : call.arguments[index]? = some value)
    (copied : copy value = ⟨none, some string⟩)
    (converts : string.Converts units) :
    call.string index copy =
      if (completeText units).utf8ByteSize ≤
          call.stringUtf8BytesRemaining.toNat then
        (.ok (completeText units),
          { call with
            stringUtf8BytesRemaining := call.stringUtf8BytesRemaining -
              USize.ofNat (completeText units).utf8ByteSize })
      else
        (.error .inboundCallbackStringDataLimitReached, call) := by
  have found : call.argument index = .ok value := by
    rw [argument, present]
  have read := copyJsStringWithLimit_eq converts
    call.stringUtf8BytesRemaining
  simp only [Call.string, found, valueToStringWithInboundLimit, copied, read]
  by_cases fits : (completeText units).utf8ByteSize ≤
      call.stringUtf8BytesRemaining.toNat
  · simp only [if_pos fits]
  · simp only [if_neg fits]

/-- What the reads of a callback cost and return. -/
structure InboundBudget (given : List Raw) (limit : USize)
    (trace : List (Exchange (Read Raw) (Except HostError String)))
    (call : Call Raw) : Prop where
  arguments : call.arguments = given
  spent : call.stringUtf8BytesRemaining.toNat + total returnedBytes trace =
    limit.toNat
  bounded : total returnedBytes trace ≤ limit.toNat
  /-- A string that fits is returned whole, and paid for; otherwise the limit
  is reported, and nothing is paid. -/
  exact : ∀ index value copy string units,
    given[index]? = some value →
    copy value = (⟨none, some string⟩ : StringCopy) →
    string.Converts units →
      if (completeText units).utf8ByteSize ≤
          call.stringUtf8BytesRemaining.toNat then
        ∃ next, call.string index copy = (.ok (completeText units), next) ∧
          next.arguments = given ∧
          next.stringUtf8BytesRemaining.toNat +
              (completeText units).utf8ByteSize =
            call.stringUtf8BytesRemaining.toNat
      else
        call.string index copy =
          (.error .inboundCallbackStringDataLimitReached, call)
  refused : ∀ index copy error next,
    call.string index copy = (.error error, next) → next = call
  /-- The subtraction never underflows. -/
  paid : ∀ index copy value next,
    call.string index copy = (.ok value, next) →
      value.utf8ByteSize ≤ call.stringUtf8BytesRemaining.toNat ∧
        next.stringUtf8BytesRemaining.toNat =
          call.stringUtf8BytesRemaining.toNat - value.utf8ByteSize

theorem run_spent (run : (readingSystem arguments limit).Run trace call) :
    call.arguments = arguments ∧
      call.stringUtf8BytesRemaining.toNat + total returnedBytes trace =
        limit.toNat := by
  refine System.Run.invariant
    (fun trace call => call.arguments = arguments ∧
      call.stringUtf8BytesRemaining.toNat + total returnedBytes trace =
        limit.toNat) ?_ ?_ run
  · intro call fresh
    rw [fresh]
    exact ⟨rfl, rfl⟩
  · intro trace call read next _ spent step
    have performed : call.string read.op.index read.op.valueToStringCopy =
        (read.reply, next) := Option.some.inj step
    rw [total_append_single]
    cases string_cases call read.op.index read.op.valueToStringCopy with
    | inl failed =>
        obtain ⟨error, failed⟩ := failed
        obtain ⟨reply, same⟩ := Prod.mk.inj (performed.symm.trans failed)
        rw [same, returnedBytes, reply]
        exact spent
    | inr returned =>
        obtain ⟨value, fits, returned⟩ := returned
        obtain ⟨reply, same⟩ := Prod.mk.inj (performed.symm.trans returned)
        rw [same, returnedBytes, reply]
        refine ⟨spent.1, ?_⟩
        have paid := remaining_sub fits
        have before := spent.2
        dsimp only
        omega

theorem run_inboundBudget
    (run : (readingSystem arguments limit).Run trace call) :
    InboundBudget arguments limit trace call := by
  obtain ⟨same, spent⟩ := run_spent run
  refine ⟨same, spent, by omega, ?_, ?_, ?_⟩
  · intro index value copy string units present copied converts
    have read := string_converts (by rw [same]; exact present) copied converts
    rw [read]
    split
    · rename_i fits
      refine ⟨_, rfl, same, ?_⟩
      rw [remaining_sub fits]
      exact Nat.sub_add_cancel fits
    · rfl
  · intro index copy error next read
    cases string_cases call index copy with
    | inl failed =>
        obtain ⟨_, failed⟩ := failed
        exact (Prod.mk.inj (read.symm.trans failed)).2
    | inr returned =>
        obtain ⟨_, _, returned⟩ := returned
        cases (Prod.mk.inj (read.symm.trans returned)).1
  · intro index copy value next read
    cases string_cases call index copy with
    | inl failed =>
        obtain ⟨_, failed⟩ := failed
        cases (Prod.mk.inj (read.symm.trans failed)).1
    | inr returned =>
        obtain ⟨other, fits, returned⟩ := returned
        obtain ⟨reply, left⟩ := Prod.mk.inj (read.symm.trans returned)
        cases reply
        rw [left]
        exact ⟨fits, remaining_sub fits⟩

/-- Of four bytes, `"ab"` takes two; a surrogate pair and a lone surrogate no
longer fit, and the last argument is missing. -/
def surrogateReads : List (Read (List UInt16)) :=
  [⟨0, fun units => ⟨none, some (.ofUnits units)⟩⟩,
    ⟨1, fun units => ⟨none, some (.ofUnits units)⟩⟩,
    ⟨2, fun units => ⟨none, some (.ofUnits units)⟩⟩,
    ⟨3, fun units => ⟨none, some (.ofUnits units)⟩⟩]

theorem surrogateReads_inboundBudget :
    ∃ trace call,
      reading.performAll
          ⟨[[0x61, 0x62], [0xD83D, 0xDE00], [0xD83D]], USize.ofNat 4⟩
          surrogateReads = some (trace, call) ∧
      InboundBudget [[0x61, 0x62], [0xD83D, 0xDE00], [0xD83D]]
        (USize.ofNat 4) trace call := by
  obtain ⟨trace, call, performed, run⟩ :=
    reading.exists_run_of_performAll
      (fun call => call =
        ⟨[[0x61, 0x62], [0xD83D, 0xDE00], [0xD83D]], USize.ofNat 4⟩)
      surrogateReads rfl rfl
  exact ⟨trace, call, performed, run_inboundBudget run⟩

end Runs

end Call

end RustJsi.BackendJsc
