import RustJsi.BackendJsc.Shared
import RustJsi.Generational.Store

/-!
# The deterministic backend

Values and roots live in two maps of generational slots.  A scope remembers the
values it created or resolved; what it remembers outlives the release of a
root, and what is rooted outlives the scope.
-/

namespace RustJsi.Testkit

open Generational
open RustJsi.BackendJsc (BackendError JsException ValueKind)

/-- A slot is a generation and a value; the free list has its end first. -/
abbrev SlotMap (T : Type*) : Type _ :=
  Store 64 T

namespace SlotMap

variable {T : Type*}

def default : SlotMap T where
  cells := []
  free := []

/-- `none` where `self.slots[index]` is out of bounds. -/
def insert (map : SlotMap T) (value : T) : Option (Id 64 × SlotMap T) :=
  match map.free with
  | index :: free =>
      match map.cells[index]? with
      | none => none
      | some slot =>
          some (⟨index, slot.generation⟩,
            ⟨map.cells.set index { slot with value := some value }, free⟩)
  | [] =>
      some (⟨map.cells.length, 1⟩,
        { map with cells := map.cells ++ [⟨1, some value⟩] })

def get (map : SlotMap T) (id : Id 64) : Option T :=
  match map.cells[id.slot]? with
  | none => none
  | some slot => if slot.generation = id.generation then slot.value else none

/-- `slot.generation.saturating_add(1)` is `succ`. -/
def remove (map : SlotMap T) (id : Id 64) : SlotMap T × Option T :=
  match map.cells[id.slot]? with
  | none => (map, none)
  | some slot =>
      if slot.generation ≠ id.generation then
        (map, none)
      else
        match slot.value with
        | none => (map, none)
        | some value =>
            let generation := succ slot.generation
            ({ cells := map.cells.set id.slot
                { slot with value := none, generation := generation }
               free := if generation ≠ exhausted 64
                then id.slot :: map.free else map.free },
              some value)

def iter (map : SlotMap T) : List (Option T) :=
  map.cells.map Cell.value

end SlotMap

/-- A number is given by its bits. -/
inductive Primitive where
  | undefined
  | null
  | boolean (value : Bool)
  | number (bits : UInt64)
  | string (value : String)
  deriving DecidableEq, Repr

/-- A pre-programmed result for one evaluation. -/
inductive Evaluation where
  | returns (value : Primitive)
  | returnsFunction
  | throws (message : String)
  | fails (message : String)
  deriving DecidableEq, Repr

/-- A pre-programmed result for one function call. -/
inductive Invocation where
  | returns (value : Primitive)
  | throws (message : String)
  | fails (message : String)
  deriving DecidableEq, Repr

structure ValueId where
  backend : UInt64
  id : Id 64
  deriving DecidableEq

/-- A generational handle of a strong root. -/
structure ModelRoot where
  backend : UInt64
  id : Id 64
  deriving DecidableEq

inductive ModelValueEntry where
  | primitive (value : Primitive)
  | function
  | external (bytes : List UInt8)
  deriving DecidableEq, Repr

namespace ModelValueEntry

def kind : ModelValueEntry → ValueKind
  | .primitive .undefined => .undefined
  | .primitive .null => .null
  | .primitive (.boolean _) => .boolean
  | .primitive (.number _) => .number
  | .primitive (.string _) => .string
  | .function => .function
  | .external _ => .buffer

end ModelValueEntry

structure ModelState where
  values : SlotMap ModelValueEntry
  roots : SlotMap ValueId
  evaluations : List Evaluation
  invocations : List Invocation

namespace ModelState

def isRooted (state : ModelState) (value : ValueId) : Bool :=
  (SlotMap.iter state.roots).any fun rooted => rooted = some value

def removeValue (state : ModelState) (value : ValueId) : ModelState :=
  { state with values := (SlotMap.remove state.values value.id).1 }

end ModelState

inductive ExternalFault where
  | none
  | reject
  | acceptThenFail
  deriving DecidableEq, Repr

structure ModelBackend where
  id : UInt64
  state : ModelState
  externalFault : ExternalFault

namespace ModelBackend

/-- `ModelBackend::new`, with the next identity of the process. -/
def new (id : UInt64) : ModelBackend where
  id := id
  state := ⟨SlotMap.default, SlotMap.default, [], []⟩
  externalFault := .none

def pushEvaluation (backend : ModelBackend) (evaluation : Evaluation) :
    ModelBackend :=
  { backend with
    state.evaluations := backend.state.evaluations ++ [evaluation] }

def pushInvocation (backend : ModelBackend) (invocation : Invocation) :
    ModelBackend :=
  { backend with
    state.invocations := backend.state.invocations ++ [invocation] }

def rejectNextExternalBuffer (backend : ModelBackend) : ModelBackend :=
  { backend with externalFault := .reject }

def failNextExternalBufferAfterAccept (backend : ModelBackend) :
    ModelBackend :=
  { backend with externalFault := .acceptThenFail }

end ModelBackend

/-! ## `ModelScope` -/

/-- One scoped entry; the locals are a set, kept without repetition. -/
structure ModelScope where
  backend : ModelBackend
  locals : List ValueId

inductive CallReceiver (V : Type*) where
  | global
  | object (value : V)
  deriving DecidableEq

/-- Failure from an operation that may transfer ownership before it fails. -/
inductive ModelTransferError where
  | rejected (error : BackendError) (owner : List UInt8)
  | accepted (error : BackendError)
  deriving DecidableEq

def ModelBackend.openScope (backend : ModelBackend) : ModelScope where
  backend := backend
  locals := []

namespace ModelScope

/-- The set is iterated in an order of its own. -/
def drop (scope : ModelScope) (order : List ValueId) : ModelBackend :=
  { scope.backend with
    state := order.foldl
      (fun state value =>
        if state.isRooted value then state else state.removeValue value)
      scope.backend.state }

/-- `HashSet::insert`. -/
def remember (scope : ModelScope) (value : ValueId) : ModelScope :=
  if value ∈ scope.locals then scope
  else { scope with locals := scope.locals ++ [value] }

def insert (scope : ModelScope) (entry : ModelValueEntry) :
    Option (ValueId × ModelScope) :=
  (SlotMap.insert scope.backend.state.values entry).map fun (id, values) =>
    (⟨scope.backend.id, id⟩,
      { scope with backend.state.values := values }.remember
        ⟨scope.backend.id, id⟩)

def primitive (scope : ModelScope) (value : Primitive) :
    Option (ValueId × ModelScope) :=
  scope.insert (.primitive value)

def validate (scope : ModelScope) (value : ValueId) :
    Except BackendError ValueKind :=
  if value.backend ≠ scope.backend.id then
    .error .wrongBackend
  else
    match SlotMap.get scope.backend.state.values value.id with
    | none => .error .staleHandle
    | some entry => .ok entry.kind

def requireKind (scope : ModelScope) (value : ValueId)
    (expected : ValueKind) : Except BackendError ValueId :=
  match scope.validate value with
  | .error error => .error error
  | .ok actual =>
      if actual = expected then .ok value else .error (.type expected actual)

/-- A value that was made, or an error that changed nothing. -/
def made (created : Option (ValueId × ModelScope)) :
    Option (Except BackendError ValueId × ModelScope) :=
  created.map fun (value, scope) => (.ok value, scope)

def evaluate (scope : ModelScope) :
    Option (Except BackendError ValueId × ModelScope) :=
  match scope.backend.state.evaluations with
  | [] =>
      some (.error (.failure "deterministic evaluation was not programmed"),
        scope)
  | evaluation :: evaluations =>
      let popped := { scope with backend.state.evaluations := evaluations }
      match evaluation with
      | .returns value => made (popped.primitive value)
      | .returnsFunction => made (popped.insert .function)
      | .throws message =>
          some (.error (.exception ⟨message, false⟩), popped)
      | .fails message => some (.error (.failure message), popped)

def checkReceiver (scope : ModelScope) (receiver : CallReceiver ValueId) :
    Except BackendError Unit :=
  match receiver with
  | .global => .ok ()
  | .object receiver =>
      match scope.validate receiver with
      | .error error => .error error
      | .ok actual =>
          if actual = .object ∨ actual = .function ∨ actual = .buffer then
            .ok ()
          else
            .error (.type .object actual)

def call (scope : ModelScope) (function : ValueId)
    (receiver : CallReceiver ValueId) (arguments : List ValueId) :
    Option (Except BackendError ValueId × ModelScope) :=
  match scope.requireKind function .function with
  | .error error => some (.error error, scope)
  | .ok _ =>
  match scope.checkReceiver receiver with
  | .error error => some (.error error, scope)
  | .ok () =>
  match arguments.mapM scope.validate with
  | .error error => some (.error error, scope)
  | .ok _ =>
  match scope.backend.state.invocations with
  | [] =>
      some (.error (.failure "deterministic invocation was not programmed"),
        scope)
  | invocation :: invocations =>
      let popped := { scope with backend.state.invocations := invocations }
      match invocation with
      | .returns value => made (popped.primitive value)
      | .throws message =>
          some (.error (.exception ⟨message, false⟩), popped)
      | .fails message => some (.error (.failure message), popped)

def persist (scope : ModelScope) (value : ValueId) :
    Option (Except BackendError ModelRoot × ModelScope) :=
  match scope.validate value with
  | .error error => some (.error error, scope)
  | .ok _ =>
      (SlotMap.insert scope.backend.state.roots value).map fun (id, roots) =>
        (.ok ⟨scope.backend.id, id⟩,
          { scope with backend.state.roots := roots })

def resolve (scope : ModelScope) (root : ModelRoot) :
    Except BackendError ValueId × ModelScope :=
  if root.backend ≠ scope.backend.id then
    (.error .wrongBackend, scope)
  else
    match SlotMap.get scope.backend.state.roots root.id with
    | none => (.error .staleHandle, scope)
    | some value =>
        match SlotMap.get scope.backend.state.values value.id with
        | none => (.error .staleHandle, scope)
        | some _ => (.ok value, scope.remember value)

def release (scope : ModelScope) (root : ModelRoot) :
    Except BackendError Unit × ModelScope :=
  if root.backend ≠ scope.backend.id then
    (.error .wrongBackend, scope)
  else
    match SlotMap.remove scope.backend.state.roots root.id with
    | (_, none) => (.error .staleHandle, scope)
    | (roots, some value) =>
        let removed := { scope.backend.state with roots }
        if value ∉ scope.locals ∧ removed.isRooted value = false then
          (.ok (), { scope with backend.state := removed.removeValue value })
        else
          (.ok (), { scope with backend.state := removed })

def externalize (scope : ModelScope) (owner : List UInt8) :
    Option (Except ModelTransferError ValueId × ModelScope) :=
  let replaced := { scope with backend.externalFault := .none }
  match scope.backend.externalFault with
  | .reject =>
      some (.error (.rejected
        (.failure "injected external-buffer rejection") owner), replaced)
  | .acceptThenFail =>
      some (.error (.accepted
        (.failure "injected failure after ownership transfer")), replaced)
  | .none =>
      (replaced.insert (.external owner)).map fun (value, scope) =>
        (.ok value, scope)

end ModelScope

end RustJsi.Testkit
