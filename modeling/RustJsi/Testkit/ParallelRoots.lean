import RustJsi.BackendJsc.AttachedRoots
import RustJsi.Testkit.ModelHistory
import RustJsi.Testkit.RootContract

/-!
# The root contract on both backends

A program opens scopes on several backends, each of them an attachment of the
engine and a deterministic backend at once.  It refers to the values of a scope
and to the roots by the order in which it got them, so that it does the same on
both sides.
-/

namespace RustJsi.Testkit

open Generational Interleaving
open RustJsi.BackendJsc (Attached BackendError Engine JscRoot JscRuntimeLimits
  Op RootId mapRuntimeError)

/-- A backend on both sides. -/
structure Twin (Raw Payload : Type*) where
  jsc : Attached Raw Payload
  model : ModelSession
  /-- The values of the open scope. -/
  obtained : List (Raw × ValueId)
  /-- What a `Context` has persisted on the side of the engine. -/
  leases : List RootId

/-- The backends, and the roots they have issued. -/
structure Parallel (Raw Payload : Type*) where
  twins : List (Twin Raw Payload)
  roots : List (JscRoot × ModelRoot)

/-- How the side of the engine comes by a value of a scope: a primitive takes no
root and needs no operation, anything else is the end of one. -/
inductive Source (Raw Payload : Type*) where
  | primitive (raw : Raw)
  | operation (invocation : BackendJsc.Invocation Raw Payload)

inductive ParallelOp (Raw Payload : Type*) where
  /-- Something on the side of the engine alone. -/
  | besideJsc (invocation : BackendJsc.Invocation Raw Payload)
  /-- Something on the side of the model alone. -/
  | besideModel (op : SessionOp)
  | openScope
  | dropScope (order : List ValueId)
  | create (source : Source Raw Payload) (op : ScopeOp)
  | persist (value : Nat)
  | resolve (root : Nat)
  | release (root : Nat)

/-- An operation on one of the backends, and the thread of its entry. -/
structure Addressed (Raw Payload : Type*) where
  backend : Nat
  thread : Nat
  op : ParallelOp Raw Payload

/-- What both sides reply, and the values that the program gets to know. -/
inductive ParallelReply (Raw Payload : Type*) where
  | beside
  | scope
  | created (value : Raw × ValueId)
  | persisted (value : Raw × ValueId)
      (jsc : BackendJsc.Reply Raw Payload) (model : SessionReply)
  | resolved (jsc : BackendJsc.Reply Raw Payload) (model : SessionReply)
  | released (jsc : BackendJsc.Reply Raw Payload) (model : SessionReply)

/-- The value that an operation of the engine ended with. -/
def jscResult {Raw Payload : Type*} :
    BackendJsc.Reply Raw Payload → Option Raw
  | .rooted raw => some raw
  | .scalar raw => some raw
  | _ => none

def modelResult : SessionReply → Option ValueId
  | .value (.ok value) => some value
  | .transfer (.ok value) => some value
  | _ => none

/-- What is done on the model alone: no scope is opened or dropped, and no root
is used. -/
def SessionOp.isBeside : SessionOp → Bool
  | .openScope | .dropScope _ => false
  | .inScope (.persist _) | .inScope (.resolve _) => false
  | .inScope (.release _) => false
  | _ => true

namespace Twin

variable {Raw Payload : Type*} [DecidableEq Raw]

def inScope (twin : Twin Raw Payload) : Bool :=
  match twin.jsc.stack with
  | .scope _ :: _ => true
  | _ => false

/-- The scope is open on both sides, and nothing is called inside it. -/
def ready (twin : Twin Raw Payload) : Bool :=
  twin.inScope && twin.model.locals.isSome

/-- A scope, or an operation that ends in one, is the innermost call. -/
def endsInScope (twin : Twin Raw Payload) : Bool :=
  match twin.jsc.stack with
  | .producing _ _ :: .scope _ :: _ => true
  | _ => false

/-- What may be done on the side of the engine alone. -/
def besideJsc (twin : Twin Raw Payload) : Op Raw Payload → Bool
  | .persistValue _ | .release _ | .resolveRoot _ | .openScope => false
  | .close => !twin.inScope
  | .dropLease lease =>
      lease.attachment ≠ twin.jsc.shared.id || lease.id ∈ twin.leases
  | op => !op.isTeardown

/-- Both sides do their part. -/
def both (engine : Engine Raw) (twin : Twin Raw Payload)
    (invocation : BackendJsc.Invocation Raw Payload) (op : SessionOp) :
    Option (BackendJsc.Reply Raw Payload × SessionReply ×
      Twin Raw Payload) :=
  match twin.jsc.perform engine invocation, twin.model.perform op with
  | some (jscReply, jsc), some (modelReply, model) =>
      some (jscReply, modelReply, { twin with jsc := jsc, model := model })
  | _, _ => none

def create (engine : Engine Raw) (twin : Twin Raw Payload)
    (source : Source Raw Payload) (op : ScopeOp) :
    Option (ParallelReply Raw Payload × Twin Raw Payload) :=
  match source with
  | .primitive raw =>
      if twin.inScope && (SessionOp.inScope op).isBeside then
        match twin.model.perform (.inScope op) with
        | none => none
        | some (modelReply, model) =>
            (modelResult modelReply).map fun value =>
              (.created (raw, value),
                { twin with
                  model := model
                  obtained := twin.obtained ++ [(raw, value)] })
      else
        none
  | .operation invocation =>
      if twin.endsInScope && twin.besideJsc invocation.op &&
          (SessionOp.inScope op).isBeside then
        match twin.both engine invocation (.inScope op) with
        | none => none
        | some (jscReply, modelReply, next) =>
            match jscResult jscReply, modelResult modelReply with
            | some raw, some value =>
                some (.created (raw, value),
                  { next with obtained := twin.obtained ++ [(raw, value)] })
            | _, _ => none
      else
        none

end Twin

/-- A limit of the engine's side is reached; the model has none. -/
def refusedByLimit {Raw Payload : Type*} :
    BackendJsc.Reply Raw Payload → Bool
  | .failed failure =>
      failure = .backend (mapRuntimeError .persistentRootLimitReached) ||
        failure = .backend (mapRuntimeError .localRootLimitReached)
  | _ => false

namespace Parallel

variable {Raw Payload : Type*} [DecidableEq Raw]

def put (parallel : Parallel Raw Payload) (backend : Nat)
    (twin : Twin Raw Payload) : Parallel Raw Payload :=
  { parallel with twins := parallel.twins.set backend twin }

/-- The root that both sides have issued. -/
def issued (twin : Twin Raw Payload) (jscReply : BackendJsc.Reply Raw Payload)
    (modelReply : SessionReply) : List (JscRoot × ModelRoot) :=
  match jscReply, modelReply with
  | .persisted id, .root (.ok root) => [(⟨twin.jsc.shared.id, id⟩, root)]
  | _, _ => []

/-- `none` where the program cannot do this, or a limit is reached. -/
def perform (engine : Engine Raw) (parallel : Parallel Raw Payload)
    (addressed : Addressed Raw Payload) :
    Option (ParallelReply Raw Payload × Parallel Raw Payload) :=
  match parallel.twins[addressed.backend]? with
  | none => none
  | some twin =>
  match addressed.op with
  | .besideJsc invocation =>
      if twin.besideJsc invocation.op then
        (twin.jsc.perform engine invocation).map fun (reply, jsc) =>
          (.beside, parallel.put addressed.backend
            { twin with
              jsc := jsc
              leases := twin.leases ++
                Attached.leasedBy invocation.op reply })
      else none
  | .besideModel op =>
      if op.isBeside then
        (twin.model.perform op).map fun (_, model) =>
          (.beside, parallel.put addressed.backend { twin with model := model })
      else none
  | .openScope =>
      match twin.both engine ⟨addressed.thread, .openScope⟩ .openScope with
      | some (.begun, _, next) =>
          some (.scope, parallel.put addressed.backend
            { next with obtained := [] })
      | _ => none
  | .dropScope order =>
      if twin.inScope then
        (twin.both engine ⟨addressed.thread, .close⟩ (.dropScope order)).map
          fun (_, _, next) =>
            (.scope, parallel.put addressed.backend
              { next with obtained := [] })
      else none
  | .create source op =>
      (twin.create engine source op).map fun (reply, next) =>
        (reply, parallel.put addressed.backend next)
  | .persist value =>
      match twin.obtained[value]? with
      | none => none
      | some (raw, id) =>
          match twin.both engine
              ⟨addressed.thread, .persistValue ⟨twin.jsc.shared.id, raw⟩⟩
              (.inScope (.persist id)) with
          | none => none
          | some (jscReply, modelReply, next) =>
              if refusedByLimit jscReply then none
              else
                some (.persisted (raw, id) jscReply modelReply,
                  { parallel.put addressed.backend next with
                    roots := parallel.roots ++
                      issued twin jscReply modelReply })
  | .resolve root =>
      match parallel.roots[root]? with
      | none => none
      | some (jscRoot, modelRoot) =>
          match twin.both engine ⟨addressed.thread, .resolveRoot jscRoot⟩
              (.inScope (.resolve modelRoot)) with
          | none => none
          | some (jscReply, modelReply, next) =>
              if refusedByLimit jscReply then none
              else
                match jscResult jscReply, modelResult modelReply with
                | some raw, some value =>
                    some (.resolved jscReply modelReply,
                      parallel.put addressed.backend
                        { next with
                          obtained := twin.obtained ++ [(raw, value)] })
                | _, _ =>
                    some (.resolved jscReply modelReply,
                      parallel.put addressed.backend next)
  | .release root =>
      match parallel.roots[root]? with
      | none => none
      | some (jscRoot, modelRoot) =>
          (twin.both engine ⟨addressed.thread, .release jscRoot⟩
            (.inScope (.release modelRoot))).map
              fun (jscReply, modelReply, next) =>
                (.released jscReply modelReply,
                  parallel.put addressed.backend next)

def component (engine : Engine Raw) :
    Component (Parallel Raw Payload) (Addressed Raw Payload)
      (ParallelReply Raw Payload) where
  perform := perform engine

/-- Nothing has happened yet, and no two backends have one identity. -/
structure Initial (parallel : Parallel Raw Payload) : Prop where
  roots : parallel.roots = []
  attachments :
    (parallel.twins.map fun twin => twin.jsc.shared.id).Nodup
  backends : (parallel.twins.map fun twin => twin.model.backend.id).Nodup
  fresh : ∀ twin ∈ parallel.twins,
    (∃ limits, Attached.Fresh limits twin.jsc) ∧
      (∃ id, twin.model = .initial id) ∧
      twin.obtained = [] ∧ twin.leases = []

def system (engine : Engine Raw) :
    System (Parallel Raw Payload)
      (Exchange (Addressed Raw Payload) (ParallelReply Raw Payload)) :=
  (component engine).system Initial

/-- The roots the program was issued, and what it has released of them. -/
def contract
    (trace : List (Exchange (Addressed Raw Payload)
      (ParallelReply Raw Payload))) : RootContract (Raw × ValueId) :=
  trace.foldl
    (fun contract exchange =>
      match exchange.op.op, exchange.reply with
      | .persist _, .persisted value _ _ =>
          contract.persist exchange.op.backend value
      | .release root, .released _ _ =>
          contract.release exchange.op.backend root
      | _, _ => contract)
    []

/-- Both sides resolve the root as the contract says. -/
def Resolves : RootOutcome (Raw × ValueId) →
    BackendJsc.Reply Raw Payload → SessionReply → Prop
  | .resolved (raw, value), jsc, model =>
      jsc = .rooted raw ∧ model = .value (.ok value)
  | .stale, jsc, model =>
      jsc = .failed (.backend .staleHandle) ∧
        model = .value (.error .staleHandle)
  | .foreign, jsc, model =>
      jsc = .failed (.backend .wrongBackend) ∧
        model = .value (.error .wrongBackend)

def Releases : RootOutcome (Raw × ValueId) →
    BackendJsc.Reply Raw Payload → SessionReply → Prop
  | .resolved _, jsc, model => jsc = .done ∧ model = .released (.ok ())
  | .stale, jsc, model =>
      jsc = .failed (.backend .staleHandle) ∧
        model = .released (.error .staleHandle)
  | .foreign, jsc, model =>
      jsc = .failed (.backend .wrongBackend) ∧
        model = .released (.error .wrongBackend)

/-- Both sides do with a root what the contract says, and so the same. -/
def Meets (contract : RootContract (Raw × ValueId))
    (exchange : Exchange (Addressed Raw Payload)
      (ParallelReply Raw Payload)) : Prop :=
  match exchange.op.op, exchange.reply with
  | .persist _, .persisted _ jsc model =>
      (∃ id, jsc = .persisted id) ∧ ∃ root, model = .root (.ok root)
  | .resolve root, .resolved jsc model =>
      ∃ outcome, contract.outcome exchange.op.backend root = some outcome ∧
        Resolves outcome jsc model
  | .release root, .released jsc model =>
      ∃ outcome, contract.outcome exchange.op.backend root = some outcome ∧
        Releases outcome jsc model
  | .persist _, _ => False
  | .resolve _, _ => False
  | .release _, _ => False
  | _, _ => True

/-- Both sides have done the same with every root in the run so far, and while
there is room they do so with any value of an open scope and any root that was
ever issued. -/
structure SameRoots (engine : Engine Raw)
    (trace : List (Exchange (Addressed Raw Payload)
      (ParallelReply Raw Payload)))
    (parallel : Parallel Raw Payload) : Prop where
  meets : ∀ before exchange after, trace = before ++ exchange :: after →
    Meets (contract before) exchange
  persists : ∀ (backend thread value : Nat) (twin : Twin Raw Payload),
    parallel.twins[backend]? = some twin → twin.ready = true →
    twin.jsc.rootRoom = true → value < twin.obtained.length →
    (parallel.perform engine
      ⟨backend, thread, .persist value⟩).isSome = true
  resolves : ∀ (backend thread root : Nat) (twin : Twin Raw Payload),
    parallel.twins[backend]? = some twin → twin.ready = true →
    twin.jsc.localRoom = true → root < (contract trace).length →
    (parallel.perform engine
      ⟨backend, thread, .resolve root⟩).isSome = true
  releases : ∀ (backend thread root : Nat) (twin : Twin Raw Payload),
    parallel.twins[backend]? = some twin → twin.ready = true →
    root < (contract trace).length →
    (parallel.perform engine
      ⟨backend, thread, .release root⟩).isSome = true

end Parallel

end RustJsi.Testkit
