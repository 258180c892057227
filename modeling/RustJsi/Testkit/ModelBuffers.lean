import RustJsi.Testkit.ExternalOwners
import RustJsi.Testkit.ModelHistory

/-!
# External buffers of the deterministic backend

The histories of the backend, with the owner behind each external value.  The
entry of a value refers to its owner, and so does each view; a view may be
leaked.
-/

namespace RustJsi.Testkit

open Generational Interleaving
open RustJsi.BackendJsc (BackendError)

structure ModelBuffers where
  session : ModelSession
  owners : ExternalOwners
  /-- The owner in each `ModelValueEntry::External`. -/
  entries : List (Id 64 × Nat)
  views : List Nat
  /-- The views that were forgotten. -/
  leaked : List Nat

inductive BufferOp where
  | session (op : SessionOp)
  | bufferBytes (value : ValueId)
  | asRef (view : Nat)
  | dropView (view : Nat)
  | forgetView (view : Nat)
  deriving DecidableEq

inductive BufferReply where
  | session (reply : SessionReply)
  /-- The owner that a new view shares. -/
  | view (result : Except BackendError Nat)
  | bytes (bytes : List UInt8)
  | done
  deriving DecidableEq

namespace ModelBuffers

abbrev values (buffers : ModelBuffers) : SlotMap ModelValueEntry :=
  buffers.session.backend.state.values

def initial (id : UInt64) : ModelBuffers where
  session := .initial id
  owners := .new
  entries := []
  views := []
  leaked := []

/-- What refers to an owner. -/
def references (buffers : ModelBuffers) : List Nat :=
  buffers.entries.map Prod.snd ++ (buffers.views ++ buffers.leaked)

/-- `remove_value` drops an entry, and its reference with it. -/
def dropEntries (buffers : ModelBuffers) : ModelBuffers :=
  let gone := buffers.entries.filter fun entry =>
    (SlotMap.get buffers.values entry.1).isNone
  { buffers with
    owners := buffers.owners.dropAll (gone.map Prod.snd)
    entries := buffers.entries.filter fun entry =>
      (SlotMap.get buffers.values entry.1).isSome }

/-- What an operation of a session does to the owners. -/
def follow (buffers : ModelBuffers) (op : SessionOp) (reply : SessionReply)
    (next : ModelSession) : ModelBuffers :=
  let followed := { buffers with session := next }
  match op, reply with
  | .inScope (.externalize bytes), .transfer (.ok value) =>
      let (owner, owners) := buffers.owners.accept bytes
      { followed with
        owners := owners, entries := (value.id, owner) :: buffers.entries }
  | .inScope (.externalize bytes), .transfer (.error (.accepted _)) =>
      let (owner, owners) := buffers.owners.accept bytes
      { followed with owners := owners.drop owner }
  | _, _ => followed.dropEntries

/-- `none` where a validated buffer has changed its kind. -/
def bufferBytes (buffers : ModelBuffers) (locals : List ValueId)
    (value : ValueId) : Option (BufferReply × ModelBuffers) :=
  let scope : ModelScope := ⟨buffers.session.backend, locals⟩
  match scope.requireKind value .buffer with
  | .error error => some (.view (.error error), buffers)
  | .ok value =>
      match buffers.entries.find? fun entry => entry.1 = value.id with
      | none => none
      | some (_, owner) =>
          some (.view (.ok owner),
            { buffers with
              owners := buffers.owners.clone owner
              views := owner :: buffers.views })

def dropView (buffers : ModelBuffers) (view owner : Nat) : ModelBuffers :=
  { buffers with
    owners := buffers.owners.drop owner
    views := buffers.views.eraseIdx view }

/-- `std::mem::forget` of a view. -/
def forgetView (buffers : ModelBuffers) (view owner : Nat) : ModelBuffers :=
  { buffers with
    views := buffers.views.eraseIdx view, leaked := owner :: buffers.leaked }

def perform (buffers : ModelBuffers) :
    BufferOp → Option (BufferReply × ModelBuffers)
  | .session op =>
      (buffers.session.perform op).map fun (reply, next) =>
        (.session reply, buffers.follow op reply next)
  | .bufferBytes value =>
      buffers.session.locals.bind fun locals =>
        buffers.bufferBytes locals value
  | .asRef view =>
      buffers.views[view]?.map fun owner =>
        (.bytes (buffers.owners.bytesOf owner), buffers)
  | .dropView view =>
      buffers.views[view]?.map fun owner =>
        (.done, buffers.dropView view owner)
  | .forgetView view =>
      buffers.views[view]?.map fun owner =>
        (.done, buffers.forgetView view owner)

def component : Component ModelBuffers BufferOp BufferReply where
  perform := perform

abbrev BufferExchange :=
  Exchange BufferOp BufferReply

def offered : BufferOp → Option (List UInt8)
  | .session (.inScope (.externalize bytes)) => some bytes
  | _ => none

/-- No counter goes beyond its type. -/
def Fits (buffers : ModelBuffers) (exchange : BufferExchange) : Prop :=
  ∀ bytes ∈ offered exchange.op,
    buffers.session.backend.externalFault ≠ .reject →
      buffers.owners.Fits bytes

instance (buffers : ModelBuffers) (exchange : BufferExchange) :
    Decidable (buffers.Fits exchange) :=
  inferInstanceAs (Decidable (∀ bytes ∈ offered exchange.op,
    buffers.session.backend.externalFault ≠ .reject →
      buffers.owners.Fits bytes))

/-- The histories of the backend in which the counters suffice. -/
def system (id : UInt64) : System ModelBuffers BufferExchange :=
  (component.system fun buffers => buffers = initial id).restrict Fits

/-- What a step does in the session. -/
def sessionExchange (exchange : BufferExchange) :
    Option ModelSession.SessionExchange :=
  match exchange.op, exchange.reply with
  | .session op, .session reply => some ⟨op, reply⟩
  | _, _ => none

variable {id : UInt64} {buffers next : ModelBuffers}
  {trace : List BufferExchange}

theorem follow_session (op : SessionOp) (reply : SessionReply)
    (session : ModelSession) :
    (buffers.follow op reply session).session = session := by
  unfold follow
  split
  · rfl
  · rfl
  · rfl

theorem perform_session {op : SessionOp} {reply : BufferReply}
    (performed : buffers.perform (.session op) = some (reply, next)) :
    ∃ inner, reply = .session inner ∧
      buffers.session.perform op = some (inner, next.session) ∧
      next = buffers.follow op inner next.session := by
  obtain ⟨⟨inner, session⟩, done, same⟩ := Option.map_eq_some_iff.mp performed
  cases same
  rw [follow_session]
  exact ⟨inner, rfl, done, rfl⟩

theorem requireKind_ok {scope : ModelScope} {value found : ValueId}
    {expected : BackendJsc.ValueKind}
    (required : scope.requireKind value expected = .ok found) :
    found = value ∧ scope.validate value = .ok expected := by
  unfold ModelScope.requireKind at required
  cases valid : scope.validate value with
  | error error =>
      rw [valid] at required
      cases required
  | ok actual =>
      rw [valid] at required
      simp only at required
      split at required
      · rename_i same
        cases required
        exact ⟨rfl, congrArg _ same⟩
      · cases required

theorem bufferBytes_cases {value : ValueId} {reply : BufferReply}
    (performed : buffers.perform (.bufferBytes value) = some (reply, next)) :
    (∃ error, reply = .view (.error error) ∧ next = buffers) ∨
    ∃ owner, reply = .view (.ok owner) ∧ (value.id, owner) ∈ buffers.entries ∧
      next = { buffers with
        owners := buffers.owners.clone owner
        views := owner :: buffers.views } := by
  obtain ⟨locals, _, inside⟩ := Option.bind_eq_some_iff.mp performed
  unfold bufferBytes at inside
  simp only at inside
  split at inside
  · cases inside
    exact Or.inl ⟨_, rfl, rfl⟩
  · rename_i found required
    rw [(requireKind_ok required).1] at inside
    split at inside
    · cases inside
    · rename_i named owner listed
      cases inside
      have same : named = value.id := by
        simpa using List.find?_some listed
      subst same
      exact Or.inr ⟨owner, rfl, List.mem_of_find?_eq_some listed, rfl⟩

end ModelBuffers

end RustJsi.Testkit
