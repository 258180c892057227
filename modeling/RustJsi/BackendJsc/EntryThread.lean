import RustJsi.BackendJsc.AttachedSystem

/-!
# The entries of one thread

A thread keeps the pair of the runtime and the context it has entered, and the
list of owned runtimes whose teardown had to wait.  The entries, teardowns and
drains that are under way form a stack of calls.  User code runs at its bottom,
in an entry, and in the destructors of a teardown; there it may start any
further call.

What an entry or a teardown does to the registries of its attachment is the
subject of the other modules.
-/

namespace RustJsi.BackendJsc

open Interleaving
open RustJsi.Host (EntryGate FinalEntryPolicy GateError HostState)

/-- A global context, as the engine keeps it. -/
structure EngineContext where
  /-- What `context_get_group` answers. -/
  group : Option Nat
  /-- The runtime it was made for. -/
  owner : Option Nat
  /-- The calls of `global_context_release` for it. -/
  released : Nat
  deriving DecidableEq, Repr

/-- The part of `Shared` that entries read, at its address. -/
structure SharedEntry where
  address : Nat
  owner : Nat
  gate : EntryGate
  deriving DecidableEq, Repr

def Shared.entry {Raw Payload : Type*} (shared : Shared Raw Payload) :
    SharedEntry where
  address := shared.address
  owner := shared.owner
  gate := shared.gate

namespace SharedEntry

def ensureThread (shared : SharedEntry) (thread : Nat) :
    Except RuntimeError Unit :=
  if shared.owner = thread then .ok () else .error .wrongThread

def ensureActive (shared : SharedEntry) (thread : Nat) :
    Except RuntimeError Unit :=
  match shared.ensureThread thread with
  | .error error => .error error
  | .ok () =>
      if shared.gate.state = .active then .ok () else .error .invalidated

def ensureNoForeignActiveEntry (shared : SharedEntry) (thread : Nat)
    (active : ActiveEntry) : Except RuntimeError Unit :=
  match shared.ensureThread thread with
  | .error error => .error error
  | .ok () =>
      if active.runtime = none ∨ active.runtime = some shared.address then
        .ok ()
      else
        .error .activeEntryConflict

def ensureEntryCompatible (shared : SharedEntry) (thread : Nat)
    (active : ActiveEntry) (context : Nat) : Except RuntimeError Unit :=
  match shared.ensureNoForeignActiveEntry thread active with
  | .error error => .error error
  | .ok () =>
      if active.runtime = none ∨
          (active.runtime = some shared.address ∧
            active.context = some context) then
        .ok ()
      else
        .error .activeEntryConflict

/-- The checks are those of an attachment seen by itself. -/
theorem ensureActive_entry {Raw Payload : Type*}
    (shared : BackendJsc.Shared Raw Payload) (thread : Nat) :
    shared.entry.ensureActive thread = shared.ensureActive thread :=
  rfl

theorem ensureEntryCompatible_entry {Raw Payload : Type*}
    (shared : BackendJsc.Shared Raw Payload) (thread : Nat)
    (active : ActiveEntry) (context : Nat) :
    shared.entry.ensureEntryCompatible thread active context =
      shared.ensureEntryCompatible thread active context :=
  rfl

end SharedEntry

/-- A `Runtime` with its `context` and its `context_group`, or an
`Attachment`. -/
inductive Entrant where
  | runtime (context : Option Nat) (contextGroup : Nat)
  | attachment
  deriving DecidableEq, Repr

/-- Who can name a runtime or an attachment. -/
inductive Custody where
  /-- User code. -/
  | here
  /-- A teardown that borrows it. -/
  | lent
  | dropped
  deriving DecidableEq, Repr

structure Place where
  shared : SharedEntry
  entrant : Entrant
  custody : Custody
  deriving DecidableEq, Repr

def Place.withGate (place : Place) (gate : EntryGate) : Place :=
  { place with shared.gate := gate }

/-- A record of the deferred list. -/
structure DeferredOwnedRuntimeDrop where
  shared : Nat
  context : Nat
  deriving DecidableEq, Repr

/-- What called `destroy_owned_runtime`. -/
inductive DestroyCause where
  /-- `Runtime::invalidate`. -/
  | invalidated
  /-- `Drop` of a `Runtime`. -/
  | dropped
  /-- `drain_deferred_owned_drops`. -/
  | deferred
  deriving DecidableEq, Repr

/-- Who has the runtime while it is destroyed. -/
def DestroyCause.custody : DestroyCause → Custody
  | .invalidated => .lent
  | .dropped | .deferred => .dropped

/-- What detaches an attachment. -/
inductive DetachCause where
  | withContext
  | withoutContext
  /-- `Drop` of an `Attachment`, and whether `finish_drain` was `Ok`. -/
  | dropped (finished : Bool)
  deriving DecidableEq, Repr

/-- Which user destructors a teardown is running. -/
inductive DestructorPhase where
  /-- Those of `release_engine_resources` or `abandon_engine_resources`. -/
  | releasing
  /-- Those of `retire_native_states`. -/
  | retiring
  deriving DecidableEq, Repr

/-- One call under way, by the address of its `Shared`. -/
inductive EntryCall where
  /-- An operation in its `ActiveEntryFrame`, with the pair it restores. -/
  | frame (shared context : Nat) (previous : ActiveEntry)
  /-- The `drain_deferred_owned_drops` that ends an `ActiveEntryFrame`. -/
  | draining
  /-- `destroy_owned_runtime`. -/
  | destroying (shared context : Nat) (cause : DestroyCause)
      (phase : DestructorPhase)
  | detaching (shared : Nat) (cause : DetachCause) (phase : DestructorPhase)
  deriving DecidableEq, Repr

structure EntryThread where
  id : Nat
  contexts : List EngineContext
  places : List Place
  /-- `ACTIVE_RUNTIME` and `ACTIVE_CONTEXT`. -/
  active : ActiveEntry
  /-- `DEFERRED_OWNED_DROPS`; what was pushed last comes first. -/
  deferred : List DeferredOwnedRuntimeDrop
  /-- The call made last comes first. -/
  stack : List EntryCall
  deriving DecidableEq, Repr

namespace EntryThread

def new (id : Nat) : EntryThread where
  id := id
  contexts := []
  places := []
  active := ⟨none, none⟩
  deferred := []
  stack := []

inductive Reply where
  | done
  | made (index : Nat)
  | entered
  | begun
  | failed (error : RuntimeError)
  deriving DecidableEq, Repr

def setPlace (thread : EntryThread) (shared : Nat) (place : Place) :
    EntryThread :=
  { thread with places := thread.places.set shared place }

def withStack (thread : EntryThread) (stack : List EntryCall) : EntryThread :=
  { thread with stack := stack }

def contextGetGroup (thread : EntryThread) (context : Nat) : Option Nat :=
  thread.contexts[context]?.bind EngineContext.group

def globalContextRelease (thread : EntryThread) (context : Nat) :
    EntryThread :=
  { thread with
    contexts := thread.contexts.modify context fun record =>
      { record with released := record.released + 1 } }

/-- The host makes a context of its own. -/
def newContext (thread : EntryThread) (group : Option Nat) :
    Reply × EntryThread :=
  (.made thread.contexts.length,
    { thread with contexts := thread.contexts ++ [⟨group, none, 0⟩] })

def newShared (thread : EntryThread) (finalEntryPolicy : FinalEntryPolicy) :
    SharedEntry where
  address := thread.places.length
  owner := thread.id
  gate := .new entryLimit finalEntryPolicy

/-- `Runtime::new`.  The engine may make no context, and may know no group of
the one it makes. -/
def newRuntime (thread : EntryThread) :
    Option (Option Nat) → Reply × EntryThread
  | none => (.failed .creationFailed, thread)
  | some none =>
      let made : EntryThread :=
        { thread with contexts := thread.contexts ++ [⟨none, none, 0⟩] }
      (.failed .creationFailed,
        made.globalContextRelease thread.contexts.length)
  | some (some group) =>
      (.made thread.places.length,
        { thread with
          contexts := thread.contexts ++
            [⟨some group, some thread.places.length, 0⟩]
          places := thread.places ++
            [⟨thread.newShared .guaranteed,
              .runtime (some thread.contexts.length) group, .here⟩] })

/-- `Attachment::new`. -/
def newAttachment (thread : EntryThread)
    (finalEntryPolicy : FinalEntryPolicy) : Reply × EntryThread :=
  (.made thread.places.length,
    { thread with
      places := thread.places ++
        [⟨thread.newShared finalEntryPolicy, .attachment, .here⟩] })

/-- `ActiveEntryFrame::enter`. -/
def enterFrame (thread : EntryThread) (shared : Nat) (place : Place)
    (context : Nat) : Reply × EntryThread :=
  match place.shared.gate.tryEnter with
  | (.error error, gate) =>
      (.failed (.host error), thread.setPlace shared (place.withGate gate))
  | (.ok _, gate) =>
      (.entered,
        { thread.setPlace shared (place.withGate gate) with
          active := ⟨some place.shared.address, some context⟩
          stack := .frame shared context thread.active :: thread.stack })

/-- The context to enter: a runtime has its own, and a host supplies the one
of its attachment. -/
def Entrant.entryContext : Entrant → Option Nat → Except RuntimeError Nat
  | .runtime (some context) _, _ => .ok context
  | .runtime none _, _ => .error .invalidated
  | .attachment, some context => .ok context
  | .attachment, none => .error .nullContext

/-- `with_context` and `with_backend` up to the operation. -/
def enter (thread : EntryThread) (shared : Nat) (place : Place)
    (supplied : Option Nat) : Reply × EntryThread :=
  match place.shared.ensureActive thread.id with
  | .error error => (.failed error, thread)
  | .ok () =>
      match Entrant.entryContext place.entrant supplied with
      | .error error => (.failed error, thread)
      | .ok context =>
          match place.shared.ensureEntryCompatible thread.id thread.active
              context with
          | .error error => (.failed error, thread)
          | .ok () => thread.enterFrame shared place context

/-- An entry answers as the attachment at its place does, and leaves at the
place what it leaves of the attachment. -/
theorem enter_attached {Raw Payload : Type*} {thread : EntryThread}
    {shared : Nat} {place : Place} {supplied : Option Nat}
    {attached : Attached Raw Payload}
    (present : thread.places[shared]? = some place)
    (stands : place.shared = attached.shared.entry)
    (contexts : Entrant.entryContext place.entrant supplied =
      attached.entryContext supplied) :
    ((∃ error, (thread.enter shared place supplied).1 = .failed error ∧
        (attached.enter thread.id supplied thread.active).1 =
          .failed (.runtime error)) ∨
      ((thread.enter shared place supplied).1 = .entered ∧
        (attached.enter thread.id supplied thread.active).1 = .begun)) ∧
    (thread.enter shared place supplied).2.places[shared]? =
      some { place with
        shared := (attached.enter thread.id supplied
          thread.active).2.shared.entry } := by
  have gate : place.shared.gate = attached.shared.gate := by
    rw [stands]
    rfl
  have bound := (List.getElem?_eq_some_iff.mp present).1
  unfold enter Attached.enter
  rw [stands, contexts, SharedEntry.ensureActive_entry]
  cases attached.shared.ensureActive thread.id with
  | error error =>
      refine ⟨Or.inl ⟨error, rfl, rfl⟩, ?_⟩
      rw [← stands]
      exact present
  | ok active =>
      cases attached.entryContext supplied with
      | error error =>
          refine ⟨Or.inl ⟨error, rfl, rfl⟩, ?_⟩
          rw [← stands]
          exact present
      | ok context =>
          simp only [SharedEntry.ensureEntryCompatible_entry]
          cases attached.shared.ensureEntryCompatible thread.id thread.active
              context with
          | error error =>
              refine ⟨Or.inl ⟨error, rfl, rfl⟩, ?_⟩
              rw [← stands]
              exact present
          | ok compatible =>
              simp only [enterFrame, gate]
              obtain ⟨answer, next⟩ := attached.shared.gate.tryEnter
              have placed : (thread.setPlace shared
                  (place.withGate next)).places[shared]? =
                  some (place.withGate next) :=
                List.getElem?_set_self bound
              cases answer with
              | error error =>
                  refine ⟨Or.inl ⟨_, rfl, rfl⟩, placed.trans ?_⟩
                  rw [Place.withGate, stands]
                  rfl
              | ok entered =>
                  refine ⟨Or.inr ⟨rfl, rfl⟩, placed.trans ?_⟩
                  rw [Place.withGate, stands]
                  rfl

/-- `Drop` of an `ActiveEntryFrame`, on return or unwind, up to the drain that
the outermost one makes. -/
def leave (thread : EntryThread) (shared : Nat) (place : Place)
    (previous : ActiveEntry) (rest : List EntryCall) : Reply × EntryThread :=
  let left : EntryThread :=
    { thread.setPlace shared (place.withGate place.shared.gate.dropEntry) with
      active := previous }
  if left.active.runtime = none then
    (.done, left.withStack (.draining :: rest))
  else
    (.done, left.withStack rest)

/-! ## Teardown of owned runtimes -/

/-- `destroy_owned_runtime` up to its first user destructors. -/
def destroyOwnedRuntime (thread : EntryThread) (shared : Nat) (place : Place)
    (context : Nat) (cause : DestroyCause) : Reply × EntryThread :=
  match place.shared.gate.requestDrain.tryBeginCleanup with
  | (.error error, gate) =>
      (.failed (.host error), thread.setPlace shared (place.withGate gate))
  | (.ok _, gate) =>
      (.begun,
        (thread.setPlace shared
          { place.withGate gate with custody := cause.custody }).withStack
          (.destroying shared context cause .releasing :: thread.stack))

def contextGroupIsIndependentFromActiveEntry (thread : EntryThread)
    (contextGroup : Nat) : Bool :=
  match thread.active.context with
  | none => false
  | some activeContext =>
      match thread.contextGetGroup activeContext with
      | none => false
      | some group => group ≠ contextGroup

/-- `Runtime::invalidate` up to `destroy_owned_runtime`: the context to
release, unless the runtime is destroyed already. -/
def mayDestroy (thread : EntryThread) (place : Place) (context : Option Nat)
    (contextGroup : Nat) : Except RuntimeError (Option Nat) :=
  match place.shared.ensureThread thread.id with
  | .error error => .error error
  | .ok () =>
      if place.shared.gate.state = .destroyed then
        .ok none
      else
        match context with
        | none => .error .invalidated
        | some context =>
            match place.shared.ensureEntryCompatible thread.id thread.active
                context with
            | .ok () => .ok (some context)
            | .error error =>
                if error ≠ .activeEntryConflict ∨
                    !thread.contextGroupIsIndependentFromActiveEntry
                      contextGroup then
                  .error error
                else
                  .ok (some context)

def invalidate (thread : EntryThread) (shared : Nat) (place : Place)
    (context : Option Nat) (contextGroup : Nat) : Reply × EntryThread :=
  match thread.mayDestroy place context contextGroup with
  | .error error => (.failed error, thread)
  | .ok none => (.done, thread)
  | .ok (some context) =>
      thread.destroyOwnedRuntime shared place context .invalidated

/-- `Drop` of a `Runtime`. -/
def dropRuntime (thread : EntryThread) (shared : Nat) (place : Place)
    (context : Option Nat) (contextGroup : Nat) : Reply × EntryThread :=
  let dropped := { place with custody := .dropped }
  match thread.mayDestroy place context contextGroup with
  | .ok none => (.done, thread.setPlace shared dropped)
  | .ok (some context) =>
      thread.destroyOwnedRuntime shared dropped context .dropped
  | .error error =>
      match error, context with
      | .activeEntryConflict, some context =>
          (.done,
            { thread.setPlace shared
                { dropped with entrant := .runtime none contextGroup } with
              deferred := ⟨shared, context⟩ :: thread.deferred })
      | _, _ => (.done, thread.setPlace shared dropped)

/-- What `invalidate` leaves when `destroy_owned_runtime` returns: its
runtime, which forgets the context that was destroyed. -/
def Place.returned (place : Place) (cause : DestroyCause) (destroyed : Bool) :
    Place :=
  match cause, place.entrant with
  | .invalidated, .runtime context contextGroup =>
      { place with
        entrant := .runtime (if destroyed then none else context) contextGroup
        custody := .here }
  | _, _ => place

/-- The next step of `destroy_owned_runtime`, once its user destructors have
run. -/
def advanceDestroy (thread : EntryThread) (shared : Nat) (place : Place)
    (context : Nat) (cause : DestroyCause) (phase : DestructorPhase)
    (rest : List EntryCall) : Reply × EntryThread :=
  match phase with
  | .releasing =>
      match place.shared.gate.complete.finishDrain with
      | (.error error, gate) =>
          (.failed (.host error),
            (thread.setPlace shared
              (Place.returned (place.withGate gate) cause false)).withStack
              rest)
      | (.ok _, gate) =>
          (.begun,
            ((thread.setPlace shared
              (place.withGate gate)).globalContextRelease context).withStack
              (.destroying shared context cause .retiring :: rest))
  | .retiring =>
      match place.shared.gate.markDestroyed with
      | (.error error, gate) =>
          (.failed (.host error),
            (thread.setPlace shared
              (Place.returned (place.withGate gate) cause false)).withStack
              rest)
      | (.ok (), gate) =>
          (.done,
            (thread.setPlace shared
              (Place.returned (place.withGate gate) cause true)).withStack
              rest)

/-- One round of the loop of `drain_deferred_owned_drops`, which ignores how
`destroy_owned_runtime` ends. -/
def drainDeferredOwnedDrops (thread : EntryThread) (rest : List EntryCall) :
    Option (Reply × EntryThread) :=
  match thread.deferred with
  | [] => some (.done, thread.withStack rest)
  | record :: records =>
      match thread.places[record.shared]? with
      | none => none
      | some place =>
          some (EntryThread.destroyOwnedRuntime
            { thread with deferred := records } record.shared place
            record.context .deferred)

/-- A detach starts its user destructors. -/
def detaching (thread : EntryThread) (shared : Nat) (place : Place)
    (cause : DetachCause) (custody : Custody) : Reply × EntryThread :=
  (.begun,
    (thread.setPlace shared { place with custody := custody }).withStack
      (.detaching shared cause .releasing :: thread.stack))

def detachWithContext (thread : EntryThread) (shared : Nat) (place : Place)
    (supplied : Option Nat) : Reply × EntryThread :=
  match place.shared.ensureThread thread.id with
  | .error error => (.failed error, thread)
  | .ok () =>
      match supplied with
      | none => (.failed .nullContext, thread)
      | some context =>
          match place.shared.ensureEntryCompatible thread.id thread.active
              context with
          | .error error => (.failed error, thread)
          | .ok () =>
              if place.shared.gate.state = .destroyed then
                (.done, thread)
              else
                match place.shared.gate.requestDrain.tryBeginCleanup with
                | (.error error, gate) =>
                    (.failed (.host error),
                      thread.setPlace shared (place.withGate gate))
                | (.ok _, gate) =>
                    thread.detaching shared (place.withGate gate) .withContext
                      .lent

def detachWithoutContext (thread : EntryThread) (shared : Nat)
    (place : Place) : Reply × EntryThread :=
  match place.shared.ensureThread thread.id with
  | .error error => (.failed error, thread)
  | .ok () =>
      if place.shared.gate.state = .destroyed then
        (.done, thread)
      else
        match place.shared.gate.requestDrain.finishDrain with
        | (.error error, gate) =>
            (.failed (.host error),
              thread.setPlace shared (place.withGate gate))
        | (.ok _, gate) =>
            thread.detaching shared (place.withGate gate) .withoutContext .lent

/-- `Drop` of an `Attachment`. -/
def dropAttachment (thread : EntryThread) (shared : Nat) (place : Place) :
    Reply × EntryThread :=
  if place.shared.gate.state = .destroyed then
    (.done, thread.setPlace shared { place with custody := .dropped })
  else
    match place.shared.gate.requestDrain.finishDrain with
    | (.ok _, gate) =>
        thread.detaching shared (place.withGate gate) (.dropped true) .dropped
    | (.error _, gate) =>
        thread.detaching shared (place.withGate gate) (.dropped false) .dropped

/-- The detach gives back the attachment it borrowed. -/
def Place.detached (place : Place) : Place :=
  if place.custody = .lent then { place with custody := .here } else place

/-- The next step of a detach, once its user destructors have run. -/
def advanceDetach (thread : EntryThread) (shared : Nat) (place : Place)
    (cause : DetachCause) (phase : DestructorPhase) (rest : List EntryCall) :
    Reply × EntryThread :=
  match phase, cause with
  | .releasing, .withContext =>
      match place.shared.gate.complete.finishDrain with
      | (.error error, gate) =>
          (.failed (.host error),
            (thread.setPlace shared
              (Place.detached (place.withGate gate))).withStack rest)
      | (.ok _, gate) =>
          (.begun,
            (thread.setPlace shared (place.withGate gate)).withStack
              (.detaching shared cause .retiring :: rest))
  | .releasing, _ =>
      (.begun, thread.withStack (.detaching shared cause .retiring :: rest))
  | .retiring, .dropped false => (.done, thread.withStack rest)
  | .retiring, _ =>
      match place.shared.gate.markDestroyed with
      | (.error error, gate) =>
          (.failed (.host error),
            (thread.setPlace shared
              (Place.detached (place.withGate gate))).withStack rest)
      | (.ok (), gate) =>
          (.done,
            (thread.setPlace shared
              (Place.detached (place.withGate gate))).withStack rest)

/-- What user code does next, or where a call under way goes on. -/
inductive Op where
  | newContext (group : Option Nat)
  | newRuntime (context : Option (Option Nat))
  | newAttachment (finalEntryPolicy : FinalEntryPolicy)
  | enter (shared : Nat) (supplied : Option Nat)
  | invalidate (shared : Nat)
  | drop (shared : Nat)
  | detachWithContext (shared : Nat) (supplied : Option Nat)
  | detachWithoutContext (shared : Nat)
  /-- The operation of an entry returns, or unwinds. -/
  | leave (unwinding : Bool)
  /-- The user destructors of a teardown have run, or a drain goes on. -/
  | advance
  deriving DecidableEq, Repr

/-- A drain runs no user code of its own. -/
def userRuns : List EntryCall → Bool
  | .draining :: _ => false
  | _ => true

/-- User code can only supply a context that the engine has made. -/
def contextKnown (thread : EntryThread) (supplied : Option Nat) : Bool :=
  supplied.all (· < thread.contexts.length)

/-- An operation of user code on a runtime or an attachment it has. -/
def onPlace (thread : EntryThread) (shared : Nat) (place : Place) (op : Op) :
    Option (Reply × EntryThread) :=
  match op, place.entrant with
  | .enter _ supplied, _ =>
      if thread.contextKnown supplied then
        some (thread.enter shared place supplied)
      else none
  | .invalidate _, .runtime context contextGroup =>
      some (thread.invalidate shared place context contextGroup)
  | .drop _, .runtime context contextGroup =>
      some (thread.dropRuntime shared place context contextGroup)
  | .drop _, .attachment => some (thread.dropAttachment shared place)
  | .detachWithContext _ supplied, .attachment =>
      if thread.contextKnown supplied then
        some (thread.detachWithContext shared place supplied)
      else none
  | .detachWithoutContext _, .attachment =>
      some (thread.detachWithoutContext shared place)
  | _, _ => none

/-- The attachment an operation of user code names. -/
def Op.shared? : Op → Option Nat
  | .enter shared _ | .invalidate shared | .drop shared
  | .detachWithContext shared _ | .detachWithoutContext shared => some shared
  | _ => none

def user (thread : EntryThread) (op : Op) : Option (Reply × EntryThread) :=
  match op with
  | .newContext group => some (thread.newContext group)
  | .newRuntime context => some (thread.newRuntime context)
  | .newAttachment finalEntryPolicy =>
      some (thread.newAttachment finalEntryPolicy)
  | op =>
      match op.shared? with
      | none => none
      | some shared =>
          match thread.places[shared]? with
          | none => none
          | some place =>
              if place.custody = .here then thread.onPlace shared place op
              else none

/-- The call on top of the stack goes on. -/
def goOn (thread : EntryThread) : Option (Reply × EntryThread) :=
  match thread.stack with
  | .draining :: rest => thread.drainDeferredOwnedDrops rest
  | .destroying shared context cause phase :: rest =>
      match thread.places[shared]? with
      | none => none
      | some place =>
          some (thread.advanceDestroy shared place context cause phase rest)
  | .detaching shared cause phase :: rest =>
      match thread.places[shared]? with
      | none => none
      | some place =>
          some (thread.advanceDetach shared place cause phase rest)
  | _ => none

def perform (thread : EntryThread) (op : Op) : Option (Reply × EntryThread) :=
  match op with
  | .leave _ =>
      match thread.stack with
      | .frame shared _ previous :: rest =>
          match thread.places[shared]? with
          | none => none
          | some place => some (thread.leave shared place previous rest)
      | _ => none
  | .advance => thread.goOn
  | op => if userRuns thread.stack then thread.user op else none

end EntryThread

def entryThread : Component EntryThread EntryThread.Op EntryThread.Reply where
  perform := EntryThread.perform

/-- Every order of entries, teardowns and drops on a thread that starts
without any attachment. -/
def entryThreads :
    System EntryThread (Exchange EntryThread.Op EntryThread.Reply) :=
  entryThread.system (fun thread => ∃ id, thread = .new id)

end RustJsi.BackendJsc
