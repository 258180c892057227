import RustJsi.Testkit.ModelValues

/-!
# Histories of the deterministic backend

One scope is open at a time, and it is dropped before the next one is opened.
Whatever is done in the scopes, the values that live are those of the open
scope and those that a root names.
-/

namespace RustJsi.Testkit

open Generational Interleaving
open RustJsi.BackendJsc (BackendError ValueKind)

/-- The operations of a scope. -/
inductive ScopeOp where
  | create (value : Primitive)
  | evaluate
  | call (function : ValueId) (receiver : CallReceiver ValueId)
      (arguments : List ValueId)
  | kind (value : ValueId)
  | persist (value : ValueId)
  | resolve (root : ModelRoot)
  | release (root : ModelRoot)
  | externalize (owner : List UInt8)
  deriving DecidableEq

/-- A scope is dropped in the order its set of locals is iterated in. -/
inductive SessionOp where
  | pushEvaluation (evaluation : Evaluation)
  | pushInvocation (invocation : Invocation)
  | rejectNextExternalBuffer
  | failNextExternalBufferAfterAccept
  | openScope
  | dropScope (order : List ValueId)
  | inScope (op : ScopeOp)
  deriving DecidableEq

inductive SessionReply where
  | done
  | value (result : Except BackendError ValueId)
  | kind (result : Except BackendError ValueKind)
  | root (result : Except BackendError ModelRoot)
  | released (result : Except BackendError Unit)
  | transfer (result : Except ModelTransferError ValueId)
  deriving DecidableEq

/-- A backend, and the locals of the scope that is open on it. -/
structure ModelSession where
  backend : ModelBackend
  locals : Option (List ValueId)

namespace ModelScope

/-- `none` where the operation panics. -/
def perform (scope : ModelScope) :
    ScopeOp → Option (SessionReply × ModelScope)
  | .create value =>
      (scope.primitive value).map fun (value, next) => (.value (.ok value), next)
  | .evaluate => scope.evaluate.map fun (result, next) => (.value result, next)
  | .call function receiver arguments =>
      (scope.call function receiver arguments).map fun (result, next) =>
        (.value result, next)
  | .kind value => some (.kind (scope.validate value), scope)
  | .persist value =>
      (scope.persist value).map fun (result, next) => (.root result, next)
  | .resolve root =>
      let (result, next) := scope.resolve root
      some (.value result, next)
  | .release root =>
      let (result, next) := scope.release root
      some (.released result, next)
  | .externalize owner =>
      (scope.externalize owner).map fun (result, next) =>
        (.transfer result, next)

end ModelScope

namespace ModelSession

def initial (id : UInt64) : ModelSession where
  backend := .new id
  locals := none

/-- An open scope borrows the backend, so that it alone is used. -/
def perform (session : ModelSession) :
    SessionOp → Option (SessionReply × ModelSession) :=
  fun op =>
    match session.locals, op with
    | none, .pushEvaluation evaluation =>
        some (.done, ⟨session.backend.pushEvaluation evaluation, none⟩)
    | none, .pushInvocation invocation =>
        some (.done, ⟨session.backend.pushInvocation invocation, none⟩)
    | none, .rejectNextExternalBuffer =>
        some (.done, ⟨session.backend.rejectNextExternalBuffer, none⟩)
    | none, .failNextExternalBufferAfterAccept =>
        some (.done, ⟨session.backend.failNextExternalBufferAfterAccept, none⟩)
    | none, .openScope =>
        let scope := session.backend.openScope
        some (.done, ⟨scope.backend, some scope.locals⟩)
    | some locals, .dropScope order =>
        if order.Perm locals then
          some (.done, ⟨ModelScope.drop ⟨session.backend, locals⟩ order, none⟩)
        else
          none
    | some locals, .inScope op =>
        (ModelScope.perform ⟨session.backend, locals⟩ op).map
          fun (reply, scope) => (reply, ⟨scope.backend, some scope.locals⟩)
    | _, _ => none

def component : Component ModelSession SessionOp SessionReply where
  perform := perform

/-- The histories of the backend with this identity. -/
def system (id : UInt64) : System ModelSession (Exchange SessionOp SessionReply) :=
  component.system fun session => session = initial id

end ModelSession

namespace ModelEvent

def createdOf : ModelEvent → Option ValueId
  | .created value => some value
  | _ => none

def persistedOf : ModelEvent → Option (ModelRoot × ValueId)
  | .persisted root value => some (root, value)
  | _ => none

def releasedOf : ModelEvent → Option ModelRoot
  | .released root => some root
  | _ => none

/-- The values an open scope was given. -/
def obtainedOf : ModelEvent → Option ValueId
  | .created value => some value
  | .resolved value => some value
  | _ => none

end ModelEvent

namespace ModelScope

def event : ScopeOp → SessionReply → Option ModelEvent
  | .resolve _, .value result => resolveEvent result
  | .persist value, .root result => persistEvent value result
  | .release root, .released result => releaseEvent root result
  | .externalize _, .transfer result => madeEvent result
  | .create _, .value result => madeEvent result
  | .evaluate, .value result => madeEvent result
  | .call .., .value result => madeEvent result
  | _, _ => none

end ModelScope

namespace ModelSession

abbrev SessionExchange :=
  Exchange SessionOp SessionReply

def event (exchange : SessionExchange) : Option ModelEvent :=
  match exchange.op with
  | .inScope op => ModelScope.event op exchange.reply
  | _ => none

def created (trace : List SessionExchange) : List ValueId :=
  (trace.filterMap event).filterMap ModelEvent.createdOf

/-- The roots that were issued, each with the value it was made from. -/
def persisted (trace : List SessionExchange) : List (ModelRoot × ValueId) :=
  (trace.filterMap event).filterMap ModelEvent.persistedOf

def released (trace : List SessionExchange) : List ModelRoot :=
  (trace.filterMap event).filterMap ModelEvent.releasedOf

/-- The values the scope that is open now has created or resolved. -/
def obtained (trace : List SessionExchange) : List ValueId :=
  trace.foldl
    (fun values exchange =>
      match exchange.op with
      | .inScope _ =>
          values ++ ((event exchange).bind ModelEvent.obtainedOf).toList
      | .openScope | .dropScope _ => []
      | _ => values)
    []

end ModelSession

/-! ## One operation in a scope -/

namespace ModelScope

/-- Every operation is performed: no index is out of bounds. -/
theorem perform_advances {scope : ModelScope}
    (values : Store.Sound scope.values) (roots : Store.Sound scope.roots)
    (rooted : ∀ value, scope.backend.Rooted value → scope.backend.Live value)
    (op : ScopeOp) :
    ∃ reply next, scope.perform op = some (reply, next) ∧
      Advances scope next (event op reply) := by
  cases op with
  | create value =>
      obtain ⟨made, next, performed, advances⟩ :=
        insert_advances values (.primitive value)
      simp only [perform, primitive, performed]
      exact ⟨_, _, rfl, advances⟩
  | evaluate =>
      obtain ⟨result, next, performed, advances⟩ := evaluate_advances values
      rw [perform, performed]
      exact ⟨_, _, rfl, advances⟩
  | call function receiver arguments =>
      obtain ⟨result, next, performed, advances⟩ :=
        call_advances values function receiver arguments
      rw [perform, performed]
      exact ⟨_, _, rfl, advances⟩
  | kind value => exact ⟨_, _, rfl, .refl scope⟩
  | persist value =>
      obtain ⟨result, next, performed, advances⟩ :=
        persist_advances roots value
      rw [perform, performed]
      exact ⟨_, _, rfl, advances⟩
  | resolve root => exact ⟨_, _, rfl, resolve_advances scope root⟩
  | release root => exact ⟨_, _, rfl, release_advances rooted root⟩
  | externalize owner =>
      obtain ⟨result, next, performed, advances⟩ :=
        externalize_advances values owner
      rw [perform, performed]
      exact ⟨_, _, rfl, advances⟩

end ModelScope

namespace ModelBackend

/-- What was created, persisted and released is what the maps have handed out
and taken back. -/
structure Accounts (backend : ModelBackend) (events : List ModelEvent)
    (created : List (Id 64 × ModelValueEntry)) : Prop where
  values : ∃ destroyed,
    Store.Ledger created destroyed backend.state.values
  roots : ∃ persisted released,
    Store.Ledger persisted released backend.state.roots ∧
    events.filterMap ModelEvent.persistedOf =
      persisted.map (fun entry => (⟨backend.id, entry.1⟩, entry.2)) ∧
    events.filterMap ModelEvent.releasedOf =
      released.map (fun entry => ⟨backend.id, entry.1⟩)
  told : events.filterMap ModelEvent.createdOf =
    created.map (fun entry => ⟨backend.id, entry.1⟩)

/-- What is rooted or local lives, and nothing else does. -/
structure Lifetimes (backend : ModelBackend) (locals : List ValueId) :
    Prop where
  rooted : ∀ value, backend.Rooted value → backend.Live value
  near : ∀ value ∈ locals, backend.Live value
  kept : ∀ value, backend.Live value →
    value ∈ locals ∨ backend.Rooted value

variable {backend : ModelBackend} {events : List ModelEvent}
  {created : List (Id 64 × ModelValueEntry)}

theorem Accounts.valuesSound (accounts : backend.Accounts events created) :
    Store.Sound backend.state.values := by
  obtain ⟨destroyed, ledger⟩ := accounts.values
  exact ledger.toSound

theorem Accounts.rootsSound (accounts : backend.Accounts events created) :
    Store.Sound backend.state.roots := by
  obtain ⟨persisted, released, ledger, _⟩ := accounts.roots
  exact ledger.toSound

/-- Both maps take a step, and the event tells which. -/
theorem steps_of_moves {scope next : ModelScope} {event : Option ModelEvent}
    (moves : scope.Moves next event) :
    ∃ created destroyed persisted released,
      Store.Step scope.values created destroyed next.values ∧
      Store.Step scope.roots persisted released next.roots ∧
      event.toList.filterMap ModelEvent.createdOf =
        created.map (fun entry => ⟨scope.backend.id, entry.1⟩) ∧
      event.toList.filterMap ModelEvent.persistedOf =
        persisted.map
          (fun entry => (⟨scope.backend.id, entry.1⟩, entry.2)) ∧
      event.toList.filterMap ModelEvent.releasedOf =
        released.map (fun entry => ⟨scope.backend.id, entry.1⟩) := by
  have restedValues : next.values = scope.values →
      Store.Step scope.values [] [] next.values := by
    intro same
    rw [same]
    exact .rested
  have restedRoots : next.roots = scope.roots →
      Store.Step scope.roots [] [] next.roots := by
    intro same
    rw [same]
    exact .rested
  cases moves with
  | kept values roots locals =>
      exact ⟨[], [], [], [], restedValues values, restedRoots roots,
        rfl, rfl, rfl⟩
  | created entry values roots locals =>
      exact ⟨_, [], [], [], values, restedRoots roots, rfl, rfl, rfl⟩
  | resolved rooted values roots locals =>
      exact ⟨[], [], [], [], restedValues values, restedRoots roots,
        rfl, rfl, rfl⟩
  | persisted live values roots locals =>
      exact ⟨[], [], _, [], restedValues values, roots, rfl, rfl, rfl⟩
  | released roots locals values still =>
      exact ⟨[], [], [], _, restedValues values, roots, rfl, rfl, rfl⟩
  | destroyed entry roots locals values remote unrooted =>
      exact ⟨[], _, [], _, values, roots, rfl, rfl, rfl⟩

theorem Accounts.advance {scope next : ModelScope}
    {event : Option ModelEvent}
    (accounts : scope.backend.Accounts events created)
    (advances : scope.Advances next event) :
    ∃ issuing, next.backend.Accounts (events ++ event.toList)
      (created ++ issuing) := by
  obtain ⟨issuing, destroying, persisting, releasing, values, roots,
    creates, persists, releases⟩ := steps_of_moves advances.moves
  obtain ⟨destroyed, valuesLedger⟩ := accounts.values
  obtain ⟨persisted, released, rootsLedger, toldRoots, toldReleases⟩ :=
    accounts.roots
  refine ⟨issuing, ⟨_, valuesLedger.step values⟩,
    ⟨_, _, rootsLedger.step roots, ?_, ?_⟩, ?_⟩
  · rw [List.filterMap_append, List.map_append, advances.own, toldRoots,
      persists]
  · rw [List.filterMap_append, List.map_append, advances.own, toldReleases,
      releases]
  · rw [List.filterMap_append, List.map_append, advances.own, accounts.told,
      creates]

/-- The values of one backend differ in what they are in its map. -/
theorem Live.ne_id {value other : ValueId} (live : backend.Live value)
    (otherLive : backend.Live other) (apart : value ≠ other) :
    value.id ≠ other.id := by
  intro same
  apply apart
  obtain ⟨owner, id⟩ := value
  obtain ⟨otherOwner, otherId⟩ := other
  have owners : owner = otherOwner := live.1.trans otherLive.1.symm
  rw [owners, show id = otherId from same]

section Steps

variable {next : ModelBackend} {id : Id 64}

theorem live_issuing {entry : ModelValueEntry}
    (own : next.id = backend.id)
    (step : Store.Step backend.state.values [(id, entry)] []
      next.state.values) (value : ValueId) :
    next.Live value ↔ backend.Live value ∨ value = ⟨backend.id, id⟩ := by
  obtain ⟨owner, valueId⟩ := value
  simp only [Live, own, step.get_issuing, ValueId.mk.injEq]
  constructor
  · intro live
    obtain ⟨owned, found, named⟩ := live
    cases named with
    | inl issued => exact Or.inr ⟨owned, issued.1⟩
    | inr named => exact Or.inl ⟨owned, found, named⟩
  · intro live
    cases live with
    | inl live =>
        obtain ⟨owned, found, named⟩ := live
        exact ⟨owned, found, Or.inr named⟩
    | inr issued => exact ⟨issued.1, entry, Or.inl ⟨issued.2, rfl⟩⟩

theorem live_returning {gone : ValueId} {entry : ModelValueEntry}
    (own : next.id = backend.id) (present : backend.Live gone)
    (step : Store.Step backend.state.values [] [(gone.id, entry)]
      next.state.values) (value : ValueId) :
    next.Live value ↔ value ≠ gone ∧ backend.Live value := by
  simp only [Live, own, step.get_returning]
  constructor
  · intro live
    obtain ⟨owned, found, apart, named⟩ := live
    refine ⟨?_, owned, found, named⟩
    intro same
    exact apart (congrArg ValueId.id same)
  · intro live
    obtain ⟨apart, owned, found, named⟩ := live
    exact ⟨owned, found, Live.ne_id ⟨owned, found, named⟩ present apart,
      named⟩

theorem rooted_issuing {root : Id 64} {target : ValueId}
    (step : Store.Step backend.state.roots [(root, target)] []
      next.state.roots) (value : ValueId) :
    next.Rooted value ↔ backend.Rooted value ∨ value = target := by
  simp only [Rooted, step.get_issuing]
  constructor
  · intro rooted
    obtain ⟨other, named⟩ := rooted
    cases named with
    | inl issued => exact Or.inr issued.2
    | inr named => exact Or.inl ⟨other, named⟩
  · intro rooted
    cases rooted with
    | inl rooted =>
        obtain ⟨other, named⟩ := rooted
        exact ⟨other, Or.inr named⟩
    | inr issued => exact ⟨root, Or.inl ⟨rfl, issued⟩⟩

/-- A root that goes takes its own value with it, if any. -/
theorem rooted_returning {root : Id 64} {target : ValueId}
    (step : Store.Step backend.state.roots [] [(root, target)]
      next.state.roots) (value : ValueId) :
    backend.Rooted value ↔ next.Rooted value ∨ value = target := by
  simp only [Rooted, step.get_returning]
  constructor
  · intro rooted
    obtain ⟨other, named⟩ := rooted
    by_cases same : other = root
    · subst same
      have target := step.get_of_returning
      rw [named] at target
      exact Or.inr (Option.some.inj target)
    · exact Or.inl ⟨other, same, named⟩
  · intro rooted
    cases rooted with
    | inl rooted =>
        obtain ⟨other, _, named⟩ := rooted
        exact ⟨other, named⟩
    | inr same =>
        rw [same]
        exact ⟨root, step.get_of_returning⟩

end Steps

theorem Lifetimes.advance {scope next : ModelScope}
    {event : Option ModelEvent}
    (lifetimes : scope.backend.Lifetimes scope.locals)
    (advances : scope.Advances next event) :
    next.backend.Lifetimes next.locals := by
  obtain ⟨own, moves⟩ := advances
  have live : next.values = scope.values → ∀ value,
      next.backend.Live value ↔ scope.backend.Live value :=
    fun values _ => Live.congr own values
  have rooted : next.roots = scope.roots → ∀ value,
      next.backend.Rooted value ↔ scope.backend.Rooted value :=
    fun roots _ => Rooted.congr roots
  cases moves with
  | kept values roots locals =>
      refine ⟨?_, ?_, ?_⟩
      · intro value named
        rw [live values]
        exact lifetimes.rooted value ((rooted roots value).mp named)
      · intro value member
        rw [locals] at member
        rw [live values]
        exact lifetimes.near value member
      · intro value alive
        rw [locals, rooted roots]
        exact lifetimes.kept value ((live values value).mp alive)
  | created entry values roots locals =>
      have live := live_issuing own values
      refine ⟨?_, ?_, ?_⟩
      · intro value named
        rw [live]
        exact Or.inl (lifetimes.rooted value ((rooted roots value).mp named))
      · intro value member
        rw [live]
        exact ((locals value).mp member).imp_left (lifetimes.near value)
      · intro value alive
        rw [locals, rooted roots]
        cases (live value).mp alive with
        | inl alive => exact (lifetimes.kept value alive).imp_left Or.inl
        | inr issued => exact Or.inl (Or.inr issued)
  | resolved named values roots locals =>
      refine ⟨?_, ?_, ?_⟩
      · intro value named
        rw [live values]
        exact lifetimes.rooted value ((rooted roots value).mp named)
      · intro value member
        rw [live values]
        cases (locals value).mp member with
        | inl member => exact lifetimes.near value member
        | inr same =>
            rw [same]
            exact lifetimes.rooted _ named
      · intro value alive
        rw [locals, rooted roots]
        exact (lifetimes.kept value ((live values value).mp alive)).imp_left
          Or.inl
  | persisted present values roots locals =>
      have rooted := rooted_issuing roots
      refine ⟨?_, ?_, ?_⟩
      · intro value named
        rw [live values]
        cases (rooted value).mp named with
        | inl named => exact lifetimes.rooted value named
        | inr same =>
            rw [same]
            exact present
      · intro value member
        rw [locals] at member
        rw [live values]
        exact lifetimes.near value member
      · intro value alive
        rw [locals, rooted]
        exact (lifetimes.kept value ((live values value).mp alive)).imp_right
          Or.inl
  | released roots locals values still =>
      have rooted := rooted_returning roots
      refine ⟨?_, ?_, ?_⟩
      · intro value named
        rw [live values]
        exact lifetimes.rooted value ((rooted value).mpr (Or.inl named))
      · intro value member
        rw [locals] at member
        rw [live values]
        exact lifetimes.near value member
      · intro value alive
        rw [locals]
        cases lifetimes.kept value ((live values value).mp alive) with
        | inl near => exact Or.inl near
        | inr named =>
            cases (rooted value).mp named with
            | inl named => exact Or.inr named
            | inr same =>
                rw [same]
                exact still
  | @destroyed id gone entry roots locals values remote unrooted =>
      have rooted := rooted_returning roots
      have present := lifetimes.rooted gone ((rooted gone).mpr (Or.inr rfl))
      have live := live_returning own present values
      refine ⟨?_, ?_, ?_⟩
      · intro value named
        rw [live]
        refine ⟨?_, lifetimes.rooted value ((rooted value).mpr (Or.inl named))⟩
        intro same
        rw [same] at named
        exact unrooted named
      · intro value member
        rw [locals] at member
        rw [live]
        refine ⟨?_, lifetimes.near value member⟩
        intro same
        rw [same] at member
        exact remote member
      · intro value alive
        rw [locals]
        obtain ⟨apart, alive⟩ := (live value).mp alive
        cases lifetimes.kept value alive with
        | inl near => exact Or.inl near
        | inr named =>
            exact Or.inr (((rooted value).mp named).resolve_right apart)

/-- A local goes with its scope, unless it is rooted. -/
def dropLocal (backend : ModelBackend) (value : ValueId) : ModelBackend :=
  { backend with
    state := if backend.state.isRooted value then backend.state
      else backend.state.removeValue value }

theorem drop_cons (locals order : List ValueId) (value : ValueId) :
    ModelScope.drop ⟨backend, locals⟩ (value :: order) =
      ModelScope.drop ⟨backend.dropLocal value, locals⟩ order :=
  rfl

theorem dropLocal_cases (backend : ModelBackend) (value : ValueId) :
    (backend.dropLocal value = backend ∧
      (backend.Rooted value ∨
        Store.get backend.state.values value.id = none)) ∨
    (¬backend.Rooted value ∧ ∃ entry values,
      Store.get backend.state.values value.id = some entry ∧
      Store.Step backend.state.values [] [(value.id, entry)] values ∧
      backend.dropLocal value = { backend with state.values := values }) := by
  rw [dropLocal]
  split
  · rename_i listed
    exact Or.inl ⟨rfl, Or.inl ((ModelState.isRooted_iff _ _).mp listed)⟩
  · rename_i unlisted
    have unrooted : ¬backend.Rooted value :=
      fun rooted => unlisted ((ModelState.isRooted_iff _ _).mpr rooted)
    rw [ModelState.removeValue]
    cases SlotMap.remove_cases backend.state.values value.id with
    | inl absent =>
        rw [absent.2]
        exact Or.inl ⟨rfl, Or.inr absent.1⟩
    | inr removal =>
        obtain ⟨entry, values, named, removed, step⟩ := removal
        rw [removed]
        exact Or.inr ⟨unrooted, entry, values, named, step, rfl⟩

theorem Accounts.dropLocal (accounts : backend.Accounts events created)
    (value : ValueId) :
    (backend.dropLocal value).Accounts events created := by
  cases dropLocal_cases backend value with
  | inl kept =>
      rw [kept.1]
      exact accounts
  | inr gone =>
      obtain ⟨_, entry, values, _, step, dropped⟩ := gone
      obtain ⟨destroyed, ledger⟩ := accounts.values
      have ledger := ledger.step step
      rw [List.append_nil] at ledger
      rw [dropped]
      exact ⟨⟨_, ledger⟩, accounts.roots, accounts.told⟩

theorem dropLocal_frame (backend : ModelBackend) (value : ValueId) :
    (backend.dropLocal value).id = backend.id ∧
      (backend.dropLocal value).state.roots = backend.state.roots := by
  cases dropLocal_cases backend value with
  | inl kept =>
      rw [kept.1]
      exact ⟨rfl, rfl⟩
  | inr gone =>
      obtain ⟨_, entry, values, _, step, dropped⟩ := gone
      rw [dropped]
      exact ⟨rfl, rfl⟩

theorem live_dropLocal {value : ValueId} (own : value.backend = backend.id)
    (other : ValueId) :
    (backend.dropLocal value).Live other ↔
      backend.Live other ∧ (other = value → backend.Rooted other) := by
  cases dropLocal_cases backend value with
  | inl kept =>
      rw [kept.1]
      refine (and_iff_left_of_imp ?_).symm
      intro live same
      subst same
      obtain ⟨_, entry, named⟩ := live
      refine kept.2.resolve_right ?_
      rw [named]
      nofun
  | inr gone =>
      obtain ⟨unrooted, entry, values, named, step, dropped⟩ := gone
      have next : (backend.dropLocal value).id = backend.id :=
        (dropLocal_frame backend value).1
      have taken : Store.Step backend.state.values [] [(value.id, entry)]
          (backend.dropLocal value).state.values := by
        rw [dropped]
        exact step
      rw [live_returning next ⟨own, entry, named⟩ taken, and_comm]
      refine and_congr_right ?_
      intro live
      constructor
      · intro apart same
        exact absurd same apart
      · intro rooted same
        have still := rooted same
        rw [same] at still
        exact unrooted still

theorem drop_spec (locals : List ValueId) {order : List ValueId} :
    ∀ {backend : ModelBackend}, backend.Accounts events created →
      (∀ value ∈ order, value.backend = backend.id) →
      (ModelScope.drop ⟨backend, locals⟩ order).Accounts events created ∧
      (∀ value, (ModelScope.drop ⟨backend, locals⟩ order).Rooted value ↔
        backend.Rooted value) ∧
      ∀ value, (ModelScope.drop ⟨backend, locals⟩ order).Live value ↔
        backend.Live value ∧ (value ∈ order → backend.Rooted value) := by
  induction order with
  | nil =>
      intro backend accounts own
      refine ⟨accounts, fun value => Iff.rfl, ?_⟩
      intro value
      exact (and_iff_left_of_imp fun _ member => nomatch member).symm
  | cons first order inductionHypothesis =>
      intro backend accounts own
      obtain ⟨same, roots⟩ := dropLocal_frame backend first
      have first_own := own first List.mem_cons_self
      have rest : ∀ value ∈ order,
          value.backend = (backend.dropLocal first).id := by
        intro value member
        rw [same]
        exact own value (List.mem_cons_of_mem _ member)
      have rooted : ∀ value,
          (backend.dropLocal first).Rooted value ↔ backend.Rooted value :=
        fun value => Rooted.congr roots
      rw [drop_cons]
      obtain ⟨books, named, live⟩ :=
        inductionHypothesis (accounts.dropLocal first) rest
      refine ⟨books, fun value => (named value).trans (rooted value), ?_⟩
      intro value
      rw [live, live_dropLocal first_own, rooted, List.mem_cons, and_assoc,
        or_imp]

/-- What a scope leaves behind is what is rooted. -/
theorem Lifetimes.drop {locals order : List ValueId}
    (lifetimes : backend.Lifetimes locals)
    (accounts : backend.Accounts events created)
    (same : order.Perm locals) :
    (ModelScope.drop ⟨backend, locals⟩ order).Accounts events created ∧
      (ModelScope.drop ⟨backend, locals⟩ order).Lifetimes [] := by
  have own : ∀ value ∈ order, value.backend = backend.id := by
    intro value member
    exact (lifetimes.near value (same.mem_iff.mp member)).1
  obtain ⟨books, rooted, live⟩ := drop_spec locals accounts own
  refine ⟨books, ?_, nofun, ?_⟩
  · intro value named
    have before := (rooted value).mp named
    exact (live value).mpr ⟨lifetimes.rooted value before, fun _ => before⟩
  · intro value alive
    obtain ⟨before, kept⟩ := (live value).mp alive
    rw [rooted]
    cases lifetimes.kept value before with
    | inl near => exact Or.inr (kept (same.mem_iff.mpr near))
    | inr named => exact Or.inr named

end ModelBackend

/-! ## Whole histories -/

namespace ModelScope

theorem mem_locals_of_moves {scope next : ModelScope}
    {event : Option ModelEvent} (moves : scope.Moves next event)
    (value : ValueId) :
    value ∈ next.locals ↔ value ∈ scope.locals ∨
      value ∈ (event.bind ModelEvent.obtainedOf).toList := by
  have same : next.locals = scope.locals → (value ∈ next.locals ↔
      value ∈ scope.locals ∨ value ∈ (none : Option ValueId).toList) := by
    intro locals
    rw [locals]
    exact (or_iff_left List.not_mem_nil).symm
  cases moves with
  | kept values roots locals => exact same locals
  | created entry values roots locals =>
      rw [locals]
      exact or_congr_right List.mem_singleton.symm
  | resolved rooted values roots locals =>
      rw [locals]
      exact or_congr_right List.mem_singleton.symm
  | persisted live values roots locals => exact same locals
  | released roots locals values still => exact same locals
  | destroyed entry roots locals values remote unrooted => exact same locals

end ModelScope

namespace ModelSession

theorem obtained_snoc (trace : List SessionExchange) (op : ScopeOp)
    (reply : SessionReply) :
    obtained (trace ++ [⟨.inScope op, reply⟩]) = obtained trace ++
      ((ModelScope.event op reply).bind ModelEvent.obtainedOf).toList := by
  rw [obtained, List.foldl_append]
  rfl

/-- The backend has done what the trace tells. -/
structure Sound (id : UInt64) (trace : List SessionExchange)
    (created : List (Id 64 × ModelValueEntry)) (session : ModelSession) :
    Prop where
  own : session.backend.id = id
  accounts : session.backend.Accounts (trace.filterMap event) created
  lifetimes : session.backend.Lifetimes (session.locals.getD [])
  obtained_iff : ∀ value,
    value ∈ session.locals.getD [] ↔ value ∈ obtained trace

variable {id : UInt64} {trace before after : List SessionExchange}
  {session middle next : ModelSession}
  {created : List (Id 64 × ModelValueEntry)}

theorem sound_initial (id : UInt64) : Sound id [] [] (initial id) := by
  refine ⟨rfl, ?_, ?_, fun value => Iff.rfl⟩
  · exact ⟨⟨[], Store.ledger_empty⟩, ⟨[], [], Store.ledger_empty, rfl, rfl⟩,
      rfl⟩
  · refine ⟨?_, nofun, ?_⟩
    · intro value rooted
      obtain ⟨root, named⟩ := rooted
      cases named
    · intro value live
      obtain ⟨_, entry, named⟩ := live
      cases named

theorem Sound.rooted (sound : Sound id trace created session) :
    ∀ value, session.backend.Rooted value → session.backend.Live value :=
  sound.lifetimes.rooted

/-- An operation between two scopes leaves the values and the roots alone. -/
theorem Sound.outside (sound : Sound id trace created session)
    (closed : session.locals = none) {exchange : SessionExchange}
    (own : next.backend.id = session.backend.id)
    (values : next.backend.state.values = session.backend.state.values)
    (roots : next.backend.state.roots = session.backend.state.roots)
    (locals : next.locals.getD [] = [])
    (silent : event exchange = none)
    (kept : obtained (trace ++ [exchange]) = [] ∨
      obtained (trace ++ [exchange]) = obtained trace) :
    Sound id (trace ++ [exchange]) created next := by
  obtain ⟨owned, ⟨valuesLedger, rootsLedger, told⟩, lifetimes, obtains⟩ :=
    sound
  rw [closed] at lifetimes obtains
  refine ⟨own.trans owned, ?_, ?_, ?_⟩
  · rw [filterMap_snoc, silent, Option.toList_none, List.append_nil]
    refine ⟨?_, ?_, ?_⟩
    · rw [values]
      exact valuesLedger
    · rw [roots, own]
      exact rootsLedger
    · rw [own]
      exact told
  · have live : ∀ value,
        next.backend.Live value ↔ session.backend.Live value :=
      fun value => ModelBackend.Live.congr own values
    have rooted : ∀ value,
        next.backend.Rooted value ↔ session.backend.Rooted value :=
      fun value => ModelBackend.Rooted.congr roots
    rw [locals]
    refine ⟨?_, nofun, ?_⟩
    · intro value named
      exact (live value).mpr (lifetimes.rooted value ((rooted value).mp named))
    · intro value alive
      rw [rooted]
      exact lifetimes.kept value ((live value).mp alive)
  · intro value
    rw [locals]
    cases kept with
    | inl empty => rw [empty]
    | inr same =>
        rw [same]
        exact obtains value

theorem Sound.perform (sound : Sound id trace created session)
    {op : SessionOp} {reply : SessionReply}
    (performed : session.perform op = some (reply, next)) :
    ∃ issuing,
      Sound id (trace ++ [⟨op, reply⟩]) (created ++ issuing) next := by
  obtain ⟨backend, locals⟩ := session
  cases locals with
  | none =>
      refine ⟨[], ?_⟩
      rw [List.append_nil]
      cases op with
      | pushEvaluation evaluation =>
          cases performed
          refine sound.outside rfl rfl rfl rfl rfl rfl (Or.inr ?_)
          rw [obtained, List.foldl_append]
          rfl
      | pushInvocation invocation =>
          cases performed
          refine sound.outside rfl rfl rfl rfl rfl rfl (Or.inr ?_)
          rw [obtained, List.foldl_append]
          rfl
      | rejectNextExternalBuffer =>
          cases performed
          refine sound.outside rfl rfl rfl rfl rfl rfl (Or.inr ?_)
          rw [obtained, List.foldl_append]
          rfl
      | failNextExternalBufferAfterAccept =>
          cases performed
          refine sound.outside rfl rfl rfl rfl rfl rfl (Or.inr ?_)
          rw [obtained, List.foldl_append]
          rfl
      | openScope =>
          cases performed
          refine sound.outside rfl rfl rfl rfl rfl rfl (Or.inl ?_)
          rw [obtained, List.foldl_append]
          rfl
      | dropScope order => cases performed
      | inScope op => cases performed
  | some locals =>
      cases op with
      | pushEvaluation evaluation => cases performed
      | pushInvocation invocation => cases performed
      | rejectNextExternalBuffer => cases performed
      | failNextExternalBufferAfterAccept => cases performed
      | openScope => cases performed
      | dropScope order =>
          simp only [ModelSession.perform] at performed
          split at performed
          · rename_i same
            cases performed
            refine ⟨[], ?_⟩
            rw [List.append_nil]
            obtain ⟨accounts, lifetimes⟩ :=
              sound.lifetimes.drop sound.accounts same
            refine ⟨sound.own, ?_, lifetimes, ?_⟩
            · rw [filterMap_snoc]
              simp only [event, Option.toList_none, List.append_nil]
              exact accounts
            · intro value
              rw [obtained, List.foldl_append]
              rfl
          · cases performed
      | inScope op =>
          obtain ⟨told, scope, run, advances⟩ := @ModelScope.perform_advances
            ⟨backend, locals⟩ sound.accounts.valuesSound
            sound.accounts.rootsSound sound.rooted op
          simp only [ModelSession.perform, run, Option.map_some] at performed
          cases performed
          obtain ⟨issuing, accounts⟩ := ModelBackend.Accounts.advance sound.accounts advances
          refine ⟨issuing, advances.own.trans sound.own, ?_, ?_, ?_⟩
          · rw [filterMap_snoc]
            exact accounts
          · exact ModelBackend.Lifetimes.advance sound.lifetimes advances
          · intro value
            rw [obtained_snoc, List.mem_append, ← sound.obtained_iff]
            exact ModelScope.mem_locals_of_moves advances.moves value

theorem Sound.path (sound : Sound id before created middle)
    (path : (system id).Path middle after session) :
    ∃ issued, Sound id (before ++ after) (created ++ issued) session := by
  induction path with
  | refl =>
      refine ⟨[], ?_⟩
      rw [List.append_nil, List.append_nil]
      exact sound
  | snoc _ step inductionHypothesis =>
      obtain ⟨issued, reached⟩ := inductionHypothesis
      obtain ⟨issuing, next⟩ := reached.perform step
      rw [List.append_assoc, List.append_assoc] at next
      exact ⟨_, next⟩

theorem run_sound (run : (system id).Run trace session) :
    ∃ created, Sound id trace created session := by
  obtain ⟨start, rfl, path⟩ := run
  obtain ⟨created, sound⟩ := (sound_initial id).path path
  exact ⟨created, sound⟩

/-- The identities of one backend are told apart by what follows its own. -/
theorem nodup_map_own {Name Value : Type*} {make : Id 64 → Name}
    (injective : Function.Injective make)
    {issued : List (Id 64 × Value)} (once : (issued.map Prod.fst).Nodup) :
    (issued.map fun entry => make entry.1).Nodup := by
  have maps : (issued.map fun entry => make entry.1) =
      (issued.map Prod.fst).map make := by
    rw [List.map_map]
    rfl
  rw [maps]
  exact once.map injective

/-- A root of the trace that was not released names its value still, and no
other root names anything. -/
theorem Sound.named_iff (sound : Sound id trace created session)
    (root : Id 64) (value : ValueId) :
    Store.get session.backend.state.roots root = some value ↔
      (⟨id, root⟩, value) ∈ persisted trace ∧ ⟨id, root⟩ ∉ released trace := by
  obtain ⟨issued, returned, ledger, persists, releases⟩ := sound.accounts.roots
  rw [persisted, released, persists, releases, sound.own]
  constructor
  · intro named
    refine ⟨?_, ?_⟩
    · exact List.mem_map.mpr ⟨_, ledger.get_issued named, rfl⟩
    · intro gone
      obtain ⟨⟨other, found⟩, member, same⟩ := List.mem_map.mp gone
      cases same
      have none := ledger.get_returned member
      rw [named] at none
      cases none
  · intro outstanding
    obtain ⟨⟨⟨other, found⟩, member, same⟩, kept⟩ :=
      And.imp_left List.mem_map.mp outstanding
    cases same
    cases List.mem_append.mp (ledger.balanced.mem_iff.mp member) with
    | inl gone => exact absurd (List.mem_map.mpr ⟨_, gone, rfl⟩) kept
    | inr held => exact Store.get_eq_some_iff_held.mpr held

/-- The roots of a trace are roots of its backend. -/
theorem Sound.persisted_own (sound : Sound id trace created session)
    {root : ModelRoot} {value : ValueId}
    (member : (root, value) ∈ persisted trace) : root.backend = id := by
  obtain ⟨issued, returned, ledger, persists, releases⟩ := sound.accounts.roots
  rw [persisted, persists, sound.own] at member
  obtain ⟨entry, _, same⟩ := List.mem_map.mp member
  cases same
  rfl

theorem Sound.rooted_iff (sound : Sound id trace created session)
    (value : ValueId) :
    session.backend.Rooted value ↔
      ∃ root, (root, value) ∈ persisted trace ∧ root ∉ released trace := by
  constructor
  · intro rooted
    obtain ⟨root, named⟩ := rooted
    exact ⟨_, (sound.named_iff root value).mp named⟩
  · intro outstanding
    obtain ⟨⟨owner, root⟩, member, kept⟩ := outstanding
    have own : owner = id := sound.persisted_own member
    rw [own] at member kept
    exact ⟨root, (sound.named_iff root value).mpr ⟨member, kept⟩⟩

/-- What the caller may do now: an open scope borrows the backend, and drops
all of its locals. -/
def Admits (session : ModelSession) (op : SessionOp) : Prop :=
  match session.locals, op with
  | none, .dropScope _ => False
  | none, .inScope _ => False
  | none, _ => True
  | some locals, .dropScope order => order.Perm locals
  | some _, .inScope _ => True
  | some _, _ => False

theorem Sound.performs (sound : Sound id trace created session)
    {op : SessionOp} (admitted : session.Admits op) :
    ∃ reply next, session.perform op = some (reply, next) := by
  obtain ⟨backend, locals⟩ := session
  cases locals with
  | none =>
      cases op with
      | pushEvaluation evaluation => exact ⟨_, _, rfl⟩
      | pushInvocation invocation => exact ⟨_, _, rfl⟩
      | rejectNextExternalBuffer => exact ⟨_, _, rfl⟩
      | failNextExternalBufferAfterAccept => exact ⟨_, _, rfl⟩
      | openScope => exact ⟨_, _, rfl⟩
      | dropScope order => exact admitted.elim
      | inScope op => exact admitted.elim
  | some locals =>
      cases op with
      | pushEvaluation evaluation => exact admitted.elim
      | pushInvocation invocation => exact admitted.elim
      | rejectNextExternalBuffer => exact admitted.elim
      | failNextExternalBufferAfterAccept => exact admitted.elim
      | openScope => exact admitted.elim
      | dropScope order => exact ⟨_, _, if_pos admitted⟩
      | inScope op =>
          obtain ⟨reply, scope, run, _⟩ := @ModelScope.perform_advances
            ⟨backend, locals⟩ sound.accounts.valuesSound
            sound.accounts.rootsSound sound.rooted op
          simp only [ModelSession.perform, run]
          exact ⟨_, _, rfl⟩

theorem Sound.createdOnce (sound : Sound id trace created session) :
    (ModelSession.created trace).Nodup := by
  obtain ⟨destroyed, ledger⟩ := sound.accounts.values
  rw [ModelSession.created, sound.accounts.told]
  apply nodup_map_own _ ledger.issuedOnce
  intro first second same
  exact congrArg ValueId.id same

theorem Sound.persistedOnce (sound : Sound id trace created session) :
    ((persisted trace).map Prod.fst).Nodup := by
  obtain ⟨issued, returned, ledger, persists, _⟩ := sound.accounts.roots
  rw [persisted, persists, List.map_map]
  apply nodup_map_own _ ledger.issuedOnce
  intro first second same
  exact congrArg ModelRoot.id same

theorem Sound.live_iff (sound : Sound id trace created session)
    (value : ValueId) :
    session.backend.Live value ↔
      value ∈ session.locals.getD [] ∨
        ∃ root, (root, value) ∈ persisted trace ∧ root ∉ released trace := by
  rw [← sound.rooted_iff]
  constructor
  · exact sound.lifetimes.kept value
  · intro kept
    exact kept.elim (sound.lifetimes.near value) (sound.rooted value)

theorem valid_iff {backend : ModelBackend} (locals : List ValueId)
    (value : ValueId) :
    backend.Live value ↔ ∃ kind,
      ModelScope.validate ⟨backend, locals⟩ value = .ok kind := by
  constructor
  · intro live
    obtain ⟨own, entry, named⟩ := live
    refine ⟨entry.kind, ?_⟩
    simp only [ModelScope.validate, own, SlotMap.get_eq, named, ne_eq,
      not_true_eq_false, if_false]
  · intro valid
    obtain ⟨kind, valid⟩ := valid
    exact ModelScope.validate_ok valid

/-- A root that was issued and not released names its value. -/
theorem Sound.names (sound : Sound id trace created session)
    {root : ModelRoot} {value : ValueId}
    (member : (root, value) ∈ persisted trace)
    (kept : root ∉ released trace) :
    root.backend = session.backend.id ∧
      Store.get session.backend.state.roots root.id = some value := by
  refine ⟨(sound.persisted_own member).trans sound.own.symm, ?_⟩
  rw [sound.named_iff, ← sound.persisted_own member]
  exact ⟨member, kept⟩

theorem Sound.releasesKept (sound : Sound id trace created session)
    {locals : List ValueId} (opened : session.locals = some locals)
    {root : ModelRoot} {value : ValueId}
    (member : (root, value) ∈ persisted trace)
    (kept : root ∉ released trace) :
    ∃ next, session.perform (.inScope (.release root)) =
      some (.released (.ok ()), next) := by
  obtain ⟨own, named⟩ := sound.names member kept
  cases SlotMap.remove_cases session.backend.state.roots root.id with
  | inl absent => cases named.symm.trans absent.1
  | inr removal =>
      obtain ⟨found, roots, _, removed, _⟩ := removal
      have released : ∃ scope,
          ModelScope.release ⟨session.backend, locals⟩ root =
            (.ok (), scope) := by
        simp only [ModelScope.release, own, removed, ne_eq,
          not_true_eq_false, if_false]
        split
        · exact ⟨_, rfl⟩
        · exact ⟨_, rfl⟩
      obtain ⟨scope, released⟩ := released
      simp only [ModelSession.perform, opened, ModelScope.perform, released]
      exact ⟨_, rfl⟩

theorem Sound.persistsLive (sound : Sound id trace created session)
    {locals : List ValueId} (opened : session.locals = some locals)
    {value : ValueId} (live : session.backend.Live value) :
    ∃ root next, session.perform (.inScope (.persist value)) =
      some (.root (.ok root), next) := by
  obtain ⟨kind, valid⟩ := (valid_iff locals value).mp live
  obtain ⟨root, roots, inserted, _⟩ :=
    SlotMap.insert_step sound.accounts.rootsSound value
  refine ⟨⟨session.backend.id, root⟩, ?_⟩
  simp only [ModelSession.perform, opened, ModelScope.perform,
    ModelScope.persist, valid, inserted, Option.map_some]
  exact ⟨_, rfl⟩

theorem Sound.resolves (sound : Sound id trace created session)
    {locals : List ValueId} (opened : session.locals = some locals)
    {root : ModelRoot} {value : ValueId}
    (member : (root, value) ∈ persisted trace)
    (kept : root ∉ released trace) :
    ∃ next, session.perform (.inScope (.resolve root)) =
      some (.value (.ok value), next) := by
  obtain ⟨own, named⟩ := sound.names member kept
  obtain ⟨_, entry, present⟩ := sound.rooted value ⟨_, named⟩
  simp only [ModelSession.perform, opened, ModelScope.perform, ModelScope.resolve, own,
    SlotMap.get_eq, named, present, ne_eq, not_true_eq_false, if_false]
  exact ⟨_, rfl⟩

theorem Sound.rejects (sound : Sound id trace created session)
    {locals : List ValueId} (opened : session.locals = some locals)
    {root : ModelRoot}
    (unknown : root ∈ released trace ∨
      root ∉ (persisted trace).map Prod.fst) :
    ∃ error : BackendError,
      error = (if root.backend = id then .staleHandle else .wrongBackend) ∧
      session.perform (.inScope (.resolve root)) =
        some (.value (.error error), session) ∧
      session.perform (.inScope (.release root)) =
        some (.released (.error error), session) := by
  refine ⟨_, rfl, ?_⟩
  obtain ⟨backend, opens⟩ := session
  cases opened
  have same : backend.id = id := sound.own
  by_cases own : root.backend = id
  · have nameless : Store.get backend.state.roots root.id = none := by
      cases named : Store.get backend.state.roots root.id with
      | none => rfl
      | some value =>
          obtain ⟨member, kept⟩ := (sound.named_iff _ _).mp named
          rw [← own] at member kept
          cases unknown with
          | inl gone => exact absurd gone kept
          | inr absent =>
              exact absurd (List.mem_map_of_mem member) absent
    have remains : SlotMap.remove backend.state.roots root.id =
        (backend.state.roots, none) := by
      cases SlotMap.remove_cases backend.state.roots root.id with
      | inl absent => exact absent.2
      | inr removal =>
          obtain ⟨value, next, named, _⟩ := removal
          rw [nameless] at named
          cases named
    simp only [ModelSession.perform, ModelScope.perform, ModelScope.resolve,
      ModelScope.release, same, own, SlotMap.get_eq, nameless, remains, ne_eq,
      not_true_eq_false, if_false, if_true]
    exact ⟨rfl, rfl⟩
  · simp only [ModelSession.perform, ModelScope.perform, ModelScope.resolve,
      ModelScope.release, same, own, ne_eq, not_false_eq_true, if_true,
      if_false]
    exact ⟨rfl, rfl⟩

/-- What the history of a backend says of its values and its roots. -/
structure KeepsValues (id : UInt64) (trace : List SessionExchange)
    (session : ModelSession) : Prop where
  /-- Nothing that the caller may do panics. -/
  performs : ∀ op, session.Admits op →
    ∃ reply next, session.perform op = some (reply, next)
  /-- Identities are never used again. -/
  createdOnce : (ModelSession.created trace).Nodup
  persistedOnce : ((persisted trace).map Prod.fst).Nodup
  /-- Between two scopes what lives is what a live root names. -/
  between : session.locals = none → ∀ value, session.backend.Live value ↔
    ∃ root, (root, value) ∈ persisted trace ∧ root ∉ released trace
  /-- In a scope, that and what the scope has created or resolved. -/
  within : session.locals ≠ none → ∀ value, session.backend.Live value ↔
    value ∈ obtained trace ∨
      ∃ root, (root, value) ∈ persisted trace ∧ root ∉ released trace
  /-- What lives is valid, and only that. -/
  valid : session.locals ≠ none → ∀ value, session.backend.Live value ↔
    ∃ kind, session.perform (.inScope (.kind value)) =
      some (.kind (.ok kind), session)
  /-- A root resolves to its value until it is released. -/
  resolves : session.locals ≠ none → ∀ root value,
    (root, value) ∈ persisted trace → root ∉ released trace →
    ∃ next, session.perform (.inScope (.resolve root)) =
      some (.value (.ok value), next)
  /-- Until then it can be released, and a value that lives can be persisted. -/
  releases : session.locals ≠ none → ∀ root value,
    (root, value) ∈ persisted trace → root ∉ released trace →
    ∃ next, session.perform (.inScope (.release root)) =
      some (.released (.ok ()), next)
  persists : session.locals ≠ none → ∀ value, session.backend.Live value →
    ∃ root next, session.perform (.inScope (.persist value)) =
      some (.root (.ok root), next)
  /-- Any other root is rejected, which changes nothing. -/
  rejects : session.locals ≠ none → ∀ root,
    root ∈ released trace ∨ root ∉ (persisted trace).map Prod.fst →
    ∃ error : BackendError,
      error = (if root.backend = id then .staleHandle else .wrongBackend) ∧
      session.perform (.inScope (.resolve root)) =
        some (.value (.error error), session) ∧
      session.perform (.inScope (.release root)) =
        some (.released (.error error), session)

/-- What a value is does not change while it lives. -/
theorem Sound.unchanged {later : List (Id 64 × ModelValueEntry)}
    (first : Sound id before created middle)
    (last : Sound id trace (created ++ later) session) {value : Id 64}
    {entry other : ModelValueEntry}
    (was : Store.get middle.backend.state.values value = some entry)
    (now : Store.get session.backend.state.values value = some other) :
    entry = other := by
  obtain ⟨_, firstLedger⟩ := first.accounts.values
  obtain ⟨_, lastLedger⟩ := last.accounts.values
  exact lastLedger.issued_unique
    (List.mem_append_left _ (firstLedger.get_issued was))
    (lastLedger.get_issued now)

theorem Sound.keepsValues (sound : Sound id trace created session) :
    KeepsValues id trace session := by
  have opened : session.locals ≠ none →
      ∃ locals, session.locals = some locals := Option.ne_none_iff_exists'.mp
  refine ⟨fun op => sound.performs, sound.createdOnce, sound.persistedOnce,
    ?_, ?_, ?_, ?_, ?_, ?_, ?_⟩
  · intro closed value
    rw [sound.live_iff, closed]
    exact or_iff_right List.not_mem_nil
  · intro _ value
    rw [sound.live_iff, sound.obtained_iff]
  · intro inside value
    obtain ⟨backend, opens⟩ := session
    obtain ⟨locals, same⟩ := opened inside
    cases same
    rw [valid_iff locals value]
    simp only [ModelSession.perform, ModelScope.perform, Option.map_some,
      Option.some.injEq, Prod.mk.injEq, SessionReply.kind.injEq, and_true]
  · intro inside root value member kept
    obtain ⟨locals, same⟩ := opened inside
    exact sound.resolves same member kept
  · intro inside root value member kept
    obtain ⟨locals, same⟩ := opened inside
    exact sound.releasesKept same member kept
  · intro inside value live
    obtain ⟨locals, same⟩ := opened inside
    exact sound.persistsLive same live
  · intro inside root unknown
    obtain ⟨locals, same⟩ := opened inside
    exact sound.rejects same unknown

/-- A backend keeps the values of the open scope and those that are rooted, and
what they are, in every history. -/
theorem run_keepsValues (run : (system id).Run before middle)
    (path : (system id).Path middle after session) :
    KeepsValues id (before ++ after) session ∧
      ∀ value entry other,
        Store.get middle.backend.state.values value = some entry →
        Store.get session.backend.state.values value = some other →
        entry = other := by
  obtain ⟨created, first⟩ := run_sound run
  obtain ⟨later, last⟩ := first.path path
  exact ⟨last.keepsValues, fun _ _ _ => first.unchanged last⟩

/-- A value is rooted twice; the first root goes in the scope that made the
value, and the second one in a scope that has resolved it. -/
def twoRoots : List SessionOp :=
  [.openScope,
    .inScope (.create (.boolean true)),
    .inScope (.persist ⟨7, ⟨0, 1⟩⟩),
    .inScope (.persist ⟨7, ⟨0, 1⟩⟩),
    .inScope (.release ⟨7, ⟨0, 1⟩⟩),
    .inScope (.kind ⟨7, ⟨0, 1⟩⟩),
    .dropScope [⟨7, ⟨0, 1⟩⟩],
    .openScope,
    .inScope (.resolve ⟨7, ⟨1, 1⟩⟩),
    .inScope (.release ⟨7, ⟨1, 1⟩⟩),
    .inScope (.kind ⟨7, ⟨0, 1⟩⟩)]

/-- The value is gone, and its slot and those of its roots are used again. -/
def usedAgain : List SessionOp :=
  [.dropScope [⟨7, ⟨0, 1⟩⟩],
    .openScope,
    .inScope (.create .null),
    .inScope (.persist ⟨7, ⟨0, 2⟩⟩),
    .inScope (.resolve ⟨7, ⟨1, 1⟩⟩),
    .inScope (.release ⟨8, ⟨1, 2⟩⟩)]

theorem usedAgain_keepsValues :
    ∃ before middle after session,
      component.performAll (initial 7) twoRoots = some (before, middle) ∧
      component.performAll middle usedAgain = some (after, session) ∧
      KeepsValues 7 (before ++ after) session ∧
      ∀ value entry other,
        Store.get middle.backend.state.values value = some entry →
        Store.get session.backend.state.values value = some other →
        entry = other := by
  obtain ⟨before, middle, first, run⟩ :=
    component.exists_run_of_performAll (fun session => session = initial 7)
      twoRoots rfl (by decide)
  have reached : component.performAll (initial 7) twoRoots =
      some (before, middle) := first
  have performs : ((component.performAll (initial 7) twoRoots).bind
      fun reached => component.performAll reached.2 usedAgain).isSome =
        true := by
    decide
  rw [reached] at performs
  obtain ⟨⟨after, session⟩, second⟩ := Option.isSome_iff_exists.mp performs
  exact ⟨before, middle, after, session, first, second,
    run_keepsValues run (Component.path_of_performAll second)⟩

end ModelSession

end RustJsi.Testkit
