import RustJsi.Testkit.ModelHistory

/-!
# The roots of the deterministic backend

What each operation replies for a root, and what it does to the map of roots.
-/

namespace RustJsi.Testkit

open Generational Interleaving
open RustJsi.BackendJsc (BackendError)

/-- The operations that issue or release a root. -/
def SessionOp.usesRoots : SessionOp → Bool
  | .inScope (.persist _) | .inScope (.release _) => true
  | _ => false

namespace ModelScope

theorem sameRoots_of_moves {scope next : ModelScope}
    {event : Option ModelEvent} (moves : scope.Moves next event)
    (persists : event.bind ModelEvent.persistedOf = none)
    (releases : event.bind ModelEvent.releasedOf = none) :
    next.roots = scope.roots := by
  cases moves with
  | kept values roots locals => exact roots
  | created entry values roots locals => exact roots
  | resolved rooted values roots locals => exact roots
  | persisted live values roots locals => cases persists
  | released roots locals values still => cases releases
  | destroyed entry roots locals values remote unrooted => cases releases

theorem drop_roots (locals order : List ValueId) :
    ∀ backend : ModelBackend,
      (ModelScope.drop ⟨backend, locals⟩ order).state.roots =
        backend.state.roots := by
  induction order with
  | nil =>
      intro backend
      rfl
  | cons value order inductionHypothesis =>
      intro backend
      rw [ModelBackend.drop_cons, inductionHypothesis]
      exact (ModelBackend.dropLocal_frame backend value).2

end ModelScope

namespace ModelSession

variable {id : UInt64} {trace : List SessionExchange}
  {created : List (Id 64 × ModelValueEntry)} {session next : ModelSession}
  {op : SessionOp} {reply : SessionReply}

/-- What a root of this backend names now. -/
def rootValue (session : ModelSession) (root : ModelRoot) : Option ValueId :=
  Store.get session.backend.state.roots root.id

theorem madeEvent_silent {Failure : Type*}
    (result : Except Failure ValueId) :
    (ModelScope.madeEvent result).bind ModelEvent.persistedOf = none ∧
      (ModelScope.madeEvent result).bind ModelEvent.releasedOf = none := by
  cases result with
  | error error => exact ⟨rfl, rfl⟩
  | ok value => exact ⟨rfl, rfl⟩

/-- Only an operation on a root tells of one. -/
theorem event_silent {op : ScopeOp} (quiet : (SessionOp.inScope op).usesRoots =
    false) (reply : SessionReply) :
    (ModelScope.event op reply).bind ModelEvent.persistedOf = none ∧
      (ModelScope.event op reply).bind ModelEvent.releasedOf = none := by
  cases op with
  | persist value => cases quiet
  | release root => cases quiet
  | resolve root =>
      cases reply with
      | value result =>
          cases result with
          | error error => exact ⟨rfl, rfl⟩
          | ok value => exact ⟨rfl, rfl⟩
      | _ => exact ⟨rfl, rfl⟩
  | kind value => exact ⟨rfl, rfl⟩
  | create value =>
      cases reply with
      | value result => exact madeEvent_silent result
      | _ => exact ⟨rfl, rfl⟩
  | evaluate =>
      cases reply with
      | value result => exact madeEvent_silent result
      | _ => exact ⟨rfl, rfl⟩
  | call function receiver arguments =>
      cases reply with
      | value result => exact madeEvent_silent result
      | _ => exact ⟨rfl, rfl⟩
  | externalize owner =>
      cases reply with
      | transfer result => exact madeEvent_silent result
      | _ => exact ⟨rfl, rfl⟩

theorem Sound.sameRoots (sound : Sound id trace created session)
    (quiet : op.usesRoots = false)
    (performed : session.perform op = some (reply, next)) :
    next.backend.state.roots = session.backend.state.roots := by
  obtain ⟨backend, locals⟩ := session
  cases locals with
  | none =>
      cases op with
      | dropScope order => cases performed
      | inScope op => cases performed
      | _ =>
          cases performed
          rfl
  | some locals =>
      cases op with
      | dropScope order =>
          simp only [ModelSession.perform] at performed
          split at performed
          · cases performed
            exact ModelScope.drop_roots locals order backend
          · cases performed
      | inScope op =>
          obtain ⟨told, scope, run, advances⟩ := @ModelScope.perform_advances
            ⟨backend, locals⟩ sound.accounts.valuesSound
            sound.accounts.rootsSound sound.rooted op
          simp only [ModelSession.perform, run, Option.map_some] at performed
          cases performed
          obtain ⟨persists, releases⟩ := event_silent quiet reply
          exact ModelScope.sameRoots_of_moves advances.moves persists releases
      | _ => cases performed

/-- The roots of one backend differ in what they are in its map. -/
theorem Sound.eq_of_id (sound : Sound id trace created session)
    {root other : ModelRoot} (listed : root ∈ (persisted trace).map Prod.fst)
    (own : other.backend = id) (same : root.id = other.id) : root = other := by
  obtain ⟨⟨first, value⟩, member, rfl⟩ := List.mem_map.mp listed
  have owned : first.backend = id := sound.persisted_own member
  obtain ⟨backend, rootId⟩ := first
  obtain ⟨otherBackend, otherId⟩ := other
  have backends : backend = otherBackend := owned.trans own.symm
  rw [backends, show rootId = otherId from same]

theorem Sound.persists (sound : Sound id trace created session)
    {locals : List ValueId} (opened : session.locals = some locals)
    {value : ValueId} (live : session.backend.Live value) :
    ∃ root next, session.perform (.inScope (.persist value)) =
        some (.root (.ok root), next) ∧
      root.backend = id ∧
      Store.Step session.backend.state.roots [(root.id, value)] []
        next.backend.state.roots := by
  obtain ⟨backend, opens⟩ := session
  cases opened
  obtain ⟨kind, valid⟩ := (valid_iff locals value).mp live
  obtain ⟨rootId, roots, inserted, step⟩ :=
    SlotMap.insert_step sound.accounts.rootsSound value
  simp only [ModelSession.perform, ModelScope.perform, ModelScope.persist,
    valid, inserted, Option.map_some]
  exact ⟨_, _, rfl, sound.own, step⟩

theorem Sound.resolvesNamed (sound : Sound id trace created session)
    {locals : List ValueId} (opened : session.locals = some locals)
    {root : ModelRoot} (own : root.backend = id) {value : ValueId}
    (named : session.rootValue root = some value) :
    ∃ next, session.perform (.inScope (.resolve root)) =
      some (.value (.ok value), next) := by
  obtain ⟨member, kept⟩ := (sound.named_iff root.id value).mp named
  rw [← own] at member kept
  exact sound.resolves opened member kept

theorem Sound.releasesNamed (sound : Sound id trace created session)
    {locals : List ValueId} (opened : session.locals = some locals)
    {root : ModelRoot} (own : root.backend = id) {value : ValueId}
    (named : session.rootValue root = some value) :
    ∃ next, session.perform (.inScope (.release root)) =
        some (.released (.ok ()), next) ∧
      Store.Step session.backend.state.roots [] [(root.id, value)]
        next.backend.state.roots := by
  obtain ⟨backend, opens⟩ := session
  cases opened
  have same : backend.id = id := sound.own
  cases SlotMap.remove_cases backend.state.roots root.id with
  | inl absent =>
      rw [rootValue, absent.1] at named
      cases named
  | inr removal =>
      obtain ⟨found, roots, here, removed, step⟩ := removal
      rw [rootValue, here] at named
      cases named
      simp only [ModelSession.perform, ModelScope.perform, ModelScope.release,
        own, same, removed, ne_eq, not_true_eq_false, if_false]
      split
      · exact ⟨_, rfl, step⟩
      · exact ⟨_, rfl, step⟩

/-- A root that names nothing is stale, and a root of another backend is
foreign. -/
theorem Sound.rejectsUnnamed (sound : Sound id trace created session)
    {locals : List ValueId} (opened : session.locals = some locals)
    {root : ModelRoot}
    (unnamed : root.backend = id → session.rootValue root = none) :
    ∃ error : BackendError,
      error = (if root.backend = id then .staleHandle else .wrongBackend) ∧
      session.perform (.inScope (.resolve root)) =
        some (.value (.error error), session) ∧
      session.perform (.inScope (.release root)) =
        some (.released (.error error), session) := by
  apply sound.rejects opened
  by_cases known : root ∈ (persisted trace).map Prod.fst
  · refine Or.inl ?_
    obtain ⟨⟨other, value⟩, member, same⟩ := List.mem_map.mp known
    simp only at same
    subst same
    have own := sound.persisted_own member
    by_contra kept
    have named : session.rootValue other = some value := by
      refine (sound.named_iff other.id value).mpr ?_
      rw [← own]
      exact ⟨member, kept⟩
    rw [unnamed own] at named
    cases named
  · exact Or.inr known

end ModelSession

end RustJsi.Testkit
