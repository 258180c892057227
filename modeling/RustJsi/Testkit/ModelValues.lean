import RustJsi.Interleaving.Component
import RustJsi.Interleaving.Counting
import RustJsi.Testkit.ModelBackend

/-!
# The values of the deterministic backend

A value lives as long as the scope it was made or resolved in, or a root that
names it.  Every operation moves both slot maps as generational stores move.
-/

namespace RustJsi.Testkit

open Generational Interleaving
open RustJsi.BackendJsc (BackendError)

namespace SlotMap

variable {T : Type*} {map : SlotMap T} {id : Id 64}

theorem get_eq (map : SlotMap T) (id : Id 64) : get map id = Store.get map id := by
  rw [get, Store.get]
  cases map.cells[id.slot]? with
  | none => rfl
  | some slot => rfl

/-- An insertion finds its slot, and hands it out. -/
theorem insert_step (sound : Store.Sound map) (value : T) :
    ∃ id next, insert map value = some (id, next) ∧
      Store.Step map [(id, value)] [] next := by
  unfold insert
  split
  · rename_i index free top
    have listed : index ∈ map.free := by
      rw [top]
      exact List.mem_cons_self
    obtain ⟨cell, present, vacant, _⟩ := (sound.mem_free_iff index).mp listed
    obtain ⟨generation, stored⟩ := cell
    simp only at vacant
    subst vacant
    rw [present]
    exact ⟨_, _, rfl, .reused value top present⟩
  · exact ⟨_, _, rfl, .grown 1 value (by decide)⟩

/-- A removal takes what the identity names, if it names anything. -/
theorem remove_cases (map : SlotMap T) (id : Id 64) :
    (Store.get map id = none ∧ remove map id = (map, none)) ∨
    ∃ value next, Store.get map id = some value ∧
      remove map id = (next, some value) ∧
      Store.Step map [] [(id, value)] next := by
  rw [← get_eq, get, remove]
  cases present : map.cells[id.slot]? with
  | none => exact Or.inl ⟨rfl, rfl⟩
  | some slot =>
      obtain ⟨generation, value⟩ := slot
      by_cases same : generation = id.generation
      · subst same
        simp only [ne_eq, not_true_eq_false, if_false, if_true, ite_not]
        cases value with
        | none => exact Or.inl ⟨rfl, rfl⟩
        | some value =>
            exact Or.inr ⟨value, _, rfl, rfl, .vacated present⟩
      · refine Or.inl ⟨if_neg same, ?_⟩
        simp only [ne_eq, same, not_false_eq_true, if_true]

end SlotMap

theorem ModelState.isRooted_iff (state : ModelState) (value : ValueId) :
    state.isRooted value = true ↔
      ∃ root, Store.get state.roots root = some value := by
  rw [isRooted, List.any_eq_true]
  constructor
  · intro rooted
    obtain ⟨stored, member, same⟩ := rooted
    obtain ⟨cell, listed, filled⟩ := List.mem_map.mp member
    obtain ⟨slot, present⟩ := List.mem_iff_getElem?.mp listed
    refine ⟨⟨slot, cell.generation⟩, Store.get_eq_some_iff.mpr ?_⟩
    rw [present, ← of_decide_eq_true same, ← filled]
  · intro rooted
    obtain ⟨root, named⟩ := rooted
    have present := Store.get_eq_some_iff.mp named
    exact ⟨some value,
      List.mem_map.mpr ⟨_, List.mem_of_getElem? present, rfl⟩,
      decide_eq_true rfl⟩

/-! ## What an operation in a scope does -/

/-- What an operation told its caller. -/
inductive ModelEvent where
  | created (value : ValueId)
  | resolved (value : ValueId)
  | persisted (root : ModelRoot) (value : ValueId)
  | released (root : ModelRoot)
  deriving DecidableEq

namespace ModelBackend

/-- The value is one of the backend, and is there. -/
def Live (backend : ModelBackend) (value : ValueId) : Prop :=
  value.backend = backend.id ∧
    ∃ entry, Store.get backend.state.values value.id = some entry

/-- A root in the backend names the value. -/
def Rooted (backend : ModelBackend) (value : ValueId) : Prop :=
  ∃ root, Store.get backend.state.roots root = some value

theorem Live.congr {backend next : ModelBackend} {value : ValueId}
    (own : next.id = backend.id)
    (values : next.state.values = backend.state.values) :
    next.Live value ↔ backend.Live value := by
  rw [Live, Live, own, values]

theorem Rooted.congr {backend next : ModelBackend} {value : ValueId}
    (roots : next.state.roots = backend.state.roots) :
    next.Rooted value ↔ backend.Rooted value := by
  rw [Rooted, Rooted, roots]

end ModelBackend

namespace ModelScope

abbrev values (scope : ModelScope) : SlotMap ModelValueEntry :=
  scope.backend.state.values

abbrev roots (scope : ModelScope) : SlotMap ValueId :=
  scope.backend.state.roots

/-- What an operation does to the values, the roots and the locals. -/
inductive Moves (scope next : ModelScope) : Option ModelEvent → Prop
  | kept (values : next.values = scope.values)
      (roots : next.roots = scope.roots)
      (locals : next.locals = scope.locals) : Moves scope next none
  | created {id : Id 64} (entry : ModelValueEntry)
      (values : Store.Step scope.values [(id, entry)] [] next.values)
      (roots : next.roots = scope.roots)
      (locals : ∀ other, other ∈ next.locals ↔
        other ∈ scope.locals ∨ other = ⟨scope.backend.id, id⟩) :
      Moves scope next (some (.created ⟨scope.backend.id, id⟩))
  | resolved {value : ValueId} (rooted : scope.backend.Rooted value)
      (values : next.values = scope.values)
      (roots : next.roots = scope.roots)
      (locals : ∀ other, other ∈ next.locals ↔
        other ∈ scope.locals ∨ other = value) :
      Moves scope next (some (.resolved value))
  | persisted {id : Id 64} {value : ValueId}
      (live : scope.backend.Live value)
      (values : next.values = scope.values)
      (roots : Store.Step scope.roots [(id, value)] [] next.roots)
      (locals : next.locals = scope.locals) :
      Moves scope next (some (.persisted ⟨scope.backend.id, id⟩ value))
  | released {id : Id 64} {value : ValueId}
      (roots : Store.Step scope.roots [] [(id, value)] next.roots)
      (locals : next.locals = scope.locals)
      (values : next.values = scope.values)
      (kept : value ∈ scope.locals ∨ next.backend.Rooted value) :
      Moves scope next (some (.released ⟨scope.backend.id, id⟩))
  | destroyed {id : Id 64} {value : ValueId} (entry : ModelValueEntry)
      (roots : Store.Step scope.roots [] [(id, value)] next.roots)
      (locals : next.locals = scope.locals)
      (values : Store.Step scope.values [] [(value.id, entry)] next.values)
      (remote : value ∉ scope.locals)
      (unrooted : ¬next.backend.Rooted value) :
      Moves scope next (some (.released ⟨scope.backend.id, id⟩))

/-- An operation leaves the backend what it is, and tells what it did. -/
structure Advances (scope next : ModelScope) (event : Option ModelEvent) :
    Prop where
  own : next.backend.id = scope.backend.id
  moves : Moves scope next event

theorem Advances.refl (scope : ModelScope) : Advances scope scope none :=
  ⟨rfl, .kept rfl rfl rfl⟩

theorem mem_remember (scope : ModelScope) (value other : ValueId) :
    other ∈ (scope.remember value).locals ↔
      other ∈ scope.locals ∨ other = value := by
  rw [remember]
  split
  · rename_i known
    refine (or_iff_left_of_imp ?_).symm
    intro same
    rw [same]
    exact known
  · rw [List.mem_append, List.mem_singleton]

theorem remember_backend (scope : ModelScope) (value : ValueId) :
    (scope.remember value).backend = scope.backend := by
  rw [remember]
  split
  · rfl
  · rfl

/-- Only the values, the roots and the locals matter to what is done next. -/
theorem Advances.after {scope middle next : ModelScope}
    {event : Option ModelEvent} (advances : Advances middle next event)
    (own : middle.backend.id = scope.backend.id)
    (values : middle.values = scope.values)
    (roots : middle.roots = scope.roots)
    (locals : middle.locals = scope.locals) : Advances scope next event := by
  have live : ∀ value, middle.backend.Live value → scope.backend.Live value :=
    fun value => (ModelBackend.Live.congr own values).mp
  have rooted : ∀ value,
      middle.backend.Rooted value → scope.backend.Rooted value :=
    fun value => (ModelBackend.Rooted.congr roots).mp
  obtain ⟨ownNext, moves⟩ := advances
  refine ⟨ownNext.trans own, ?_⟩
  cases moves with
  | kept valuesNext rootsNext localsNext =>
      exact .kept (valuesNext.trans values) (rootsNext.trans roots)
        (localsNext.trans locals)
  | created entry valuesNext rootsNext localsNext =>
      rw [values] at valuesNext
      rw [locals, own] at localsNext
      rw [own]
      exact .created entry valuesNext (rootsNext.trans roots) localsNext
  | resolved named valuesNext rootsNext localsNext =>
      rw [locals] at localsNext
      exact .resolved (rooted _ named) (valuesNext.trans values)
        (rootsNext.trans roots) localsNext
  | persisted present valuesNext rootsNext localsNext =>
      rw [roots] at rootsNext
      rw [own]
      exact .persisted (live _ present) (valuesNext.trans values) rootsNext
        (localsNext.trans locals)
  | released rootsNext localsNext valuesNext still =>
      rw [roots] at rootsNext
      rw [locals] at still
      rw [own]
      exact .released rootsNext (localsNext.trans locals)
        (valuesNext.trans values) still
  | destroyed entry rootsNext localsNext valuesNext remote unrooted =>
      rw [roots] at rootsNext
      rw [values] at valuesNext
      rw [locals] at remote
      rw [own]
      exact .destroyed entry rootsNext (localsNext.trans locals) valuesNext
        remote unrooted

theorem insert_advances {scope : ModelScope}
    (sound : Store.Sound scope.values) (entry : ModelValueEntry) :
    ∃ value next, scope.insert entry = some (value, next) ∧
      Advances scope next (some (.created value)) := by
  obtain ⟨id, values, inserted, step⟩ := SlotMap.insert_step sound entry
  rw [insert, inserted]
  refine ⟨_, _, rfl, ?_, ?_⟩
  · rw [remember_backend]
  · refine .created entry ?_ ?_ (mem_remember _ _)
    · simp only [ModelScope.values, remember_backend]
      exact step
    · rw [ModelScope.roots, remember_backend]

/-- What making a value tells: the value, if it was made. -/
def madeEvent {Failure : Type*} :
    Except Failure ValueId → Option ModelEvent
  | .ok value => some (.created value)
  | .error _ => none

theorem made_advances {scope : ModelScope}
    (sound : Store.Sound scope.values) (entry : ModelValueEntry) :
    ∃ result next, made (scope.insert entry) = some (result, next) ∧
      Advances scope next (madeEvent result) := by
  obtain ⟨value, next, inserted, advances⟩ := insert_advances sound entry
  rw [inserted]
  exact ⟨_, _, rfl, advances⟩

theorem evaluate_advances {scope : ModelScope}
    (sound : Store.Sound scope.values) :
    ∃ result next, scope.evaluate = some (result, next) ∧
      Advances scope next (madeEvent result) := by
  rw [evaluate]
  cases scope.backend.state.evaluations with
  | nil => exact ⟨_, _, rfl, .refl scope⟩
  | cons evaluation evaluations =>
      cases evaluation with
      | returns value =>
          obtain ⟨result, next, performed, advances⟩ := @made_advances
            { scope with backend.state.evaluations := evaluations } sound
            (.primitive value)
          exact ⟨result, next, performed, advances.after rfl rfl rfl rfl⟩
      | returnsFunction =>
          obtain ⟨result, next, performed, advances⟩ := @made_advances
            { scope with backend.state.evaluations := evaluations } sound
            .function
          exact ⟨result, next, performed, advances.after rfl rfl rfl rfl⟩
      | throws message => exact ⟨_, _, rfl, rfl, .kept rfl rfl rfl⟩
      | fails message => exact ⟨_, _, rfl, rfl, .kept rfl rfl rfl⟩

theorem call_advances {scope : ModelScope}
    (sound : Store.Sound scope.values) (function : ValueId)
    (receiver : CallReceiver ValueId) (arguments : List ValueId) :
    ∃ result next,
      scope.call function receiver arguments = some (result, next) ∧
      Advances scope next (madeEvent result) := by
  rw [call]
  split
  · exact ⟨_, _, rfl, .refl scope⟩
  split
  · exact ⟨_, _, rfl, .refl scope⟩
  split
  · exact ⟨_, _, rfl, .refl scope⟩
  cases scope.backend.state.invocations with
  | nil => exact ⟨_, _, rfl, .refl scope⟩
  | cons invocation invocations =>
      cases invocation with
      | returns value =>
          obtain ⟨result, next, performed, advances⟩ := @made_advances
            { scope with backend.state.invocations := invocations } sound
            (.primitive value)
          exact ⟨result, next, performed, advances.after rfl rfl rfl rfl⟩
      | throws message => exact ⟨_, _, rfl, rfl, .kept rfl rfl rfl⟩
      | fails message => exact ⟨_, _, rfl, rfl, .kept rfl rfl rfl⟩

theorem externalize_advances {scope : ModelScope}
    (sound : Store.Sound scope.values) (owner : List UInt8) :
    ∃ result next, scope.externalize owner = some (result, next) ∧
      Advances scope next (madeEvent result) := by
  rw [externalize]
  cases scope.backend.externalFault with
  | reject => exact ⟨_, _, rfl, rfl, .kept rfl rfl rfl⟩
  | acceptThenFail => exact ⟨_, _, rfl, rfl, .kept rfl rfl rfl⟩
  | none =>
      obtain ⟨value, next, inserted, advances⟩ := @insert_advances
        { scope with backend.externalFault := .none } sound (.external owner)
      simp only [inserted, Option.map_some]
      exact ⟨_, _, rfl, advances.after rfl rfl rfl rfl⟩

theorem validate_ok {scope : ModelScope} {value : ValueId} {kind}
    (valid : scope.validate value = .ok kind) : scope.backend.Live value := by
  unfold validate at valid
  split at valid
  · cases valid
  · rename_i own
    rw [SlotMap.get_eq] at valid
    cases named : Store.get scope.backend.state.values value.id with
    | none =>
        rw [named] at valid
        cases valid
    | some entry => exact ⟨not_not.mp own, entry, named⟩

def persistEvent (value : ValueId) :
    Except BackendError ModelRoot → Option ModelEvent
  | .ok root => some (.persisted root value)
  | .error _ => none

theorem persist_advances {scope : ModelScope}
    (sound : Store.Sound scope.roots) (value : ValueId) :
    ∃ result next, scope.persist value = some (result, next) ∧
      Advances scope next (persistEvent value result) := by
  rw [persist]
  split
  · exact ⟨_, _, rfl, .refl scope⟩
  · rename_i valid
    obtain ⟨id, roots, inserted, step⟩ := SlotMap.insert_step sound value
    rw [inserted]
    exact ⟨_, _, rfl, rfl, .persisted (validate_ok valid) rfl step rfl⟩

def resolveEvent : Except BackendError ValueId → Option ModelEvent
  | .ok value => some (.resolved value)
  | .error _ => none

theorem resolve_advances (scope : ModelScope) (root : ModelRoot) :
    Advances scope (scope.resolve root).2
      (resolveEvent (scope.resolve root).1) := by
  rw [resolve]
  split
  · exact .refl scope
  rw [SlotMap.get_eq]
  cases named : Store.get scope.backend.state.roots root.id with
  | none => exact .refl scope
  | some value =>
      simp only
      split
      · exact .refl scope
      · refine ⟨?_, .resolved ⟨_, named⟩ ?_ ?_ (mem_remember scope value)⟩
        · rw [remember_backend]
        · rw [ModelScope.values, remember_backend]
        · rw [ModelScope.roots, remember_backend]

def releaseEvent (root : ModelRoot) :
    Except BackendError Unit → Option ModelEvent
  | .ok () => some (.released root)
  | .error _ => none

/-- The value goes with its last root, unless it is one of the scope. -/
theorem release_advances {scope : ModelScope}
    (rooted : ∀ value, scope.backend.Rooted value → scope.backend.Live value)
    (root : ModelRoot) :
    Advances scope (scope.release root).2
      (releaseEvent root (scope.release root).1) := by
  rw [release]
  split
  · exact .refl scope
  rename_i own
  have same : root = ⟨scope.backend.id, root.id⟩ := by
    rw [← not_not.mp own]
  cases SlotMap.remove_cases scope.backend.state.roots root.id with
  | inl absent =>
      rw [absent.2]
      exact .refl scope
  | inr removal =>
      obtain ⟨value, roots, named, removed, step⟩ := removal
      rw [removed]
      simp only
      rw [releaseEvent.eq_def]
      obtain ⟨_, entry, present⟩ := rooted value ⟨_, named⟩
      split
      · rename_i last
        obtain ⟨remote, unrooted⟩ := last
        simp only
        rw [same]
        cases SlotMap.remove_cases scope.backend.state.values value.id with
        | inl absent =>
            rw [present] at absent
            cases absent.1
        | inr removal =>
            obtain ⟨stored, values, _, taken, gone⟩ := removal
            refine ⟨rfl, .destroyed stored step rfl ?_ remote ?_⟩
            · rw [ModelScope.values, ModelState.removeValue, taken]
              exact gone
            · intro still
              have listed := (ModelState.isRooted_iff _ _).mpr still
              exact Bool.false_ne_true (unrooted.symm.trans listed)
      · rename_i still
        simp only
        rw [same]
        refine ⟨rfl, .released step rfl rfl ?_⟩
        by_cases near : value ∈ scope.locals
        · exact Or.inl near
        · refine Or.inr ((ModelState.isRooted_iff _ _).mp ?_)
          rw [← Bool.not_eq_false]
          exact fun unrooted => still ⟨near, unrooted⟩

end ModelScope

end RustJsi.Testkit
