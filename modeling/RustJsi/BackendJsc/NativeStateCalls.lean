import RustJsi.BackendJsc.AttachedSound

/-!
# Calls on native states

What each step of an installation, and the beginning and the end of an
operation on a state, does to the attachment and answers.
-/

namespace RustJsi.BackendJsc

open Counted Generational

variable {Raw Payload : Type*}

namespace Attached

variable {attached next : Attached Raw Payload} {engine : Engine Raw}
  {reply : Reply Raw Payload} {thread : Nat}

/-- A state is accepted under a new identity, in a new box. -/
structure Accepts (attached : Attached Raw Payload)
    (state : NativeState Payload) (id : NativeId)
    (next : Attached Raw Payload) : Prop where
  room : attached.shared.nativeStates.live < attached.shared.nativeStates.limit
  moved : attached.shared.nativeStates.store.Step
    [(id, ⟨attached.heap.alloc.1, state⟩)] []
    next.shared.nativeStates.store
  limit : next.shared.nativeStates.limit = attached.shared.nativeStates.limit
  same : next =
    { attached with
      shared.nativeStates := next.shared.nativeStates
      heap := attached.heap.alloc.2
      stack := .creating id :: attached.stack }

/-- Why a state is returned before it is owned. -/
def Refuses (attached : Attached Raw Payload) (thread : Nat)
    (error : RuntimeError) : Prop :=
  attached.shared.ensureActive thread = .error error ∨
    (attached.shared.ensureActive thread = .ok () ∧
      error = .nativeStateRegistrationLimitReached ∧
      attached.shared.nativeStates.limit ≤ attached.shared.nativeStates.live)

section Calls

variable [DecidableEq Raw]

/-- A state is returned with nothing changed, or accepted. -/
theorem Sound.tryInstallNativeState_cases (sound : attached.Sound)
    {state : NativeState Payload}
    (performed : attached.perform engine
      ⟨thread, .tryInstallNativeState state⟩ = some (reply, next)) :
    attached.stack ≠ [] ∧
      ((∃ error, reply = .rejected state error ∧ next = attached ∧
        attached.Refuses thread error) ∨
      (∃ id, reply = .begun ∧ attached.Accepts state id next ∧
        attached.shared.ensureActive thread = .ok ())) := by
  cases stack : attached.stack with
  | nil => simp only [perform, stack, reduceCtorEq] at performed
  | cons frame rest =>
      refine ⟨List.cons_ne_nil _ _, ?_⟩
      cases frame with
      | context localRoots scopeDepth =>
          simp only [perform, stack] at performed
          have answered := Option.some.inj performed
          unfold tryInstallNativeState at answered
          split at answered
          · rename_i error inactive
            cases answered
            exact Or.inl ⟨error, rfl, rfl, Or.inl inactive⟩
          · rename_i active
            cases sound.nativeStates.insert state attached.heap with
            | inl inserted =>
                obtain ⟨registry, id, room, inserted, _, moved, _, limit⟩ :=
                  inserted
                rw [inserted] at answered
                cases answered
                exact Or.inr ⟨id, rfl, ⟨room, moved, limit, rfl⟩, active⟩
            | inr refused =>
                rw [refused.2] at answered
                cases answered
                exact Or.inl ⟨_, rfl, rfl,
                  Or.inr ⟨active, rfl, refused.1⟩⟩
      | _ => simp only [perform, stack, reduceCtorEq] at performed

/-- The object of a state is made, or the state is taken back. -/
theorem makeNativeObject_cases {made : Bool} {object : Option Raw}
    (performed : attached.perform engine
      ⟨thread, .makeNativeObject made object⟩ = some (reply, next)) :
    ∃ id rest, attached.stack = .creating id :: rest ∧
      ((∃ failure, reply = .failed (.js failure) ∧
        next = (attached.removeNativeState id).withStack rest) ∨
      ∃ raw, object = some raw ∧ reply = .begun ∧
        next = (attached.protect raw).withStack
          (.publishing raw id :: rest)) := by
  cases stack : attached.stack with
  | nil => simp only [perform, stack, reduceCtorEq] at performed
  | cons frame rest =>
      cases frame with
      | creating id =>
          simp only [perform, stack] at performed
          have answered := Option.some.inj performed
          refine ⟨id, rest, rfl, ?_⟩
          unfold makeNativeObject at answered
          split at answered
          · cases answered
            exact Or.inl ⟨_, rfl, rfl⟩
          · split at answered
            · cases answered
              exact Or.inl ⟨_, rfl, rfl⟩
            · cases answered
              exact Or.inr ⟨_, rfl, rfl, rfl⟩
      | _ => simp only [perform, stack, reduceCtorEq] at performed

/-- The object is published, or its state is taken back. -/
theorem publishNativeObject_cases (handsBack : engine.HandsBack)
    {name global : Bool} {exception : Option JsException}
    (performed : attached.perform engine
      ⟨thread, .publishNativeObject name global exception⟩ =
        some (reply, next)) :
    ∃ raw id rest, attached.stack = .publishing raw id :: rest ∧
      ((∃ failure, reply = .begun ∧
        next = (attached.removeNativeState id).withStack
          (.rolledBack raw failure :: rest)) ∨
      (reply = .installedState id ∧
        next = (attached.unprotect raw).withStack rest)) := by
  cases stack : attached.stack with
  | nil => simp only [perform, stack, reduceCtorEq] at performed
  | cons frame rest =>
      cases frame with
      | publishing raw id =>
          simp only [perform, stack] at performed
          have answered := Option.some.inj performed
          refine ⟨raw, id, rest, rfl, ?_⟩
          simp only [publishNativeObject, rollbackNativeObject, handsBack raw,
            if_true] at answered
          split at answered
          · cases answered
            exact Or.inl ⟨_, rfl, rfl⟩
          · split at answered
            · cases answered
              exact Or.inl ⟨_, rfl, rfl⟩
            · split at answered
              · cases answered
                exact Or.inl ⟨_, rfl, rfl⟩
              · cases answered
                exact Or.inr ⟨rfl, rfl⟩
      | _ => simp only [perform, stack, reduceCtorEq] at performed

theorem endRollback_cases
    (performed : attached.perform engine ⟨thread, .endRollback⟩ =
      some (reply, next)) :
    ∃ raw failure rest, attached.stack = .rolledBack raw failure :: rest ∧
      reply = .failed (.js failure) ∧
      next = (attached.unprotect raw).withStack rest := by
  cases stack : attached.stack with
  | nil => simp only [perform, stack, reduceCtorEq] at performed
  | cons frame rest =>
      cases frame with
      | rolledBack raw failure =>
          simp only [perform, stack] at performed
          have answered := Option.some.inj performed
          cases answered
          exact ⟨raw, failure, rest, rfl, rfl, rfl⟩
      | _ => simp only [perform, stack, reduceCtorEq] at performed

/-- An operation begins on the state its handle names, or fails with nothing
changed. -/
theorem Sound.withNativeState_cases (sound : attached.Sound)
    {handle : NativeObject}
    (performed : attached.perform engine ⟨thread, .withNativeState handle⟩ =
      some (reply, next)) :
    (∃ failure, reply = .failed (.js failure) ∧ next = attached ∧
      (attached.shared.ensureActive thread = .ok () →
        handle.runtime = some attached.shared.address →
        failure = .runtime .staleHandle ∧
          ∀ lease, attached.shared.nativeStates.store.get handle.id =
            some lease → lease.state.typeId ≠ handle.typeId)) ∨
    ∃ lease, reply = .leased lease.state ∧
      attached.shared.nativeStates.store.get handle.id = some lease ∧
      lease.state.typeId = handle.typeId ∧
      next = { attached with
        heap := attached.heap.clone lease.box
        stack := .operating lease :: attached.stack } := by
  cases stack : attached.stack with
  | nil => simp only [perform, stack, reduceCtorEq] at performed
  | cons frame rest =>
      cases frame with
      | context localRoots scopeDepth =>
          simp only [perform, stack] at performed
          have answered := Option.some.inj performed
          unfold withNativeState at answered
          split at answered
          · rename_i error inactive
            cases answered
            refine Or.inl ⟨_, rfl, rfl, ?_⟩
            intro active
            cases inactive.symm.trans active
          · split at answered
            · rename_i gone
              cases answered
              refine Or.inl ⟨_, rfl, rfl, ?_⟩
              intro _ same
              cases gone.symm.trans same
            · rename_i address alive
              split at answered
              · rename_i foreign
                cases answered
                refine Or.inl ⟨_, rfl, rfl, ?_⟩
                intro _ same
                cases alive.symm.trans same
                exact absurd rfl foreign
              · split at answered
                · rename_i stale
                  cases answered
                  refine Or.inl ⟨_, rfl, rfl, fun _ _ => ⟨rfl, ?_⟩⟩
                  intro lease named ofType
                  have found := sound.nativeStates.get_eq_some_iff.mpr
                    ⟨named, ofType⟩
                  cases stale.symm.trans found
                · rename_i lease found
                  obtain ⟨named, ofType⟩ :=
                    sound.nativeStates.get_eq_some_iff.mp found
                  cases answered
                  exact Or.inr ⟨lease, rfl, named, ofType, by rw [stack]⟩
      | _ => simp only [perform, stack, reduceCtorEq] at performed

/-- A handle of a live state begins its operation. -/
theorem Sound.withNativeState_named (sound : attached.Sound)
    {handle : NativeObject} {lease : AnyRc Payload}
    {localRoots : LocalRoots Raw} {scopeDepth : Nat}
    {rest : List (Activation Raw Payload)}
    (top : attached.stack = .context localRoots scopeDepth :: rest)
    (active : attached.shared.ensureActive thread = .ok ())
    (own : handle.runtime = some attached.shared.address)
    (named : attached.shared.nativeStates.store.get handle.id = some lease)
    (ofType : lease.state.typeId = handle.typeId) :
    attached.perform engine ⟨thread, .withNativeState handle⟩ =
      some (.leased lease.state, { attached with
        heap := attached.heap.clone lease.box
        stack := .operating lease :: attached.stack }) := by
  have found := sound.nativeStates.get_eq_some_iff.mpr ⟨named, ofType⟩
  simp only [perform, top, withNativeState, active, own, ne_eq,
    not_true_eq_false, if_false, found]

end Calls

end Attached

end RustJsi.BackendJsc
