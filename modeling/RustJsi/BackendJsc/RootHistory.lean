import RustJsi.BackendJsc.RootLedger
import RustJsi.Interleaving.Component

/-!
# Histories of the root registry

Whatever identities its callers use, the registry hands out every identity
once, returns every value once, and keeps the list of its pending slots whole.
-/

namespace RustJsi.BackendJsc

open Generational Interleaving Linked

namespace RootRegistry

variable {Value : Type*}

inductive Op (Value : Type*) where
  | insert (value : Value)
  | get (id : RootId)
  | remove (id : RootId)
  | requestRelease (id : RootId)
  | takePending
  | drain
  | counts

inductive Answer (Value : Type*) where
  | inserted (result : Except RuntimeError RootId)
  | got (value : Option Value)
  | removed (value : Option Value)
  | requested
  | taken (value : Option Value)
  | drained (values : List Value)
  | counted (live pending : Nat)

def perform (registry : RootRegistry Value) :
    Op Value → Except Panic (RootRegistry Value × Answer Value)
  | .insert value =>
      (registry.insert value).map fun (next, result) =>
        (next, .inserted result)
  | .get id => .ok (registry, .got (registry.get id))
  | .remove id =>
      let (next, value) := registry.remove id
      .ok (next, .removed value)
  | .requestRelease id => .ok (registry.requestRelease id, .requested)
  | .takePending =>
      registry.takePending.map fun (next, value) => (next, .taken value)
  | .drain =>
      let (next, values) := registry.drain
      .ok (next, .drained values)
  | .counts =>
      let (live, pending) := registry.counts
      .ok (registry, .counted live pending)

/-- The value an operation handed to the registry, under its new identity. -/
def issued : Op Value → Answer Value → List (RootId × Value)
  | .insert value, .inserted (.ok id) => [(id, value)]
  | _, _ => []

/-- The values an operation takes out of the registry, each with the identity
it was kept under.  The code returns the values alone. -/
def returned (registry : RootRegistry Value) :
    Op Value → List (RootId × Value)
  | .remove id => ((registry.get id).map fun value => (id, value)).toList
  | .takePending =>
      match registry.pendingHead with
      | none => []
      | some index =>
          match registry.slots[index]? with
          | none => []
          | some slot =>
              (slot.value.map fun value =>
                (⟨index, slot.generation⟩, value)).toList
  | .drain => registry.store.held
  | _ => []

/-- The values an answer carries out of the registry. -/
def Answer.values : Answer Value → List Value
  | .removed value => value.toList
  | .taken value => value.toList
  | .drained values => values
  | _ => []

/-- An answer, and the identities of the values it carries. -/
structure Reply (Value : Type*) where
  answer : Answer Value
  returned : List (RootId × Value)

/-- A registry whose operations run one after another. -/
def component : Component (RootRegistry Value) (Op Value) (Reply Value) where
  perform := fun registry op =>
    match registry.perform op with
    | .error _ => none
    | .ok (next, answer) => some (⟨answer, registry.returned op⟩, next)

section Operations

variable {registry : RootRegistry Value} {id : RootId} {value : Value}

/-- What any operation does to a sound registry. -/
structure Performs (registry : RootRegistry Value) (op : Op Value)
    (next : RootRegistry Value) (answer : Answer Value) : Prop where
  performed : registry.perform op = .ok (next, answer)
  sound : next.Sound
  moved : registry.store.Step (issued op answer) (registry.returned op)
    next.store
  limit : next.limit = registry.limit
  values : answer.values = (registry.returned op).map Prod.snd

theorem Sound.performs_remove (sound : registry.Sound) (id : RootId) :
    ∃ next answer, registry.Performs (.remove id) next answer := by
  cases resolves : registry.get id with
  | none =>
      have removed := remove_of_get_none resolves
      have nothing : registry.returned (.remove id) = [] := by
        rw [returned, resolves]
        rfl
      refine ⟨registry, .removed none, ?_, sound, ?_, rfl, ?_⟩
      · rw [perform, removed]
      · rw [nothing]
        exact .rested
      · rw [nothing]
        rfl
  | some value =>
      obtain ⟨next, removed, soundNext, moved, limit, _⟩ :=
        sound.remove resolves
      have taken : registry.returned (.remove id) = [(id, value)] := by
        rw [returned, resolves]
        rfl
      refine ⟨next, .removed (some value), ?_, soundNext, ?_, limit, ?_⟩
      · rw [perform, removed]
      · rw [taken]
        exact moved
      · rw [taken]
        rfl

theorem Sound.performs_takePending (sound : registry.Sound) :
    ∃ next answer, registry.Performs .takePending next answer := by
  cases sound.takePending with
  | inl empty =>
      obtain ⟨head, took⟩ := empty
      have nothing : registry.returned .takePending = [] := by
        simp only [returned, head]
      refine ⟨registry, .taken none, ?_, sound, ?_, rfl, ?_⟩
      · rw [perform, took]
        rfl
      · rw [nothing]
        exact .rested
      · rw [nothing]
        rfl
  | inr taken =>
      obtain ⟨index, slot, value, next, head, present, filled, took,
        soundNext, moved, limit, _⟩ := taken
      have taken : registry.returned .takePending =
          [(⟨index, slot.generation⟩, value)] := by
        simp only [returned, head, present, filled]
        rfl
      refine ⟨next, .taken (some value), ?_, soundNext, ?_, limit, ?_⟩
      · rw [perform, took]
        rfl
      · rw [taken]
        exact moved
      · rw [taken]
        rfl

theorem Sound.performs_insert (sound : registry.Sound) (value : Value) :
    ∃ next answer, registry.Performs (.insert value) next answer := by
  cases sound.insert value with
  | inl inserted =>
      obtain ⟨next, id, inserted, soundNext, moved, limit⟩ := inserted
      refine ⟨next, .inserted (.ok id), ?_, soundNext, moved, limit, rfl⟩
      rw [perform, inserted]
      rfl
  | inr refused =>
      refine ⟨registry, .inserted (.error .persistentRootLimitReached), ?_,
        sound, .rested, rfl, rfl⟩
      rw [perform, refused.2.2]
      rfl

theorem Sound.performs (sound : registry.Sound) (op : Op Value) :
    ∃ next answer, registry.Performs op next answer := by
  cases op with
  | insert value => exact sound.performs_insert value
  | get id => exact ⟨registry, _, rfl, sound, .rested, rfl, rfl⟩
  | remove id => exact sound.performs_remove id
  | requestRelease id =>
      obtain ⟨soundNext, store, limit⟩ := sound.requestRelease id
      refine ⟨_, _, rfl, soundNext, ?_, limit, rfl⟩
      rw [store]
      exact .rested
  | takePending => exact sound.performs_takePending
  | drain =>
      refine ⟨_, _, rfl, sound.drain, registry.drain_step, rfl, ?_⟩
      exact registry.drain_values
  | counts => exact ⟨registry, _, rfl, sound, .rested, rfl, rfl⟩

/-- The slot can take another value. -/
def IsFree (registry : RootRegistry Value) (index : Nat) : Prop :=
  ∃ slot, registry.slots[index]? = some slot ∧ slot.value = none ∧
    slot.generation ≠ exhausted 64

theorem reusable_iff {index : Nat} :
    registry.store.Reusable index ↔ registry.IsFree index := by
  rw [Store.Reusable, store_getElem?, IsFree]
  constructor
  · intro found
    obtain ⟨cell, present, vacant, fresh⟩ := found
    obtain ⟨slot, here, rfl⟩ := Option.map_eq_some_iff.mp present
    exact ⟨slot, here, vacant, fresh⟩
  · intro found
    obtain ⟨slot, present, vacant, fresh⟩ := found
    exact ⟨slot.cell, by rw [present]; rfl, vacant, fresh⟩

theorem Sound.insert_fails_iff (sound : registry.Sound) :
    (∃ next error, registry.insert value = .ok (next, .error error)) ↔
      (∀ index, ¬registry.IsFree index) ∧
        registry.slots.length = registry.limit := by
  have none_free : registry.free = [] ↔ ∀ index, ¬registry.IsFree index := by
    rw [List.eq_nil_iff_forall_not_mem]
    apply forall_congr'
    intro index
    rw [← reusable_iff]
    exact not_congr (sound.store.mem_free_iff index)
  constructor
  · intro refused
    obtain ⟨next, error, refused⟩ := refused
    cases sound.insert value with
    | inl inserted =>
        obtain ⟨_, _, inserted, _⟩ := inserted
        rw [inserted] at refused
        cases refused
    | inr full => exact ⟨none_free.mp full.1, full.2.1⟩
  · intro full
    have noFree := none_free.mpr full.1
    refine ⟨registry, .persistentRootLimitReached, ?_⟩
    simp only [RootRegistry.insert, noFree, if_pos (Nat.le_of_eq full.2.symm)]

/-- The loop of `drain_root_releases`, with the values it unprotects. -/
def takeAllPending : Nat → RootRegistry Value →
    Option (RootRegistry Value × List Value)
  | 0, _ => none
  | rounds + 1, registry =>
      match registry.takePending with
      | .error _ => none
      | .ok (next, none) => some (next, [])
      | .ok (next, some value) =>
          (takeAllPending rounds next).map fun (last, values) =>
            (last, value :: values)

/-- The loop takes every pending release, and ends. -/
theorem Sound.takeAllPending (sound : registry.Sound) :
    ∀ rounds, registry.pending < rounds →
      ∃ last values, takeAllPending rounds registry = some (last, values) ∧
        values.length = registry.pending ∧ last.pendingHead = none := by
  intro rounds
  induction rounds generalizing registry with
  | zero =>
      intro below
      exact absurd below (Nat.not_lt_zero _)
  | succ rounds inductionHypothesis =>
      intro below
      cases sound.takePending with
      | inl empty =>
          obtain ⟨head, took⟩ := empty
          have threaded := sound.threaded
          rw [head] at threaded
          refine ⟨registry, [], ?_, ?_, head⟩
          · simp only [RootRegistry.takeAllPending, took]
          · rw [sound.pending, threaded.countP_queued]
            rfl
      | inr taken =>
          obtain ⟨_, _, value, next, _, _, _, took, soundNext, _, _,
            pending⟩ := taken
          obtain ⟨last, values, rest, lengths, ended⟩ :=
            inductionHypothesis soundNext (by omega)
          refine ⟨last, value :: values, ?_, ?_, ended⟩
          · simp only [RootRegistry.takeAllPending, took, rest,
              Option.map_some]
          · rw [List.length_cons, lengths, pending]

end Operations

/-! ## Every history -/

abbrev Event (Value : Type*) : Type _ :=
  Exchange (Op Value) (Reply Value)

/-- Every history of a registry with this limit. -/
def system (Value : Type*) (limit : Nat) :
    System (RootRegistry Value) (Event Value) :=
  component.system fun registry => registry = new limit

/-- The values handed to the registry so far, with their identities. -/
def issuedIn (trace : List (Event Value)) : List (RootId × Value) :=
  trace.flatMap fun event => issued event.op event.reply.answer

/-- The values taken out of the registry so far, with their identities. -/
def returnedIn (trace : List (Event Value)) : List (RootId × Value) :=
  trace.flatMap fun event => event.reply.returned

section Runs

variable {limit : Nat} {trace : List (Event Value)}
  {registry next : RootRegistry Value}

theorem step_performs {event : Event Value} (sound : registry.Sound)
    (moved : (system Value limit).step registry event next) :
    registry.Performs event.op next event.reply.answer ∧
      event.reply.returned = registry.returned event.op := by
  obtain ⟨after, answer, performs⟩ := sound.performs event.op
  have performed : component.perform registry event.op =
      some (event.reply, next) := moved
  simp only [component, performs.performed] at performed
  obtain ⟨replyEq, nextEq⟩ := Prod.mk.inj (Option.some.inj performed)
  rw [← replyEq, ← nextEq]
  exact ⟨performs, rfl⟩

theorem run_ledger (run : (system Value limit).Run trace registry) :
    registry.Sound ∧ registry.limit = limit ∧
      Store.Ledger (issuedIn trace) (returnedIn trace) registry.store := by
  apply run.invariant (fun trace registry =>
    registry.Sound ∧ registry.limit = limit ∧
      Store.Ledger (issuedIn trace) (returnedIn trace) registry.store)
  · intro registry starts
    have isNew : registry = new limit := starts
    rw [isNew]
    exact ⟨sound_new limit, rfl, Store.ledger_empty⟩
  · intro trace registry event next _ known moved
    obtain ⟨sound, limitEq, ledger⟩ := known
    obtain ⟨performs, returns⟩ := step_performs sound moved
    refine ⟨performs.sound, performs.limit.trans limitEq, ?_⟩
    have onward := ledger.step performs.moved
    simp only [issuedIn, returnedIn, List.flatMap_append,
      List.flatMap_singleton, returns]
    exact onward

/-- A store of generations, with the list of its pending releases. -/
structure SafeStore (limit : Nat) (trace : List (Event Value))
    (registry : RootRegistry Value) : Prop where
  neverPanics : ∀ op, ∃ next answer,
    registry.perform op = .ok (next, answer)
  issuedOnce : ((issuedIn trace).map Prod.fst).Nodup
  /-- What was inserted was returned, or is in the registry still. -/
  settledOnce :
    (issuedIn trace).Perm (returnedIn trace ++ registry.store.held)
  /-- An answer carries the values that the history counts as returned. -/
  answers : ∀ event ∈ trace,
    event.reply.answer.values = event.reply.returned.map Prod.snd
  resolves : ∀ id value, registry.get id = some value →
    (id, value) ∈ issuedIn trace
  /-- An identity whose value was returned names nothing any more. -/
  spent : ∀ id value, (id, value) ∈ returnedIn trace →
    registry.get id = none ∧ registry.remove id = (registry, none) ∧
      registry.requestRelease id = registry
  /-- A value whose release is requested is queued first, and from then on
  neither resolves nor is removed by its identity. -/
  requests : ∀ id value, registry.get id = some value →
    ((registry.requestRelease id).pendingHead = some id.slot ∧
      (registry.requestRelease id).pending = registry.pending + 1 ∧
      ∃ slot, (registry.requestRelease id).slots[id.slot]? = some slot ∧
        slot.generation = id.generation ∧ slot.value = some value ∧
        slot.release = .pending registry.pendingHead) ∧
    (registry.requestRelease id).get id = none ∧
    (registry.requestRelease id).remove id =
      (registry.requestRelease id, none)
  drained : (registry.drain).1.store.held = []
  queue : ∃ queue,
    Chain (links registry.slots) registry.pendingHead queue ∧
      queue.Nodup ∧
      ∀ index, index ∈ queue ↔ ∃ slot,
        registry.slots[index]? = some slot ∧ slot.release ≠ .live
  queueHolds : ∀ slot ∈ registry.slots,
    slot.release ≠ .live → slot.value ≠ none
  /-- The loop over the list takes every pending release, and ends. -/
  drains : ∃ last values,
    takeAllPending (registry.pending + 1) registry = some (last, values) ∧
      values.length = registry.pending ∧ last.pendingHead = none
  freeNodup : registry.free.Nodup
  free : ∀ index, index ∈ registry.free ↔ registry.IsFree index
  counts : registry.counts =
    (registry.slots.countP RootSlot.filled,
      registry.slots.countP RootSlot.queued)
  slotsFit : registry.slots.length ≤ limit
  insertFails : ∀ value,
    (∃ next error, registry.insert value = .ok (next, .error error)) ↔
      (∀ index, ¬registry.IsFree index) ∧ registry.slots.length = limit

/-- The values an answer carries are the ones the operation returns. -/
theorem run_answers (run : (system Value limit).Run trace registry) :
    ∀ event ∈ trace,
      event.reply.answer.values = event.reply.returned.map Prod.snd := by
  apply run.invariant (fun trace _ => ∀ event ∈ trace,
    event.reply.answer.values = event.reply.returned.map Prod.snd)
  · intro registry _ event member
    cases member
  · intro trace registry event next earlier known moved other member
    obtain ⟨performs, returns⟩ :=
      step_performs (run_ledger earlier).1 moved
    cases List.mem_append.mp member with
    | inl before => exact known other before
    | inr last =>
        cases List.mem_singleton.mp last
        rw [returns]
        exact performs.values

theorem Sound.queue (sound : registry.Sound) :
    ∃ queue, Chain (links registry.slots) registry.pendingHead queue ∧
      queue.Nodup ∧
      ∀ index, index ∈ queue ↔ ∃ slot,
        registry.slots[index]? = some slot ∧ slot.release ≠ .live := by
  obtain ⟨queue, chain, complete⟩ := sound.threaded
  refine ⟨queue, chain, chain.nodup, ?_⟩
  intro index
  constructor
  · intro member
    obtain ⟨next, linked⟩ := chain.linked index member
    obtain ⟨slot, present, waits⟩ := Option.bind_eq_some_iff.mp linked
    refine ⟨slot, present, ?_⟩
    intro isLive
    rw [isLive] at waits
    cases waits
  · intro pends
    obtain ⟨slot, present, waits⟩ := pends
    apply complete
    rw [links, present, Option.bind_some]
    intro unlinked
    cases release : slot.release with
    | live => exact waits release
    | pending next =>
        rw [release] at unlinked
        cases unlinked

theorem run_safeStore (run : (system Value limit).Run trace registry) :
    SafeStore limit trace registry := by
  obtain ⟨sound, limitEq, ledger⟩ := run_ledger run
  refine ⟨?_, ledger.issuedOnce, ledger.balanced, run_answers run, ?_, ?_,
    ?_, ?_, sound.queue, sound.coherent, ?_, sound.store.freeNodup, ?_, ?_, ?_,
    ?_⟩
  · intro op
    obtain ⟨next, answer, performs⟩ := sound.performs op
    exact ⟨next, answer, performs.performed⟩
  · intro id value resolves
    exact ledger.get_issued (Store.get_eq_some_iff.mpr (store_of_get resolves))
  · intro id value gone
    have unresolved : registry.get id = none := by
      cases resolves : registry.get id with
      | none => rfl
      | some other =>
          have named := Store.get_eq_some_iff.mpr (store_of_get resolves)
          rw [ledger.get_returned gone] at named
          cases named
    exact ⟨unresolved, remove_of_get_none unresolved,
      requestRelease_of_get_none unresolved⟩
  · intro id value resolves
    exact ⟨requestRelease_queued resolves, get_requestRelease,
      remove_of_get_none get_requestRelease⟩
  · rw [drain_store]
    exact Store.held_swept
  · exact sound.takeAllPending _ (Nat.lt_succ_self _)
  · intro index
    exact (sound.store.mem_free_iff index).trans reusable_iff
  · rw [RootRegistry.counts, sound.live, sound.pending]
  · rw [← limitEq]
    exact sound.slotsFit
  · intro value
    rw [← limitEq]
    exact sound.insert_fails_iff

/-- A released identity is used again after its slot was. -/
def staleRelease : List (Op Nat) :=
  [.insert 7, .requestRelease ⟨0, 1⟩, .requestRelease ⟨0, 1⟩, .takePending,
    .insert 8, .requestRelease ⟨0, 1⟩, .remove ⟨0, 1⟩, .insert 9, .drain,
    .remove ⟨0, 2⟩]

theorem staleRelease_safeStore :
    ∃ trace registry,
      component.performAll (new 1) staleRelease = some (trace, registry) ∧
      SafeStore 1 trace registry := by
  obtain ⟨trace, registry, performed, run⟩ :=
    component.exists_run_of_performAll (fun registry => registry = new 1)
      staleRelease rfl (by decide)
  exact ⟨trace, registry, performed, run_safeStore run⟩

end Runs

end RootRegistry

end RustJsi.BackendJsc
