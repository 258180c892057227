import RustJsi.BackendJsc.EntryMoves

/-!
# Every step of a thread keeps its invariant

A step changes one place at most.  What is known of the other places, and of
the contexts they own, carries over; each step then only has to settle what it
did to its own place.
-/

namespace RustJsi.BackendJsc

open Interleaving
open RustJsi.Host (EntryGate)

namespace EntryThread

variable {thread next : EntryThread} {shared : Nat} {place after : Place}

/-- One place is changed, and no context but the one it owns. -/
structure Update (thread next : EntryThread) (shared : Nat)
    (place after : Place) : Prop where
  found : thread.places[shared]? = some place
  places : next.places = thread.places.set shared after
  address : after.shared.address = place.shared.address
  attachment : place.entrant = .attachment → after.entrant = .attachment
  length : next.contexts.length = thread.contexts.length
  groups : ∀ context : Nat,
    next.contexts[context]?.bind EngineContext.group =
      thread.contexts[context]?.bind EngineContext.group
  unreleased : ∀ context owner group, owner ≠ shared →
    thread.Unreleased context owner group →
    next.Unreleased context owner group

namespace Update

/-- An update that leaves the contexts alone. -/
theorem of_contexts (found : thread.places[shared]? = some place)
    (places : next.places = thread.places.set shared after)
    (contexts : next.contexts = thread.contexts)
    (address : after.shared.address = place.shared.address)
    (attachment : place.entrant = .attachment → after.entrant = .attachment) :
    Update thread next shared place after where
  found := found
  places := places
  address := address
  attachment := attachment
  length := by rw [contexts]
  groups := fun context => by rw [contexts]
  unreleased := fun context owner group _ unreleased => by
    unfold Unreleased
    rw [contexts]
    exact unreleased

variable (update : Update thread next shared place after)

include update

theorem now : next.places[shared]? = some after := by
  have bound := (List.getElem?_eq_some_iff.mp update.found).1
  rw [update.places, List.getElem?_set_self bound]

theorem other {index : Nat} (other : index ≠ shared) :
    next.places[index]? = thread.places[index]? := by
  rw [update.places, List.getElem?_set_ne other.symm]

/-- A place is the one that was changed, or was there before. -/
theorem place_cases {index : Nat} {found : Place}
    (at_ : next.places[index]? = some found) :
    (index = shared ∧ found = after) ∨
      (index ≠ shared ∧ thread.places[index]? = some found) := by
  by_cases same : index = shared
  · rw [same, update.now] at at_
    exact Or.inl ⟨same, (Option.some.inj at_).symm⟩
  · rw [update.other same] at at_
    exact Or.inr ⟨same, at_⟩

theorem addressed (sound : thread.Sound) (index : Nat) (found : Place)
    (at_ : next.places[index]? = some found) :
    found.shared.address = index := by
  obtain ⟨rfl, rfl⟩ | ⟨_, before⟩ := update.place_cases at_
  · rw [update.address]
    exact sound.addressed index place update.found
  · exact sound.addressed index found before

theorem counted (sound : thread.Sound)
    (own : after.shared.gate.entries.toNat = entriesOf shared next.stack)
    (others : ∀ index, index ≠ shared →
      entriesOf index next.stack = entriesOf index thread.stack)
    (index : Nat) (found : Place) (at_ : next.places[index]? = some found) :
    found.shared.gate.entries.toNat = entriesOf index next.stack := by
  obtain ⟨rfl, rfl⟩ | ⟨other, before⟩ := update.place_cases at_
  · exact own
  · rw [others index other]
    exact sound.counted index found before

theorem owns (sound : thread.Sound)
    (own : ∀ context group, after.entrant = .runtime (some context) group →
      after.custody = .here → next.Owns shared after context group)
    (index : Nat) (found : Place) (context group : Nat)
    (at_ : next.places[index]? = some found)
    (entrant : found.entrant = .runtime (some context) group)
    (here : found.custody = .here) :
    next.Owns index found context group := by
  obtain ⟨rfl, rfl⟩ | ⟨other, before⟩ := update.place_cases at_
  · exact own context group entrant here
  · have owns := sound.owns index found context group before entrant here
    exact ⟨update.unreleased context index group other owns.unreleased,
      owns.unbegun⟩

theorem waits {record : DeferredOwnedRuntimeDrop}
    (other : record.shared ≠ shared) (waits : thread.Waits record) :
    next.Waits record := by
  obtain ⟨waiting, group, found, entrant, dropped, unbegun, empty,
    unreleased⟩ := waits
  refine ⟨waiting, group, ?_, entrant, dropped, unbegun, empty, ?_⟩
  · rw [update.other other]
    exact found
  · exact update.unreleased record.context record.shared group other unreleased

/-- A call that neither destroys the changed place nor enters it under a
context it gave up relies on what it did. -/
theorem relies {call : EntryCall} (relies : thread.Relies call)
    (destroys : call.destroys ≠ some shared)
    (admits : call.enters shared → ∀ context,
      place.entrant.Admits context → after.entrant.Admits context) :
    next.Relies call := by
  cases relies with
  | frame entered context previous named found admitted known =>
      have known : context < next.contexts.length := by
        rw [update.length]
        exact known
      by_cases same : entered = shared
      · subst same
        rw [update.found] at found
        cases found
        exact .frame entered context previous after update.now
          (admits (by simp [EntryCall.enters]) context admitted) known
      · have found : next.places[entered]? = some named := by
          rw [update.other same]
          exact found
        exact .frame entered context previous named found admitted known
  | draining => exact .draining
  | releasing destroyed context cause named own group found entrant custody
      state empty unreleased =>
      have other : destroyed ≠ shared := by
        intro same
        exact destroys (congrArg some same)
      have found : next.places[destroyed]? = some named := by
        rw [update.other other]
        exact found
      exact .releasing destroyed context cause named own group found entrant
        custody state empty
        (update.unreleased context destroyed group other unreleased)
  | retiring destroyed context cause named own group found entrant custody
      state empty =>
      have other : destroyed ≠ shared := by
        intro same
        exact destroys (congrArg some same)
      have found : next.places[destroyed]? = some named := by
        rw [update.other other]
        exact found
      exact .retiring destroyed context cause named own group found entrant
        custody state empty
  | detaching detached cause phase named found entrant =>
      by_cases same : detached = shared
      · subst same
        rw [update.found] at found
        cases found
        exact .detaching detached cause phase after update.now
          (update.attachment entrant)
      · have found : next.places[detached]? = some named := by
          rw [update.other same]
          exact found
        exact .detaching detached cause phase named found entrant

end Update

/-- The nesting of calls depends on the groups of contexts only. -/
theorem Nests.groups {before after : List EngineContext}
    (same : ∀ context : Nat, after[context]?.bind EngineContext.group =
      before[context]?.bind EngineContext.group) {stack : List EntryCall}
    (nests : Nests before stack) : Nests after stack := by
  induction stack with
  | nil => trivial
  | cons call rest inductionHypothesis =>
      cases call with
      | frame => exact ⟨nests.1, nests.2.1, inductionHypothesis nests.2.2⟩
      | draining => exact ⟨nests.1, inductionHypothesis nests.2⟩
      | destroying shared context cause phase =>
          cases phase with
          | releasing =>
              refine ⟨fun other active => ?_, inductionHypothesis nests.2⟩
              rw [same, same]
              exact nests.1 other active
          | retiring => exact inductionHypothesis nests
      | detaching => exact inductionHypothesis nests

/-- A runtime that user code has is not about to be destroyed. -/
theorem Sound.not_doomed (sound : thread.Sound)
    (found : thread.places[shared]? = some place)
    (here : place.custody = .here) : shared ∉ thread.doomed := by
  intro doomed
  cases List.mem_append.mp doomed with
  | inl deferred =>
      obtain ⟨record, member, rfl⟩ := List.mem_map.mp deferred
      obtain ⟨waiting, _, foundWaiting, _, dropped, _⟩ :=
        sound.waits record member
      rw [found] at foundWaiting
      cases foundWaiting
      rw [here] at dropped
      cases dropped
  | inr destroying =>
      obtain ⟨call, member, destroys⟩ := List.mem_filterMap.mp destroying
      have kept : ∀ cause : DestroyCause, place.custody ≠ cause.custody := by
        intro cause
        rw [here]
        cases cause <;> (intro same; cases same)
      cases sound.relies call member with
      | frame => cases destroys
      | draining => cases destroys
      | releasing _ _ cause _ _ _ foundDestroyed _ custody =>
          cases destroys
          rw [found] at foundDestroyed
          cases foundDestroyed
          exact kept cause custody
      | retiring _ _ cause _ _ _ foundDestroyed _ custody =>
          cases destroys
          rw [found] at foundDestroyed
          cases foundDestroyed
          exact kept cause custody
      | detaching => cases destroys

@[simp] theorem entriesOf_frame (shared entered context : Nat)
    (previous : ActiveEntry) (stack : List EntryCall) :
    entriesOf shared (.frame entered context previous :: stack) =
      entriesOf shared stack + if entered = shared then 1 else 0 := by
  by_cases same : entered = shared
  · simp [entriesOf, EntryCall.enters, same]
  · simp [entriesOf, EntryCall.enters, same]

@[simp] theorem entriesOf_draining (shared : Nat) (stack : List EntryCall) :
    entriesOf shared (.draining :: stack) = entriesOf shared stack :=
  List.countP_cons_of_neg (by simp [EntryCall.enters])

@[simp] theorem entriesOf_destroying (shared destroyed context : Nat)
    (cause : DestroyCause) (phase : DestructorPhase)
    (stack : List EntryCall) :
    entriesOf shared (.destroying destroyed context cause phase :: stack) =
      entriesOf shared stack :=
  List.countP_cons_of_neg (by simp [EntryCall.enters])

@[simp] theorem entriesOf_detaching (shared detached : Nat)
    (cause : DetachCause) (phase : DestructorPhase)
    (stack : List EntryCall) :
    entriesOf shared (.detaching detached cause phase :: stack) =
      entriesOf shared stack :=
  List.countP_cons_of_neg (by simp [EntryCall.enters])

/-- No call enters an attachment that counts no entry. -/
theorem not_enters {stack : List EntryCall}
    (none : entriesOf shared stack = 0) {call : EntryCall}
    (member : call ∈ stack) : ¬ call.enters shared :=
  List.countP_eq_zero.mp none call member

theorem not_destroys (kept : shared ∉ thread.doomed) {call : EntryCall}
    (member : call ∈ thread.stack) : call.destroys ≠ some shared := by
  intro destroys
  exact kept (List.mem_append_right _
    (List.mem_filterMap.mpr ⟨call, member, destroys⟩))

theorem not_waiting (kept : shared ∉ thread.doomed)
    {record : DeferredOwnedRuntimeDrop} (member : record ∈ thread.deferred) :
    record.shared ≠ shared := by
  intro same
  exact kept (List.mem_append_left _
    (List.mem_map.mpr ⟨record, member, same⟩))

/-! ## Making contexts and attachments -/

/-- Contexts and places are only added. -/
structure Extends (thread next : EntryThread) : Prop where
  places : ∀ (index : Nat) (place : Place),
    thread.places[index]? = some place → next.places[index]? = some place
  contexts : ∀ (index : Nat) (context : EngineContext),
    thread.contexts[index]? = some context →
    next.contexts[index]? = some context

namespace Extends

variable (extends_ : Extends thread next)

include extends_

theorem length {context : Nat} (known : context < thread.contexts.length) :
    context < next.contexts.length := by
  have found := extends_.contexts context _
    (List.getElem?_eq_getElem known)
  exact (List.getElem?_eq_some_iff.mp found).1

theorem relies {call : EntryCall} (relies : thread.Relies call) :
    next.Relies call := by
  cases relies with
  | frame shared context previous place found admits known =>
      exact .frame shared context previous place
        (extends_.places _ _ found) admits (extends_.length known)
  | draining => exact .draining
  | releasing shared context cause place own group found entrant custody state
      empty unreleased =>
      exact .releasing shared context cause place own group
        (extends_.places _ _ found) entrant custody state empty
        (extends_.contexts _ _ unreleased)
  | retiring shared context cause place own group found entrant custody state
      empty =>
      exact .retiring shared context cause place own group
        (extends_.places _ _ found) entrant custody state empty
  | detaching shared cause phase place found entrant =>
      exact .detaching shared cause phase place (extends_.places _ _ found)
        entrant

theorem waits {record : DeferredOwnedRuntimeDrop}
    (waits : thread.Waits record) : next.Waits record := by
  obtain ⟨place, group, found, entrant, dropped, unbegun, empty,
    unreleased⟩ := waits
  exact ⟨place, group, extends_.places _ _ found, entrant, dropped, unbegun,
    empty, extends_.contexts _ _ unreleased⟩

theorem group {context : Nat} (known : context < thread.contexts.length) :
    next.contexts[context]?.bind EngineContext.group =
      thread.contexts[context]?.bind EngineContext.group := by
  have found := List.getElem?_eq_getElem known
  rw [found, extends_.contexts context _ found]

/-- The contexts that calls name were made before them. -/
theorem nests {stack : List EntryCall}
    (relies : ∀ call ∈ stack, thread.Relies call)
    (nests : Nests thread.contexts stack) : Nests next.contexts stack := by
  induction stack with
  | nil => trivial
  | cons call rest inductionHypothesis =>
      have below : ∀ call ∈ rest, thread.Relies call := by
        intro call member
        exact relies call (List.mem_cons_of_mem _ member)
      have top := relies call List.mem_cons_self
      cases call with
      | frame => exact ⟨nests.1, nests.2.1, inductionHypothesis below nests.2.2⟩
      | draining => exact ⟨nests.1, inductionHypothesis below nests.2⟩
      | destroying shared context cause phase =>
          cases phase with
          | retiring => exact inductionHypothesis below nests
          | releasing =>
              refine ⟨fun other active => ?_,
                inductionHypothesis below nests.2⟩
              cases top with
              | releasing _ _ _ _ _ _ _ _ _ _ _ unreleased =>
                  have known := (List.getElem?_eq_some_iff.mp unreleased).1
                  obtain none | ⟨entered, entry, named⟩ :=
                    activePair_cases rest
                  · rw [none] at active
                    cases active
                  · obtain ⟨previous, member⟩ := frame_of_activePair named
                    rw [named] at active
                    cases active
                    cases below _ member with
                    | frame _ _ _ _ _ _ made =>
                        rw [extends_.group made, extends_.group known]
                        exact nests.1 other (by rw [named])
      | detaching => exact inductionHypothesis below nests

end Extends

theorem Sound.contextMade (sound : thread.Sound) (record : EngineContext)
    (once : record.released ≤ 1) :
    Sound { thread with contexts := thread.contexts ++ [record] } := by
  have extends_ : Extends thread
      { thread with contexts := thread.contexts ++ [record] } := by
    refine ⟨fun _ _ found => found, fun index context found => ?_⟩
    exact (List.getElem?_append_left
      (List.getElem?_eq_some_iff.mp found).1).trans found
  refine ⟨sound.addressed, sound.active,
    extends_.nests sound.relies sound.nests, sound.counted,
    fun call member => extends_.relies (sound.relies call member), ?_,
    fun record member => extends_.waits (sound.waits record member),
    sound.exclusive, ?_, sound.pending⟩
  · intro shared place context group found entrant here
    have owns := sound.owns shared place context group found entrant here
    exact ⟨extends_.contexts _ _ owns.unreleased, owns.unbegun⟩
  · intro made member
    cases List.mem_append.mp member with
    | inl old => exact sound.released made old
    | inr new =>
        rw [List.mem_singleton.mp new]
        exact once

/-- A place that is added has a gate without entries. -/
theorem Sound.placeMade (sound : thread.Sound) (contexts : List EngineContext)
    (finalEntryPolicy : Host.FinalEntryPolicy) (entrant : Entrant)
    (released : ∀ record ∈ contexts, record.released ≤ 1)
    (own : ∀ context group, entrant = .runtime (some context) group →
      finalEntryPolicy = .guaranteed ∧
      (thread.contexts ++ contexts)[context]? =
        some ⟨some group, some thread.places.length, 0⟩) :
    Sound
      { thread with
        contexts := thread.contexts ++ contexts
        places := thread.places ++
          [⟨thread.newShared finalEntryPolicy, entrant, .here⟩] } := by
  have extends_ : Extends thread
      { thread with
        contexts := thread.contexts ++ contexts
        places := thread.places ++
          [⟨thread.newShared finalEntryPolicy, entrant, .here⟩] } := by
    constructor
    · intro index place found
      exact (List.getElem?_append_left
        (List.getElem?_eq_some_iff.mp found).1).trans found
    · intro index context found
      exact (List.getElem?_append_left
        (List.getElem?_eq_some_iff.mp found).1).trans found
  have places : ∀ {index : Nat} {place : Place},
      (thread.places ++
        [⟨thread.newShared finalEntryPolicy, entrant, .here⟩])[index]? =
          some place →
      thread.places[index]? = some place ∨
        (index = thread.places.length ∧
          place = ⟨thread.newShared finalEntryPolicy, entrant, .here⟩) := by
    intro index place found
    obtain ⟨bound, same⟩ := List.getElem?_eq_some_iff.mp found
    rw [List.length_append, List.length_singleton] at bound
    cases Nat.lt_or_eq_of_le (Nat.le_of_lt_succ bound) with
    | inl old =>
        left
        exact (List.getElem?_append_left old).symm.trans found
    | inr new =>
        right
        subst new
        rw [List.getElem?_append_right (Nat.le_refl _), Nat.sub_self] at found
        exact ⟨rfl, (Option.some.inj found).symm⟩
  refine ⟨?_, sound.active, extends_.nests sound.relies sound.nests, ?_,
    fun call member => extends_.relies (sound.relies call member), ?_,
    fun record member => extends_.waits (sound.waits record member),
    sound.exclusive, ?_, sound.pending⟩
  · intro index place found
    cases places found with
    | inl old => exact sound.addressed index place old
    | inr new =>
        obtain ⟨rfl, rfl⟩ := new
        rfl
  · intro index place found
    cases places found with
    | inl old => exact sound.counted index place old
    | inr new =>
        obtain ⟨rfl, rfl⟩ := new
        -- No call can enter a place that was not there.
        have none : entriesOf thread.places.length thread.stack = 0 := by
          refine List.countP_eq_zero.mpr fun call member enters => ?_
          cases sound.relies call member with
          | frame entered _ _ named found =>
              have bound := (List.getElem?_eq_some_iff.mp found).1
              rw [of_decide_eq_true enters] at bound
              exact absurd bound (Nat.lt_irrefl _)
          | draining => cases enters
          | releasing => cases enters
          | retiring => cases enters
          | detaching => cases enters
        exact none.symm
  · intro index place context group found runtime here
    cases places found with
    | inl old =>
        have owns := sound.owns index place context group old runtime here
        exact ⟨extends_.contexts _ _ owns.unreleased, owns.unbegun⟩
    | inr new =>
        obtain ⟨rfl, rfl⟩ := new
        obtain ⟨rfl, made⟩ := own context group runtime
        exact ⟨made, Or.inl rfl, rfl, rfl, rfl⟩
  · intro record member
    cases List.mem_append.mp member with
    | inl old => exact sound.released record old
    | inr new => exact released record new

/-! ## Entries -/

theorem toNat_entered {entries limit : UInt32} (room : entries < limit) :
    (entries + 1).toNat = entries.toNat + 1 := by
  have bound : entries.toNat < limit.toNat := room
  have last := limit.toNat_lt
  rw [UInt32.toNat_add]
  exact Nat.mod_eq_of_lt (by simp; omega)

theorem toNat_left {entries : UInt32} (held : 0 < entries.toNat) :
    (entries - 1).toNat = entries.toNat - 1 := by
  rw [UInt32.toNat_sub_of_le]
  · rfl
  · exact held

theorem Sound.entered (sound : thread.Sound) {context : Nat}
    (found : thread.places[shared]? = some place)
    (here : place.custody = .here)
    (room : place.shared.gate.entries < place.shared.gate.limit.value)
    (admits : place.entrant.Admits context)
    (known : context < thread.contexts.length)
    (compatible : thread.active = ⟨none, none⟩ ∨
      thread.active = ⟨some shared, some context⟩) :
    Sound
      { thread.setPlace shared
          { place with
            shared.gate.entries := place.shared.gate.entries + 1 } with
        active := ⟨some shared, some context⟩
        stack := .frame shared context thread.active :: thread.stack } := by
  have update : Update thread
      { thread.setPlace shared
          { place with
            shared.gate.entries := place.shared.gate.entries + 1 } with
        active := ⟨some shared, some context⟩
        stack := .frame shared context thread.active :: thread.stack }
      shared place
      { place with shared.gate.entries := place.shared.gate.entries + 1 } :=
    .of_contexts found rfl rfl rfl (fun attachment => attachment)
  have kept := sound.not_doomed found here
  refine ⟨update.addressed sound, rfl, ?_, ?_, ?_, update.owns sound ?_, ?_,
    ?_, sound.released, ?_⟩
  · rw [sound.active] at compatible ⊢
    exact ⟨rfl, compatible, sound.nests⟩
  · refine update.counted sound ?_ fun index other => ?_
    · rw [entriesOf_frame, if_pos rfl, ← sound.counted shared place found]
      exact toNat_entered room
    · rw [entriesOf_frame, if_neg other.symm]
      rfl
  · intro call member
    cases List.mem_cons.mp member with
    | inl top =>
        rw [top]
        exact .frame shared context thread.active _ update.now admits known
    | inr below =>
        exact update.relies (sound.relies call below)
          (not_destroys kept below) (fun _ _ admits => admits)
  · intro context group entrant here
    have owns := sound.owns shared place context group found entrant here
    exact ⟨owns.unreleased, ⟨owns.unbegun.state, owns.unbegun.policy,
      owns.unbegun.finalEntry, owns.unbegun.cleanup⟩⟩
  · intro record member
    exact update.waits (not_waiting kept member) (sound.waits record member)
  · exact sound.exclusive
  · intro _
    exact Or.inl (by intro idle; cases idle)

/-- What leaving an entry keeps, whatever the stack it leaves. -/
theorem Sound.left (sound : thread.Sound) {context : Nat}
    {previous : ActiveEntry} {rest stack : List EntryCall}
    (found : thread.places[shared]? = some place)
    (top : thread.stack = .frame shared context previous :: rest)
    (active : activePair rest = activePair stack)
    (nests : Nests thread.contexts rest → Nests thread.contexts stack)
    (entries : ∀ index, entriesOf index stack = entriesOf index rest)
    (members : ∀ call ∈ stack, call = .draining ∨ call ∈ rest)
    (destroys : stack.filterMap EntryCall.destroys =
      rest.filterMap EntryCall.destroys)
    (pending : (activePair rest).runtime ≠ none ∨ .draining ∈ stack) :
    Sound
      ({ thread.setPlace shared
          (place.withGate place.shared.gate.dropEntry) with
        active := activePair rest }.withStack stack) := by
  have update : Update thread
      ({ thread.setPlace shared
          (place.withGate place.shared.gate.dropEntry) with
        active := activePair rest }.withStack stack)
      shared place (place.withGate place.shared.gate.dropEntry) :=
    .of_contexts found rfl rfl rfl (fun attachment => attachment)
  have counted := sound.counted shared place found
  rw [top, entriesOf_frame, if_pos rfl] at counted
  have below : ∀ call ∈ rest, call ∈ thread.stack := by
    intro call member
    rw [top]
    exact List.mem_cons_of_mem _ member
  -- A runtime under its teardown has no entry to leave.
  have untouched : ∀ call ∈ rest, call.destroys = some shared →
      Relies (({ thread.setPlace shared
          (place.withGate place.shared.gate.dropEntry) with
        active := activePair rest }.withStack stack)) call := by
    intro call member destroys
    cases sound.relies call (below call member) with
    | frame => cases destroys
    | draining => cases destroys
    | releasing _ _ cause named own group foundNamed entrant custody state
        empty =>
        cases destroys
        rw [found] at foundNamed
        cases foundNamed
        rw [empty] at counted
        exact absurd counted.symm (Nat.succ_ne_zero _)
    | retiring _ _ cause named own group foundNamed entrant custody state
        empty =>
        cases destroys
        rw [found] at foundNamed
        cases foundNamed
        rw [empty] at counted
        exact absurd counted.symm (Nat.succ_ne_zero _)
    | detaching => cases destroys
  have nested := sound.nests
  rw [top] at nested
  refine ⟨update.addressed sound, active, nests nested.2.2, ?_, ?_,
    update.owns sound ?_, ?_, ?_, sound.released, fun _ => pending⟩
  · refine update.counted sound ?_ fun index other => ?_
    · show (place.shared.gate.entries - 1).toNat = entriesOf shared stack
      rw [toNat_left (by rw [counted]; exact Nat.succ_pos _), counted, entries]
      rfl
    · show entriesOf index stack = entriesOf index thread.stack
      rw [entries, top, entriesOf_frame, if_neg other.symm]
      rfl
  · intro call member
    cases members call member with
    | inl draining =>
        rw [draining]
        exact .draining
    | inr member =>
        by_cases destroyed : call.destroys = some shared
        · exact untouched call member destroyed
        · exact update.relies (sound.relies call (below call member))
            destroyed (fun _ _ admits => admits)
  · intro context group entrant here
    have owns := sound.owns shared place context group found entrant here
    exact ⟨owns.unreleased, ⟨owns.unbegun.state, owns.unbegun.policy,
      owns.unbegun.finalEntry, owns.unbegun.cleanup⟩⟩
  · intro record member
    by_cases same : record.shared = shared
    · obtain ⟨waiting, group, foundWaiting, entrant, dropped, unbegun, empty,
        unreleased⟩ := sound.waits record member
      rw [same, found] at foundWaiting
      cases foundWaiting
      rw [empty] at counted
      exact absurd counted.symm (Nat.succ_ne_zero _)
    · exact update.waits same (sound.waits record member)
  · have exclusive := sound.exclusive
    unfold doomed at exclusive ⊢
    rw [top] at exclusive
    show (thread.deferred.map _ ++ stack.filterMap _).Nodup
    rw [destroys]
    exact exclusive

/-! ## Teardown of owned runtimes -/

theorem Sound.runtimeKept (sound : thread.Sound) {gate : EntryGate}
    {custody : Custody} (found : thread.places[shared]? = some place)
    (here : place.custody = .here)
    (requested : gate = place.shared.gate ∨
      gate = place.shared.gate.requestDrain) :
    Sound (thread.setPlace shared
      { place.withGate gate with custody := custody }) := by
  have update : Update thread
      (thread.setPlace shared { place.withGate gate with custody := custody })
      shared place { place.withGate gate with custody := custody } :=
    .of_contexts found rfl rfl rfl (fun attachment => attachment)
  have kept := sound.not_doomed found here
  have entries : gate.entries = place.shared.gate.entries := by
    cases requested with
    | inl same => rw [same]
    | inr drain =>
        rw [drain, (EntryGate.requestDrain_kept place.shared.gate).entries]
  refine ⟨update.addressed sound, sound.active, sound.nests, ?_, ?_,
    update.owns sound ?_, ?_, sound.exclusive, sound.released, sound.pending⟩
  · refine update.counted sound ?_ fun _ _ => rfl
    show gate.entries.toNat = _
    rw [entries]
    exact sound.counted shared place found
  · intro call member
    exact update.relies (sound.relies call member) (not_destroys kept member)
      (fun _ _ admits => admits)
  · intro context group entrant _
    have owns := sound.owns shared place context group found entrant here
    refine ⟨owns.unreleased, ?_⟩
    cases requested with
    | inl same =>
        rw [same]
        exact owns.unbegun
    | inr drain =>
        rw [drain]
        exact owns.unbegun.requestDrain
  · intro record member
    exact update.waits (not_waiting kept member) (sound.waits record member)

/-- A runtime that user code gives up is destroyed at once. -/
theorem Sound.destroyBegun (sound : thread.Sound) {context group : Nat}
    {cause : DestroyCause} (found : thread.places[shared]? = some place)
    (here : place.custody = .here)
    (entrant : place.entrant = .runtime (some context) group)
    (empty : place.shared.gate.entries = 0)
    (apart : Apart thread.contexts context thread.active) :
    Sound ((thread.setPlace shared
      { place.withGate place.shared.gate.begun with
        custody := cause.custody }).withStack
      (.destroying shared context cause .releasing :: thread.stack)) := by
  have update : Update thread
      ((thread.setPlace shared
        { place.withGate place.shared.gate.begun with
          custody := cause.custody }).withStack
        (.destroying shared context cause .releasing :: thread.stack))
      shared place
      { place.withGate place.shared.gate.begun with
        custody := cause.custody } :=
    .of_contexts found rfl rfl rfl (fun attachment => attachment)
  have kept := sound.not_doomed found here
  have owns := sound.owns shared place context group found entrant here
  refine ⟨update.addressed sound, sound.active, ?_, ?_, ?_,
    update.owns sound ?_, ?_, ?_, sound.released, ?_⟩
  · rw [sound.active] at apart
    exact ⟨apart, sound.nests⟩
  · refine update.counted sound ?_ fun index _ => entriesOf_destroying ..
    exact (sound.counted shared place found).trans
      (entriesOf_destroying ..).symm
  · intro call member
    cases List.mem_cons.mp member with
    | inl top =>
        rw [top]
        exact .releasing shared context cause _ (some context) group update.now
          entrant rfl rfl empty owns.unreleased
    | inr below =>
        exact update.relies (sound.relies call below)
          (not_destroys kept below) (fun _ _ admits => admits)
  · intro context group _ given
    cases cause <;> cases given
  · intro record member
    exact update.waits (not_waiting kept member) (sound.waits record member)
  · exact List.nodup_middle.mpr (List.nodup_cons.mpr ⟨kept, sound.exclusive⟩)
  · intro waiting
    cases sound.pending waiting with
    | inl entered => exact Or.inl entered
    | inr draining => exact Or.inr (List.mem_cons_of_mem _ draining)

/-- A runtime whose group is entered waits in the deferred list. -/
theorem Sound.destroyDeferred (sound : thread.Sound) {context group : Nat}
    (found : thread.places[shared]? = some place)
    (here : place.custody = .here)
    (entrant : place.entrant = .runtime (some context) group)
    (entered : thread.active.runtime ≠ none)
    (other : thread.active.runtime ≠ some shared) :
    Sound { thread.setPlace shared
        { place with
          entrant := .runtime none group
          custody := .dropped } with
      deferred := ⟨shared, context⟩ :: thread.deferred } := by
  have update : Update thread
      { thread.setPlace shared
          { place with
            entrant := .runtime none group
            custody := .dropped } with
        deferred := ⟨shared, context⟩ :: thread.deferred }
      shared place
      { place with
        entrant := .runtime none group
        custody := .dropped } := by
    refine .of_contexts found rfl rfl rfl fun attachment => ?_
    rw [entrant] at attachment
    cases attachment
  have kept := sound.not_doomed found here
  have owns := sound.owns shared place context group found entrant here
  rw [sound.active] at other
  have none := sound.nests.entriesOf_eq_zero other
  have counted := sound.counted shared place found
  refine ⟨update.addressed sound, sound.active, sound.nests, ?_, ?_,
    update.owns sound ?_, ?_, ?_, sound.released, fun _ => Or.inl entered⟩
  · exact update.counted sound counted fun _ _ => rfl
  · intro call member
    exact update.relies (sound.relies call member) (not_destroys kept member)
      (fun enters => absurd enters (not_enters none member))
  · intro context group _ given
    cases given
  · intro record member
    cases List.mem_cons.mp member with
    | inl new =>
        rw [new]
        refine ⟨_, group, update.now, rfl, rfl, owns.unbegun, ?_,
          owns.unreleased⟩
        rw [none] at counted
        exact UInt32.toNat_inj.mp counted
    | inr old =>
        exact update.waits (not_waiting kept old) (sound.waits record old)
  · exact List.nodup_cons.mpr ⟨kept, sound.exclusive⟩

/-- The drain takes the record that was pushed last. -/
theorem Sound.drainBegun (sound : thread.Sound)
    {record : DeferredOwnedRuntimeDrop}
    {records : List DeferredOwnedRuntimeDrop} {rest : List EntryCall}
    (top : thread.stack = .draining :: rest)
    (waiting : thread.deferred = record :: records)
    (found : thread.places[record.shared]? = some place) :
    Sound (({ thread with deferred := records }.setPlace record.shared
        { place.withGate place.shared.gate.begun with
          custody := .dropped }).withStack
      (.destroying record.shared record.context .deferred .releasing ::
        thread.stack)) := by
  have update : Update thread
      (({ thread with deferred := records }.setPlace record.shared
          { place.withGate place.shared.gate.begun with
            custody := .dropped }).withStack
        (.destroying record.shared record.context .deferred .releasing ::
          thread.stack))
      record.shared place
      { place.withGate place.shared.gate.begun with custody := .dropped } :=
    .of_contexts found rfl rfl rfl (fun attachment => attachment)
  have exclusive := sound.exclusive
  unfold doomed at exclusive
  rw [waiting, List.map_cons, List.cons_append] at exclusive
  obtain ⟨alone, exclusive⟩ := List.nodup_cons.mp exclusive
  obtain ⟨waits, group, foundWaiting, entrant, dropped, unbegun, empty,
    unreleased⟩ := sound.waits record (by rw [waiting]; exact List.mem_cons_self)
  rw [found] at foundWaiting
  cases foundWaiting
  refine ⟨update.addressed sound, sound.active, ?_, ?_, ?_,
    update.owns sound ?_, ?_, ?_, sound.released, ?_⟩
  · have nests := sound.nests
    refine ⟨fun other active => ?_, nests⟩
    rw [top] at nests active
    rw [show activePair (.draining :: rest) = _ from nests.1] at active
    cases active
  · refine update.counted sound ?_ fun index _ => entriesOf_destroying ..
    exact (sound.counted record.shared place found).trans
      (entriesOf_destroying ..).symm
  · intro call member
    cases List.mem_cons.mp member with
    | inl new =>
        rw [new]
        exact .releasing record.shared record.context .deferred _ none group
          update.now entrant rfl rfl empty unreleased
    | inr below =>
        refine update.relies (sound.relies call below) ?_
          (fun _ _ admits => admits)
        intro destroys
        exact alone (List.mem_append_right _
          (List.mem_filterMap.mpr ⟨call, below, destroys⟩))
  · intro context group _ given
    cases given
  · intro other member
    refine update.waits ?_
      (sound.waits other (by rw [waiting]; exact List.mem_cons_of_mem _ member))
    intro same
    exact alone (List.mem_append_left _
      (List.mem_map.mpr ⟨other, member, same⟩))
  · exact List.nodup_middle.mpr (List.nodup_cons.mpr ⟨alone, exclusive⟩)
  · intro _
    right
    rw [top]
    exact List.mem_cons_of_mem _ List.mem_cons_self

theorem Sound.drained (sound : thread.Sound) {rest : List EntryCall}
    (top : thread.stack = .draining :: rest) (empty : thread.deferred = []) :
    Sound (thread.withStack rest) := by
  have below : ∀ call ∈ rest, call ∈ thread.stack := by
    intro call member
    rw [top]
    exact List.mem_cons_of_mem _ member
  have nests := sound.nests
  have exclusive := sound.exclusive
  unfold doomed at exclusive
  have active := sound.active
  have counted := sound.counted
  rw [top] at nests exclusive active counted
  have extends_ : Extends thread (thread.withStack rest) :=
    ⟨fun _ _ found => found, fun _ _ found => found⟩
  refine ⟨sound.addressed, active, nests.2, ?_,
    fun call member => extends_.relies (sound.relies call (below call member)),
    ?_, fun record member => extends_.waits (sound.waits record member),
    exclusive, sound.released, fun waiting => absurd empty waiting⟩
  · intro index place found
    rw [counted index place found, entriesOf_draining]
    rfl
  · intro index place context group found entrant here
    have owns := sound.owns index place context group found entrant here
    exact ⟨owns.unreleased, owns.unbegun⟩

/-- A context that is released was made for the runtime that is destroyed. -/
theorem globalContextRelease_of_ne {context released shared owner group : Nat}
    {count : Nat} (own : thread.contexts[released]? =
      some ⟨some count, some shared, 0⟩)
    (other : owner ≠ shared)
    (unreleased : thread.Unreleased context owner group) :
    (thread.globalContextRelease released).Unreleased context owner group := by
  have distinct : released ≠ context := by
    intro same
    unfold Unreleased at unreleased
    rw [same, unreleased] at own
    cases own
    exact other rfl
  unfold Unreleased globalContextRelease
  simp only [List.getElem?_modify, if_neg distinct]
  rw [show thread.contexts[context]? = _ from unreleased]
  rfl

theorem globalContextRelease_group (thread : EntryThread)
    (released context : Nat) :
    (thread.globalContextRelease released).contexts[context]?.bind
        EngineContext.group =
      thread.contexts[context]?.bind EngineContext.group := by
  unfold globalContextRelease
  rw [List.getElem?_modify]
  cases thread.contexts[context]? with
  | none => rfl
  | some record =>
      simp only [Option.map_eq_map, Option.map_some, Option.bind_some]
      split <;> rfl

/-- The context of a runtime under its teardown is released. -/
theorem Sound.contextReleased (sound : thread.Sound) {context : Nat}
    {cause : DestroyCause} {rest : List EntryCall}
    (top : thread.stack = .destroying shared context cause .releasing :: rest)
    (found : thread.places[shared]? = some place) :
    Sound (((thread.setPlace shared
        (place.withGate place.shared.gate.finished)).globalContextRelease
          context).withStack
      (.destroying shared context cause .retiring :: rest)) := by
  have relied := sound.relies _ (by rw [top]; exact List.mem_cons_self)
  cases relied with
  | releasing _ _ _ named own group foundNamed entrant custody state empty
      unreleased =>
    rw [found] at foundNamed
    cases foundNamed
    have update : Update thread
        (((thread.setPlace shared
            (place.withGate place.shared.gate.finished)).globalContextRelease
              context).withStack
          (.destroying shared context cause .retiring :: rest))
        shared place (place.withGate place.shared.gate.finished) :=
      { found := found
        places := rfl
        address := rfl
        attachment := fun attachment => attachment
        length := List.length_modify ..
        groups := globalContextRelease_group _ context
        unreleased := fun _ _ _ other kept =>
          globalContextRelease_of_ne (by exact unreleased) other kept }
    have exclusive := sound.exclusive
    unfold doomed at exclusive
    rw [top] at exclusive
    have alone := (List.nodup_cons.mp
      (List.nodup_middle.mp exclusive)).1
    have counted := sound.counted shared place found
    have nests := sound.nests
    have active := sound.active
    rw [top] at nests active
    refine ⟨update.addressed sound, active, ?_, ?_, ?_,
      update.owns sound ?_, ?_, exclusive, ?_, ?_⟩
    · exact Nests.groups (fun context => update.groups context) nests.2
    · refine update.counted sound ?_ fun index _ => ?_
      · refine counted.trans ?_
        rw [top, entriesOf_destroying]
        exact (entriesOf_destroying ..).symm
      · rw [top, entriesOf_destroying]
        exact entriesOf_destroying ..
    · intro call member
      cases List.mem_cons.mp member with
      | inl new =>
          rw [new]
          exact .retiring shared context cause _ own group update.now entrant
            custody rfl empty
      | inr below =>
          refine update.relies (sound.relies call ?_) ?_
            (fun _ _ admits => admits)
          · rw [top]
            exact List.mem_cons_of_mem _ below
          · intro destroys
            exact alone (List.mem_append_right _
              (List.mem_filterMap.mpr ⟨call, below, destroys⟩))
    · intro context group _ given
      rw [show place.custody = .here from given] at custody
      cases cause <;> cases custody
    · intro record member
      refine update.waits ?_ (sound.waits record member)
      intro same
      exact alone (List.mem_append_left _
        (List.mem_map.mpr ⟨record, member, same⟩))
    · intro record member
      obtain ⟨index, found⟩ := List.mem_iff_getElem?.mp member
      have modified : (thread.contexts.modify context fun record =>
          { record with released := record.released + 1 })[index]? =
          some record := found
      rw [List.getElem?_modify] at modified
      obtain ⟨before, foundBefore, rfl⟩ := Option.map_eq_some_iff.mp modified
      by_cases same : context = index
      · subst same
        rw [show thread.contexts[context]? = _ from unreleased] at foundBefore
        cases foundBefore
        rw [if_pos rfl]
      · rw [if_neg same]
        exact sound.released before (List.mem_of_getElem? foundBefore)
    · intro waiting
      cases sound.pending waiting with
      | inl entered => exact Or.inl entered
      | inr draining =>
          rw [top] at draining
          cases List.mem_cons.mp draining with
          | inl same => cases same
          | inr below => exact Or.inr (List.mem_cons_of_mem _ below)

/-- A runtime that is destroyed is given back without its context. -/
theorem Sound.destroyEnded (sound : thread.Sound) {context : Nat}
    {cause : DestroyCause} {rest : List EntryCall}
    (top : thread.stack = .destroying shared context cause .retiring :: rest)
    (found : thread.places[shared]? = some place) :
    Sound ((thread.setPlace shared
      (Place.returned (place.withGate place.shared.gate.destroyed) cause
        true)).withStack rest) := by
  have relied := sound.relies _ (by rw [top]; exact List.mem_cons_self)
  cases relied with
  | retiring _ _ _ named own group foundNamed entrant custody state empty =>
    rw [found] at foundNamed
    cases foundNamed
    have returned : (Place.returned
          (place.withGate place.shared.gate.destroyed) cause true).shared =
        (place.withGate place.shared.gate.destroyed).shared ∧
        ∃ left, (Place.returned (place.withGate place.shared.gate.destroyed)
          cause true).entrant = .runtime left group ∧
          ((Place.returned (place.withGate place.shared.gate.destroyed) cause
            true).custody = .here → left = none) := by
      have entrant : (place.withGate place.shared.gate.destroyed).entrant =
          .runtime own group := entrant
      unfold Place.returned
      rw [entrant]
      cases cause with
      | invalidated => exact ⟨rfl, none, rfl, fun _ => rfl⟩
      | dropped =>
          refine ⟨rfl, own, entrant, fun here => ?_⟩
          rw [show place.custody = .here from here] at custody
          cases custody
      | deferred =>
          refine ⟨rfl, own, entrant, fun here => ?_⟩
          rw [show place.custody = .here from here] at custody
          cases custody
    obtain ⟨shared_, left, entrantAfter, given⟩ := returned
    have update : Update thread
        ((thread.setPlace shared
          (Place.returned (place.withGate place.shared.gate.destroyed) cause
            true)).withStack rest)
        shared place
        (Place.returned (place.withGate place.shared.gate.destroyed) cause
          true) := by
      refine .of_contexts found rfl rfl ?_ fun attachment => ?_
      · rw [shared_]
        rfl
      · rw [entrant] at attachment
        cases attachment
    have exclusive := sound.exclusive
    unfold doomed at exclusive
    rw [top] at exclusive
    obtain ⟨alone, exclusive⟩ := List.nodup_cons.mp
      (List.nodup_middle.mp exclusive)
    have counted := sound.counted shared place found
    rw [empty, top, entriesOf_destroying] at counted
    have none : entriesOf shared rest = 0 := counted.symm
    have nests := sound.nests
    have active := sound.active
    rw [top] at nests active
    refine ⟨update.addressed sound, active, nests, ?_, ?_,
      update.owns sound ?_, ?_, exclusive, sound.released, ?_⟩
    · refine update.counted sound ?_ fun index _ => ?_
      · rw [shared_]
        show place.shared.gate.entries.toNat = entriesOf shared rest
        rw [none, empty]
        rfl
      · rw [top, entriesOf_destroying]
        rfl
    · intro call member
      refine update.relies (sound.relies call ?_) ?_
        (fun enters => absurd enters (not_enters none member))
      · rw [top]
        exact List.mem_cons_of_mem _ member
      · intro destroys
        exact alone (List.mem_append_right _
          (List.mem_filterMap.mpr ⟨call, member, destroys⟩))
    · intro context group owned here
      rw [entrantAfter, given here] at owned
      cases owned
    · intro record member
      refine update.waits ?_ (sound.waits record member)
      intro same
      exact alone (List.mem_append_left _
        (List.mem_map.mpr ⟨record, member, same⟩))
    · intro waiting
      cases sound.pending waiting with
      | inl entered => exact Or.inl entered
      | inr draining =>
          rw [top] at draining
          cases List.mem_cons.mp draining with
          | inl same => cases same
          | inr below => exact Or.inr below

theorem DetachTurn.entries {before after : List EntryCall}
    (turn : DetachTurn shared before after) (index : Nat) :
    entriesOf index after = entriesOf index before := by
  cases turn <;> simp only [entriesOf_detaching]

theorem DetachTurn.activePair {before after : List EntryCall}
    (turn : DetachTurn shared before after) :
    BackendJsc.activePair after = BackendJsc.activePair before := by
  cases turn <;> rfl

theorem DetachTurn.destroys {before after : List EntryCall}
    (turn : DetachTurn shared before after) :
    after.filterMap EntryCall.destroys =
      before.filterMap EntryCall.destroys := by
  cases turn <;> rfl

theorem DetachTurn.nests {contexts : List EngineContext}
    {before after : List EntryCall} (turn : DetachTurn shared before after)
    (nests : Nests contexts before) : Nests contexts after := by
  cases turn <;> exact nests

theorem DetachTurn.member {before after : List EntryCall}
    (turn : DetachTurn shared before after) {call : EntryCall}
    (member : call ∈ after) :
    call ∈ before ∨ ∃ cause phase, call = .detaching shared cause phase := by
  cases turn with
  | kept => exact Or.inl member
  | begun cause phase =>
      cases List.mem_cons.mp member with
      | inl top => exact Or.inr ⟨cause, phase, top⟩
      | inr below => exact Or.inl below
  | turned cause old new rest =>
      cases List.mem_cons.mp member with
      | inl top => exact Or.inr ⟨cause, new, top⟩
      | inr below => exact Or.inl (List.mem_cons_of_mem _ below)
  | ended => exact Or.inl (List.mem_cons_of_mem _ member)

theorem DetachTurn.draining {before after : List EntryCall}
    (turn : DetachTurn shared before after)
    (member : EntryCall.draining ∈ before) : EntryCall.draining ∈ after := by
  cases turn with
  | kept => exact member
  | begun => exact List.mem_cons_of_mem _ member
  | turned =>
      cases List.mem_cons.mp member with
      | inl same => cases same
      | inr below => exact List.mem_cons_of_mem _ below
  | ended =>
      cases List.mem_cons.mp member with
      | inl same => cases same
      | inr below => exact below

theorem Sound.detached (sound : thread.Sound) {gate : EntryGate}
    {custody : Custody} {stack : List EntryCall}
    (found : thread.places[shared]? = some place)
    (entrant : place.entrant = .attachment)
    (kept : EntryGate.Kept place.shared.gate gate)
    (turn : DetachTurn shared thread.stack stack) :
    Sound ((thread.setPlace shared
      { place.withGate gate with custody := custody }).withStack stack) := by
  have update : Update thread
      ((thread.setPlace shared
        { place.withGate gate with custody := custody }).withStack stack)
      shared place { place.withGate gate with custody := custody } :=
    .of_contexts found rfl rfl rfl (fun attachment => attachment)
  -- Only a runtime can be destroyed.
  have runtime : ∀ own group, place.entrant ≠ .runtime own group := by
    intro own group
    rw [entrant]
    intro same
    cases same
  refine ⟨update.addressed sound, ?_, turn.nests sound.nests, ?_, ?_,
    update.owns sound ?_, ?_, ?_, sound.released, ?_⟩
  · exact sound.active.trans turn.activePair.symm
  · refine update.counted sound ?_ fun index _ => turn.entries index
    show gate.entries.toNat = entriesOf shared stack
    rw [kept.entries, turn.entries]
    exact sound.counted shared place found
  · intro call member
    obtain old | ⟨cause, phase, rfl⟩ := turn.member member
    · refine update.relies (sound.relies call old) ?_
        (fun _ _ admits => admits)
      intro destroys
      cases sound.relies call old with
      | frame => cases destroys
      | draining => cases destroys
      | releasing _ _ _ named own group foundNamed runtimeNamed =>
          cases destroys
          rw [found] at foundNamed
          cases foundNamed
          exact runtime own group runtimeNamed
      | retiring _ _ _ named own group foundNamed runtimeNamed =>
          cases destroys
          rw [found] at foundNamed
          cases foundNamed
          exact runtime own group runtimeNamed
      | detaching => cases destroys
    · exact .detaching shared cause phase _ update.now entrant
  · intro context group owned
    exact absurd owned (runtime _ _)
  · intro record member
    refine update.waits ?_ (sound.waits record member)
    intro same
    obtain ⟨waiting, group, foundWaiting, runtimeWaiting, _⟩ :=
      sound.waits record member
    rw [same, found] at foundWaiting
    cases foundWaiting
    exact runtime none group runtimeWaiting
  · have exclusive := sound.exclusive
    unfold doomed at exclusive ⊢
    show (thread.deferred.map _ ++ stack.filterMap _).Nodup
    rw [turn.destroys]
    exact exclusive
  · intro waiting
    cases sound.pending waiting with
    | inl entered => exact Or.inl entered
    | inr draining => exact Or.inr (turn.draining draining)

/-- Every step keeps the invariant. -/
theorem Sound.moves (sound : thread.Sound) (moves : Moves thread next) :
    next.Sound := by
  cases moves with
  | kept => exact sound
  | contextMade record _ once => exact sound.contextMade record once
  | runtimeMade group =>
      refine sound.placeMade _ _ _ ?_ ?_
      · intro record member
        rw [List.mem_singleton.mp member]
        exact Nat.zero_le 1
      · intro context own same
        cases same
        refine ⟨rfl, ?_⟩
        rw [List.getElem?_append_right (Nat.le_refl _), Nat.sub_self]
        rfl
  | attachmentMade finalEntryPolicy =>
      have made := sound.placeMade [] finalEntryPolicy .attachment
        (fun record member => absurd member List.not_mem_nil)
        (fun context group same => by cases same)
      rw [List.append_nil] at made
      exact made
  | entered shared context place found here _ room admits known compatible =>
      exact sound.entered found here room admits known compatible
  | left shared context place rest found top active =>
      refine sound.left found top rfl (fun nests => nests) (fun _ => rfl)
        (fun _ member => Or.inr member) rfl (Or.inl ?_)
      rw [active]
      intro idle
      cases idle
  | outermostLeft shared context place rest found top active =>
      refine sound.left found top rfl (fun nests => ⟨active, nests⟩)
        (fun _ => entriesOf_draining ..) (fun _ => List.mem_cons.mp) rfl
        (Or.inr List.mem_cons_self)
  | runtimeKept shared place gate custody own group found here _ requested =>
      exact sound.runtimeKept found here requested
  | destroyBegun shared context group place cause found here entrant empty
      apart =>
      exact sound.destroyBegun found here entrant empty apart
  | destroyDeferred shared context group place found here entrant entered
      other =>
      exact sound.destroyDeferred found here entrant entered other
  | drainBegun record records place rest top waiting found =>
      exact sound.drainBegun top waiting found
  | drained rest top empty => exact sound.drained top empty
  | contextReleased shared context place cause rest top found =>
      exact sound.contextReleased top found
  | destroyEnded shared context place cause rest top found =>
      exact sound.destroyEnded top found
  | detached shared place gate custody stack found entrant kept turn =>
      exact sound.detached found entrant kept turn

theorem Sound.initial (id : Nat) : (EntryThread.new id).Sound where
  addressed := fun _ _ found => by cases found
  active := rfl
  nests := trivial
  counted := fun _ _ found => by cases found
  relies := fun _ member => absurd member List.not_mem_nil
  owns := fun _ _ _ _ found => by cases found
  waits := fun _ member => absurd member List.not_mem_nil
  exclusive := List.nodup_nil
  released := fun _ member => absurd member List.not_mem_nil
  pending := fun waiting => absurd rfl waiting

theorem run_sound {trace : List (Exchange Op Reply)}
    (run : entryThreads.Run trace thread) : thread.Sound := by
  refine System.Run.invariant (fun _ thread => thread.Sound) ?_ ?_ run
  · rintro _ ⟨id, rfl⟩
    exact Sound.initial id
  · intro _ before label after _ sound performed
    exact sound.moves (perform_moves sound performed)

end EntryThread

end RustJsi.BackendJsc
