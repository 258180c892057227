import RustJsi.BackendJsc.EntryFrames

/-!
# Owned contexts are released once, and the deferred list is drained

A context is released by the teardown of its runtime, which no entry of the
same context group is below.  The drain of an outermost entry goes on until
the deferred list is empty, also where user destructors defer further
teardowns.
-/

namespace RustJsi.BackendJsc

open Interleaving Nested
open RustJsi.Host (EntryGate)

namespace EntryThread

variable {thread next before middle later after : EntryThread}
  {shared : Nat} {place : Place} {trace : List (Exchange Op Reply)}

/-- What a step can do to one gate. -/
inductive GateStep (gate : EntryGate) : EntryGate → Prop
  | kept {next : EntryGate} : EntryGate.Kept gate next → GateStep gate next
  | entered {next : EntryGate} : gate.state = .active → GateStep gate next
  | left {next : EntryGate} :
      gate.entries ≠ 0 → next.state = gate.state → GateStep gate next

theorem GateStep.refl (gate : EntryGate) : GateStep gate gate :=
  .kept (.refl gate)

/-- A place that is set is the one that was found, or another one. -/
theorem set_gateStep {index : Nat} {other changed : Place}
    (found : thread.places[shared]? = some place)
    (at_ : thread.places[index]? = some other)
    (step : GateStep place.shared.gate changed.shared.gate) :
    ∃ later, (thread.places.set shared changed)[index]? = some later ∧
      GateStep other.shared.gate later.shared.gate := by
  by_cases same : shared = index
  · subst same
    rw [found] at at_
    cases at_
    have bound := (List.getElem?_eq_some_iff.mp found).1
    exact ⟨changed, List.getElem?_set_self bound, step⟩
  · rw [List.getElem?_set_ne same]
    exact ⟨other, at_, .refl _⟩

theorem append_gateStep {index : Nat} {other made : Place}
    (at_ : thread.places[index]? = some other) :
    ∃ later, (thread.places ++ [made])[index]? = some later ∧
      GateStep other.shared.gate later.shared.gate :=
  ⟨other, (List.getElem?_append_left
    (List.getElem?_eq_some_iff.mp at_).1).trans at_, .refl _⟩

/-- A teardown that begins closes a gate that was not destroyed. -/
theorem begun_kept {gate : EntryGate} (unbegun : gate.Unbegun) :
    EntryGate.Kept gate gate.begun := by
  refine .of_closed rfl (by intro same; cases same) ?_
  intro ended
  cases unbegun.state with
  | inl active =>
      rw [active] at ended
      cases ended
  | inr draining =>
      rw [draining] at ended
      cases ended

theorem Moves.gate (sound : thread.Sound) (moves : Moves thread next)
    {index : Nat} {other : Place}
    (at_ : thread.places[index]? = some other) :
    ∃ later, next.places[index]? = some later ∧
      GateStep other.shared.gate later.shared.gate := by
  cases moves with
  | kept => exact ⟨other, at_, .refl _⟩
  | contextMade => exact ⟨other, at_, .refl _⟩
  | runtimeMade => exact append_gateStep at_
  | attachmentMade => exact append_gateStep at_
  | entered shared context place found here active =>
      exact set_gateStep found at_ (.entered active)
  | left shared context place rest found top =>
      refine set_gateStep found at_ (.left ?_ rfl)
      intro empty
      have counted := sound.counted shared place found
      rw [empty, top, entriesOf_frame, if_pos rfl] at counted
      exact absurd counted.symm (Nat.succ_ne_zero _)
  | outermostLeft shared context place rest found top =>
      refine set_gateStep found at_ (.left ?_ rfl)
      intro empty
      have counted := sound.counted shared place found
      rw [empty, top, entriesOf_frame, if_pos rfl] at counted
      exact absurd counted.symm (Nat.succ_ne_zero _)
  | runtimeKept shared place gate custody own group found _ _ requested =>
      refine set_gateStep found at_ (.kept ?_)
      cases requested with
      | inl same =>
          rw [same]
          exact .refl _
      | inr drain =>
          rw [drain]
          exact EntryGate.requestDrain_kept _
  | destroyBegun shared context group place cause found here entrant =>
      have owns := sound.owns shared place context group found entrant here
      exact set_gateStep found at_ (.kept (begun_kept owns.unbegun))
  | destroyDeferred shared context group place found =>
      exact set_gateStep found at_ (.refl _)
  | drainBegun record records place rest _ waiting found =>
      obtain ⟨waits, _, foundWaiting, _, _, unbegun, _⟩ :=
        sound.waits record (by rw [waiting]; exact List.mem_cons_self)
      rw [found] at foundWaiting
      cases foundWaiting
      exact set_gateStep found at_ (.kept (begun_kept unbegun))
  | drained => exact ⟨other, at_, .refl _⟩
  | contextReleased shared context place cause rest top found =>
      refine set_gateStep found at_ (.kept ?_)
      cases sound.relies _ (by rw [top]; exact List.mem_cons_self) with
      | releasing _ _ _ _ _ _ foundNamed _ _ state =>
          rw [found] at foundNamed
          cases foundNamed
          refine .of_closed rfl (by intro same; cases same) ?_
          rw [state]
          intro same
          cases same
  | destroyEnded shared context place cause rest top found =>
      refine set_gateStep found at_ (.kept ?_)
      have gate : (Place.returned (place.withGate place.shared.gate.destroyed)
          cause true).shared.gate = place.shared.gate.destroyed := by
        unfold Place.returned
        split <;> rfl
      rw [gate]
      exact ⟨rfl, fun active => (by cases active), fun _ => rfl⟩
  | detached shared place gate custody stack found _ kept =>
      exact set_gateStep found at_ (.kept kept)

/-- The teardown of an attachment has ended. -/
def Destroyed (thread : EntryThread) (shared : Nat) : Prop :=
  ∃ place, thread.places[shared]? = some place ∧
    place.shared.gate.state = .destroyed

theorem Destroyed.moves (destroyed : thread.Destroyed shared)
    (sound : thread.Sound) (moves : Moves thread next) :
    next.Destroyed shared := by
  obtain ⟨place, found, state⟩ := destroyed
  obtain ⟨later, foundLater, step⟩ := moves.gate sound found
  refine ⟨later, foundLater, ?_⟩
  cases step with
  | kept kept => exact kept.destroyed state
  | entered active =>
      rw [state] at active
      cases active
  | left _ same => rw [same, state]

/-! ## Releases -/

/-- The calls of `global_context_release` for a context. -/
def releases (thread : EntryThread) (context : Nat) : Nat :=
  (thread.contexts[context]?.map EngineContext.released).getD 0

/-- A release of a context is the step of a teardown that owns it. -/
theorem Moves.releases (moves : Moves thread next) {context : Nat}
    (known : context < thread.contexts.length)
    (released : next.releases context ≠ thread.releases context) :
    ∃ shared cause rest, thread.stack =
      .destroying shared context cause .releasing :: rest := by
  have extended : ∀ more : List EngineContext,
      ((thread.contexts ++ more)[context]?.map
        EngineContext.released).getD 0 = thread.releases context := by
    intro more
    rw [List.getElem?_append_left known]
    rfl
  cases moves with
  | kept => exact absurd rfl released
  | contextMade record => exact absurd (extended _) released
  | runtimeMade group => exact absurd (extended _) released
  | attachmentMade => exact absurd rfl released
  | entered => exact absurd rfl released
  | left => exact absurd rfl released
  | outermostLeft => exact absurd rfl released
  | runtimeKept => exact absurd rfl released
  | destroyBegun => exact absurd rfl released
  | destroyDeferred => exact absurd rfl released
  | drainBegun => exact absurd rfl released
  | drained => exact absurd rfl released
  | contextReleased shared named place cause rest top found =>
      by_cases same : named = context
      · subst same
        exact ⟨shared, cause, rest, top⟩
      · refine absurd ?_ released
        show ((thread.contexts.modify named _)[context]?.map
          EngineContext.released).getD 0 = _
        rw [List.getElem?_modify]
        simp only [if_neg same, Option.map_eq_map, Option.map_id']
        rfl
  | destroyEnded => exact absurd rfl released
  | detached => exact absurd rfl released

/-- A runtime whose context was released has had its last entry. -/
def Spent (thread : EntryThread) : Prop :=
  ∀ (context : Nat) (record : EngineContext) (shared : Nat),
    thread.contexts[context]? = some record →
    record.owner = some shared → record.released ≠ 0 →
    ∃ place, thread.places[shared]? = some place ∧
      place.shared.gate.entries = 0 ∧ place.shared.gate.state ≠ .active

/-- A gate without entries that admits none stays so. -/
theorem GateStep.spent {gate later : EntryGate} (step : GateStep gate later)
    (empty : gate.entries = 0) (closed : gate.state ≠ .active) :
    later.entries = 0 ∧ later.state ≠ .active := by
  cases step with
  | kept kept =>
      exact ⟨kept.entries.trans empty,
        fun active => closed (kept.closed active)⟩
  | entered active => exact absurd active closed
  | left held => exact absurd empty held

/-- A record of a context that was released, and the step that did it. -/
theorem Moves.record (moves : Moves thread next) {context owner : Nat}
    {record : EngineContext} (found : next.contexts[context]? = some record)
    (owned : record.owner = some owner) (released : record.released ≠ 0) :
    thread.contexts[context]? = some record ∨
    ∃ cause rest shared, thread.stack =
      .destroying shared context cause .releasing :: rest ∧
      thread.contexts[context]?.bind EngineContext.owner = some owner := by
  have extended : ∀ made : EngineContext,
      (thread.contexts ++ [made])[context]? = some record →
      (made.owner = none ∨ made.released = 0) →
      thread.contexts[context]? = some record := by
    intro made found fresh
    obtain ⟨bound, same⟩ := List.getElem?_eq_some_iff.mp found
    rw [List.length_append, List.length_singleton] at bound
    cases Nat.lt_or_eq_of_le (Nat.le_of_lt_succ bound) with
    | inl old => exact (List.getElem?_append_left old).symm.trans found
    | inr new =>
        subst new
        rw [List.getElem?_append_right (Nat.le_refl _), Nat.sub_self] at found
        cases found
        cases fresh with
        | inl ownerless =>
            rw [ownerless] at owned
            cases owned
        | inr unreleased => exact absurd unreleased released
  cases moves with
  | kept => exact Or.inl found
  | contextMade made ownerless =>
      exact Or.inl (extended made found (Or.inl ownerless))
  | runtimeMade group => exact Or.inl (extended _ found (Or.inr rfl))
  | attachmentMade => exact Or.inl found
  | entered => exact Or.inl found
  | left => exact Or.inl found
  | outermostLeft => exact Or.inl found
  | runtimeKept => exact Or.inl found
  | destroyBegun => exact Or.inl found
  | destroyDeferred => exact Or.inl found
  | drainBegun => exact Or.inl found
  | drained => exact Or.inl found
  | contextReleased shared named place cause rest top =>
      have modified : (thread.contexts.modify named fun record =>
          { record with released := record.released + 1 })[context]? =
          some record := found
      rw [List.getElem?_modify] at modified
      obtain ⟨before, foundBefore, changed⟩ := Option.map_eq_some_iff.mp modified
      by_cases same : named = context
      · subst same
        rw [if_pos rfl] at changed
        right
        refine ⟨cause, rest, shared, top, ?_⟩
        rw [foundBefore, ← owned, ← changed]
        rfl
      · rw [if_neg same] at changed
        left
        rw [← changed]
        exact foundBefore
  | destroyEnded => exact Or.inl found
  | detached => exact Or.inl found

theorem Spent.moves (spent : thread.Spent) (sound : thread.Sound)
    (moves : Moves thread next) : next.Spent := by
  intro context record shared found owned released
  have closed : ∃ place, thread.places[shared]? = some place ∧
      place.shared.gate.entries = 0 ∧ place.shared.gate.state ≠ .active := by
    obtain before | ⟨cause, rest, destroyed, top, owner⟩ :=
      moves.record found owned released
    · exact spent context record shared before owned released
    · cases sound.relies _ (by rw [top]; exact List.mem_cons_self) with
      | releasing _ _ _ place _ group foundPlace _ _ state empty unreleased =>
          rw [show thread.contexts[context]? = _ from unreleased] at owner
          obtain rfl := Option.some.inj owner
          refine ⟨place, foundPlace, empty, ?_⟩
          rw [state]
          intro same
          cases same
  obtain ⟨place, foundPlace, empty, closed⟩ := closed
  obtain ⟨later, foundLater, step⟩ := moves.gate sound foundPlace
  exact ⟨later, foundLater, step.spent empty closed⟩

theorem run_spent (run : entryThreads.Run trace thread) : thread.Spent := by
  refine System.Run.invariant (fun _ thread => thread.Spent) ?_ ?_ run
  · rintro _ ⟨id, rfl⟩ context record shared found
    cases found
  · intro _ before label after run spent performed
    have sound := run_sound run
    exact spent.moves sound (perform_moves sound performed)

/-- What holds of the contexts that runtimes own. -/
structure ReleasesOnce (thread : EntryThread) : Prop where
  once : ∀ context, thread.releases context ≤ 1
  /-- A context is released under no entry of its context group. -/
  apart : ∀ label next context, entryThreads.step thread label next →
    context < thread.contexts.length →
    next.releases context ≠ thread.releases context →
    ∀ frame ∈ liveFrames thread.stack,
      thread.contextGetGroup frame.2 ≠ thread.contextGetGroup context
  /-- The context a runtime is entered with was not released. -/
  usable : ∀ frame ∈ liveFrames thread.stack, ∀ place own group,
    thread.places[frame.1]? = some place →
    place.entrant = .runtime own group →
    own = some frame.2 ∧
      ∀ record, thread.contexts[frame.2]? = some record →
        record.owner = some frame.1 → record.released = 0

/-- Over every run an owned context is released at most once, never under an
entry of the same context group, and no entry of its runtime outlives it. -/
theorem run_releasesOnce (run : entryThreads.Run trace thread) :
    thread.ReleasesOnce where
  once := by
    intro context
    unfold releases
    cases found : thread.contexts[context]? with
    | none => exact Nat.zero_le 1
    | some record =>
        exact (run_sound run).released record (List.mem_of_getElem? found)
  apart := by
    intro label next context step known released frame live same
    have sound := run_sound run
    obtain ⟨shared, cause, rest, top⟩ :=
      (perform_moves sound step).releases known released
    have nests := sound.nests
    rw [top] at nests live
    have active := Nests.frames nests.2 live
    exact nests.1 frame.2 (by rw [active]) same
  usable := by
    intro frame live place own group found entrant
    have sound := run_sound run
    obtain ⟨call, member, entry⟩ := List.mem_filterMap.mp live
    cases call with
    | frame shared context previous =>
        cases entry
        cases sound.relies _ member with
        | frame _ _ _ named foundNamed admits =>
            rw [found] at foundNamed
            cases foundNamed
            rw [entrant] at admits
            refine ⟨admits, fun record foundRecord owned => ?_⟩
            by_contra released
            obtain ⟨spent, foundSpent, empty, _⟩ :=
              run_spent run context record shared foundRecord owned released
            rw [found] at foundSpent
            cases foundSpent
            have counted := sound.counted shared place found
            rw [empty] at counted
            exact not_enters counted.symm member (by simp [EntryCall.enters])
    | draining => cases entry
    | destroying => cases entry
    | detaching => cases entry

theorem nestedDrops_releasesOnce :
    ∃ trace thread,
      entryThread.performAll (.new 0) nestedDrops = some (trace, thread) ∧
      thread.ReleasesOnce := by
  obtain ⟨trace, thread, performed, run⟩ :=
    entryThread.exists_run_of_performAll
      (fun thread => ∃ id, thread = .new id) nestedDrops ⟨0, rfl⟩ (by decide)
  exact ⟨trace, thread, performed, run_releasesOnce run⟩

/-! ## The drain of the deferred list -/

/-- A runtime whose teardown is deferred or under way stays so until it is
destroyed. -/
theorem Moves.doomed (moves : Moves thread next)
    (doomed : shared ∈ thread.doomed) :
    shared ∈ next.doomed ∨ next.Destroyed shared := by
  have member : ∀ {call : EntryCall} {rest : List EntryCall},
      thread.stack = call :: rest →
      shared ∈ thread.deferred.map DeferredOwnedRuntimeDrop.shared ∨
        call.destroys = some shared ∨
        shared ∈ rest.filterMap EntryCall.destroys := by
    intro call rest top
    cases List.mem_append.mp doomed with
    | inl waiting => exact Or.inl waiting
    | inr destroying =>
        rw [top] at destroying
        obtain ⟨found, member, destroys⟩ := List.mem_filterMap.mp destroying
        cases List.mem_cons.mp member with
        | inl same =>
            rw [← same]
            exact Or.inr (Or.inl destroys)
        | inr below =>
            exact Or.inr (Or.inr
              (List.mem_filterMap.mpr ⟨found, below, destroys⟩))
  cases moves with
  | kept => exact Or.inl doomed
  | contextMade => exact Or.inl doomed
  | runtimeMade => exact Or.inl doomed
  | attachmentMade => exact Or.inl doomed
  | entered => exact Or.inl doomed
  | left _ _ _ rest _ top =>
      obtain waiting | destroys | below := member top
      · exact Or.inl (List.mem_append_left _ waiting)
      · cases destroys
      · exact Or.inl (List.mem_append_right _ below)
  | outermostLeft _ _ _ rest _ top =>
      obtain waiting | destroys | below := member top
      · exact Or.inl (List.mem_append_left _ waiting)
      · cases destroys
      · exact Or.inl (List.mem_append_right _ below)
  | runtimeKept => exact Or.inl doomed
  | destroyBegun => exact Or.inl (List.perm_middle.mem_iff.mpr
      (List.mem_cons_of_mem _ doomed))
  | destroyDeferred => exact Or.inl (List.mem_cons_of_mem _ doomed)
  | drainBegun record records place rest _ waiting =>
      unfold EntryThread.doomed at doomed
      rw [waiting] at doomed
      exact Or.inl (List.perm_middle.mem_iff.mpr doomed)
  | drained rest top =>
      obtain waiting | destroys | below := member top
      · exact Or.inl (List.mem_append_left _ waiting)
      · cases destroys
      · exact Or.inl (List.mem_append_right _ below)
  | contextReleased _ _ _ _ rest top =>
      obtain waiting | destroys | below := member top
      · exact Or.inl (List.mem_append_left _ waiting)
      · exact Or.inl (List.mem_append_right _
          (List.mem_filterMap.mpr ⟨_, List.mem_cons_self, destroys⟩))
      · exact Or.inl (List.mem_append_right _
          (List.mem_cons_of_mem _ below))
  | destroyEnded destroyed context place cause rest top found =>
      obtain waiting | destroys | below := member top
      · exact Or.inl (List.mem_append_left _ waiting)
      · cases destroys
        right
        have bound := (List.getElem?_eq_some_iff.mp found).1
        refine ⟨_, List.getElem?_set_self bound, ?_⟩
        unfold Place.returned
        split <;> rfl
      · exact Or.inl (List.mem_append_right _ below)
  | detached _ _ _ _ stack _ _ _ turn =>
      left
      unfold EntryThread.doomed at doomed ⊢
      show shared ∈ thread.deferred.map _ ++ stack.filterMap _
      rw [turn.destroys]
      exact doomed

theorem path_doomed {during : List (Exchange Op Reply)}
    (run : entryThreads.Run trace before)
    (path : entryThreads.Path before during after)
    (doomed : shared ∈ before.doomed) :
    shared ∈ after.doomed ∨ after.Destroyed shared := by
  induction path with
  | refl => exact Or.inl doomed
  | snoc earlier step inductionHypothesis =>
      have sound := run_sound (run.append earlier)
      have moves := perform_moves sound step
      cases inductionHypothesis with
      | inl doomed => exact moves.doomed doomed
      | inr destroyed => exact Or.inr (destroyed.moves sound moves)

/-- The call of an entry that found no active pair, and of its drain. -/
def Outermost : EntryCall → Prop
  | .frame _ _ previous => previous = ⟨none, none⟩
  | .draining => True
  | _ => False

/-- An outermost entry goes on as its drain. -/
theorem Moves.changed (moves : Moves thread next) {old new : EntryCall}
    {rest : List EntryCall} (top : thread.stack = old :: rest)
    (now : next.stack = new :: rest) (outermost : Outermost old) :
    Outermost new := by
  have same : next.stack = thread.stack → Outermost new := by
    intro kept
    rw [top, now] at kept
    rw [(List.cons.inj kept).1]
    exact outermost
  have pushed : ∀ call, next.stack = call :: thread.stack → Outermost new := by
    intro call called
    have length := congrArg List.length (now.symm.trans called)
    rw [top, List.length_cons, List.length_cons, List.length_cons] at length
    omega
  have popped : ∀ call, thread.stack = call :: next.stack → Outermost new := by
    intro call returned
    have length := congrArg List.length (top.symm.trans returned)
    rw [now, List.length_cons, List.length_cons, List.length_cons] at length
    omega
  cases moves with
  | kept => exact same rfl
  | contextMade => exact same rfl
  | runtimeMade => exact same rfl
  | attachmentMade => exact same rfl
  | entered => exact pushed _ rfl
  | left _ _ _ _ _ frame => exact popped _ frame
  | outermostLeft =>
      obtain ⟨rfl, _⟩ := List.cons.inj now
      trivial
  | runtimeKept => exact same rfl
  | destroyBegun => exact pushed _ rfl
  | destroyDeferred => exact same rfl
  | drainBegun => exact pushed _ rfl
  | drained _ draining => exact popped _ draining
  | contextReleased _ _ _ _ _ destroying =>
      obtain ⟨rfl, _⟩ := List.cons.inj (top.symm.trans destroying)
      cases outermost
  | destroyEnded _ _ _ _ _ destroying => exact popped _ destroying
  | detached _ _ _ _ stack _ _ _ turn =>
      have now : stack = new :: rest := now
      have same : stack = thread.stack → Outermost new := same
      have pushed : ∀ call, stack = call :: thread.stack → Outermost new :=
        pushed
      have popped : ∀ call, thread.stack = call :: stack → Outermost new :=
        popped
      generalize thread.stack = calls at turn top same pushed popped
      cases turn with
      | kept => exact same rfl
      | begun => exact pushed _ rfl
      | turned =>
          obtain ⟨rfl, _⟩ := List.cons.inj top
          cases outermost
      | ended => exact popped _ rfl

/-- The last step of an outermost entry finds the deferred list empty. -/
theorem Moves.drains (moves : Moves thread next) {call : EntryCall}
    (top : thread.stack = call :: next.stack) (outermost : Outermost call) :
    next.deferred = [] := by
  have same : next.stack = thread.stack → next.deferred = [] := by
    intro kept
    have length := congrArg List.length (kept.trans top)
    rw [List.length_cons] at length
    omega
  have pushed : ∀ call, next.stack = call :: thread.stack →
      next.deferred = [] := by
    intro call called
    have length := congrArg List.length (called.trans (congrArg _ top))
    rw [List.length_cons, List.length_cons] at length
    omega
  cases moves with
  | kept => exact same rfl
  | contextMade => exact same rfl
  | runtimeMade => exact same rfl
  | attachmentMade => exact same rfl
  | entered => exact pushed _ rfl
  | left shared context place rest _ frame active =>
      -- This entry found an active pair.
      obtain ⟨rfl, _⟩ := List.cons.inj (top.symm.trans frame)
      rw [show activePair rest = ⟨none, none⟩ from outermost] at active
      cases active
  | outermostLeft _ _ _ rest _ frame =>
      have length := congrArg List.length (top.symm.trans frame)
      simp only [withStack, List.length_cons] at length
      omega
  | runtimeKept => exact same rfl
  | destroyBegun => exact pushed _ rfl
  | destroyDeferred => exact same rfl
  | drainBegun => exact pushed _ rfl
  | drained rest _ empty => exact empty
  | contextReleased _ _ _ _ rest destroying =>
      obtain ⟨rfl, _⟩ := List.cons.inj (top.symm.trans destroying)
      cases outermost
  | destroyEnded _ _ _ _ rest destroying =>
      obtain ⟨rfl, _⟩ := List.cons.inj (top.symm.trans destroying)
      cases outermost
  | detached _ _ _ _ stack _ _ _ turn =>
      have same : stack = thread.stack → thread.deferred = [] := same
      have pushed : ∀ call, stack = call :: thread.stack →
          thread.deferred = [] := pushed
      have top : thread.stack = call :: stack := top
      generalize thread.stack = calls at turn top same pushed
      cases turn with
      | kept => exact same rfl
      | begun => exact pushed _ rfl
      | turned =>
          obtain ⟨rfl, _⟩ := List.cons.inj top
          cases outermost
      | ended =>
          obtain ⟨rfl, _⟩ := List.cons.inj top
          cases outermost

/-- What stands at the bottom of an outermost entry is its frame or its
drain. -/
theorem Inside.outermost (run : entryThreads.Run trace before)
    (idle : before.active.runtime = none) (inside : Inside before later) :
    ∃ upper call, later.stack = upper ++ call :: before.stack ∧
      Outermost call := by
  obtain ⟨shared, supplied, entered, during, step, deeper⟩ := inside
  obtain ⟨context, pushed⟩ := enter_entered step
  have active : before.active = ⟨none, none⟩ := by
    rw [(run_sound run).active] at idle ⊢
    exact activePair_of_runtime idle
  refine deeper.bottom (run.snoc step)
    (fun _ _ _ _ run step => (run_calls run step).turns) ?_
    ⟨[], _, pushed, active⟩
  intro trace state label next run step old new rest top now outermost
  cases top with
  | inl top =>
      exact (perform_moves (run_sound run) step).changed top now outermost
  | inr below =>
      obtain ⟨call, top⟩ := below
      have lower : next.stack.length < state.stack.length := by
        rw [top, now]
        exact Nat.lt_succ_self _
      obtain ⟨_, returned⟩ := (run_calls run step).lower lower
      rw [top, now] at returned
      obtain ⟨_, same⟩ := List.cons.inj returned
      rw [← (List.cons.inj same).1]
      exact outermost

/-- What holds of the deferred list. -/
structure DrainsDeferred (thread : EntryThread) : Prop where
  /-- Nothing waits on a thread without calls. -/
  settled : thread.stack = [] → thread.deferred = []
  /-- A drain has no live frame below it. -/
  alone : ∀ rest, thread.stack = .draining :: rest → liveFrames rest = []
  /-- Once an outermost entry is left, every runtime that waited at any time
  inside it is destroyed. -/
  drains : thread.active.runtime = none →
    ∀ middle later after, Inside thread middle → Goes thread middle later →
    Leaves thread later after →
    after.deferred = [] ∧
      ∀ record ∈ middle.deferred, after.Destroyed record.shared

/-- Over every run the deferred list is drained under no entry, and is empty
with all its runtimes destroyed once an outermost entry is left. -/
theorem run_drainsDeferred (run : entryThreads.Run trace thread) :
    thread.DrainsDeferred where
  settled := by
    intro idle
    have sound := run_sound run
    by_contra waiting
    cases sound.pending waiting with
    | inl entered =>
        rw [sound.active, idle] at entered
        exact entered rfl
    | inr draining =>
        rw [idle] at draining
        cases draining
  alone := by
    intro rest top
    have nests := (run_sound run).nests
    rw [top] at nests
    refine List.eq_nil_iff_forall_not_mem.mpr fun frame live => ?_
    have active := Nests.frames nests.2 live
    rw [nests.1] at active
    cases active
  drains := by
    intro idle middle later after inside goes leaves
    have insideLater := inside.goes goes
    obtain ⟨further, call, label, reached, step, top, same⟩ :=
      insideLater.left run leaves
    obtain ⟨upper, bottom, stands, outermost⟩ :=
      insideLater.outermost run idle
    obtain ⟨_, _, _, reachedMiddle, above⟩ := inside.above run
    have moves := perform_moves (run_sound reached) step
    have only : bottom = call := by
      rw [top] at stands
      cases upper with
      | nil => exact (List.cons.inj stands).1.symm
      | cons other upper =>
          have length := congrArg List.length stands
          simp only [List.length_cons, List.length_append] at length
          omega
    subst only
    have empty : after.deferred = [] := by
      refine moves.drains ?_ outermost
      rw [top, same]
    refine ⟨empty, fun record member => ?_⟩
    obtain ⟨during, deeper⟩ := goes
    have waits : record.shared ∈
        middle.deferred.map DeferredOwnedRuntimeDrop.shared :=
      List.mem_map.mpr ⟨record, member, rfl⟩
    have doomed : record.shared ∈ middle.doomed :=
      List.mem_append_left _ waits
    cases path_doomed reachedMiddle (deeper.path.snoc step) doomed with
    | inr destroyed => exact destroyed
    | inl doomed =>
        -- A call that was there before cannot be about to destroy it.
        have exclusive := (run_sound reachedMiddle).exclusive
        unfold EntryThread.doomed at exclusive doomed
        rw [empty, same] at doomed
        rw [above, List.filterMap_append] at exclusive
        exact absurd rfl ((List.nodup_append.mp exclusive).2.2 _ waits _
          (List.mem_append_right _ doomed))

theorem nestedDrops_drainsDeferred :
    ∃ trace thread,
      entryThread.performAll (.new 0) nestedDrops = some (trace, thread) ∧
      thread.DrainsDeferred ∧
      thread.places.map (fun place => place.shared.gate.state) =
        [.active, .destroyed, .destroyed] ∧
      thread.contexts.map EngineContext.released = [0, 1, 1] := by
  obtain ⟨trace, thread, performed, run⟩ :=
    entryThread.exists_run_of_performAll
      (fun thread => ∃ id, thread = .new id) nestedDrops ⟨0, rfl⟩ (by decide)
  refine ⟨trace, thread, performed, run_drainsDeferred run, ?_⟩
  have evaluated : (entryThread.performAll (.new 0) nestedDrops).map
      (fun result =>
        (result.2.places.map (fun place => place.shared.gate.state),
          result.2.contexts.map EngineContext.released)) =
      some ([.active, .destroyed, .destroyed], [0, 1, 1]) := by
    decide
  simpa [performed] using evaluated

end EntryThread

end RustJsi.BackendJsc
