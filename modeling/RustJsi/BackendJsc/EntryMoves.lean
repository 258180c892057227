import RustJsi.BackendJsc.EntryNesting

/-!
# What one step of a thread can do

From a state in which the invariant holds, no teardown fails half-way: once
its cleanup began, it finishes the drain and destroys the runtime.
-/

namespace RustJsi.BackendJsc

open Interleaving
open RustJsi.Host (EntryGate FinalEntryPolicy)

namespace EntryThread

/-- How a detach changes the stack of calls. -/
inductive DetachTurn (shared : Nat) :
    List EntryCall → List EntryCall → Prop
  | kept (stack : List EntryCall) : DetachTurn shared stack stack
  | begun (cause : DetachCause) (phase : DestructorPhase)
      (stack : List EntryCall) :
      DetachTurn shared stack (.detaching shared cause phase :: stack)
  | turned (cause : DetachCause) (before after : DestructorPhase)
      (rest : List EntryCall) :
      DetachTurn shared (.detaching shared cause before :: rest)
        (.detaching shared cause after :: rest)
  | ended (cause : DetachCause) (phase : DestructorPhase)
      (rest : List EntryCall) :
      DetachTurn shared (.detaching shared cause phase :: rest) rest

/-- The outcomes of a step, each with the conditions it needs. -/
inductive Moves (thread : EntryThread) : EntryThread → Prop
  | kept : Moves thread thread
  | contextMade (record : EngineContext) :
      record.owner = none →
      record.released ≤ 1 →
      Moves thread { thread with contexts := thread.contexts ++ [record] }
  | runtimeMade (group : Nat) :
      Moves thread
        { thread with
          contexts := thread.contexts ++
            [⟨some group, some thread.places.length, 0⟩]
          places := thread.places ++
            [⟨thread.newShared .guaranteed,
              .runtime (some thread.contexts.length) group, .here⟩] }
  | attachmentMade (finalEntryPolicy : FinalEntryPolicy) :
      Moves thread
        { thread with
          places := thread.places ++
            [⟨thread.newShared finalEntryPolicy, .attachment, .here⟩] }
  | entered (shared context : Nat) (place : Place) :
      thread.places[shared]? = some place →
      place.custody = .here →
      place.shared.gate.state = .active →
      place.shared.gate.entries < place.shared.gate.limit.value →
      place.entrant.Admits context →
      context < thread.contexts.length →
      (thread.active = ⟨none, none⟩ ∨
        thread.active = ⟨some shared, some context⟩) →
      Moves thread
        { thread.setPlace shared
            { place with
              shared.gate.entries := place.shared.gate.entries + 1 } with
          active := ⟨some shared, some context⟩
          stack := .frame shared context thread.active :: thread.stack }
  | left (shared context : Nat) (place : Place) (rest : List EntryCall) :
      thread.places[shared]? = some place →
      thread.stack = .frame shared context (activePair rest) :: rest →
      activePair rest = ⟨some shared, some context⟩ →
      Moves thread
        ({ thread.setPlace shared
            (place.withGate place.shared.gate.dropEntry) with
          active := activePair rest }.withStack rest)
  | outermostLeft (shared context : Nat) (place : Place)
      (rest : List EntryCall) :
      thread.places[shared]? = some place →
      thread.stack = .frame shared context (activePair rest) :: rest →
      activePair rest = ⟨none, none⟩ →
      Moves thread
        ({ thread.setPlace shared
            (place.withGate place.shared.gate.dropEntry) with
          active := activePair rest }.withStack (.draining :: rest))
  /-- A teardown that is refused, or has nothing to do. -/
  | runtimeKept (shared : Nat) (place : Place) (gate : EntryGate)
      (custody : Custody) (own : Option Nat) (group : Nat) :
      thread.places[shared]? = some place →
      place.custody = .here →
      place.entrant = .runtime own group →
      (gate = place.shared.gate ∨ gate = place.shared.gate.requestDrain) →
      (custody = .here ∨ custody = .dropped) →
      Moves thread
        (thread.setPlace shared { place.withGate gate with custody := custody })
  | destroyBegun (shared context group : Nat) (place : Place)
      (cause : DestroyCause) :
      thread.places[shared]? = some place →
      place.custody = .here →
      place.entrant = .runtime (some context) group →
      place.shared.gate.entries = 0 →
      Apart thread.contexts context thread.active →
      Moves thread
        ((thread.setPlace shared
          { place.withGate place.shared.gate.begun with
            custody := cause.custody }).withStack
          (.destroying shared context cause .releasing :: thread.stack))
  | destroyDeferred (shared context group : Nat) (place : Place) :
      thread.places[shared]? = some place →
      place.custody = .here →
      place.entrant = .runtime (some context) group →
      thread.active.runtime ≠ none →
      thread.active.runtime ≠ some shared →
      Moves thread
        { thread.setPlace shared
            { place with
              entrant := .runtime none group
              custody := .dropped } with
          deferred := ⟨shared, context⟩ :: thread.deferred }
  | drainBegun (record : DeferredOwnedRuntimeDrop)
      (records : List DeferredOwnedRuntimeDrop) (place : Place)
      (rest : List EntryCall) :
      thread.stack = .draining :: rest →
      thread.deferred = record :: records →
      thread.places[record.shared]? = some place →
      place.shared.gate.entries = 0 →
      Moves thread
        (({ thread with deferred := records }.setPlace record.shared
          { place.withGate place.shared.gate.begun with
            custody := .dropped }).withStack
          (.destroying record.shared record.context .deferred .releasing ::
            thread.stack))
  | drained (rest : List EntryCall) :
      thread.stack = .draining :: rest →
      thread.deferred = [] →
      Moves thread (thread.withStack rest)
  | contextReleased (shared context : Nat) (place : Place)
      (cause : DestroyCause) (rest : List EntryCall) :
      thread.stack = .destroying shared context cause .releasing :: rest →
      thread.places[shared]? = some place →
      Moves thread
        (((thread.setPlace shared
          (place.withGate place.shared.gate.finished)).globalContextRelease
            context).withStack
          (.destroying shared context cause .retiring :: rest))
  | destroyEnded (shared context : Nat) (place : Place)
      (cause : DestroyCause) (rest : List EntryCall) :
      thread.stack = .destroying shared context cause .retiring :: rest →
      thread.places[shared]? = some place →
      Moves thread
        ((thread.setPlace shared
          (Place.returned (place.withGate place.shared.gate.destroyed) cause
            true)).withStack rest)
  | detached (shared : Nat) (place : Place) (gate : EntryGate)
      (custody : Custody) (stack : List EntryCall) :
      thread.places[shared]? = some place →
      place.entrant = .attachment →
      EntryGate.Kept place.shared.gate gate →
      DetachTurn shared thread.stack stack →
      Moves thread
        ((thread.setPlace shared
          { place.withGate gate with custody := custody }).withStack stack)

theorem setPlace_same {thread : EntryThread} {shared : Nat} {place : Place}
    (found : thread.places[shared]? = some place) :
    thread.setPlace shared place = thread := by
  obtain ⟨bound, same⟩ := List.getElem?_eq_some_iff.mp found
  unfold setPlace
  rw [← same, List.set_getElem_self bound]

variable {thread : EntryThread} {shared : Nat} {place : Place}

theorem ensureActive_ok {id : Nat}
    (passed : place.shared.ensureActive id = .ok ()) :
    place.shared.gate.state = .active := by
  unfold SharedEntry.ensureActive at passed
  split at passed
  · cases passed
  · split at passed
    · assumption
    · cases passed

/-- A compatible entry finds no active pair, or its own. -/
theorem Sound.compatible (sound : thread.Sound)
    (found : thread.places[shared]? = some place) {context : Nat}
    (passed : place.shared.ensureEntryCompatible thread.id thread.active
      context = .ok ()) :
    thread.active = ⟨none, none⟩ ∨
      thread.active = ⟨some shared, some context⟩ := by
  unfold SharedEntry.ensureEntryCompatible at passed
  split at passed
  · cases passed
  · split at passed
    · rename_i named
      cases named with
      | inl idle =>
          rw [sound.active] at idle ⊢
          exact Or.inl (activePair_of_runtime idle)
      | inr own =>
          rw [sound.addressed shared place found] at own
          right
          cases pair : thread.active with
          | mk runtime activeContext =>
              rw [pair] at own
              rw [show runtime = some shared from own.1,
                show activeContext = some context from own.2]
    · cases passed

/-- A conflict finds the pair of another runtime or context. -/
theorem Sound.conflict (sound : thread.Sound)
    (found : thread.places[shared]? = some place) {context : Nat}
    (failed : place.shared.ensureEntryCompatible thread.id thread.active
      context = .error .activeEntryConflict) :
    thread.active.runtime ≠ none ∧
      thread.active ≠ ⟨some shared, some context⟩ := by
  have address := sound.addressed shared place found
  unfold SharedEntry.ensureEntryCompatible at failed
  split at failed
  · rename_i foreign
    unfold SharedEntry.ensureNoForeignActiveEntry at foreign
    split at foreign
    · rename_i error wrong
      rw [foreign] at wrong
      unfold SharedEntry.ensureThread at wrong
      split at wrong
      · cases wrong
      · cases wrong
        cases failed
    · split at foreign
      · cases foreign
      · rename_i other
        rw [not_or, address] at other
        refine ⟨other.1, fun own => other.2 ?_⟩
        rw [own]
  · split at failed
    · cases failed
    · rename_i other
      rw [not_or, address] at other
      refine ⟨other.1, fun own => other.2 ?_⟩
      rw [own]
      exact ⟨rfl, rfl⟩

theorem Sound.active_of_runtime (sound : thread.Sound)
    (named : thread.active.runtime = some shared) :
    ∃ context, thread.active = ⟨some shared, some context⟩ := by
  rw [sound.active] at named ⊢
  obtain none | ⟨entered, context, some⟩ := activePair_cases thread.stack
  · rw [none] at named
    cases named
  · rw [some] at named ⊢
    cases named
    exact ⟨context, rfl⟩

/-- The active pair is that of a live frame. -/
theorem frame_of_activePair {stack : List EntryCall} {context : Nat}
    (active : activePair stack = ⟨some shared, some context⟩) :
    ∃ previous, EntryCall.frame shared context previous ∈ stack := by
  induction stack with
  | nil => cases active
  | cons call rest inductionHypothesis =>
      cases call with
      | frame entered entry previous =>
          obtain ⟨rfl, rfl⟩ : entered = shared ∧ entry = context := by
            simpa [activePair] using active
          exact ⟨previous, List.mem_cons_self⟩
      | draining =>
          obtain ⟨previous, member⟩ := inductionHypothesis active
          exact ⟨previous, List.mem_cons_of_mem _ member⟩
      | destroying =>
          obtain ⟨previous, member⟩ := inductionHypothesis active
          exact ⟨previous, List.mem_cons_of_mem _ member⟩
      | detaching =>
          obtain ⟨previous, member⟩ := inductionHypothesis active
          exact ⟨previous, List.mem_cons_of_mem _ member⟩

theorem Sound.frame_of_active (sound : thread.Sound) {context : Nat}
    (active : thread.active = ⟨some shared, some context⟩) :
    ∃ previous, EntryCall.frame shared context previous ∈ thread.stack := by
  rw [sound.active] at active
  exact frame_of_activePair active

theorem enter_moves (sound : thread.Sound)
    (found : thread.places[shared]? = some place)
    (here : place.custody = .here) {supplied : Option Nat}
    (known : thread.contextKnown supplied) :
    Moves thread (thread.enter shared place supplied).2 := by
  unfold enter
  split
  · exact .kept
  · rename_i passed
    have active := ensureActive_ok passed
    split
    · exact .kept
    · rename_i context named
      have admits : place.entrant.Admits context ∧
          context < thread.contexts.length := by
        cases entrant : place.entrant with
        | runtime own group =>
            cases own with
            | none =>
                rw [entrant] at named
                cases named
            | some own =>
                rw [entrant] at named
                cases named
                have owns := sound.owns shared place context group found
                  entrant here
                exact ⟨rfl, (List.getElem?_eq_some_iff.mp
                  owns.unreleased).1⟩
        | attachment =>
            cases supplied with
            | none =>
                rw [entrant] at named
                cases named
            | some supplied =>
                rw [entrant] at named
                cases named
                exact ⟨trivial, of_decide_eq_true known⟩
      split
      · exact .kept
      · rename_i compatible
        unfold enterFrame
        obtain ⟨error, refused⟩ | ⟨_, room, entered⟩ :=
          EntryGate.tryEnter_cases place.shared.gate
        · rw [refused]
          show Moves thread
            (thread.setPlace shared (place.withGate place.shared.gate))
          rw [show place.withGate place.shared.gate = place from rfl,
            setPlace_same found]
          exact .kept
        · rw [entered, sound.addressed shared place found]
          exact .entered shared context place found here active room admits.1
            admits.2 (sound.compatible found compatible)

theorem leave_moves (sound : thread.Sound)
    (found : thread.places[shared]? = some place) {context : Nat}
    {previous : ActiveEntry} {rest : List EntryCall}
    (top : thread.stack = .frame shared context previous :: rest) :
    Moves thread (thread.leave shared place previous rest).2 := by
  have nests := sound.nests
  rw [top] at nests
  obtain ⟨rfl, below, _⟩ := nests
  unfold leave
  cases below with
  | inl none =>
      rw [if_pos (by rw [none])]
      exact .outermostLeft shared context place rest found top none
  | inr own =>
      rw [if_neg (by rw [own]; intro absent; cases absent)]
      exact .left shared context place rest found top own

/-! ## Teardown of owned runtimes -/

/-- The context to release is the runtime's own, and no entry that is active
can use its group. -/
theorem Sound.mayDestroy_some (sound : thread.Sound)
    (found : thread.places[shared]? = some place)
    (here : place.custody = .here) {own : Option Nat} {group context : Nat}
    (entrant : place.entrant = .runtime own group)
    (may : thread.mayDestroy place own group = .ok (some context))
    (empty : place.shared.gate.entries = 0) :
    own = some context ∧ Apart thread.contexts context thread.active := by
  unfold mayDestroy at may
  split at may
  · cases may
  · split at may
    · cases may
    · split at may
      · cases may
      · rename_i context
        split at may
        · rename_i compatible
          cases may
          refine ⟨rfl, ?_⟩
          cases sound.compatible found compatible with
          | inl idle =>
              intro other active
              rw [idle] at active
              cases active
          | inr entered =>
              -- The runtime would count the entry that is active.
              rw [sound.active] at entered
              have entries := entriesOf_pos entered
              rw [← sound.counted shared place found, empty] at entries
              exact absurd entries (Nat.lt_irrefl 0)
        · split at may
          · cases may
          · rename_i independent
            cases may
            refine ⟨rfl, ?_⟩
            rw [not_or, Bool.not_eq_true, Bool.not_eq_false'] at independent
            have owns := sound.owns shared place context group found entrant
              here
            intro other active same
            have apart := independent.2
            unfold contextGroupIsIndependentFromActiveEntry at apart
            rw [active] at apart
            simp only at apart
            unfold contextGetGroup at apart
            rw [same, show thread.contexts[context]? = _ from
              owns.unreleased] at apart
            simp at apart

/-- A teardown that has to wait meets the entry of another runtime. -/
theorem Sound.mayDestroy_conflict (sound : thread.Sound)
    (found : thread.places[shared]? = some place) {group context : Nat}
    (entrant : place.entrant = .runtime (some context) group)
    (failed : thread.mayDestroy place (some context) group =
      .error .activeEntryConflict) :
    thread.active.runtime ≠ none ∧ thread.active.runtime ≠ some shared := by
  have conflict : place.shared.ensureEntryCompatible thread.id thread.active
      context = .error .activeEntryConflict := by
    unfold mayDestroy at failed
    split at failed
    · rename_i error wrong
      unfold SharedEntry.ensureThread at wrong
      split at wrong
      · cases wrong
      · cases wrong
        cases failed
    · split at failed
      · cases failed
      · simp only at failed
        split at failed
        · cases failed
        · rename_i error refused
          split at failed
          · cases failed
            exact refused
          · cases failed
  obtain ⟨entered, other⟩ := sound.conflict found conflict
  refine ⟨entered, fun own => other ?_⟩
  -- An entry of the runtime can only name the runtime's own context.
  obtain ⟨entry, active⟩ := sound.active_of_runtime own
  obtain ⟨previous, member⟩ := sound.frame_of_active active
  cases sound.relies _ member with
  | frame _ _ _ named foundNamed admits known =>
      rw [found] at foundNamed
      cases foundNamed
      rw [entrant] at admits
      cases (show some context = some entry from admits)
      exact active

/-- A teardown is refused by the gate, or its first destructors run. -/
theorem destroyOwnedRuntime_cases (thread : EntryThread) (shared : Nat)
    (place : Place) (context : Nat) (cause : DestroyCause) :
    (thread.destroyOwnedRuntime shared place context cause).2 =
      thread.setPlace shared
        (place.withGate place.shared.gate.requestDrain) ∨
    (place.shared.gate.entries = 0 ∧
      (thread.destroyOwnedRuntime shared place context cause).2 =
        (thread.setPlace shared
          { place.withGate place.shared.gate.begun with
            custody := cause.custody }).withStack
          (.destroying shared context cause .releasing :: thread.stack)) := by
  unfold destroyOwnedRuntime
  obtain ⟨error, refused⟩ | ⟨_, empty, begins⟩ :=
    EntryGate.tryBeginCleanup_cases place.shared.gate.requestDrain
  · rw [refused]
    exact Or.inl rfl
  · rw [begins, EntryGate.requestDrain_begun]
    rw [(EntryGate.requestDrain_kept place.shared.gate).entries] at empty
    exact Or.inr ⟨empty, rfl⟩

theorem invalidate_moves (sound : thread.Sound)
    (found : thread.places[shared]? = some place)
    (here : place.custody = .here) {own : Option Nat} {group : Nat}
    (entrant : place.entrant = .runtime own group) :
    Moves thread (thread.invalidate shared place own group).2 := by
  unfold invalidate
  split
  · exact .kept
  · exact .kept
  · rename_i context may
    obtain refused | ⟨empty, begun⟩ :=
      destroyOwnedRuntime_cases thread shared place context .invalidated
    · have unchanged := Moves.runtimeKept shared place
        place.shared.gate.requestDrain .here own group found here entrant
        (Or.inr rfl) (Or.inl rfl)
      rw [← here] at unchanged
      rw [refused]
      exact unchanged
    · obtain ⟨rfl, apart⟩ := sound.mayDestroy_some found here entrant may empty
      rw [begun]
      exact .destroyBegun shared context group place .invalidated found here
        entrant empty apart

theorem dropRuntime_moves (sound : thread.Sound)
    (found : thread.places[shared]? = some place)
    (here : place.custody = .here) {own : Option Nat} {group : Nat}
    (entrant : place.entrant = .runtime own group) :
    Moves thread (thread.dropRuntime shared place own group).2 := by
  have dropped : Moves thread
      (thread.setPlace shared { place with custody := .dropped }) :=
    .runtimeKept shared place place.shared.gate .dropped own group found here
      entrant (Or.inl rfl) (Or.inr rfl)
  unfold dropRuntime
  dsimp only
  split
  · exact dropped
  · rename_i context may
    obtain refused | ⟨empty, begun⟩ :=
      destroyOwnedRuntime_cases thread shared
        { place with custody := .dropped } context .dropped
    · rw [refused]
      exact .runtimeKept shared place place.shared.gate.requestDrain .dropped
        own group found here entrant (Or.inr rfl) (Or.inr rfl)
    · obtain ⟨rfl, apart⟩ := sound.mayDestroy_some found here entrant may empty
      rw [begun]
      exact .destroyBegun shared context group place .dropped found here
        entrant empty apart
  · rename_i error failed
    split
    · rename_i context
      have conflict := sound.mayDestroy_conflict found entrant failed
      exact .destroyDeferred shared context group place found here entrant
        conflict.1 conflict.2
    · exact dropped

/-- A record that is drained was waiting, so its teardown begins. -/
theorem drainDeferredOwnedDrops_moves (sound : thread.Sound)
    {rest : List EntryCall} (top : thread.stack = .draining :: rest)
    {reply : Reply} {next : EntryThread}
    (drained : thread.drainDeferredOwnedDrops rest = some (reply, next)) :
    Moves thread next := by
  unfold drainDeferredOwnedDrops at drained
  split at drained
  · rename_i empty
    cases drained
    exact .drained rest top empty
  · rename_i record records waiting
    have member : record ∈ thread.deferred := by
      rw [waiting]
      exact List.mem_cons_self
    obtain ⟨place, group, found, entrant, dropped, unbegun, empty, _⟩ :=
      sound.waits record member
    rw [found] at drained
    obtain rfl : _ = next :=
      congrArg Prod.snd (Option.some.inj drained)
    unfold destroyOwnedRuntime
    rw [unbegun.begins empty]
    exact .drainBegun record records place rest top waiting found empty

theorem advanceDestroy_moves (sound : thread.Sound) {context : Nat}
    {cause : DestroyCause} {phase : DestructorPhase} {rest : List EntryCall}
    (top : thread.stack = .destroying shared context cause phase :: rest)
    (found : thread.places[shared]? = some place) :
    Moves thread
      (thread.advanceDestroy shared place context cause phase rest).2 := by
  have relies := sound.relies _ (by rw [top]; exact List.mem_cons_self)
  unfold advanceDestroy
  cases relies with
  | releasing _ _ _ named own group foundNamed entrant custody state empty =>
      rw [found] at foundNamed
      cases foundNamed
      simp only
      rw [EntryGate.complete_finishDrain state empty]
      exact .contextReleased shared context place cause rest top found
  | retiring _ _ _ named own group foundNamed entrant custody state empty =>
      rw [found] at foundNamed
      cases foundNamed
      simp only
      rw [EntryGate.markDestroyed_invalid state]
      exact .destroyEnded shared context place cause rest top found

/-! ## Teardown of attachments -/

section Attachments

variable (found : thread.places[shared]? = some place)
  (entrant : place.entrant = .attachment)

include found entrant

/-- A refused detach changes the gate only. -/
theorem detach_refused {gate : EntryGate}
    (kept : EntryGate.Kept place.shared.gate gate) :
    Moves thread (thread.setPlace shared (place.withGate gate)) :=
  .detached shared place gate place.custody thread.stack found entrant kept
    (.kept thread.stack)

theorem detach_begun {gate : EntryGate}
    (kept : EntryGate.Kept place.shared.gate gate) (cause : DetachCause)
    (custody : Custody) :
    Moves thread
      (thread.detaching shared (place.withGate gate) cause custody).2 :=
  .detached shared place gate custody _ found entrant kept
    (.begun cause .releasing thread.stack)

theorem detachWithContext_moves (supplied : Option Nat) :
    Moves thread (thread.detachWithContext shared place supplied).2 := by
  have kept := (EntryGate.requestDrain_kept place.shared.gate).trans
    (EntryGate.tryBeginCleanup_kept _)
  unfold detachWithContext
  split
  · exact .kept
  · split
    · exact .kept
    · split
      · exact .kept
      · split
        · exact .kept
        · split
          · rename_i error gate refused
            rw [refused] at kept
            exact detach_refused found entrant kept
          · rename_i guard gate begins
            rw [begins] at kept
            exact detach_begun found entrant kept .withContext .lent

theorem detachWithoutContext_moves :
    Moves thread (thread.detachWithoutContext shared place).2 := by
  have kept := (EntryGate.requestDrain_kept place.shared.gate).trans
    (EntryGate.finishDrain_kept _)
  unfold detachWithoutContext
  split
  · exact .kept
  · split
    · exact .kept
    · split
      · rename_i error gate refused
        rw [refused] at kept
        exact detach_refused found entrant kept
      · rename_i outcome gate finishes
        rw [finishes] at kept
        exact detach_begun found entrant kept .withoutContext .lent

theorem dropAttachment_moves :
    Moves thread (thread.dropAttachment shared place).2 := by
  have kept := (EntryGate.requestDrain_kept place.shared.gate).trans
    (EntryGate.finishDrain_kept _)
  unfold dropAttachment
  split
  · exact .detached shared place place.shared.gate .dropped thread.stack found
      entrant (EntryGate.Kept.refl _) (.kept thread.stack)
  · split
    · rename_i outcome gate finishes
      rw [finishes] at kept
      exact detach_begun found entrant kept (.dropped true) .dropped
    · rename_i error gate refused
      rw [refused] at kept
      exact detach_begun found entrant kept (.dropped false) .dropped

/-- A detach that ends gives its attachment back. -/
theorem detach_ended {gate : EntryGate} {cause : DetachCause}
    {phase : DestructorPhase} {rest : List EntryCall}
    (kept : EntryGate.Kept place.shared.gate gate)
    (top : thread.stack = .detaching shared cause phase :: rest) :
    Moves thread
      ((thread.setPlace shared
        (Place.detached (place.withGate gate))).withStack rest) := by
  have turn : DetachTurn shared thread.stack rest := by
    rw [top]
    exact .ended cause phase rest
  unfold Place.detached
  split
  · exact .detached shared place gate .here rest found entrant kept turn
  · exact .detached shared place gate place.custody rest found entrant kept turn

theorem advanceDetach_moves {cause : DetachCause} {phase : DestructorPhase}
    {rest : List EntryCall}
    (top : thread.stack = .detaching shared cause phase :: rest) :
    Moves thread (thread.advanceDetach shared place cause phase rest).2 := by
  have turned : ∀ gate, EntryGate.Kept place.shared.gate gate →
      Moves thread
        ((thread.setPlace shared (place.withGate gate)).withStack
          (.detaching shared cause .retiring :: rest)) := by
    intro gate kept
    have turn : DetachTurn shared thread.stack
        (.detaching shared cause .retiring :: rest) := by
      rw [top]
      exact .turned cause phase .retiring rest
    exact .detached shared place gate place.custody _ found entrant kept turn
  have same : thread.setPlace shared (place.withGate place.shared.gate) =
      thread := setPlace_same found
  have completed := (EntryGate.complete_kept place.shared.gate).trans
    (EntryGate.finishDrain_kept _)
  have marked := EntryGate.markDestroyed_kept place.shared.gate
  unfold advanceDetach
  split
  · split
    · rename_i error gate refused
      rw [refused] at completed
      exact detach_ended found entrant completed top
    · rename_i outcome gate finishes
      rw [finishes] at completed
      exact turned gate completed
  · have unchanged := turned place.shared.gate (EntryGate.Kept.refl _)
    rw [same] at unchanged
    exact unchanged
  · have turn : DetachTurn shared thread.stack rest := by
      rw [top]
      exact .ended _ _ rest
    have unchanged := Moves.detached shared place place.shared.gate
      place.custody rest found entrant (EntryGate.Kept.refl _) turn
    rw [show { place.withGate place.shared.gate with
      custody := place.custody } = place from rfl, setPlace_same found]
      at unchanged
    exact unchanged
  · split
    · rename_i error gate refused
      rw [refused] at marked
      exact detach_ended found entrant marked top
    · rename_i gate marks
      rw [marks] at marked
      exact detach_ended found entrant marked top

end Attachments

theorem newRuntime_moves (thread : EntryThread)
    (context : Option (Option Nat)) :
    Moves thread (thread.newRuntime context).2 := by
  cases context with
  | none => exact .kept
  | some made =>
      cases made with
      | none =>
          have released :
              (EntryThread.globalContextRelease
                { thread with
                  contexts := thread.contexts ++ [⟨none, none, 0⟩] }
                thread.contexts.length) =
              { thread with
                contexts := thread.contexts ++ [⟨none, none, 1⟩] } := by
            simp [globalContextRelease, List.modify_eq_take_drop]
          unfold newRuntime
          dsimp only
          rw [released]
          exact .contextMade ⟨none, none, 1⟩ rfl (Nat.le_refl 1)
      | some group => exact .runtimeMade group

theorem onPlace_moves (sound : thread.Sound)
    (found : thread.places[shared]? = some place)
    (here : place.custody = .here) {op : Op} {reply : Reply}
    {next : EntryThread}
    (performed : thread.onPlace shared place op = some (reply, next)) :
    Moves thread next := by
  unfold onPlace at performed
  split at performed
  · split at performed
    · rename_i supplied known
      obtain rfl : _ = next := congrArg Prod.snd (Option.some.inj performed)
      exact enter_moves sound found here known
    · cases performed
  · rename_i entrant
    obtain rfl : _ = next := congrArg Prod.snd (Option.some.inj performed)
    exact invalidate_moves sound found here entrant
  · rename_i entrant
    obtain rfl : _ = next := congrArg Prod.snd (Option.some.inj performed)
    exact dropRuntime_moves sound found here entrant
  · rename_i entrant
    obtain rfl : _ = next := congrArg Prod.snd (Option.some.inj performed)
    exact dropAttachment_moves found entrant
  · rename_i entrant
    split at performed
    · obtain rfl : _ = next := congrArg Prod.snd (Option.some.inj performed)
      exact detachWithContext_moves found entrant _
    · cases performed
  · rename_i entrant
    obtain rfl : _ = next := congrArg Prod.snd (Option.some.inj performed)
    exact detachWithoutContext_moves found entrant
  · cases performed

theorem user_moves (sound : thread.Sound) {op : Op} {reply : Reply}
    {next : EntryThread}
    (performed : thread.user op = some (reply, next)) :
    Moves thread next := by
  unfold user at performed
  split at performed
  · cases performed
    exact .contextMade _ rfl (Nat.zero_le 1)
  · obtain rfl : _ = next := congrArg Prod.snd (Option.some.inj performed)
    exact newRuntime_moves thread _
  · cases performed
    exact .attachmentMade _
  · split at performed
    · cases performed
    · split at performed
      · cases performed
      · rename_i place found
        split at performed
        · rename_i here
          exact onPlace_moves sound found here performed
        · cases performed

theorem goOn_moves (sound : thread.Sound) {reply : Reply}
    {next : EntryThread} (performed : thread.goOn = some (reply, next)) :
    Moves thread next := by
  unfold goOn at performed
  split at performed
  · rename_i rest top
    exact drainDeferredOwnedDrops_moves sound top performed
  · rename_i shared context cause phase rest top
    split at performed
    · cases performed
    · rename_i place found
      obtain rfl : _ = next := congrArg Prod.snd (Option.some.inj performed)
      exact advanceDestroy_moves sound top found
  · rename_i shared cause phase rest top
    split at performed
    · cases performed
    · rename_i place found
      obtain rfl : _ = next := congrArg Prod.snd (Option.some.inj performed)
      have relies := sound.relies _ (by rw [top]; exact List.mem_cons_self)
      cases relies with
      | detaching _ _ _ named foundNamed entrant =>
          rw [found] at foundNamed
          cases foundNamed
          exact advanceDetach_moves found entrant top
  · cases performed

theorem perform_moves (sound : thread.Sound) {op : Op} {reply : Reply}
    {next : EntryThread} (performed : thread.perform op = some (reply, next)) :
    Moves thread next := by
  unfold perform at performed
  split at performed
  · split at performed
    · rename_i shared context previous rest top
      split at performed
      · cases performed
      · rename_i place found
        obtain rfl : _ = next := congrArg Prod.snd (Option.some.inj performed)
        exact leave_moves sound found top
    · cases performed
  · exact goOn_moves sound performed
  · split at performed
    · exact user_moves sound performed
    · cases performed

end EntryThread

end RustJsi.BackendJsc
