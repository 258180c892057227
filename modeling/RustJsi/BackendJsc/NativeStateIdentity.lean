import RustJsi.BackendJsc.NativeStateOwners

/-!
# Identities of native states

The identity that a state was accepted under names this state and no other, in
every later run.  It names nothing as soon as the state is retired, and only
its own token, its own rollback or a teardown retires it.
-/

namespace RustJsi.BackendJsc

open Counted Generational Interleaving

variable {Raw Payload : Type*}

namespace Attached

/-- The state that the registry keeps under an identity. -/
def stateOf (attached : Attached Raw Payload) (id : NativeId) :
    Option (AnyRc Payload) :=
  attached.shared.nativeStates.store.get id

/-- A step that takes the state of this identity out of the registry. -/
inductive Retiring (attached : Attached Raw Payload) (id : NativeId)
    (next : Attached Raw Payload) : Prop
  /-- A finalizer has signalled the token of the state. -/
  | token (tokens : List NativeId) (report : FinalizerDrain)
      (rest : List (Activation Raw Payload))
      (top : attached.stack = .reclaiming (id :: tokens) report :: rest)
  /-- No object was made for the state. -/
  | refused (rest : List (Activation Raw Payload))
      (top : attached.stack = .creating id :: rest)
      (ends : next.stack = rest)
  /-- The object of the state was not published. -/
  | rolledBack (object : Raw) (error : JsError)
      (rest : List (Activation Raw Payload))
      (top : attached.stack = .publishing object id :: rest)
      (goes : next.stack = .rolledBack object error :: rest)
  /-- A teardown settles the token of the state. -/
  | settled (teardown : Teardown Payload) (tokens : List NativeId)
      (report : FinalizerDrain)
      (under : attached.teardown = some teardown)
      (phase : teardown.phase = .reclaiming (id :: tokens) report)
  /-- A teardown retires all states that are left. -/
  | drained (teardown : Teardown Payload) (report : FinalizerDrain)
      (under : attached.teardown = some teardown)
      (phase : teardown.phase = .reclaiming [] report)

section Steps

variable {attached next : Attached Raw Payload} {id other : NativeId}
  {value : Option (AnyRc Payload)} {found : AnyRc Payload}

/-- A retirement takes out nothing but its own state. -/
theorem Retires.store (retires : attached.Retires id value next) :
    ∃ returned, attached.shared.nativeStates.store.Step [] returned
      next.shared.nativeStates.store ∧
      next.heap.strong.length = attached.heap.strong.length := by
  cases retires with
  | nothing unnamed => exact ⟨_, .rested, rfl⟩
  | state named sound moved live limit =>
      exact ⟨_, moved, Heap.length_drop _ _⟩

theorem Retires.kept (retires : attached.Retires id value next)
    (named : attached.stateOf other = some found) (apart : other ≠ id) :
    next.stateOf other = some found := by
  cases retires with
  | nothing unnamed => exact named
  | state here sound moved live limit =>
      exact moved.get_returning.mpr ⟨apart, named⟩

theorem Retires.gone (retires : attached.Retires id value next) :
    next.stateOf id = none := by
  cases retires with
  | nothing unnamed => exact unnamed
  | state here sound moved live limit =>
      refine Option.eq_none_iff_forall_ne_some.mpr ?_
      intro found named
      exact (moved.get_returning.mp named).1 rfl

/-- A retirement that leaves an identity without its state is its own. -/
theorem Retires.own (retires : attached.Retires id value next)
    (named : attached.stateOf other = some found)
    (gone : next.stateOf other = none) : id = other := by
  by_contra apart
  cases (retires.kept named (Ne.symm apart)).symm.trans gone

end Steps

section Moves

variable [DecidableEq Raw] {attached next : Attached Raw Payload}
  {op : Op Raw Payload} {reply : Reply Raw Payload} {id : NativeId}
  {found : AnyRc Payload}

/-- Only an acceptance makes a box, for the state that is issued. -/
theorem Moves.store (moves : attached.Moves op reply next) :
    ∃ issued returned, attached.shared.nativeStates.store.Step issued returned
      next.shared.nativeStates.store ∧
      issued.map (fun entry => entry.2.box) =
        List.range' attached.heap.strong.length issued.length ∧
      next.heap.strong.length =
        attached.heap.strong.length + issued.length := by
  cases moves with
  | accepted installs waits soundNext moved live limit =>
      exact ⟨_, _, moved, rfl, List.length_append⟩
  | refused top retires =>
      obtain ⟨returned, moved, length⟩ := retires.store
      exact ⟨_, returned, moved, rfl, length⟩
  | rolledBack top retires =>
      obtain ⟨returned, moved, length⟩ := retires.store
      exact ⟨_, returned, moved, rfl, length⟩
  | reclaimed top retires =>
      obtain ⟨returned, moved, length⟩ := retires.store
      exact ⟨_, returned, moved, rfl, length⟩
  | settled under phase retires =>
      obtain ⟨returned, moved, length⟩ := retires.store
      exact ⟨_, returned, moved, rfl, length⟩
  | leased reads waits named ofType =>
      exact ⟨_, _, .rested, rfl, Heap.length_clone _ _⟩
  | operated top => exact ⟨_, _, .rested, rfl, Heap.length_drop _ _⟩
  | completed under engine phase ends =>
      exact ⟨_, _, NativeRegistry.drain_step _, rfl, rfl⟩
  | retired under bare phase =>
      exact ⟨_, _, NativeRegistry.drain_step _, rfl, rfl⟩
  | destroyed under phase =>
      exact ⟨_, _, .rested, rfl, Heap.length_drop _ _⟩
  | _ => exact ⟨_, _, .rested, rfl, rfl⟩

/-- An identity loses its state in one of five ways. -/
theorem Moves.retiring (moves : attached.Moves op reply next)
    (named : attached.stateOf id = some found)
    (gone : next.stateOf id = none) : attached.Retiring id next := by
  cases moves with
  | accepted installs waits soundNext moved live limit =>
      have kept := moved.get_issuing.mpr (Or.inr named)
      cases kept.symm.trans gone
  | refused top retires =>
      rw [retires.own named gone] at top
      exact .refused _ top rfl
  | rolledBack top retires =>
      rw [retires.own named gone] at top
      exact .rolledBack _ _ _ top rfl
  | reclaimed top retires =>
      rw [retires.own named gone] at top
      exact .token _ _ _ top
  | settled under phase retires =>
      rw [retires.own named gone] at phase
      exact .settled _ _ _ under phase
  | completed under engine phase ends => exact .drained _ _ under phase
  | retired under bare phase => exact .drained _ _ under phase
  | _ => cases named.symm.trans gone

end Moves

/-! ## Every run -/

/-- Every state that was accepted is in the registry or was taken out of it,
and its box has the number of its acceptance. -/
structure Ledgered (issued returned : List (NativeId × AnyRc Payload))
    (attached : Attached Raw Payload) : Prop where
  ledger : Store.Ledger issued returned attached.shared.nativeStates.store
  boxes : issued.map (fun entry => entry.2.box) =
    List.range attached.heap.strong.length

section Runs

variable [DecidableEq Raw] {engine : Engine Raw} {limits : JscRuntimeLimits}
  {trace during : List (Exchange (Invocation Raw Payload)
    (Reply Raw Payload))}
  {attached next before after : Attached Raw Payload} {id : NativeId}
  {value : AnyRc Payload} {op : Op Raw Payload} {reply : Reply Raw Payload}
  {issued returned : List (NativeId × AnyRc Payload)}

omit [DecidableEq Raw] in
theorem Accepts.ledgered {state : NativeState Payload}
    (accepts : attached.Accepts state id next)
    (ledgered : attached.Ledgered issued returned) :
    next.Ledgered (issued ++ [(id, ⟨attached.heap.alloc.1, state⟩)])
      (returned ++ []) where
  ledger := ledgered.ledger.step accepts.moved
  boxes := by
    rw [accepts.same, List.map_append, ledgered.boxes, Heap.alloc,
      List.length_append, List.length_singleton, List.range_succ]
    rfl

theorem Ledgered.performed
    (ledgered : attached.Ledgered issued returned)
    (moves : attached.Moves op reply next) :
    ∃ issuing returning,
      next.Ledgered (issued ++ issuing) (returned ++ returning) := by
  obtain ⟨issuing, returning, moved, boxes, length⟩ := moves.store
  refine ⟨issuing, returning, ledgered.ledger.step moved, ?_⟩
  have ranges : List.range' 0 attached.heap.strong.length ++
      List.range' (0 + attached.heap.strong.length) issuing.length = _ :=
    List.range'_append_1
  rw [Nat.zero_add] at ranges
  rw [List.map_append, ledgered.boxes, boxes, length, List.range_eq_range',
    List.range_eq_range', ranges]

/-- A run keeps the account that it begins with. -/
theorem Ledgered.path
    (run : (attachmentSystem engine limits).Run trace before)
    (path : (attachmentSystem engine limits).Path before during after)
    (ledgered : before.Ledgered issued returned) :
    ∃ issuing returning,
      after.Ledgered (issued ++ issuing) (returned ++ returning) := by
  induction path with
  | refl =>
      refine ⟨[], [], ?_⟩
      rw [List.append_nil, List.append_nil]
      exact ledgered
  | snoc earlier step inductionHypothesis =>
      obtain ⟨issuing, returning, ledgered⟩ := inductionHypothesis
      obtain ⟨issues, returns, ledgered⟩ :=
        ledgered.performed (run_moves (run.append earlier) step)
      rw [List.append_assoc, List.append_assoc] at ledgered
      exact ⟨_, _, ledgered⟩

theorem run_ledgered
    (run : (attachmentSystem engine limits).Run trace attached) :
    ∃ issued returned, attached.Ledgered issued returned := by
  refine System.Run.invariant
    (fun _ attached => ∃ issued returned, attached.Ledgered issued returned)
    ?_ ?_ run
  · intro attached fresh
    cases fresh with
    | runtime id address owner context =>
        exact ⟨[], [], Store.ledger_empty, rfl⟩
    | attachment id address owner finalEntryPolicy =>
        exact ⟨[], [], Store.ledger_empty, rfl⟩
  · intro trace attached exchange next run ledgered step
    obtain ⟨issued, returned, ledgered⟩ := ledgered
    obtain ⟨_, _, ledgered⟩ := ledgered.performed (run_moves run step)
    exact ⟨_, _, ledgered⟩

/-- What an identity names from the acceptance of its state on. -/
structure Identifies (engine : Engine Raw) (limits : JscRuntimeLimits)
    (accepted : Attached Raw Payload) (id : NativeId)
    (value : AnyRc Payload) : Prop where
  /-- No other state is read under the identity. -/
  reads : ∀ during later,
    (attachmentSystem engine limits).Path accepted during later →
    ∀ found, later.stateOf id = some found → found = value
  /-- An operation that begins has the state, with its type, alive. -/
  leases : ∀ during later,
    (attachmentSystem engine limits).Path accepted during later →
    ∀ (thread : Nat) (handle : NativeObject) (read : NativeState Payload)
      (next : Attached Raw Payload), handle.id = id →
    later.perform engine ⟨thread, .withNativeState handle⟩ =
      some (.leased read, next) →
    read = value.state ∧ handle.typeId = value.state.typeId ∧
      value.box ∉ next.heap.destroyed
  /-- Until it is retired an operation begins under the identity, for a handle
  of this runtime and of the type of the state. -/
  resolves : ∀ during later,
    (attachmentSystem engine limits).Path accepted during later →
    later.stateOf id ≠ none →
    ∀ (thread : Nat) (handle : NativeObject) (localRoots : LocalRoots Raw)
      (scopeDepth : Nat) (rest : List (Activation Raw Payload)),
    later.stack = .context localRoots scopeDepth :: rest →
    later.shared.ensureActive thread = .ok () →
    handle.runtime = some later.shared.address → handle.id = id →
    handle.typeId = value.state.typeId →
    ∃ next, later.perform engine ⟨thread, .withNativeState handle⟩ =
      some (.leased value.state, next)
  /-- Once retired, the identity names nothing in any later run. -/
  forever : ∀ during retired,
    (attachmentSystem engine limits).Path accepted during retired →
    retired.stateOf id = none → ∀ further later,
    (attachmentSystem engine limits).Path retired further later →
    later.stateOf id = none ∧
      ∀ (thread : Nat) (handle : NativeObject)
        (reply : Reply Raw Payload) (next : Attached Raw Payload),
      handle.id = id →
      later.perform engine ⟨thread, .withNativeState handle⟩ =
        some (reply, next) →
      ∃ failure, reply = .failed (.js failure) ∧ next = later
  /-- No other state gets the identity, even in the same slot. -/
  fresh : ∀ during later,
    (attachmentSystem engine limits).Path accepted during later →
    ∀ state other next, later.Accepts state other next → other ≠ id
  /-- A token, a rollback or an installation of another identity leaves the
  state where it is. -/
  retirement : ∀ during later,
    (attachmentSystem engine limits).Path accepted during later →
    ∀ exchange next,
    (attachmentSystem engine limits).step later exchange next →
    later.stateOf id ≠ none → next.stateOf id = none →
    later.Retiring id next

/-- An identity of the past names what it was issued for, or nothing. -/
theorem Ledgered.identifies
    (ledgered : attached.Ledgered issued returned)
    (run : (attachmentSystem engine limits).Run trace attached)
    (member : (id, value) ∈ issued) :
    Identifies engine limits attached id value := by
  have reads : ∀ during later,
      (attachmentSystem engine limits).Path attached during later →
      ∀ found, later.stateOf id = some found → found = value := by
    intro during later path found named
    obtain ⟨issuing, returning, ledgered⟩ := ledgered.path run path
    have ledger := ledgered.ledger
    exact ledger.issued_unique (ledger.get_issued named)
      (List.mem_append_left _ member)
  refine ⟨reads, ?_, ?_, ?_, ?_, ?_⟩
  · intro during later path thread handle read next same performed
    have reached := run.append path
    rcases (run_sound reached).withNativeState_cases performed with
      ⟨failure, failed, _⟩ | ⟨lease, replied, named, ofType, begun⟩
    · cases failed
    · cases replied
      rw [same] at named
      have here := reads during later path lease named
      subst here
      have step : (attachmentSystem engine limits).step later
          ⟨⟨thread, .withNativeState handle⟩, .leased lease.state⟩ next :=
        performed
      refine ⟨rfl, ofType.symm, ?_⟩
      apply ((run_ownsStates (reached.snoc step)).operating lease _).2
      rw [begun]
      exact List.mem_cons_self
  · intro during later path live thread handle localRoots scopeDepth rest top
      active own same ofType
    obtain ⟨found, named⟩ := Option.ne_none_iff_exists'.mp live
    have here := reads during later path found named
    subst here
    rw [← same] at named
    exact ⟨_, (run_sound (run.append path)).withNativeState_named top active
      own named ofType.symm⟩
  · intro during retired path unnamed further later beyond
    obtain ⟨issuing, returning, ledgered⟩ := ledgered.path run path
    have gone : ∃ value, (id, value) ∈ returned ++ returning := by
      have listed := ledgered.ledger.balanced.mem_iff.mp
        (List.mem_append_left issuing member)
      cases List.mem_append.mp listed with
      | inl taken => exact ⟨value, taken⟩
      | inr held =>
          have named := Store.get_eq_some_iff_held.mpr held
          cases named.symm.trans unnamed
    obtain ⟨taken, gone⟩ := gone
    obtain ⟨_, _, last⟩ := ledgered.path (run.append path) beyond
    have unnamed : later.stateOf id = none :=
      last.ledger.get_returned (List.mem_append_left _ gone)
    refine ⟨unnamed, ?_⟩
    intro thread handle reply next same performed
    have sound := run_sound ((run.append path).append beyond)
    rcases sound.withNativeState_cases performed with
      ⟨failure, failed, still, _⟩ | ⟨lease, _, named, _⟩
    · exact ⟨failure, failed, still⟩
    · rw [same] at named
      cases named.symm.trans unnamed
  · intro during later path state other next accepts same
    subst same
    obtain ⟨issuing, returning, ledgered⟩ := ledgered.path run path
    have twice := (ledgered.ledger.step accepts.moved).issuedOnce
    rw [List.map_append, List.nodup_append] at twice
    exact twice.2.2 _ (List.mem_map_of_mem (List.mem_append_left _ member)) _
      (List.mem_singleton.mpr rfl) rfl
  · intro during later path exchange next step named gone
    obtain ⟨found, named⟩ := Option.ne_none_iff_exists'.mp named
    exact (run_moves (run.append path) step).retiring named gone

/-- A state that is accepted gets an identity that names it alone, for good. -/
theorem run_identifies
    (run : (attachmentSystem engine limits).Run trace before)
    {thread : Nat} {state : NativeState Payload}
    (performed : before.perform engine
      ⟨thread, .tryInstallNativeState state⟩ = some (.begun, after)) :
    ∃ id, after.stack = .creating id :: before.stack ∧
      after.stateOf id = some ⟨before.heap.strong.length, state⟩ ∧
      Identifies engine limits after id
        ⟨before.heap.strong.length, state⟩ := by
  have step : (attachmentSystem engine limits).step before
      ⟨⟨thread, .tryInstallNativeState state⟩, .begun⟩ after := performed
  obtain ⟨_, outcome⟩ :=
    (run_sound run).tryInstallNativeState_cases performed
  rcases outcome with ⟨error, refused, _⟩ | ⟨id, _, accepts, _⟩
  · cases refused
  · obtain ⟨issued, returned, ledgered⟩ := run_ledgered run
    have named : after.stateOf id =
        some ⟨before.heap.strong.length, state⟩ :=
      accepts.moved.get_issuing.mpr (Or.inl ⟨rfl, rfl⟩)
    refine ⟨id, ?_, named, ?_⟩
    · rw [accepts.same]
    · exact (accepts.ledgered ledgered).identifies (run.snoc step)
        (List.mem_append_right _ (List.mem_singleton.mpr rfl))

end Runs

/-- A state is installed, and its finalizer signals. -/
def collected : List (Op Nat Nat) :=
  [.enter (some 0) ⟨none, none⟩, .lendContext, .tryInstallNativeState ⟨0, 5⟩,
    .makeNativeObject true (some 40), .publishNativeObject true true none,
    .signal ⟨0, 1⟩, .close, .drainNativeFinalizers, .reclaim, .reclaim,
    .lendContext]

theorem collected_identifies :
    ∃ trace before after,
      (attachment smallScalars).performAll
        (.new (.new firstAttachment 0 0 .bestEffort threeRoots) .host)
        (collected.map (Invocation.mk 0)) = some (trace, before) ∧
      before.perform smallScalars ⟨0, .tryInstallNativeState ⟨0, 6⟩⟩ =
        some (.begun, after) ∧
      ∃ id, after.stack = .creating id :: before.stack ∧
        after.stateOf id = some ⟨before.heap.strong.length, ⟨0, 6⟩⟩ ∧
        Identifies smallScalars threeRoots after id
          ⟨before.heap.strong.length, ⟨0, 6⟩⟩ := by
  obtain ⟨trace, before, performed, run⟩ :=
    (attachment smallScalars).exists_run_of_performAll
      (Fresh threeRoots) (collected.map (Invocation.mk 0))
      (.attachment firstAttachment 0 0 .bestEffort) (by decide)
  have begun : (((attachment smallScalars).performAll
      (.new (.new firstAttachment 0 0 .bestEffort threeRoots) .host)
      (collected.map (Invocation.mk 0))).bind fun done =>
        (done.2.perform smallScalars
          ⟨0, .tryInstallNativeState ⟨0, 6⟩⟩).map fun answer =>
            (acceptedBy ⟨⟨0, .tryInstallNativeState ⟨0, 6⟩⟩,
              answer.1⟩).length) = some 1 := by
    decide
  rw [performed] at begun
  obtain ⟨⟨reply, after⟩, installs, counted⟩ :=
    Option.map_eq_some_iff.mp begun
  obtain ⟨_, outcome⟩ := (run_sound run).tryInstallNativeState_cases installs
  rcases outcome with ⟨error, rfl, _⟩ | ⟨id, rfl, _⟩
  · cases counted
  · exact ⟨trace, before, after, performed, installs,
      run_identifies run installs⟩

end Attached

end RustJsi.BackendJsc
