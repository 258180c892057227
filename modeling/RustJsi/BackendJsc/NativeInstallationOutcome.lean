import RustJsi.BackendJsc.NativeInstallation

/-!
# An installation ends in one of three ways

A state is returned before it is owned, or destroyed with the failure that is
reported, or kept under the identity of its handle.
-/

namespace RustJsi.BackendJsc

open Counted Generational Interleaving Nested

variable {Raw Payload : Type*}

namespace Attached

variable [DecidableEq Raw]

section Installation

variable (engine : Engine Raw) (limits : JscRuntimeLimits)

/-- A finalizer loop has come to a token of the identity. -/
def Reclaimed (begun : Attached Raw Payload) (id : NativeId)
    (during : List (Exchange (Invocation Raw Payload)
      (Reply Raw Payload))) : Prop :=
  ∃ first rest inside tokens report frames, during = first ++ rest ∧
    (attachmentSystem engine limits).Path begun first inside ∧
    inside.stack = .reclaiming (id :: tokens) report :: frames

/-- How far the installation at a height has come. -/
inductive Underway (begun : Attached Raw Payload) (id : NativeId)
    (value : AnyRc Payload) (height : Nat)
    (during : List (Exchange (Invocation Raw Payload) (Reply Raw Payload)))
    (state : Attached Raw Payload) : Prop
  | installing (frame : Activation Raw Payload)
      (member : (frame, height) ∈ state.installing)
      (installs : id ∈ frame.installs)
      (named : state.stateOf id = some value ∨
        Reclaimed engine limits begun id during)
  | rolledBack (object : Raw) (error : JsError)
      (member : (.rolledBack object error, height) ∈ state.installing)
      (gone : state.stateOf id = none)

end Installation

variable {engine : Engine Raw} {limits : JscRuntimeLimits}
  {trace during : List (Exchange (Invocation Raw Payload)
    (Reply Raw Payload))}
  {begun state next : Attached Raw Payload} {id : NativeId}
  {value : AnyRc Payload} {height : Nat}
  {exchange : Exchange (Invocation Raw Payload) (Reply Raw Payload)}

theorem Reclaimed.later
    (reclaimed : Reclaimed engine limits begun id during) :
    Reclaimed engine limits begun id (during ++ [exchange]) := by
  obtain ⟨first, rest, inside, tokens, report, frames, same, path, top⟩ :=
    reclaimed
  refine ⟨first, rest ++ [exchange], inside, tokens, report, frames, ?_, path,
    top⟩
  rw [same, List.append_assoc]

omit [DecidableEq Raw] in
/-- An installation is a call, so no teardown is under way. -/
theorem Sound.installing_idle (sound : state.Sound)
    {installation : Activation Raw Payload × Nat}
    (member : installation ∈ state.installing) : state.teardown = none := by
  cases under : state.teardown with
  | none => rfl
  | some teardown =>
      rw [installing, (sound.tearing teardown under).1] at member
      cases member

/-- While its installation waits, only a finalizer loop takes a state out of
the registry. -/
theorem named_while_installing (handsBack : engine.HandsBack)
    (run : (attachmentSystem engine limits).Run trace begun)
    (identifies : Identifies engine limits begun id value)
    (path : (attachmentSystem engine limits).Path begun during state)
    (step : (attachmentSystem engine limits).step state exchange next)
    {frame : Activation Raw Payload}
    (member : (frame, height) ∈ state.installing)
    (still : (frame, height) ∈ next.installing)
    (installs : id ∈ frame.installs)
    (named : state.stateOf id = some value ∨
      Reclaimed engine limits begun id during) :
    next.stateOf id = some value ∨
      Reclaimed engine limits begun id (during ++ [exchange]) := by
  have reached := run.append path
  cases named with
  | inr reclaimed => exact Or.inr reclaimed.later
  | inl named =>
      cases found : next.stateOf id with
      | some other =>
          rw [identifies.reads _ _ (path.snoc step) other found]
          exact Or.inl rfl
      | none =>
          obtain ⟨_, _, _, once⟩ := run_installsOnce handsBack reached
          have idle := (run_sound reached).installing_idle member
          refine Or.inr ?_
          cases (run_moves reached step).retiring named found with
          | token tokens report rest top =>
              exact ⟨during, [exchange], state, tokens, report, rest, rfl,
                path, top⟩
          | refused rest top ends =>
              have atTop : (Activation.creating id, rest.length) ∈
                  state.installing := by
                rw [installing, top]
                exact List.mem_cons_self
              obtain ⟨_, rfl⟩ := Prod.mk.inj (once.unique member atTop
                installs (List.mem_singleton.mpr rfl))
              rw [installing, ends] at still
              exact absurd (installation_height still) (Nat.lt_irrefl _)
          | rolledBack object error rest top goes =>
              have atTop : (Activation.publishing object id, rest.length) ∈
                  state.installing := by
                rw [installing, top]
                exact List.mem_cons_self
              obtain ⟨rfl, rfl⟩ := Prod.mk.inj (once.unique member atTop
                installs (List.mem_singleton.mpr rfl))
              have after : (Activation.rolledBack object error,
                  rest.length) ∈ installations next.stack := by
                rw [goes]
                exact List.mem_cons_self
              cases installation_unique still after
          | settled teardown tokens report under phase =>
              cases idle.symm.trans under
          | drained teardown report under phase =>
              cases idle.symm.trans under

omit [DecidableEq Raw] in
theorem Sound.removeNativeState_gone (sound : state.Sound)
    (stack : List (Activation Raw Payload)) :
    ((state.removeNativeState id).withStack stack).stateOf id = none := by
  obtain ⟨_, retires⟩ := sound.removeNativeState_retires id
  exact retires.gone

/-- A step inside the call leaves the installation under way. -/
theorem Underway.step
    (underway : Underway engine limits begun id value height during state)
    (handsBack : engine.HandsBack)
    (run : (attachmentSystem engine limits).Run trace begun)
    (identifies : Identifies engine limits begun id value)
    (path : (attachmentSystem engine limits).Path begun during state)
    (step : (attachmentSystem engine limits).step state exchange next)
    (high : height < next.stack.length) :
    Underway engine limits begun id value height (during ++ [exchange])
      next := by
  have reached := run.append path
  have sound := run_sound reached
  have installs := sound.installs handsBack step
  cases underway with
  | installing frame member own named =>
      have keeps : (frame, height) ∈ next.installing →
          Underway engine limits begun id value height (during ++ [exchange])
            next := fun still =>
        .installing frame still own (named_while_installing handsBack run identifies
          path step member still own named)
      cases installs.persists member with
      | inl still => exact keeps still
      | inr atTop =>
          obtain ⟨rest, stack, rfl⟩ := atTop
          generalize exchange.reply = reply at installs
          cases installs with
          | kept same =>
              rw [← same] at member
              exact keeps member
          | accepted accepts =>
              apply keeps
              rw [Attached.installing, accepts.same]
              exact List.mem_cons_of_mem _ member
          | refused top =>
              cases stack.symm.trans top
              exact absurd high (Nat.lt_irrefl _)
          | made top =>
              cases stack.symm.trans top
              cases List.mem_singleton.mp own
              refine .installing _ List.mem_cons_self
                (List.mem_singleton.mpr rfl) ?_
              cases named with
              | inl named => exact Or.inl named
              | inr reclaimed => exact Or.inr reclaimed.later
          | rolledBack top =>
              cases stack.symm.trans top
              cases List.mem_singleton.mp own
              exact .rolledBack _ _ List.mem_cons_self
                (sound.removeNativeState_gone _)
          | published top =>
              cases stack.symm.trans top
              exact absurd high (Nat.lt_irrefl _)
          | ended top =>
              cases stack.symm.trans top
              cases own
  | rolledBack object error member gone =>
      have still := (identifies.forever _ _ path gone _ _
        (System.Path.cons step (.refl next))).1
      cases installs.persists member with
      | inl persists => exact .rolledBack object error persists still
      | inr atTop =>
          obtain ⟨rest, stack, rfl⟩ := atTop
          generalize exchange.reply = reply at installs
          cases installs with
          | kept same =>
              rw [← same] at member
              exact .rolledBack object error member still
          | accepted accepts =>
              refine .rolledBack object error ?_ still
              rw [Attached.installing, accepts.same]
              exact List.mem_cons_of_mem _ member
          | refused top => cases stack.symm.trans top
          | made top => cases stack.symm.trans top
          | rolledBack top => cases stack.symm.trans top
          | published top => cases stack.symm.trans top
          | ended top =>
              cases stack.symm.trans top
              exact absurd high (Nat.lt_irrefl _)

/-- The call that accepted a state, with the steps inside it and its last
one. -/
structure Installation (engine : Engine Raw) (limits : JscRuntimeLimits)
    (before begun : Attached Raw Payload)
    (during : List (Exchange (Invocation Raw Payload) (Reply Raw Payload)))
    (last : Exchange (Invocation Raw Payload) (Reply Raw Payload))
    (after : Attached Raw Payload) : Prop where
  inside : ∃ middle, Deeper (attachmentSystem engine limits) Attached.stack
    before.stack.length begun during middle ∧
    (attachmentSystem engine limits).step middle last after
  level : after.stack.length = before.stack.length

/-- What an installation leaves, whatever was done inside it. -/
structure InstallsState (engine : Engine Raw) (limits : JscRuntimeLimits)
    (before begun : Attached Raw Payload) (id : NativeId)
    (value : AnyRc Payload)
    (during : List (Exchange (Invocation Raw Payload) (Reply Raw Payload)))
    (reply : Reply Raw Payload) (after : Attached Raw Payload) : Prop where
  stack : after.stack = before.stack
  replies : (∃ error, reply = .failed (.js error)) ∨
    reply = .installedState id
  /-- A failure leaves nothing under the identity, and has destroyed the
  state. -/
  failed : ∀ failure, reply = .failed failure →
    after.stateOf id = none ∧ after.heap.destroyed.count value.box = 1
  /-- A handle names its state, unless a finalizer loop has come to its
  token. -/
  installed : reply = .installedState id →
    ¬Reclaimed engine limits begun id during →
    after.stateOf id = some value ∧ value.box ∉ after.heap.destroyed
  /-- The count changes by the state alone, if the code inside leaves the
  other states as they were. -/
  live : (∀ other, other ≠ id → after.stateOf other = before.stateOf other) →
    after.shared.nativeStates.live = before.shared.nativeStates.live +
      (after.stateOf id).isSome.toNat

section Ends

variable {before after : Attached Raw Payload}
  {last : Exchange (Invocation Raw Payload) (Reply Raw Payload)}

theorem Deeper.underway (handsBack : engine.HandsBack)
    (run : (attachmentSystem engine limits).Run trace begun)
    (identifies : Identifies engine limits begun id value)
    (deeper : Deeper (attachmentSystem engine limits) Attached.stack height
      begun during state)
    (creates : (Activation.creating id, height) ∈ begun.installing)
    (named : begun.stateOf id = some value) :
    Underway engine limits begun id value height during state := by
  induction deeper with
  | refl =>
      exact .installing _ creates (List.mem_singleton.mpr rfl)
        (Or.inl named)
  | snoc earlier step high inductionHypothesis =>
      exact inductionHypothesis.step handsBack run identifies earlier.path step high

/-- The last step of the call has ended the installation. -/
theorem Underway.ends
    (underway : Underway engine limits begun id value height during state)
    (handsBack : engine.HandsBack) (sound : state.Sound)
    (step : (attachmentSystem engine limits).step state last after)
    (level : after.stack.length = height) :
    ∃ frame, state.stack = frame :: after.stack ∧
      ((∃ error, last.reply = .failed (.js error) ∧
        after.stateOf id = none) ∨
      (last.reply = .installedState id ∧
        after.stateOf id = state.stateOf id ∧
        (state.stateOf id = some value ∨
          Reclaimed engine limits begun id during))) := by
  have installs := sound.installs handsBack step
  have left (frame : Activation Raw Payload)
      (still : (frame, height) ∈ after.installing) : False := by
    have below := installation_height still
    rw [level] at below
    exact Nat.lt_irrefl _ below
  cases underway with
  | installing frame member own named =>
      cases installs.persists member with
      | inl still => exact (left _ still).elim
      | inr atTop =>
          obtain ⟨rest, stack, rfl⟩ := atTop
          generalize last.reply = reply at installs
          cases installs with
          | kept same =>
              rw [← same] at member
              exact (left _ member).elim
          | accepted accepts =>
              refine (left frame ?_).elim
              rw [Attached.installing, accepts.same]
              exact List.mem_cons_of_mem _ member
          | refused top =>
              cases stack.symm.trans top
              cases List.mem_singleton.mp own
              exact ⟨_, top, Or.inl ⟨_, rfl,
                sound.removeNativeState_gone _⟩⟩
          | made top =>
              cases stack.symm.trans top
              exact absurd level (Nat.succ_ne_self _)
          | rolledBack top =>
              cases stack.symm.trans top
              exact absurd level (Nat.succ_ne_self _)
          | published top =>
              cases stack.symm.trans top
              cases List.mem_singleton.mp own
              exact ⟨_, top, Or.inr ⟨rfl, rfl, named⟩⟩
          | ended top =>
              cases stack.symm.trans top
              cases own
  | rolledBack object error member gone =>
      cases installs.persists member with
      | inl still => exact (left _ still).elim
      | inr atTop =>
          obtain ⟨rest, stack, rfl⟩ := atTop
          generalize last.reply = reply at installs
          cases installs with
          | kept same =>
              rw [← same] at member
              exact (left _ member).elim
          | accepted accepts =>
              refine (left (.rolledBack object error) ?_).elim
              rw [Attached.installing, accepts.same]
              exact List.mem_cons_of_mem _ member
          | refused top => cases stack.symm.trans top
          | made top => cases stack.symm.trans top
          | rolledBack top => cases stack.symm.trans top
          | published top => cases stack.symm.trans top
          | ended top =>
              cases stack.symm.trans top
              exact ⟨_, top, Or.inl ⟨_, rfl, gone⟩⟩

omit [DecidableEq Raw] in
/-- What no identity names, and no operation that was under way before the
acceptance has, is destroyed. -/
theorem abandoned_destroyed {accepted : List (NativeState Payload)}
    {issued returned : List (NativeId × AnyRc Payload)}
    (owned : after.Owned accepted)
    (ledgered : after.Ledgered issued returned)
    (member : (id, value) ∈ issued) (gone : after.stateOf id = none)
    (idle : after.teardown = none)
    (earlier : ∀ lease ∈ after.leased, lease.box ≠ value.box) :
    after.heap.destroyed.count value.box = 1 := by
  have boxes := ledgered.boxes
  have made : value.box < after.heap.strong.length := by
    rw [← List.mem_range, ← boxes]
    exact List.mem_map_of_mem (f := fun entry => entry.2.box) member
  have apart : (issued.map fun entry => entry.2.box).Nodup := by
    rw [boxes]
    exact List.nodup_range
  refine List.count_eq_one_of_mem owned.accounts.once ?_
  refine (owned.destroyed_iff value.box).mpr ⟨?_, ?_⟩
  · rw [← owned.made]
    exact made
  · intro owner among same
    cases List.mem_append.mp among with
    | inl registered =>
        obtain ⟨⟨other, held⟩, listed, rfl⟩ := List.mem_map.mp registered
        have named := Store.get_eq_some_iff_held.mpr listed
        have entry := List.inj_on_of_nodup_map apart
          (ledgered.ledger.get_issued named) member same
        obtain ⟨rfl, rfl⟩ := Prod.mk.inj entry
        cases named.symm.trans gone
    | inr elsewhere =>
        cases List.mem_append.mp elsewhere with
        | inl leased => exact earlier owner leased same
        | inr retiring =>
            unfold Attached.retiring at retiring
            rw [idle] at retiring
            cases retiring

omit [DecidableEq Raw] in
/-- The identities that name something decide the count. -/
theorem live_of_others (sound : before.Sound) (later : after.Sound)
    (fresh : before.stateOf id = none)
    (others : ∀ other, other ≠ id →
      after.stateOf other = before.stateOf other) :
    after.shared.nativeStates.live = before.shared.nativeStates.live +
      (after.stateOf id).isSome.toNat := by
  rw [later.nativeStates.live, sound.nativeStates.live]
  cases named : after.stateOf id with
  | none =>
      refine (Store.held_perm_of_get ?_).length_eq
      intro other
      by_cases here : other = id
      · rw [here]
        exact named.trans fresh.symm
      · exact others other here
  | some value =>
      exact (Store.held_perm_cons_of_get named fresh others).length_eq

/-- A state that is offered is returned with nothing changed, or accepted; then
it is destroyed when the installation fails, and kept when it succeeds. -/
theorem run_installsState (handsBack : engine.HandsBack)
    (run : (attachmentSystem engine limits).Run trace before)
    {thread : Nat} {offered : NativeState Payload}
    {reply : Reply Raw Payload}
    (performed : before.perform engine
      ⟨thread, .tryInstallNativeState offered⟩ = some (reply, begun)) :
    (∃ error, reply = .rejected offered error ∧ begun = before ∧
      before.Refuses thread error) ∨
    (reply = .begun ∧ ∃ id, begun.stack = .creating id :: before.stack ∧
      ∀ during last after,
        Installation engine limits before begun during last after →
        InstallsState engine limits before begun id
          ⟨before.heap.strong.length, offered⟩ during last.reply after) := by
  have sound := run_sound run
  obtain ⟨waits, outcome⟩ := sound.tryInstallNativeState_cases performed
  rcases outcome with refused | ⟨id, rfl, accepts, _⟩
  · exact Or.inl refused
  have step : (attachmentSystem engine limits).step before
      ⟨⟨thread, .tryInstallNativeState offered⟩, .begun⟩ begun := performed
  have begunRun := run.snoc step
  obtain ⟨issued, returned, ledgered⟩ := run_ledgered run
  have ledgered := accepts.ledgered ledgered
  have member : (id, (⟨before.heap.strong.length, offered⟩ :
      AnyRc Payload)) ∈ issued ++ [(id, ⟨before.heap.alloc.1, offered⟩)] :=
    List.mem_append_right _ (List.mem_singleton.mpr rfl)
  have identifies := ledgered.identifies begunRun member
  have named : begun.stateOf id =
      some ⟨before.heap.strong.length, offered⟩ :=
    accepts.moved.get_issuing.mpr (Or.inl ⟨rfl, rfl⟩)
  have top : begun.stack = .creating id :: before.stack := by
    rw [accepts.same]
  refine Or.inr ⟨rfl, id, top, ?_⟩
  intro during last after installation
  obtain ⟨⟨middle, deeper, ends⟩, level⟩ := installation
  have creates : (Activation.creating id, before.stack.length) ∈
      begun.installing := by
    rw [installing, top]
    exact List.mem_cons_self
  have underway := Deeper.underway handsBack begunRun identifies deeper creates named
  have middleRun := begunRun.append deeper.path
  have afterRun := middleRun.snoc ends
  have afterSound := run_sound afterRun
  obtain ⟨frame, stack, outcome⟩ :=
    underway.ends handsBack (run_sound middleRun) ends level
  have same : after.stack = before.stack := by
    have high : before.stack.length < begun.stack.length := by
      rw [top]
      exact Nat.lt_succ_self _
    cases (Deeper.cons step high deeper).floor run run_turns with
    | inl none => cases none.1
    | inr above =>
        obtain ⟨first, rest, above⟩ := above
        obtain ⟨_, below⟩ := List.cons.inj (stack.symm.trans above)
        have lengths : after.stack.length =
            rest.length + before.stack.length := by
          rw [below]
          exact List.length_append
        rw [level] at lengths
        have nothing : rest = [] :=
          List.eq_nil_of_length_eq_zero (by omega)
        rw [nothing] at below
        exact below
  refine ⟨same, ?_, ?_, ?_, ?_⟩
  · rcases outcome with ⟨error, failed, _⟩ | ⟨installed, _⟩
    · exact Or.inl ⟨error, failed⟩
    · exact Or.inr installed
  · intro failure failed
    rcases outcome with ⟨error, _, gone⟩ | ⟨installed, _⟩
    · refine ⟨gone, ?_⟩
      obtain ⟨issuing, returning, later⟩ := ledgered.path begunRun
        (deeper.path.snoc ends)
      have idle : after.teardown = none := by
        cases under : after.teardown with
        | none => rfl
        | some teardown =>
            have empty := (afterSound.tearing teardown under).1
            exact absurd (same.symm.trans empty) waits
      refine abandoned_destroyed (run_owned afterRun) later
        (List.mem_append_left _ member) gone idle ?_
      intro lease leased earlier
      have among : lease ∈ before.owners := by
        refine List.mem_append_right _ (List.mem_append_left _ ?_)
        unfold Attached.leased at leased ⊢
        rw [← same]
        exact leased
      have bound := (run_owned run).accounts.bound
        (List.mem_map_of_mem among)
      rw [earlier] at bound
      exact Nat.lt_irrefl _ bound
    · cases installed.symm.trans failed
  · intro installed unclaimed
    rcases outcome with ⟨error, failed, _⟩ | ⟨_, kept, named⟩
    · cases failed.symm.trans installed
    · cases named with
      | inr reclaimed => exact absurd reclaimed unclaimed
      | inl named =>
          have found := kept.trans named
          refine ⟨found, ?_⟩
          have held := Store.get_eq_some_iff_held.mp found
          exact ((run_owned afterRun).alive (List.mem_append_left _
            (List.mem_map_of_mem held))).2
  · intro others
    exact live_of_others sound afterSound accepts.moved.get_of_issuing others

end Ends

theorem collected_installsState :
    ∃ trace before reply begun,
      (attachment smallScalars).performAll
        (.new (.new firstAttachment 0 0 .bestEffort threeRoots) .host)
        (collected.map (Invocation.mk 0)) = some (trace, before) ∧
      before.perform smallScalars ⟨0, .tryInstallNativeState ⟨0, 6⟩⟩ =
        some (reply, begun) ∧
      ((∃ error, reply = .rejected ⟨0, 6⟩ error ∧ begun = before ∧
        before.Refuses 0 error) ∨
      (reply = .begun ∧ ∃ id, begun.stack = .creating id :: before.stack ∧
        ∀ during last after,
          Installation smallScalars threeRoots before begun during last
            after →
          InstallsState smallScalars threeRoots before begun id
            ⟨before.heap.strong.length, ⟨0, 6⟩⟩ during last.reply after)) := by
  obtain ⟨trace, before, performed, run⟩ :=
    (attachment smallScalars).exists_run_of_performAll
      (Fresh threeRoots) (collected.map (Invocation.mk 0))
      (.attachment firstAttachment 0 0 .bestEffort) (by decide)
  have begins : (((attachment smallScalars).performAll
      (.new (.new firstAttachment 0 0 .bestEffort threeRoots) .host)
      (collected.map (Invocation.mk 0))).bind fun done =>
        done.2.perform smallScalars
          ⟨0, .tryInstallNativeState ⟨0, 6⟩⟩).isSome = true := by
    decide
  rw [performed] at begins
  obtain ⟨⟨reply, begun⟩, result⟩ := Option.isSome_iff_exists.mp begins
  exact ⟨trace, before, reply, begun, performed, result,
    run_installsState (fun _ => rfl) run result⟩

end Attached

end RustJsi.BackendJsc
