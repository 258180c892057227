import RustJsi.BackendJsc.AttachedSound

/-!
# What a teardown leaves behind

A teardown empties the stack and the registries of roots and host functions
before anything else is called, and nothing fills them again.  Only a teardown
that may not enter the engine gives up what was protected.
-/

namespace RustJsi.BackendJsc

open Counted Generational Interleaving
open RustJsi.Host (EntryGate EntryGuard FinalEntryOutcome HostState)

variable {Raw Payload : Type*}

/-- A gate is not destroyed while a teardown is under way. -/
theorem Teardown.Guards.live {teardown : Teardown Payload}
    {gate : EntryGate} (guards : teardown.Guards gate) :
    gate.state ≠ .destroyed := by
  unfold Guards TeardownKind.guards at guards
  intro destroyed
  rw [destroyed] at guards
  split at guards
  · split at guards <;> cases guards
  · split at guards <;> cases guards
  · cases guards
  · cases guards
  · cases guards

/-- A teardown, or a detach, that was successful. -/
def Reply.isTornDown : Reply Raw Payload → Bool
  | .invalidated | .detached _ => true
  | _ => false

theorem not_tornDown_of_plain {reply : Reply Raw Payload}
    (plain : reply.isPlain = true) : ¬ reply.isTornDown = true := by
  cases reply with
  | invalidated => cases plain
  | detached report => cases plain
  | _ => nofun

namespace Attached

/-- No call is under way and nothing is registered that the engine keeps. -/
structure Empty (attached : Attached Raw Payload) : Prop where
  stack : attached.stack = []
  roots : attached.shared.roots.store.held = []
  functions : attached.shared.hostFunctions = []

/-- What a teardown of each kind has given up. -/
def Leaves (attached : Attached Raw Payload) (teardown : Teardown Payload) :
    Prop :=
  match teardown.kind with
  | .owned | .withContext => attached.abandoned = []
  | .withoutContext =>
      attached.abandoned.length = teardown.roots + teardown.functions
  | .dropped _ => attached.owner = .gone

structure Ended (attached : Attached Raw Payload) : Prop where
  empty : attached.teardown ≠ none ∨
    attached.shared.gate.state = .destroyed → attached.Empty
  usable : attached.teardown = none →
    attached.shared.gate.state ≠ .destroyed → attached.owner ≠ .gone →
      attached.abandoned = []
  leaves : ∀ teardown, attached.teardown = some teardown →
    attached.Leaves teardown

variable {attached next : Attached Raw Payload}

/-- A move outside of teardowns. -/
theorem Ended.kept (ended : attached.Ended)
    (teardown : next.teardown = attached.teardown)
    (destroyed : next.shared.gate.state = .destroyed ↔
      attached.shared.gate.state = .destroyed)
    (owner : next.owner = attached.owner)
    (abandoned : next.abandoned = attached.abandoned)
    (empties : attached.Empty → next.Empty) : next.Ended where
  empty := by
    rw [teardown, destroyed]
    exact fun past => empties (ended.empty past)
  usable := by
    rw [teardown, owner, abandoned, ne_eq, destroyed]
    exact ended.usable
  leaves := by
    rw [teardown]
    intro torn under
    have leaves := ended.leaves torn under
    unfold Leaves at leaves ⊢
    rw [owner, abandoned]
    exact leaves

/-- The same, where a call is under way. -/
theorem Ended.busy (ended : attached.Ended) (waits : attached.stack ≠ [])
    (teardown : next.teardown = attached.teardown)
    (gate : next.shared.gate = attached.shared.gate)
    (owner : next.owner = attached.owner)
    (abandoned : next.abandoned = attached.abandoned) : next.Ended :=
  ended.kept teardown (by rw [gate]) owner abandoned
    fun empty => absurd empty.stack waits

theorem Ended.retired (ended : attached.Ended) (waits : attached.stack ≠ [])
    {id : NativeId} {value : Option (AnyRc Payload)}
    (retires : attached.Retires id value next)
    (stack : List (Activation Raw Payload)) : (next.withStack stack).Ended := by
  refine ended.busy waits ?_ ?_ ?_ ?_
  · exact retires.teardown
  · rw [retires.fields]
    rfl
  · rw [retires.fields]
    rfl
  · rw [retires.fields]
    rfl

/-- A teardown goes on. -/
theorem Ended.phased (ended : attached.Ended)
    {teardown torn : Teardown Payload}
    (under : attached.teardown = some teardown)
    (phased : next.teardown = some torn) (kind : torn.kind = teardown.kind)
    (roots : torn.roots = teardown.roots)
    (functions : torn.functions = teardown.functions)
    (owner : next.owner = attached.owner)
    (abandoned : next.abandoned = attached.abandoned)
    (empties : attached.Empty → next.Empty) : next.Ended where
  empty := by
    intro _
    apply empties
    apply ended.empty
    rw [under]
    exact Or.inl nofun
  usable := by
    rw [phased]
    nofun
  leaves := by
    intro other same
    rw [phased] at same
    cases same
    have leaves := ended.leaves teardown under
    unfold Leaves at leaves ⊢
    rw [kind, roots, functions, owner, abandoned]
    exact leaves

section Moves

variable [DecidableEq Raw] {op : Op Raw Payload} {reply : Reply Raw Payload}

omit [DecidableEq Raw] in
theorem waits_of_cons {frame : Activation Raw Payload}
    {rest : List (Activation Raw Payload)}
    (top : attached.stack = frame :: rest) : attached.stack ≠ [] := by
  rw [top]
  nofun

omit [DecidableEq Raw] in
/-- A drained registry holds nothing. -/
theorem drain_held (registry : RootRegistry Raw) :
    (registry.drain).1.store.held = [] := by
  have moved := registry.drain_step.balance.length_eq
  rw [List.length_append, List.length_append, List.length_nil] at moved
  exact List.length_eq_zero_iff.mp (by omega)

omit [DecidableEq Raw] in
theorem tryEnter_ok {gate after : EntryGate} {guard : EntryGuard}
    (admitted : gate.tryEnter = (.ok guard, after)) :
    gate.state = .active ∧ after.state = .active := by
  unfold EntryGate.tryEnter at admitted
  split at admitted
  · cases admitted
  · rename_i active
    split at admitted
    · cases admitted
    · cases admitted
      exact ⟨not_not.mp active, not_not.mp active⟩

omit [DecidableEq Raw] in
theorem requestDrain_destroyed (gate : EntryGate) :
    gate.requestDrain.state = .destroyed ↔ gate.state = .destroyed := by
  cases (requestDrain_fields gate).2.2.2 with
  | inl same => rw [same]
  | inr drained =>
      rw [drained.1, drained.2]
      exact ⟨nofun, nofun⟩

omit [DecidableEq Raw] in
theorem live_of_draining {gate : EntryGate}
    (draining : gate.requestDrain.state = .draining) :
    gate.state ≠ .destroyed := by
  intro destroyed
  have ended := (requestDrain_destroyed gate).mpr destroyed
  exact nomatch draining.symm.trans ended

omit [DecidableEq Raw] in
/-- What can still be used has abandoned nothing. -/
theorem Ended.unspent (ended : attached.Ended)
    (available : attached.available = true)
    (live : attached.shared.gate.state ≠ .destroyed) :
    attached.abandoned = [] := by
  apply ended.usable (available_teardown available) live
  exact of_decide_eq_true (Bool.and_eq_true_iff.mp available).2

omit [DecidableEq Raw] in
/-- A teardown that begins has emptied the attachment. -/
theorem Ended.begun {teardown : Teardown Payload}
    (stack : next.stack = [])
    (roots : next.shared.roots = (attached.shared.roots.drain).1)
    (functions : next.shared.hostFunctions = [])
    (begins : next.teardown = some teardown)
    (leaves : next.Leaves teardown) : next.Ended where
  empty := by
    intro _
    refine ⟨stack, ?_, functions⟩
    rw [roots]
    exact drain_held _
  usable := by
    rw [begins]
    nofun
  leaves := by
    intro other under
    rw [begins] at under
    cases under
    exact leaves

/-- Every move keeps what a teardown left behind. -/
theorem Moves.ended (moves : attached.Moves op reply next)
    (sound : attached.Sound) (ended : attached.Ended) : next.Ended := by
  cases moves with
  | rested plain => exact ended
  | wasDestroyed begins destroyed replies => exact ended
  | @entered guard gate available admitted =>
      obtain ⟨before, after⟩ := tryEnter_ok admitted
      have idle := available_teardown available
      refine ⟨?_, ?_, ?_⟩
      · intro past
        cases past with
        | inl torn => exact absurd idle torn
        | inr destroyed => exact nomatch after.symm.trans destroyed
      · intro _ _
        apply ended.usable idle
        rw [before]
        nofun
      · intro teardown under
        exact nomatch idle.symm.trans under
  | left top =>
      refine ended.kept rfl Iff.rfl rfl rfl ?_
      intro empty
      exact absurd empty.stack (waits_of_cons top)
  | pushed waits formed protects boxes functions notEntry room =>
      exact ended.busy waits rfl rfl rfl rfl
  | popped plain top boxes notEntry =>
      exact ended.busy (waits_of_cons top) rfl rfl rfl rfl
  | replaced values top =>
      exact ended.busy (waits_of_cons top) rfl rfl rfl rfl
  | handed top =>
      exact ended.busy (waits_of_cons top) rfl rfl rfl rfl
  | resolved top =>
      exact ended.busy (waits_of_cons top) rfl rfl rfl rfl
  | persisted roots waits soundNext moved =>
      exact ended.busy waits rfl rfl rfl rfl
  | unrooted roots soundNext moved =>
      refine ended.kept rfl Iff.rfl rfl rfl ?_
      intro empty
      have held := moved.balance.length_eq
      rw [empty.roots] at held
      exact nomatch held
  | requested roots soundNext same =>
      refine ended.kept rfl Iff.rfl rfl rfl ?_
      intro empty
      refine ⟨empty.stack, ?_, empty.functions⟩
      exact (congrArg Store.held same).trans empty.roots
  | registered waits fresh => exact ended.busy waits rfl rfl rfl rfl
  | unregistered top =>
      exact ended.busy (waits_of_cons top) rfl rfl rfl rfl
  | accepted installs waits soundNext moved live limit =>
      exact ended.busy waits rfl rfl rfl rfl
  | refused top retires =>
      exact ended.retired (waits_of_cons top) retires _
  | rolledBack top retires =>
      exact ended.retired (waits_of_cons top) retires _
  | leased reads waits named ofType => exact ended.busy waits rfl rfl rfl rfl
  | operated top => exact ended.busy (waits_of_cons top) rfl rfl rfl rfl
  | signalled token =>
      refine ended.kept rfl Iff.rfl rfl rfl ?_
      intro empty
      exact ⟨empty.stack, empty.roots, empty.functions⟩
  | taken waits => exact ended.busy waits rfl rfl rfl rfl
  | reclaimed top retires =>
      exact ended.retired (waits_of_cons top) retires _
  | drainRefused failure =>
      refine ended.kept rfl (requestDrain_destroyed _) rfl rfl ?_
      intro empty
      exact ⟨empty.stack, empty.roots, empty.functions⟩
  | @released guard gate kind ends engine available empty begins =>
      have draining := (tryBeginCleanup_ok begins).1
      have live := live_of_draining draining
      refine Ended.begun empty rfl rfl rfl ?_
      unfold Leaves
      cases engine with
      | inl owned =>
          subst owned
          exact ended.unspent available live
      | inr withContext =>
          subst withContext
          exact ended.unspent available live
  | @abandoned gate finalEntry detaches available empty ends =>
      have valid := sound.requested_valid available
      have live := live_of_draining (finishDrain_ok ends valid).1
      refine Ended.begun empty rfl rfl rfl ?_
      have unspent := ended.unspent available live
      show (attached.abandoned ++ _).length = _
      rw [unspent, List.nil_append, List.length_append]
  | dropped drops available empty live ends =>
      exact Ended.begun empty rfl rfl rfl rfl
  | disowned destroyed =>
      refine ⟨?_, ?_, ?_⟩
      · intro past
        have empty := ended.empty past
        exact ⟨empty.stack, empty.roots, empty.functions⟩
      · intro _ live
        exact absurd destroyed live
      · intro teardown under
        have guards := (sound.tearing teardown under).2
        exact absurd destroyed guards.live
  | queueClosed under phase =>
      refine ended.phased under rfl rfl rfl rfl rfl rfl ?_
      intro empty
      exact ⟨empty.stack, empty.roots, empty.functions⟩
  | @settled teardown token tokens report value next under phase retires =>
      refine ended.phased under rfl rfl rfl rfl ?_ ?_ ?_
      · rw [retires.fields]
        rfl
      · rw [retires.fields]
        rfl
      · rw [retires.fields]
        intro empty
        exact ⟨empty.stack, empty.roots, empty.functions⟩
  | completed under engine phase ends =>
      refine ended.phased under rfl rfl rfl rfl rfl rfl ?_
      intro empty
      exact ⟨empty.stack, empty.roots, empty.functions⟩
  | retired under bare phase =>
      refine ended.phased under rfl rfl rfl rfl rfl rfl ?_
      intro empty
      exact ⟨empty.stack, empty.roots, empty.functions⟩
  | destroyed under phase =>
      refine ended.phased under rfl rfl rfl rfl rfl rfl ?_
      intro empty
      exact ⟨empty.stack, empty.roots, empty.functions⟩
  | finished advances under phase kind replies =>
      refine ⟨?_, ?_, nofun⟩
      · intro _
        have empty := ended.empty (Or.inl (by rw [under]; nofun))
        exact ⟨empty.stack, empty.roots, empty.functions⟩
      · intro _ live
        exact absurd rfl live
  | forsaken under phase kind =>
      refine ⟨?_, ?_, nofun⟩
      · intro _
        have empty := ended.empty (Or.inl (by rw [under]; nofun))
        exact ⟨empty.stack, empty.roots, empty.functions⟩
      · intro _ _ owned
        have leaves := ended.leaves _ under
        rw [Leaves, kind] at leaves
        exact absurd leaves owned

/-- An attachment that is destroyed stays so, and a teardown that succeeds
has destroyed it. -/
theorem Moves.staysDestroyed (moves : attached.Moves op reply next)
    (sound : attached.Sound)
    (past : attached.shared.gate.state = .destroyed ∨
      reply.isTornDown = true) :
    next.shared.gate.state = .destroyed := by
  cases moves with
  | wasDestroyed begins destroyed replies => exact destroyed
  | finished advances under phase kind replies => rfl
  | rested plain =>
      exact past.resolve_right (not_tornDown_of_plain plain)
  | popped plain top boxes notEntry =>
      exact past.resolve_right (not_tornDown_of_plain plain)
  | entered available admitted =>
      have destroyed := past.resolve_right nofun
      exact nomatch (tryEnter_ok admitted).1.symm.trans destroyed
  | drainRefused failure =>
      exact (requestDrain_destroyed _).mpr (past.resolve_right nofun)
  | released ends engine available empty begins =>
      have live := live_of_draining (tryBeginCleanup_ok begins).1
      exact absurd (past.resolve_right nofun) live
  | abandoned detaches available empty ends =>
      have valid := sound.requested_valid available
      have live := live_of_draining (finishDrain_ok ends valid).1
      exact absurd (past.resolve_right nofun) live
  | dropped drops available empty live ends =>
      exact absurd (past.resolve_right nofun) live
  | completed under engine phase ends =>
      have guards := (sound.tearing _ under).2
      exact absurd (past.resolve_right nofun) guards.live
  | refused top retires =>
      rw [retires.fields]
      exact past.resolve_right nofun
  | rolledBack top retires =>
      rw [retires.fields]
      exact past.resolve_right nofun
  | reclaimed top retires =>
      rw [retires.fields]
      exact past.resolve_right nofun
  | settled under phase retires =>
      rw [retires.fields]
      exact past.resolve_right nofun
  | _ => exact past.resolve_right nofun

end Moves

section Runs

variable [DecidableEq Raw] {engine : Engine Raw} {limits : JscRuntimeLimits}
  {trace : List (Exchange (Invocation Raw Payload) (Reply Raw Payload))}

omit [DecidableEq Raw] in
theorem Fresh.ended (fresh : Fresh limits attached) : attached.Ended := by
  have idle : attached.teardown = none ∧ attached.abandoned = [] ∧
      attached.shared.gate.state = .active := by
    cases fresh with
    | runtime id address owner context => exact ⟨rfl, rfl, rfl⟩
    | attachment id address owner finalEntryPolicy => exact ⟨rfl, rfl, rfl⟩
  obtain ⟨teardown, abandoned, active⟩ := idle
  refine ⟨?_, fun _ _ _ => abandoned, ?_⟩
  · intro past
    cases past with
    | inl torn => exact absurd teardown torn
    | inr destroyed => exact nomatch active.symm.trans destroyed
  · intro torn under
    exact nomatch teardown.symm.trans under

theorem run_ended
    (run : (attachmentSystem engine limits).Run trace attached) :
    attached.Ended := by
  refine System.Run.invariant (fun _ attached => attached.Ended) ?_ ?_ run
  · intro attached fresh
    exact fresh.ended
  · intro trace attached exchange next run ended step
    exact (run_moves run step).ended (run_sound run) ended

/-- Nothing revives an attachment whose teardown succeeded. -/
theorem run_destroyed
    (run : (attachmentSystem engine limits).Run trace attached)
    (past : ∃ exchange ∈ trace, exchange.reply.isTornDown = true) :
    attached.shared.gate.state = .destroyed := by
  refine System.Run.invariant (fun trace attached =>
    (∃ exchange ∈ trace, exchange.reply.isTornDown = true) →
      attached.shared.gate.state = .destroyed) ?_ ?_ run past
  · intro attached _ past
    obtain ⟨_, member, _⟩ := past
    cases member
  · intro trace attached exchange next run destroyed step past
    obtain ⟨other, member, tornDown⟩ := past
    apply (run_moves run step).staysDestroyed (run_sound run)
    cases List.mem_append.mp member with
    | inl earlier => exact Or.inl (destroyed ⟨other, earlier, tornDown⟩)
    | inr last =>
        rw [List.mem_singleton.mp last] at tornDown
        exact Or.inr tornDown

end Runs

end Attached

end RustJsi.BackendJsc
