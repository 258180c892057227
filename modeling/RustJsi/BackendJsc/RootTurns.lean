import RustJsi.BackendJsc.PersistentHandles

/-!
# What operations do to the roots

Every operation hands out roots, lets some wait, and takes back what waits or
is released by its name; a teardown takes all of them.
-/

namespace RustJsi.BackendJsc

open Counted Generational Interleaving
open RustJsi.Host (EntryGate)

variable {Raw Payload : Type*}

/-- The root that an operation issues, with its value. -/
def Op.issuedRoot (op : Op Raw Payload) (reply : Reply Raw Payload) :
    List (RootId × Raw) :=
  match op, reply with
  | .persist value, .persisted id => [(id, value.value)]
  | .persistValue value, .persisted id => [(id, value.raw)]
  | _, _ => []

/-- The slots of the registry after an operation, and the ones that wait. -/
structure RootTurn (registry : RootRegistry Raw)
    (issuing returning : List (RootId × Raw)) (next : RootRegistry Raw) :
    Prop where
  moved : registry.store.Step issuing returning next.store
  calm : ∀ id, next.Waits id → registry.Waits id
  stays : ∀ id, registry.Waits id →
    next.Waits id ∨ id ∈ returning.map Prod.fst

theorem RootTurn.same (registry : RootRegistry Raw) :
    RootTurn registry [] [] registry where
  moved := .rested
  calm := fun _ => id
  stays := fun _ => Or.inl

theorem RootTurn.of_insert {registry next : RootRegistry Raw} {value : Raw}
    {id : RootId} (inserted : registry.insert value = .ok (next, .ok id))
    (sound : registry.Sound) : RootTurn registry [(id, value)] [] next := by
  cases sound.insert value with
  | inl moves =>
      obtain ⟨other, found, same, _, moved, _⟩ := moves
      cases inserted.symm.trans same
      exact ⟨moved, fun _ => RootRegistry.insert_waits inserted,
        fun _ waits => Or.inl (waits.insert inserted)⟩
  | inr full => cases inserted.symm.trans full.2.2

/-- A root is released by its name. -/
theorem RootTurn.of_remove {registry next : RootRegistry Raw} {value : Raw}
    {id : RootId} (removed : registry.remove id = (next, some value))
    (sound : registry.Sound) : RootTurn registry [] [(id, value)] next := by
  cases resolves : registry.get id with
  | none =>
      cases removed.symm.trans (RootRegistry.remove_of_get_none resolves)
  | some found =>
      obtain ⟨other, same, _, moved, _⟩ := sound.remove resolves
      cases removed.symm.trans same
      exact ⟨moved, fun _ => RootRegistry.remove_waits removed,
        fun _ waits => Or.inl (waits.remove removed)⟩

/-- The maintenance of an entry takes what waits. -/
theorem RootTurn.of_takePending {registry next : RootRegistry Raw}
    {found : Option Raw} (taken : registry.takePending = .ok (next, found))
    (sound : registry.Sound) :
    ∃ returning, RootTurn registry [] returning next ∧
      ∀ id ∈ returning.map Prod.fst, registry.Waits id := by
  cases sound.takePending with
  | inl empty =>
      cases taken.symm.trans empty.2
      exact ⟨[], .same registry, fun _ member => by cases member⟩
  | inr removal =>
      obtain ⟨index, slot, value, after, head, present, _, same, _, moved, _⟩ :=
        removal
      cases taken.symm.trans same
      refine ⟨_, ⟨moved, fun _ => RootRegistry.takePending_waits taken, ?_⟩, ?_⟩
      · intro id waits
        cases waits.takePending sound head present taken with
        | inl first => exact Or.inr (List.mem_singleton.mpr first)
        | inr later => exact Or.inl later
      · intro id member
        rw [List.mem_singleton.mp member]
        exact sound.waits_head head present

namespace Attached

variable [DecidableEq Raw] {attached next : Attached Raw Payload}
  {op : Op Raw Payload} {reply : Reply Raw Payload} {engine : Engine Raw}

/-- A root that an operation takes back is one that waits, or the one that
is released by its name. -/
inductive TurnsRoots (attached : Attached Raw Payload) (op : Op Raw Payload)
    (reply : Reply Raw Payload) (next : Attached Raw Payload) : Prop
  | turned {returning : List (RootId × Raw)}
      (turn : RootTurn attached.shared.roots (op.issuedRoot reply) returning
        next.shared.roots)
      (taken : ∀ id ∈ returning.map Prod.fst,
        attached.shared.roots.Waits id ∨
          ∃ root, op = .release root ∧ root.id = id ∧
            root.attachment = attached.shared.id)
  /-- A teardown takes all of them. -/
  | drained (silent : op.issuedRoot reply = [])
      (roots : next.shared.roots = (attached.shared.roots.drain).1)
      (torn : next.Torn)

omit [DecidableEq Raw] in
theorem TurnsRoots.same (silent : op.issuedRoot reply = [])
    (roots : next.shared.roots = attached.shared.roots) :
    attached.TurnsRoots op reply next := by
  have still : RootTurn attached.shared.roots (op.issuedRoot reply) []
      next.shared.roots := by
    rw [silent, roots]
    exact .same _
  refine .turned still ?_
  intro id member
  cases member

/-- A move that is no operation on the roots leaves them, or drains them. -/
theorem Moves.turnsRoots (moves : attached.Moves op reply next)
    (quiet : op.usesRoots = false) (silent : op.issuedRoot reply = []) :
    attached.TurnsRoots op reply next := by
  have begun {teardown : Teardown Payload} : some teardown ≠ none :=
    Option.some_ne_none _
  cases moves with
  | persisted roots =>
      exact absurd (quiet.symm.trans roots) Bool.false_ne_true
  | unrooted roots =>
      exact absurd (quiet.symm.trans roots) Bool.false_ne_true
  | requested roots =>
      exact absurd (quiet.symm.trans roots) Bool.false_ne_true
  | refused top retires =>
      refine .same silent ?_
      rw [retires.fields]
      rfl
  | rolledBack top retires =>
      refine .same silent ?_
      rw [retires.fields]
      rfl
  | reclaimed top retires =>
      refine .same silent ?_
      rw [retires.fields]
      rfl
  | settled under phase retires =>
      refine .same silent ?_
      rw [retires.fields]
      rfl
  | released ends engine available empty begins =>
      exact .drained silent rfl (Or.inl begun)
  | abandoned detaches available empty ends =>
      exact .drained silent rfl (Or.inl begun)
  | dropped drops available empty live ends =>
      exact .drained silent rfl (Or.inl begun)
  | _ => exact .same silent rfl

omit [DecidableEq Raw] in
theorem persist_turnsRoots (sound : attached.Sound) {thread : Nat}
    {value : Local Raw}
    (performed : attached.persist thread value = (reply, next)) :
    attached.TurnsRoots (.persist value) reply next := by
  unfold persist at performed
  split at performed
  · cases performed
    exact .same rfl rfl
  · split at performed
    · cases performed
      exact .same rfl rfl
    · split at performed
      · cases performed
        exact .same rfl rfl
      · cases performed
        exact .same rfl rfl
      · rename_i inserted
        cases performed
        refine .turned (.of_insert inserted sound.roots) ?_
        intro id member
        cases member

omit [DecidableEq Raw] in
theorem persistValue_turnsRoots (sound : attached.Sound)
    {value : JscValue Raw}
    (performed : attached.persistValue value = (reply, next)) :
    attached.TurnsRoots (.persistValue value) reply next := by
  unfold persistValue at performed
  split at performed
  · cases performed
    exact .same rfl rfl
  · split at performed
    · cases performed
      exact .same rfl rfl
    · cases performed
      exact .same rfl rfl
    · rename_i inserted
      cases performed
      refine .turned (.of_insert inserted sound.roots) ?_
      intro id member
      cases member

omit [DecidableEq Raw] in
theorem release_turnsRoots (sound : attached.Sound) {root : JscRoot}
    (performed : attached.release root = (reply, next)) :
    attached.TurnsRoots (.release root) reply next := by
  unfold release at performed
  split at performed
  · cases performed
    exact .same rfl rfl
  · rename_i owned
    split at performed
    · cases performed
      exact .same rfl rfl
    · rename_i removed
      cases performed
      refine .turned (.of_remove removed sound.roots) ?_
      intro id member
      refine Or.inr ⟨root, rfl, (List.mem_singleton.mp member).symm, ?_⟩
      by_contra foreign
      rw [ensureRoot, if_neg foreign] at owned
      cases owned

omit [DecidableEq Raw] in
theorem drainRootReleases_turnsRoots (sound : attached.Sound)
    (performed : attached.drainRootReleases = (reply, next)) :
    attached.TurnsRoots .drainRootReleases reply next := by
  have silent : (.drainRootReleases : Op Raw Payload).issuedRoot reply = [] :=
    rfl
  unfold drainRootReleases at performed
  split at performed
  · cases performed
    exact .same silent rfl
  · rename_i registry value taken
    obtain ⟨returning, turn, waits⟩ :=
      RootTurn.of_takePending taken sound.roots
    cases value with
    | none =>
        cases performed
        exact .turned turn fun id member => Or.inl (waits id member)
    | some value =>
        cases performed
        exact .turned turn fun id member => Or.inl (waits id member)

/-- What any operation does to the roots.  A lease of another attachment does
nothing here. -/
theorem Sound.turnsRoots (sound : attached.Sound)
    {invocation : Invocation Raw Payload}
    (foreign : ∀ lease, invocation.op = .dropLease lease →
      lease.attachment ≠ attached.shared.id)
    (performed : attached.perform engine invocation = some (reply, next)) :
    attached.TurnsRoots invocation.op reply next := by
  have moves := sound.moves performed
  obtain ⟨thread, op⟩ := invocation
  cases op with
  | persist value =>
      exact persist_turnsRoots sound (perform_persist performed)
  | persistValue value =>
      obtain ⟨roots, rest, stack⟩ :=
        perform_scope (Or.inl ⟨value, rfl⟩) performed
      simp only [perform, stack] at performed
      exact persistValue_turnsRoots sound (Option.some.inj performed)
  | release root =>
      obtain ⟨roots, rest, stack⟩ :=
        perform_scope (Or.inr (Or.inl ⟨root, rfl⟩)) performed
      simp only [perform, stack] at performed
      exact release_turnsRoots sound (Option.some.inj performed)
  | drainRootReleases =>
      exact drainRootReleases_turnsRoots sound
        (perform_drainRootReleases performed)
  | dropLease lease =>
      have apart := foreign lease rfl
      have same : attached.shared.dropLease thread lease.runtime
          lease.attachment lease.id = attached.shared := by
        unfold Shared.dropLease
        split
        · exact if_pos (Or.inl (Ne.symm apart))
        · rfl
      refine .same rfl ?_
      cases stack : attached.stack with
      | nil =>
          simp only [perform, stack, same] at performed
          cases performed
          rfl
      | cons frame rest =>
          simp only [perform, stack, same] at performed
          cases performed
          rfl
  | _ => exact moves.turnsRoots rfl rfl

/-! ## An attachment that goes on -/

omit [DecidableEq Raw] in
theorem active_of_requestDrain {gate : EntryGate}
    (active : gate.requestDrain.state = .active) : gate.state = .active := by
  cases (requestDrain_fields gate).2.2.2 with
  | inl same => exact same.symm.trans active
  | inr drained => exact drained.1

/-- A gate that is active was active before. -/
theorem Moves.active (moves : attached.Moves op reply next)
    (sound : attached.Sound) (active : next.shared.gate.state = .active) :
    attached.shared.gate.state = .active := by
  cases moves with
  | entered available admitted => exact (tryEnter_ok admitted).1
  | refused top retires =>
      rw [retires.fields] at active
      exact active
  | rolledBack top retires =>
      rw [retires.fields] at active
      exact active
  | reclaimed top retires =>
      rw [retires.fields] at active
      exact active
  | settled under phase retires =>
      rw [retires.fields] at active
      exact active
  | drainRefused failure => exact active_of_requestDrain active
  | @released guard gate kind ends engine available empty begins =>
      have draining := tryBeginCleanup_ok begins
      have same : gate.state = .active := active
      rw [draining.2.2] at same
      exact active_of_requestDrain same
  | @abandoned gate finalEntry detaches available empty ends =>
      have invalid := finishDrain_ok ends (sound.requested_valid available)
      have same : gate.state = .active := active
      rw [invalid.2.2.2] at same
      cases same
  | @dropped gate finished finalEntry drops available empty live ends =>
      have same : gate.state = .active := active
      rcases ends with ⟨_, outcome, _, ends⟩ | ⟨_, requested⟩
      · have invalid := finishDrain_ok ends (sound.requested_valid available)
        rw [invalid.2.2.2] at same
        cases same
      · rw [requested] at same
        exact active_of_requestDrain same
  | completed under engine phase ends => cases active
  | finished advances under phase kind replies => cases active
  | _ => exact active

/-- A teardown that has begun is never undone. -/
theorem Moves.staysTorn (moves : attached.Moves op reply next)
    (sound : attached.Sound) (ended : attached.Ended)
    (emptied : attached.Emptied)
    (installs : ((∃ name function, op = .installHostFunction name function) ∨
      ∃ global exception, op = .publishHostFunction global exception) →
      attached.stack ≠ [])
    (torn : attached.Torn) : next.Torn := by
  cases moves.registers sound ended with
  | kept functions frames same empties idle => exact same.mpr torn
  | called calls => exact absurd (emptied.stack torn) (installs calls)
  | taken live idle empty functions nextEmpty teardown =>
      exact absurd torn live

section Runs

variable {limits : JscRuntimeLimits}
  {trace : List (Exchange (Invocation Raw Payload) (Reply Raw Payload))}

theorem run_staysTorn
    (run : (attachmentSystem engine limits).Run trace attached)
    {exchange : Exchange (Invocation Raw Payload) (Reply Raw Payload)}
    (step : (attachmentSystem engine limits).step attached exchange next)
    (torn : attached.Torn) : next.Torn := by
  obtain ⟨⟨thread, op⟩, reply⟩ := exchange
  refine (run_moves run step).staysTorn (run_sound run) (run_ended run)
    (run_emptied run) ?_ torn
  intro calls
  rcases calls with ⟨name, function, rfl⟩ | ⟨global, exception, rfl⟩
  · exact (perform_installHostFunction step).1
  · obtain ⟨function, rest, top, _⟩ := publishHostFunction_cases step
    exact waits_of_cons top

end Runs

omit [DecidableEq Raw] in
theorem Retires.address {id : NativeId} {value : Option (AnyRc Payload)}
    (retires : attached.Retires id value next) :
    next.shared.address = attached.shared.address := by
  rw [retires.fields]

/-- The record stays where it is. -/
theorem Moves.sameAddress (moves : attached.Moves op reply next) :
    next.shared.address = attached.shared.address := by
  cases moves with
  | refused top retires => exact retires.address
  | rolledBack top retires => exact retires.address
  | reclaimed top retires => exact retires.address
  | settled under phase retires => exact retires.address
  | _ => rfl

omit [DecidableEq Raw] in
theorem orFault_eq {Result : Type*}
    {result : Except Fault Result}
    {go : Result → Reply Raw Payload × Attached Raw Payload}
    (unfaulted : ∀ fault, reply ≠ .faulted fault)
    (performed : attached.orFault result go = (reply, next)) :
    ∃ outcome, go outcome = (reply, next) := by
  unfold orFault at performed
  split at performed
  · cases performed
    exact absurd rfl (unfaulted _)
  · exact ⟨_, performed⟩

omit [DecidableEq Raw] in
/-- A value that is settled in a reserved slot is the one returned. -/
theorem settle_rootLocal {holder : Activation Raw Payload}
    {rest : List (Activation Raw Payload)} {reservation : Reservation}
    {value : Raw}
    (unfaulted : ∀ fault, reply ≠ .faulted fault)
    (performed : attached.settle holder rest reservation
      (.ok (rootLocal engine value)) = some (reply, next)) :
    reply = .scalar value ∨ reply = .rooted value := by
  have which : rootLocal engine value = .scalar value ∨
      rootLocal engine value = .managed value := by
    unfold rootLocal
    split
    · exact Or.inl rfl
    · exact Or.inl rfl
    · exact Or.inl rfl
    · exact Or.inl rfl
    · exact Or.inr rfl
  cases which with
  | inl bare =>
      rw [bare] at performed
      obtain ⟨budget, same⟩ :=
        orFault_eq unfaulted (Option.some.inj performed)
      cases same
      exact Or.inl rfl
  | inr managed =>
      rw [managed] at performed
      obtain ⟨held, _, settled⟩ := Option.map_eq_some_iff.mp performed
      obtain ⟨budget, same⟩ := orFault_eq unfaulted settled
      cases same
      exact Or.inr rfl

/-- What a lease that names a value resolves to. -/
theorem resolve_named {thread : Nat}
    {lease : RootLease} {value : Raw}
    (own : lease.runtime = some attached.shared.address ∧
      lease.attachment = attached.shared.id)
    (named : attached.shared.roots.get lease.id = some value)
    (unfaulted : ∀ fault, reply ≠ .faulted fault)
    (performed : attached.perform engine ⟨thread, .resolve lease⟩ =
      some (reply, next)) :
    reply = .scalar value ∨ reply = .rooted value ∨
      (reply = .failed (.js (.runtime .localRootLimitReached)) ∧
        next = attached ∧ attached.localRoom = false) := by
  have usable : attached.shared.ensureHandle lease.runtime lease.attachment =
      .ok () := by
    rw [own.1, own.2, Shared.ensureHandle]
    simp
  cases stack : attached.stack with
  | nil => simp only [perform, stack, reduceCtorEq] at performed
  | cons frame rest =>
      cases frame with
      | context localRoots scopeDepth =>
          simp only [perform, stack, resolve, usable, named,
            reserve_eq] at performed
          cases room : attached.localRoom with
          | false =>
              simp only [room, Bool.false_eq_true, if_false] at performed
              cases performed
              exact Or.inr (Or.inr ⟨rfl, rfl, rfl⟩)
          | true =>
              simp only [room, if_true] at performed
              cases settle_rootLocal unfaulted performed with
              | inl bare => exact Or.inl bare
              | inr managed => exact Or.inr (Or.inl managed)
      | _ => simp only [perform, stack, reduceCtorEq] at performed

end Attached

end RustJsi.BackendJsc
