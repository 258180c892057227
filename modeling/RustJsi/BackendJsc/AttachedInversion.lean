import RustJsi.BackendJsc.AttachedMoves

/-!
# Every operation is a move

Each operation is taken apart once.  What is left of it is the move it makes.
-/

namespace RustJsi.BackendJsc

open Counted Generational Interleaving
open RustJsi.Host (EntryGate FinalEntryOutcome)

variable {Raw Payload : Type*}

namespace Attached

/-- The result of an operation is a move. -/
def Makes [DecidableEq Raw] (attached : Attached Raw Payload)
    (op : Op Raw Payload) (result : Reply Raw Payload × Attached Raw Payload) : Prop :=
  attached.Moves op result.1 result.2

variable {attached next : Attached Raw Payload} {op : Op Raw Payload}

theorem orFault_ok {Result : Type*} {outcome : Except Fault Result}
    {result : Result}
    {continue' : Result → Reply Raw Payload × Attached Raw Payload}
    (ok : outcome = .ok result) :
    attached.orFault outcome continue' = continue' result := by
  rw [ok]
  rfl

theorem unprotectAll_eq_self {values : List Raw} (nothing : values = []) :
    attached.unprotectAll values = attached := by
  rw [nothing, unprotectAll, List.append_nil]

theorem slots_cons {frame : Activation Raw Payload}
    {rest : List (Activation Raw Payload)}
    (top : attached.stack = frame :: rest) :
    attached.slots = frame.slots + total Activation.slots rest := by
  rw [slots, top]
  rfl

theorem Sound.slots_le (sound : attached.Sound)
    {frame : Activation Raw Payload} {rest : List (Activation Raw Payload)}
    (top : attached.stack = frame :: rest) :
    frame.slots ≤ attached.shared.localBudget.used := by
  rw [sound.used, slots_cons top]
  exact Nat.le_add_right _ _

theorem Sound.formed_top (sound : attached.Sound)
    {frame : Activation Raw Payload} {rest : List (Activation Raw Payload)}
    (top : attached.stack = frame :: rest) : frame.Formed := by
  apply sound.formed
  rw [top]
  exact List.mem_cons_self

theorem waits_of_top {frame : Activation Raw Payload}
    {rest : List (Activation Raw Payload)}
    (top : attached.stack = frame :: rest) : attached.stack ≠ [] := by
  rw [top]
  exact List.cons_ne_nil _ _

/-- No frame but an entry is at the bottom. -/
theorem Sound.below (sound : attached.Sound)
    {frame : Activation Raw Payload} {rest : List (Activation Raw Payload)}
    (top : attached.stack = frame :: rest) (notEntry : frame.isEntry = false) :
    rest ≠ [] := by
  intro alone
  have bottom := sound.grounded frame (by rw [top, alone]; rfl)
  rw [notEntry] at bottom
  cases bottom

/-- While no entry is under way, nothing is. -/
theorem Sound.stack_nil (sound : attached.Sound)
    (none : attached.shared.gate.entries = 0) : attached.stack = [] := by
  have entered := sound.entered
  rw [none] at entered
  cases last : attached.stack.getLast? with
  | none => exact List.getLast?_eq_none_iff.mp last
  | some frame =>
      have positive : 0 < attached.entries :=
        List.countP_pos_iff.mpr
          ⟨frame, List.mem_of_getLast? last, sound.grounded frame last⟩
      rw [← entered] at positive
      exact absurd positive (Nat.lt_irrefl 0)

section Budget

variable {budget : LocalBudget} {reservation : Reservation} {count : Nat}

theorem Sound.reserved (sound : attached.Sound)
    (reserved : attached.shared.localBudget.reserveMany count =
      .ok (budget, reservation)) :
    attached.withBudget budget =
        attached.charge (attached.shared.localBudget.used + count) ∧
      reservation = ⟨count⟩ ∧
      attached.shared.localBudget.used + count ≤
        attached.shared.localBudget.limit := by
  obtain ⟨same, held, fits⟩ := LocalBudget.reserveMany_eq_ok reserved
  have fits := fits sound.bounded
  rw [same] at fits
  exact ⟨by rw [same]; rfl, held, fits⟩

theorem dropped_eq
    (covered : reservation.held ≤ attached.shared.localBudget.used)
    {continue' : LocalBudget → Reply Raw Payload × Attached Raw Payload} :
    attached.orFault (reservation.drop attached.shared.localBudget)
        continue' =
      continue' (attached.shared.localBudget.charged
        (attached.shared.localBudget.used - reservation.held)) :=
  orFault_ok (LocalBudget.drop_of_le covered)

/-- The loop of `Drop` gives back one slot for each root. -/
theorem dropRoots_eq {roots : List Raw} :
    ∀ {attached : Attached Raw Payload},
      roots.length ≤ attached.shared.localBudget.used →
      attached.dropRoots roots =
        .ok ((attached.unprotectAll roots).charge
          (attached.shared.localBudget.used - roots.length)) := by
  induction roots with
  | nil =>
      intro attached covered
      have same : attached.unprotectAll [] = attached := by
        unfold unprotectAll
        rw [List.append_nil]
      rw [same]
      rfl
  | cons value rest inductionHypothesis =>
      intro attached covered
      rw [List.length_cons] at covered
      have released : (attached.unprotect value).shared.localBudget.release =
          .ok (attached.shared.localBudget.charged
            (attached.shared.localBudget.used - 1)) :=
        LocalBudget.releaseMany_of_le (by
          change 1 ≤ attached.shared.localBudget.used
          omega)
      rw [dropRoots, released]
      refine (inductionHypothesis ?_).trans ?_
      · change rest.length ≤ attached.shared.localBudget.used - 1
        omega
      · have calls : attached.protections.unprotectCalls ++ [value] ++ rest =
            attached.protections.unprotectCalls ++ value :: rest :=
          List.append_cons .. |>.symm
        have used : attached.shared.localBudget.used - 1 - rest.length =
            attached.shared.localBudget.used - (value :: rest).length := by
          rw [List.length_cons]
          omega
        simp only [charge, withBudget, unprotectAll, unprotect,
          LocalBudget.charged, calls, used]

end Budget

/-! ## Local values -/

section Locals

variable {holder : Activation Raw Payload}
  {rest : List (Activation Raw Payload)} {reservation : Reservation}

/-- A slot is given back, unless a managed value is rooted. -/
theorem settle_eq
    (covered : reservation.held ≤ attached.shared.localBudget.used)
    {result : Except Failure (Settled Raw)}
    {reply : Reply Raw Payload}
    (settled : attached.settle holder rest reservation result =
      some (reply, next)) :
    (reply.isPlain = true ∧
      next = (attached.charge (attached.shared.localBudget.used -
        reservation.held)).withStack (holder :: rest)) ∨
    ∃ value held, reply = .rooted value ∧ holder.hold value = some held ∧
      next = (attached.protect value).withStack (held :: rest) := by
  unfold settle at settled
  split at settled
  · rw [dropped_eq covered] at settled
    cases settled
    exact Or.inl ⟨rfl, rfl⟩
  · rw [dropped_eq covered] at settled
    cases settled
    exact Or.inl ⟨rfl, rfl⟩
  · rename_i value
    obtain ⟨held, holds, settled⟩ := Option.map_eq_some_iff.mp settled
    cases settled
    exact Or.inr ⟨value, held, rfl, holds, rfl⟩

end Locals

variable [DecidableEq Raw]

theorem Sound.produce_makes (sound : attached.Sound)
    (waits : attached.stack ≠ []) (production : Production)
    (refuse : RuntimeError → Failure) (prepared : Except Failure Unit) :
    attached.Makes op (attached.produce production refuse prepared) := by
  unfold produce
  split
  · exact .rested rfl
  · rename_i budget reservation reserved
    split
    · rw [orFault_ok (LocalBudget.drop_reserved reserved)]
      exact .rested rfl
    · obtain ⟨charged, held, room⟩ := sound.reserved reserved
      rw [charged, held]
      have formed : (Activation.producing production ⟨1⟩ :
          Activation Raw Payload).Formed := rfl
      exact .pushed waits formed rfl rfl rfl rfl room

/-- A frame that has protected nothing gives back its slots alone. -/
theorem Moves.popped_bare {reply : Reply Raw Payload}
    {frame : Activation Raw Payload} {rest : List (Activation Raw Payload)}
    (plain : reply.isPlain = true) (top : attached.stack = frame :: rest)
    (boxes : frame.boxes = []) (notEntry : frame.isEntry = false)
    (protects : frame.protects = [])
    (publishes : frame.functions = [] ∨ ∃ global exception,
      op = .publishHostFunction global exception) :
    attached.Moves op reply
      ((attached.charge
        (attached.shared.localBudget.used - frame.slots)).withStack rest) := by
  have moves : attached.Moves op reply _ :=
    .popped plain top boxes notEntry publishes
  rw [unprotectAll_eq_self protects] at moves
  exact moves

/-- A slot that was reserved for a result is kept for its root. -/
theorem Moves.handed_bare {value : Raw}
    {frame holder held : Activation Raw Payload}
    {rest : List (Activation Raw Payload)}
    (top : attached.stack = frame :: holder :: rest)
    (holds : holder.hold value = some held) (boxes : frame.boxes = [])
    (functions : frame.functions = []) (notEntry : frame.isEntry = false)
    (protects : frame.protects = []) (slots : frame.slots = 1)
    (covered : frame.slots ≤ attached.shared.localBudget.used) :
    attached.Moves op (.rooted value)
      ((attached.protect value).withStack (held :: rest)) := by
  have moves : attached.Moves op (.rooted value) _ :=
    .handed top holds boxes functions notEntry (Nat.le_of_eq slots.symm)
  rw [slots] at covered
  rw [unprotectAll_eq_self protects, slots, Nat.sub_add_cancel covered]
    at moves
  exact moves

theorem Sound.produced_makes (sound : attached.Sound)
    {production : Production} {reservation : Reservation}
    {holder : Activation Raw Payload} {rest : List (Activation Raw Payload)}
    (top : attached.stack =
      .producing production reservation :: holder :: rest)
    {result : Except Failure (Settled Raw)} {reply : Reply Raw Payload}
    (settled : attached.settle holder rest reservation result =
      some (reply, next)) : attached.Moves op reply next := by
  have covered := sound.slots_le top
  cases settle_eq covered settled with
  | inl failed =>
      obtain ⟨plain, rfl⟩ := failed
      exact .popped_bare plain top rfl rfl rfl (Or.inl rfl)
  | inr rooted =>
      obtain ⟨value, after, rfl, holds, rfl⟩ := rooted
      exact .handed_bare top holds rfl rfl rfl rfl (sound.formed_top top)
        covered

/-- A registered root is given to a scope that has room for it. -/
theorem Sound.resolved_makes (sound : attached.Sound)
    {budget : LocalBudget} {reservation : Reservation}
    (reserved : attached.shared.localBudget.reserve =
      .ok (budget, reservation))
    {holder : Activation Raw Payload} {rest : List (Activation Raw Payload)}
    (top : attached.stack = holder :: rest)
    {result : Except Failure (Settled Raw)} {reply : Reply Raw Payload}
    (settled : (attached.withBudget budget).settle holder rest reservation
      result = some (reply, next)) : attached.Moves op reply next := by
  obtain ⟨charged, held, room⟩ := sound.reserved reserved
  rw [charged, held] at settled
  have covered : 1 ≤ (attached.charge
      (attached.shared.localBudget.used + 1)).shared.localBudget.used :=
    Nat.le_add_left 1 _
  cases settle_eq covered settled with
  | inl failed =>
      obtain ⟨plain, rfl⟩ := failed
      rw [← top]
      exact .rested plain
  | inr rooted =>
      obtain ⟨value, after, rfl, holds, rfl⟩ := rooted
      exact .resolved top holds room

theorem Sound.eval_makes (sound : attached.Sound)
    (waits : attached.stack ≠ []) (thread : Nat) (script url : Bool) :
    attached.Makes op (attached.eval thread script url) := by
  unfold eval
  split
  · exact .rested rfl
  · exact sound.produce_makes waits _ _ _

theorem Sound.callValue_makes (sound : attached.Sound) (engine : Engine Raw)
    (waits : attached.stack ≠ []) (function : JscValue Raw)
    (receiver : Option (JscValue Raw)) (arguments : List (JscValue Raw)) :
    attached.Makes op (callValue engine attached function receiver arguments) := by
  unfold callValue
  split
  · exact .rested rfl
  · split
    · exact .rested rfl
    · split
      · exact .rested rfl
      · exact sound.produce_makes waits _ _ _

theorem Sound.resolve_makes (sound : attached.Sound) {engine : Engine Raw}
    {holder : Activation Raw Payload} {rest : List (Activation Raw Payload)}
    (top : attached.stack = holder :: rest) {lease : RootLease}
    {reply : Reply Raw Payload}
    (performed : resolve engine attached holder rest lease =
      some (reply, next)) : attached.Moves op reply next := by
  unfold resolve at performed
  split at performed
  · cases performed
    exact .rested rfl
  · split at performed
    · cases performed
      exact .rested rfl
    · split at performed
      · cases performed
        exact .rested rfl
      · rename_i reserved
        exact sound.resolved_makes reserved top performed

theorem Sound.resolveRoot_makes (sound : attached.Sound)
    {holder : Activation Raw Payload} {rest : List (Activation Raw Payload)}
    (top : attached.stack = holder :: rest) {root : JscRoot}
    {reply : Reply Raw Payload}
    (performed : attached.resolveRoot holder rest root =
      some (reply, next)) : attached.Moves op reply next := by
  unfold resolveRoot at performed
  split at performed
  · cases performed
    exact .rested rfl
  · split at performed
    · cases performed
      exact .rested rfl
    · split at performed
      · cases performed
        exact .rested rfl
      · rename_i reserved
        exact sound.resolved_makes reserved top performed

theorem Sound.persist_makes (sound : attached.Sound)
    (roots : op.usesRoots = true) (waits : attached.stack ≠ []) (thread : Nat) (value : Local Raw) :
    attached.Makes op (attached.persist thread value) := by
  unfold persist
  split
  · exact .rested rfl
  · split
    · exact .rested rfl
    · cases sound.roots.insert value.value with
      | inl inserted =>
          obtain ⟨registry, id, inserted, soundNext, moved, _⟩ := inserted
          rw [inserted]
          exact .persisted roots waits soundNext moved
      | inr refused =>
          rw [refused.2.2]
          exact .rested rfl

theorem Sound.persistValue_makes (sound : attached.Sound)
    (roots : op.usesRoots = true) (waits : attached.stack ≠ []) (value : JscValue Raw) :
    attached.Makes op (attached.persistValue value) := by
  unfold persistValue
  split
  · exact .rested rfl
  · cases sound.roots.insert value.raw with
    | inl inserted =>
        obtain ⟨registry, id, inserted, soundNext, moved, _⟩ := inserted
        rw [inserted]
        exact .persisted roots waits soundNext moved
    | inr refused =>
        rw [refused.2.2]
        exact .rested rfl

theorem Sound.release_makes (sound : attached.Sound)
    (roots : op.usesRoots = true) (root : JscRoot) :
    attached.Makes op (attached.release root) := by
  unfold release
  split
  · exact .rested rfl
  · cases resolves : attached.shared.roots.get root.id with
    | none =>
        rw [RootRegistry.remove_of_get_none resolves]
        exact .rested rfl
    | some value =>
        obtain ⟨registry, removed, soundNext, moved, _⟩ :=
          sound.roots.remove resolves
        rw [removed]
        exact .unrooted roots soundNext moved

theorem Sound.drainRootReleases_makes (sound : attached.Sound)
    (roots : op.usesRoots = true) :
    attached.Makes op attached.drainRootReleases := by
  unfold drainRootReleases
  cases sound.roots.takePending with
  | inl empty =>
      rw [empty.2]
      exact .rested rfl
  | inr taken =>
      obtain ⟨index, slot, value, registry, _, _, _, took, soundNext, moved,
        _⟩ := taken
      rw [took]
      exact .unrooted roots soundNext moved

theorem Sound.dropLease_makes (sound : attached.Sound)
    (roots : op.usesRoots = true) (thread : Nat) (lease : RootLease) :
    attached.Moves op .done
      { attached with
        shared := attached.shared.dropLease thread lease.runtime
          lease.attachment lease.id } := by
  unfold Shared.dropLease
  split
  · split
    · exact .rested rfl
    · obtain ⟨soundNext, store, _⟩ := sound.roots.requestRelease lease.id
      exact .requested roots soundNext store
  · exact .rested rfl

/-! ## Calls from Rust -/

theorem Sound.call_makes (sound : attached.Sound)
    (waits : attached.stack ≠ []) (function : HostFunction Raw)
    (arguments : List Value) :
    attached.Makes op (attached.call function arguments) := by
  unfold call
  split
  · exact .rested rfl
  · split
    · exact .rested rfl
    · split
      · exact .rested rfl
      · rename_i strings valid
        split
        · exact .rested rfl
        · rename_i budget reservation reserved
          split
          · rw [orFault_ok (LocalBudget.drop_reserved reserved)]
            exact .rested rfl
          · rename_i all argumentReservation reservedAll
            obtain ⟨charged, held, _⟩ := LocalBudget.reserveMany_eq_ok reserved
            obtain ⟨chargedAll, heldAll, fits⟩ :=
              LocalBudget.reserveMany_eq_ok reservedAll
            have room := fits (by
              rw [charged]
              exact (sound.reserved reserved).2.2)
            subst charged
            subst chargedAll
            subst held
            subst heldAll
            let frame : Activation Raw Payload :=
              .calling ⟨function.key, ⟨1⟩, ⟨strings⟩, arguments, []⟩
            have formed : frame.Formed := by
              refine ⟨rfl, ?_⟩
              rw [List.length_nil, Nat.zero_add]
              exact (CallLimits.validate_eq_ok valid).symm
            have slots : attached.shared.localBudget.used + frame.slots =
                attached.shared.localBudget.used + 1 + strings :=
              (Nat.add_assoc ..).symm
            have moves : attached.Moves op .begun
                ((attached.charge (attached.shared.localBudget.used +
                  frame.slots)).withStack (frame :: attached.stack)) :=
              .pushed waits formed rfl rfl rfl rfl (slots ▸ room)
            rw [slots] at moves
            exact moves

omit [DecidableEq Raw] in
/-- The slots of a call are those of its result and of its arguments. -/
theorem Sound.calling_covered (sound : attached.Sound)
    {call : CallFrame Raw} {rest : List (Activation Raw Payload)}
    (top : attached.stack = .calling call :: rest) :
    call.reservation.held + call.argumentReservation.held ≤
      attached.shared.localBudget.used :=
  sound.slots_le top

theorem Sound.abandonCall_makes (sound : attached.Sound)
    {call : CallFrame Raw} {rest : List (Activation Raw Payload)}
    (top : attached.stack = .calling call :: rest)
    {reply : Reply Raw Payload} (plain : reply.isPlain = true) :
    attached.Makes op (attached.abandonCall call rest reply) := by
  have covered := sound.calling_covered top
  have arguments : call.argumentReservation.drop
      (attached.unprotectAll call.argumentRoots).shared.localBudget =
        .ok (attached.shared.localBudget.charged
          (attached.shared.localBudget.used -
            call.argumentReservation.held)) :=
    LocalBudget.drop_of_le (by
      change call.argumentReservation.held ≤ attached.shared.localBudget.used
      omega)
  have result : call.reservation.drop (attached.shared.localBudget.charged
      (attached.shared.localBudget.used - call.argumentReservation.held)) =
        .ok (attached.shared.localBudget.charged
          (attached.shared.localBudget.used -
            (call.reservation.held + call.argumentReservation.held))) := by
    rw [LocalBudget.drop_of_le (by
      rw [LocalBudget.charged_used]
      omega)]
    refine congrArg (fun used =>
      Except.ok (attached.shared.localBudget.charged used)) ?_
    rw [LocalBudget.charged_used]
    omega
  unfold abandonCall
  simp only [orFault_ok arguments, orFault_ok result]
  exact .popped plain top rfl rfl (Or.inl rfl)

theorem Sound.prepareArgument_makes (sound : attached.Sound)
    {call : CallFrame Raw} {rest : List (Activation Raw Payload)}
    (top : attached.stack = .calling call :: rest) {created : Bool}
    {value : Option Raw} {reply : Reply Raw Payload}
    (performed : attached.prepareArgument call rest created value =
      some (reply, next)) : attached.Moves op reply next := by
  obtain ⟨held, balanced⟩ := sound.formed_top top
  -- A scalar passes without a root.
  have scalar : ∀ argument arguments, call.arguments = argument :: arguments →
      argument.isString = false →
      attached.Moves op .begun (attached.withStack
        (.calling { call with arguments := arguments } :: rest)) := by
    intro argument arguments first isScalar
    rw [first, List.countP_cons_of_neg (by rw [isScalar]; nofun)] at balanced
    have formed : (Activation.calling { call with arguments := arguments } :
        Activation Raw Payload).Formed := ⟨held, balanced⟩
    have moves : attached.Moves op .begun _ :=
      .replaced [] top formed rfl (List.append_nil _).symm rfl rfl rfl rfl
        rfl rfl
    have same : attached.protectAll [] = attached := by
      rw [protectAll, List.append_nil]
    rw [same] at moves
    exact moves
  unfold prepareArgument at performed
  split at performed
  · cases performed
  · rename_i string arguments first
    split at performed
    · change attached.Makes op (reply, next)
      rw [← Option.some.inj performed]
      exact sound.abandonCall_makes top rfl
    · split at performed
      · change attached.Makes op (reply, next)
        rw [← Option.some.inj performed]
        exact sound.abandonCall_makes top rfl
      · rename_i value
        cases performed
        rw [first, List.countP_cons_of_pos rfl] at balanced
        have formed : (Activation.calling { call with
            arguments := arguments
            argumentRoots := call.argumentRoots ++ [value] } :
            Activation Raw Payload).Formed := by
          refine ⟨held, ?_⟩
          change (call.argumentRoots ++ [value]).length +
            arguments.countP Value.isString = call.argumentReservation.held
          rw [List.length_append, List.length_singleton]
          omega
        exact .replaced [value] top formed rfl rfl rfl rfl rfl rfl rfl rfl
  · rename_i argument arguments other first
    cases performed
    refine scalar argument arguments first ?_
    cases argument with
    | string string => exact absurd rfl (other string)
    | undefined => rfl
    | null => rfl
    | boolean value => rfl
    | number bits => rfl

theorem Sound.called_makes (sound : attached.Sound) {engine : Engine Raw}
    {call : CallFrame Raw} {holder : Activation Raw Payload}
    {rest : List (Activation Raw Payload)}
    (top : attached.stack = .calling call :: holder :: rest)
    {value : Option Raw} {exception : Option JsException}
    {reply : Reply Raw Payload}
    (performed : called engine attached call holder rest value exception =
      some (reply, next)) : attached.Moves op reply next := by
  have covered := sound.calling_covered top
  have held : call.reservation.held = 1 := (sound.formed_top top).1
  obtain ⟨⟨first, settled⟩, result, performed⟩ :=
    Option.map_eq_some_iff.mp performed
  have fits : call.reservation.held ≤ attached.shared.localBudget.used := by
    omega
  cases settle_eq fits result with
  | inl failed =>
      obtain ⟨plain, rfl⟩ := failed
      have arguments : call.argumentReservation.drop
          (attached.shared.localBudget.charged
            (attached.shared.localBudget.used - call.reservation.held)) =
            .ok (attached.shared.localBudget.charged
              (attached.shared.localBudget.used -
                (call.reservation.held +
                  call.argumentReservation.held))) := by
        rw [LocalBudget.drop_of_le (by
          rw [LocalBudget.charged_used]
          omega)]
        refine congrArg (fun used =>
          Except.ok (attached.shared.localBudget.charged used)) ?_
        rw [LocalBudget.charged_used]
        omega
      have dropped := (orFault_ok arguments).symm.trans performed
      cases dropped
      exact .popped plain top rfl rfl (Or.inl rfl)
  | inr rooted =>
      obtain ⟨value, after, rfl, holds, rfl⟩ := rooted
      have arguments : call.argumentReservation.drop
          attached.shared.localBudget =
            .ok (attached.shared.localBudget.charged
              (attached.shared.localBudget.used -
                call.argumentReservation.held)) :=
        LocalBudget.drop_of_le (by omega)
      have dropped := (orFault_ok arguments).symm.trans performed
      cases dropped
      have slots : attached.shared.localBudget.used -
          (Activation.calling call : Activation Raw Payload).slots + 1 =
          attached.shared.localBudget.used -
            call.argumentReservation.held := by
        change attached.shared.localBudget.used -
          (call.reservation.held + call.argumentReservation.held) + 1 = _
        omega
      have moves : attached.Moves op _ _ := .handed top holds rfl rfl rfl (by
        change 1 ≤ call.reservation.held + call.argumentReservation.held
        omega)
      rw [slots] at moves
      exact moves

theorem installHostFunction_makes (waits : attached.stack ≠ [])
    {function : Option Raw} (fresh : attached.functionFresh function = true)
    (thread : Nat) (name : Bool)
    (installs : op = .installHostFunction name function) :
    attached.Makes op (attached.installHostFunction thread name function) := by
  unfold installHostFunction
  split
  · exact .rested rfl
  · split
    · exact .rested rfl
    · split
      · exact .rested rfl
      · cases function with
        | none => exact .rested rfl
        | some function =>
            have fresh : function ∉ attached.shared.hostFunctions :=
              of_decide_eq_true fresh
            have moves : attached.Moves op .begun _ :=
              .registered waits fresh ⟨name, installs⟩
            rw [← List.insert_of_not_mem fresh] at moves
            exact moves

theorem publishHostFunction_makes {function : Raw}
    {rest : List (Activation Raw Payload)}
    (top : attached.stack = .registering function :: rest) (global : Bool)
    (exception : Option JsException)
    (publishes : op = .publishHostFunction global exception) :
    attached.Makes op
      (attached.publishHostFunction function rest global exception) := by
  unfold publishHostFunction
  split
  · exact .unregistered top ⟨_, _, publishes⟩
  · split
    · exact .unregistered top ⟨_, _, publishes⟩
    · have moves : attached.Moves op (.installedFunction function) _ :=
        .popped_bare rfl top rfl rfl rfl (Or.inr ⟨_, _, publishes⟩)
      exact moves

theorem Sound.tryInstallNativeState_makes (sound : attached.Sound)
    (waits : attached.stack ≠ []) (thread : Nat)
    (state : NativeState Payload) :
    attached.Makes (.tryInstallNativeState state)
      (attached.tryInstallNativeState thread state) := by
  unfold tryInstallNativeState
  split
  · exact .rested rfl
  · cases sound.nativeStates.insert state attached.heap with
    | inl inserted =>
        obtain ⟨registry, id, _, inserted, soundNext, moved, live, limit⟩ :=
          inserted
        rw [inserted]
        exact .accepted rfl waits soundNext moved live limit
    | inr refused =>
        rw [refused.2]
        exact .rested rfl

omit [DecidableEq Raw] in
/-- What is taken out of the registry is given up. -/
theorem Sound.retires (sound : attached.Sound) (id : NativeId) :
    ∃ registry value, attached.shared.nativeStates.remove id =
        (registry, value) ∧
      attached.Retires id value
        ({ attached with shared.nativeStates := registry }.dropState
          value) := by
  cases named : attached.shared.nativeStates.store.get id with
  | none =>
      exact ⟨attached.shared.nativeStates, none,
        NativeRegistry.remove_of_get_none named, .nothing named⟩
  | some value =>
      obtain ⟨registry, removed, soundNext, moved, live, limit⟩ :=
        sound.nativeStates.remove named
      exact ⟨registry, some value, removed,
        .state named soundNext moved live limit⟩

omit [DecidableEq Raw] in
theorem Sound.removeNativeState_retires (sound : attached.Sound)
    (id : NativeId) :
    ∃ value, attached.Retires id value (attached.removeNativeState id) := by
  obtain ⟨registry, value, removed, retires⟩ := sound.retires id
  rw [removeNativeState, removed]
  exact ⟨value, retires⟩

theorem Sound.makeNativeObject_makes (sound : attached.Sound)
    {id : NativeId} {rest : List (Activation Raw Payload)}
    (top : attached.stack = .creating id :: rest) (made : Bool)
    (object : Option Raw) :
    attached.Makes op (attached.makeNativeObject id rest made object) := by
  obtain ⟨value, retires⟩ := sound.removeNativeState_retires id
  unfold makeNativeObject
  split
  · exact .refused top retires
  · split
    · exact .refused top retires
    · rename_i object
      exact .replaced [object] top trivial rfl rfl rfl rfl rfl rfl rfl rfl

theorem Sound.rollbackNativeObject_makes (sound : attached.Sound)
    (engine : Engine Raw) {object : Raw} {id : NativeId}
    {rest : List (Activation Raw Payload)}
    (top : attached.stack = .publishing object id :: rest)
    (error : JsError) :
    attached.Makes op
      (attached.rollbackNativeObject engine object id error rest) := by
  obtain ⟨value, retires⟩ := sound.removeNativeState_retires id
  unfold rollbackNativeObject
  split
  · exact .rolledBack top retires
  · have moves : attached.Moves op .begun
        ((attached.protectAll []).withStack
          (.rolledBack object error :: rest)) :=
      .replaced [] top trivial rfl rfl rfl rfl rfl rfl rfl rfl
    rw [protectAll, List.append_nil] at moves
    exact moves

theorem Sound.publishNativeObject_makes (sound : attached.Sound)
    (engine : Engine Raw) {object : Raw} {id : NativeId}
    {rest : List (Activation Raw Payload)}
    (top : attached.stack = .publishing object id :: rest)
    (name global : Bool) (exception : Option JsException) :
    attached.Makes op
      (attached.publishNativeObject engine object id rest name global
        exception) := by
  unfold publishNativeObject
  split
  · exact sound.rollbackNativeObject_makes engine top _
  · split
    · exact sound.rollbackNativeObject_makes engine top _
    · split
      · exact sound.rollbackNativeObject_makes engine top _
      · have moves : attached.Moves op (.installedState id) _ :=
          .popped rfl top rfl rfl (Or.inl rfl)
        exact moves

theorem endRollback_makes {object : Raw} {error : JsError}
    {rest : List (Activation Raw Payload)}
    (top : attached.stack = .rolledBack object error :: rest) :
    attached.Makes op (attached.endRollback object error rest) := by
  have moves : attached.Moves op (.failed (.js error)) _ :=
    .popped rfl top rfl rfl (Or.inl rfl)
  exact moves

theorem Sound.withNativeState_makes (sound : attached.Sound)
    (waits : attached.stack ≠ []) (thread : Nat) (handle : NativeObject) :
    attached.Makes (.withNativeState handle)
      (attached.withNativeState thread handle) := by
  unfold withNativeState
  split
  · exact .rested rfl
  · split
    · exact .rested rfl
    · split
      · exact .rested rfl
      · split
        · exact .rested rfl
        · rename_i lease found
          obtain ⟨named, ofType⟩ :=
            sound.nativeStates.get_eq_some_iff.mp found
          exact .leased rfl waits named ofType

theorem enter_makes (available : attached.available = true) (thread : Nat)
    (supplied : Option Nat) (active : ActiveEntry) :
    attached.Makes op (attached.enter thread supplied active) := by
  unfold enter
  split
  · exact .rested rfl
  · split
    · exact .rested rfl
    · split
      · exact .rested rfl
      · split
        · rename_i gate refused
          have same : gate = attached.shared.gate := by
            unfold EntryGate.tryEnter at refused
            split at refused
            · cases refused
              rfl
            · split at refused
              · cases refused
                rfl
              · cases refused
          rw [same]
          exact .rested rfl
        · rename_i admitted
          exact .entered available admitted

theorem Sound.reclaim_makes (sound : attached.Sound)
    {tokens : List NativeId} {report : FinalizerDrain}
    {rest : List (Activation Raw Payload)}
    (top : attached.stack = .reclaiming tokens report :: rest) :
    attached.Makes op (attached.reclaim tokens report rest) := by
  cases tokens with
  | nil =>
      have moves : attached.Moves op (.drained report) _ :=
        .popped_bare rfl top rfl rfl rfl (Or.inl rfl)
      exact moves
  | cons token tokens =>
      obtain ⟨registry, value, removed, retires⟩ := sound.retires token
      simp only [Makes, reclaim, reclaimOne, removed]
      exact .reclaimed top retires

theorem Sound.push_makes (sound : attached.Sound)
    (waits : attached.stack ≠ []) {frame : Activation Raw Payload}
    (formed : frame.Formed) (slots : frame.slots = 0)
    (protects : frame.protects = []) (boxes : frame.boxes = [])
    (functions : frame.functions = []) (notEntry : frame.isEntry = false) :
    attached.Moves op .begun (attached.withStack (frame :: attached.stack)) := by
  have moves : attached.Moves op .begun _ :=
    .pushed waits formed protects boxes functions notEntry
      (by rw [slots]; exact sound.bounded)
  rw [slots] at moves
  exact moves

theorem Sound.openScope_makes (sound : attached.Sound)
    (waits : attached.stack ≠ []) (thread : Nat) :
    attached.Makes op (attached.openScope thread) := by
  unfold openScope
  split
  · exact .rested rfl
  · exact sound.push_makes waits trivial rfl rfl rfl rfl rfl

theorem Sound.withScope_makes (sound : attached.Sound)
    (waits : attached.stack ≠ []) (thread scopeDepth : Nat) :
    attached.Makes op (attached.withScope thread scopeDepth) := by
  unfold withScope
  split
  · exact .rested rfl
  · split
    · exact .rested rfl
    · exact sound.push_makes waits trivial rfl rfl rfl rfl rfl

theorem Sound.close_makes (sound : attached.Sound)
    {frame : Activation Raw Payload} {roots : LocalRoots Raw}
    {rest : List (Activation Raw Payload)}
    (top : attached.stack = frame :: rest)
    (slots : frame.slots = roots.values.length)
    (protects : frame.protects = roots.values) (boxes : frame.boxes = [])
    (notEntry : frame.isEntry = false) (functions : frame.functions = []) :
    attached.Makes op (attached.close roots rest) := by
  have covered := sound.slots_le top
  rw [slots] at covered
  rw [close, orFault_ok (dropRoots_eq covered)]
  have moves : attached.Moves op .done _ :=
    .popped rfl top boxes notEntry (Or.inl functions)
  rw [slots, protects] at moves
  exact moves

/-! ## Teardown -/

section Gates

variable {gate after : EntryGate}

omit [DecidableEq Raw] in
theorem tryBeginCleanup_error {error : Host.GateError}
    (refused : gate.tryBeginCleanup = (.error error, after)) :
    after = gate := by
  unfold EntryGate.tryBeginCleanup at refused
  repeat' split at refused
  all_goals
    cases refused
    try rfl

omit [DecidableEq Raw] in
theorem tryBeginCleanup_ok {guard : Host.CleanupGuard}
    (begun : gate.tryBeginCleanup = (.ok guard, after)) :
    gate.state = .draining ∧ gate.entries = 0 ∧
      after = { gate with cleanup := true } := by
  unfold EntryGate.tryBeginCleanup at begun
  split at begun
  · cases begun
  · rename_i draining
    split at begun
    · cases begun
    · rename_i empty
      split at begun
      · cases begun
      · split at begun
        · cases begun
        · split at begun
          · cases begun
          · cases begun
            exact ⟨not_not.mp draining, not_not.mp empty, rfl⟩

omit [DecidableEq Raw] in
theorem finishDrain_error {error : Host.GateError}
    (refused : gate.finishDrain = (.error error, after)) : after = gate := by
  unfold EntryGate.finishDrain at refused
  repeat' split at refused
  all_goals
    cases refused
    try rfl

omit [DecidableEq Raw] in
theorem finishDrain_ok {outcome : FinalEntryOutcome}
    (finished : gate.finishDrain = (.ok outcome, after))
    (valid : gate.state ≠ .invalid) :
    gate.state = .draining ∧ gate.entries = 0 ∧ gate.cleanup = false ∧
      after = { gate with finalEntry := some outcome, state := .invalid } := by
  unfold EntryGate.finishDrain at finished
  split at finished
  · cases finished
  · rename_i noCleanup
    split at finished
    · rename_i invalid
      exact absurd invalid valid
    · rename_i draining
      split at finished
      · rename_i empty
        split at finished
        · cases finished
        · cases finished
          exact ⟨draining, empty, Bool.eq_false_of_not_eq_true noCleanup, rfl⟩
      · cases finished
    · cases finished

omit [DecidableEq Raw] in
theorem requestDrain_fields (gate : EntryGate) :
    gate.requestDrain.entries = gate.entries ∧
      gate.requestDrain.cleanup = gate.cleanup ∧
      gate.requestDrain.limit = gate.limit ∧
      (gate.requestDrain.state = gate.state ∨
        (gate.state = .active ∧ gate.requestDrain.state = .draining)) := by
  unfold EntryGate.requestDrain
  split
  · rename_i active
    exact ⟨rfl, rfl, rfl, Or.inr ⟨active, rfl⟩⟩
  · exact ⟨rfl, rfl, rfl, Or.inl rfl⟩

omit [DecidableEq Raw] in
theorem markDestroyed_ok (invalid : gate.state = .invalid) :
    gate.markDestroyed = (.ok (), { gate with state := .destroyed }) := by
  rw [EntryGate.markDestroyed, invalid]

end Gates

omit [DecidableEq Raw] in
theorem available_teardown (available : attached.available = true) :
    attached.teardown = none := by
  unfold Attached.available at available
  cases none : attached.teardown with
  | none => rfl
  | some teardown =>
      rw [none] at available
      cases available

theorem Sound.beginCleanup_makes (sound : attached.Sound)
    (ends : op.isTeardown = true) (available : attached.available = true)
    {kind : TeardownKind} (engine : kind = .owned ∨ kind = .withContext) :
    attached.Makes op (attached.beginCleanup kind) := by
  unfold beginCleanup
  cases begins : attached.shared.gate.requestDrain.tryBeginCleanup with
  | mk outcome gate =>
      cases outcome with
      | error error =>
          rw [tryBeginCleanup_error begins] at begins
          simp only [Makes, withGate, begins]
          exact .drainRefused _
      | ok guard =>
          have empty := (tryBeginCleanup_ok begins).2.1
          rw [(requestDrain_fields _).1] at empty
          simp only [Makes, withGate, begins]
          exact .released ends engine available (sound.stack_nil empty) begins

theorem Sound.invalidate_makes (sound : attached.Sound)
    (available : attached.available = true) (thread : Nat)
    (context : Option Nat) (active : ActiveEntry) (independent : Bool) :
    attached.Makes (.invalidate active independent)
      (attached.invalidate thread context active independent) := by
  unfold invalidate
  split
  · exact .rested rfl
  · split
    · rename_i destroyed
      exact .wasDestroyed nofun destroyed (Or.inl rfl)
    · split
      · exact .rested rfl
      · split
        · split
          · exact .rested rfl
          · exact sound.beginCleanup_makes rfl available (Or.inl rfl)
        · exact sound.beginCleanup_makes rfl available (Or.inl rfl)

theorem Sound.detachWithContext_makes (sound : attached.Sound)
    (available : attached.available = true) (thread : Nat)
    (supplied : Option Nat) (active : ActiveEntry) :
    attached.Makes (.detachWithContext supplied active)
      (attached.detachWithContext thread supplied active) := by
  unfold detachWithContext
  split
  · exact .rested rfl
  · split
    · exact .rested rfl
    · split
      · exact .rested rfl
      · split
        · rename_i destroyed
          exact .wasDestroyed nofun destroyed (Or.inr rfl)
        · exact sound.beginCleanup_makes rfl available (Or.inr rfl)

omit [DecidableEq Raw] in
/-- What `finish_drain` needs, where a teardown starts with it. -/
theorem Sound.stack_of_finishDrain (sound : attached.Sound)
    (available : attached.available = true)
    {outcome : FinalEntryOutcome} {gate : EntryGate}
    (finished : attached.shared.gate.requestDrain.finishDrain =
      (.ok outcome, gate)) : attached.stack = [] := by
  obtain ⟨_, notInvalid⟩ := sound.idle (available_teardown available)
  obtain ⟨entries, _, _, state⟩ := requestDrain_fields attached.shared.gate
  have valid : attached.shared.gate.requestDrain.state ≠ .invalid := by
    cases state with
    | inl same =>
        rw [same]
        exact notInvalid
    | inr drained =>
        rw [drained.2]
        nofun
  have empty := (finishDrain_ok finished valid).2.1
  rw [entries] at empty
  exact sound.stack_nil empty

theorem Sound.detachWithoutContext_makes (sound : attached.Sound)
    (available : attached.available = true) (thread : Nat) :
    attached.Makes .detachWithoutContext
      (attached.detachWithoutContext thread) := by
  unfold detachWithoutContext
  split
  · exact .rested rfl
  · split
    · rename_i destroyed
      exact .wasDestroyed nofun destroyed (Or.inr rfl)
    · cases ends : attached.shared.gate.requestDrain.finishDrain with
      | mk outcome gate =>
          cases outcome with
          | error error =>
              rw [finishDrain_error ends] at ends
              simp only [Makes, withGate, ends]
              exact .drainRefused _
          | ok outcome =>
              have empty := sound.stack_of_finishDrain available ends
              simp only [Makes, withGate, ends]
              exact .abandoned rfl available empty ends

theorem dropAttachment_makes (available : attached.available = true)
    (empty : attached.stack = []) :
    attached.Makes .dropAttachment attached.dropAttachment := by
  simp only [dropAttachment]
  split
  · rename_i destroyed
    exact .disowned destroyed
  · rename_i live
    cases ends : attached.shared.gate.requestDrain.finishDrain with
    | mk outcome gate =>
        cases outcome with
        | error error =>
            rw [finishDrain_error ends] at ends
            simp only [Makes, withGate, ends]
            exact .dropped rfl available empty live (Or.inr ⟨rfl, rfl⟩)
        | ok outcome =>
            simp only [Makes, withGate, ends]
            exact .dropped rfl available empty live
              (Or.inl ⟨rfl, outcome, rfl, ends⟩)

omit [DecidableEq Raw] in
/-- A completed cleanup always lets the drain finish. -/
theorem Sound.finishDrain_completed (sound : attached.Sound)
    {teardown : Teardown Payload} {report : FinalizerDrain}
    (under : attached.teardown = some teardown)
    (engine : teardown.kind = .owned ∨ teardown.kind = .withContext)
    (phase : teardown.phase = .reclaiming [] report) :
    attached.shared.gate.complete.finishDrain =
      (.ok .completed,
        { attached.shared.gate.complete with
          finalEntry := some .completed, state := .invalid }) := by
  obtain ⟨empty, guards⟩ := sound.tearing teardown under
  have draining : attached.shared.gate.state = .draining := by
    rw [Teardown.Guards, phase] at guards
    cases engine with
    | inl owned =>
        rw [owned] at guards
        exact congrArg Prod.fst guards
    | inr withContext =>
        rw [withContext] at guards
        exact congrArg Prod.fst guards
  have entered := sound.entered
  rw [entries, empty] at entered
  have noEntries : attached.shared.gate.entries = 0 :=
    UInt32.toNat_inj.mp entered
  simp [EntryGate.finishDrain, EntryGate.complete, EntryGate.dropCleanup,
    draining, noEntries]

theorem finish_makes {teardown : Teardown Payload}
    {report : FinalizerDrain} {retired : Nat}
    (under : attached.teardown = some teardown)
    (guards : teardown.Guards attached.shared.gate)
    (phase : teardown.phase = .retiring [] report retired) :
    attached.Makes .advanceTeardown
      (attached.finish teardown report retired) := by
  rw [Teardown.Guards, phase] at guards
  cases kind : teardown.kind with
  | owned =>
      rw [kind] at guards
      simp only [Makes, finish, kind,
        markDestroyed_ok (congrArg Prod.fst guards)]
      exact .finished rfl under phase (by rw [kind]; nofun) (by rw [kind])
  | withContext =>
      rw [kind] at guards
      simp only [Makes, finish, kind,
        markDestroyed_ok (congrArg Prod.fst guards)]
      exact .finished rfl under phase (by rw [kind]; nofun) (by rw [kind])
  | withoutContext =>
      rw [kind] at guards
      simp only [Makes, finish, kind,
        markDestroyed_ok (congrArg Prod.fst guards)]
      exact .finished rfl under phase (by rw [kind]; nofun) (by rw [kind])
  | dropped finished =>
      cases finished with
      | true =>
          rw [kind] at guards
          simp only [Makes, finish, kind,
        markDestroyed_ok (congrArg Prod.fst guards)]
          exact .finished rfl under phase (by rw [kind]; nofun) (by rw [kind])
      | false =>
          simp only [Makes, finish, kind]
          exact .forsaken under phase kind

theorem Sound.advanceTeardown_makes (sound : attached.Sound)
    {teardown : Teardown Payload}
    (under : attached.teardown = some teardown) :
    attached.Makes .advanceTeardown
      (attached.advanceTeardown teardown) := by
  obtain ⟨empty, guards⟩ := sound.tearing teardown under
  unfold advanceTeardown
  split
  · rename_i phase
    exact .queueClosed under phase
  · rename_i token tokens report phase
    obtain ⟨registry, value, removed, retires⟩ := sound.retires token
    simp only [Makes, reclaimOne, removed]
    exact .settled under phase retires
  · rename_i report phase
    split
    · rename_i owned
      have ends := sound.finishDrain_completed under (Or.inl owned) phase
      simp only [Makes, completeCleanup, withGate, ends]
      exact .completed under (Or.inl owned) phase ends
    · rename_i withContext
      have ends := sound.finishDrain_completed under (Or.inr withContext) phase
      simp only [Makes, completeCleanup, withGate, ends]
      exact .completed under (Or.inr withContext) phase ends
    · rename_i bare
      exact .retired under (by rw [bare]; exact ⟨nofun, nofun⟩) phase
    · rename_i finished bare
      exact .retired under (by rw [bare]; exact ⟨nofun, nofun⟩) phase
  · rename_i state states report retired phase
    exact .destroyed under phase
  · rename_i report retired phase
    exact finish_makes under guards phase

theorem Makes.moves {result : Reply Raw Payload × Attached Raw Payload}
    {reply : Reply Raw Payload} (made : attached.Makes op result)
    (performed : some result = some (reply, next)) :
    attached.Moves op reply next := by
  rw [Option.some.inj performed] at made
  exact made

/-- An operation of a sound attachment makes one of its moves. -/
theorem Sound.moves (sound : attached.Sound) {engine : Engine Raw}
    {invocation : Invocation Raw Payload} {reply : Reply Raw Payload}
    (performed : attached.perform engine invocation = some (reply, next)) :
    attached.Moves invocation.op reply next := by
  unfold perform at performed
  split at performed
  · split at performed
    · rename_i available
      exact (enter_makes available _ _ _).moves performed
    · cases performed
  · rename_i top
    cases performed
    exact .left top
  · rename_i top
    cases performed
    exact .taken (waits_of_top top)
  · rename_i top
    exact (sound.reclaim_makes top).moves performed
  · rename_i called _
    rw [called]
    exact (sound.drainRootReleases_makes rfl).moves performed
  · rename_i top
    cases performed
    exact sound.push_makes (waits_of_top top) trivial rfl rfl rfl rfl rfl
  · rename_i top
    exact (sound.openScope_makes (waits_of_top top) _).moves performed
  · rename_i top
    exact (sound.withScope_makes (waits_of_top top) _ _).moves performed
  · rename_i top
    exact (sound.close_makes top rfl rfl rfl rfl rfl).moves performed
  · rename_i top
    exact (sound.close_makes top rfl rfl rfl rfl rfl).moves performed
  · rename_i top
    exact (sound.eval_makes (waits_of_top top) _ _ _).moves performed
  · rename_i top
    exact (sound.produce_makes (waits_of_top top) _ _ _).moves performed
  · rename_i top
    exact (sound.produce_makes (waits_of_top top) _ _ _).moves performed
  · rename_i top
    exact (sound.callValue_makes engine (waits_of_top top) _ _ _).moves
      performed
  · rename_i top
    exact (sound.produce_makes (waits_of_top top) _ _ _).moves performed
  · rename_i top
    split at performed
    · cases performed
    · exact sound.produced_makes top performed
  · rename_i top
    split at performed
    · exact sound.produced_makes top performed
    · cases performed
  · rename_i top
    exact sound.resolve_makes top performed
  · rename_i top
    exact sound.resolveRoot_makes top performed
  · rename_i called top
    rw [called]
    exact (sound.persist_makes rfl (waits_of_top top) _ _).moves performed
  · rename_i called top
    rw [called]
    exact (sound.persistValue_makes rfl (waits_of_top top) _).moves performed
  · rename_i called _
    rw [called]
    exact (sound.release_makes rfl _).moves performed
  · rename_i called
    cases performed
    rw [called]
    exact sound.dropLease_makes rfl _ _
  · rename_i top
    exact (sound.call_makes (waits_of_top top) _ _).moves performed
  · rename_i top
    exact sound.prepareArgument_makes top performed
  · rename_i top
    split at performed
    · exact sound.called_makes top performed
    · cases performed
  · rename_i top
    rw [dropped_eq (sound.slots_le top)] at performed
    cases performed
    exact .popped_bare rfl top rfl rfl rfl (Or.inl rfl)
  · rename_i top
    exact (sound.abandonCall_makes top rfl).moves performed
  · rename_i called top
    split at performed
    · rename_i fresh
      exact (installHostFunction_makes (waits_of_top top) fresh _ _
        called).moves performed
    · cases performed
  · rename_i called top
    exact (publishHostFunction_makes top _ _ called).moves performed
  · rename_i called top
    rw [called]
    exact (sound.tryInstallNativeState_makes (waits_of_top top) _ _).moves
      performed
  · rename_i top
    exact (sound.makeNativeObject_makes top _ _).moves performed
  · rename_i top
    exact (sound.publishNativeObject_makes _ top _ _ _).moves performed
  · rename_i top
    exact (endRollback_makes top).moves performed
  · rename_i called top
    rw [called]
    exact (sound.withNativeState_makes (waits_of_top top) _ _).moves performed
  · rename_i top
    cases performed
    exact .operated top
  · cases performed
    exact .signalled _
  · rename_i called
    split at performed
    · split at performed
      · rename_i available
        rw [called]
        exact (sound.invalidate_makes available _ _ _ _).moves performed
      · cases performed
    · cases performed
  · rename_i called
    split at performed
    · split at performed
      · rename_i available
        rw [called]
        exact (sound.beginCleanup_makes rfl available
          (Or.inl rfl)).moves performed
      · cases performed
    · cases performed
  · rename_i called
    split at performed
    · rename_i usable
      have available := (Bool.and_eq_true_iff.mp usable).1
      rw [called]
      exact (sound.detachWithContext_makes available _ _ _).moves performed
    · cases performed
  · rename_i called
    split at performed
    · rename_i usable
      have available := (Bool.and_eq_true_iff.mp usable).1
      rw [called]
      exact (sound.detachWithoutContext_makes available _).moves performed
    · cases performed
  · rename_i called
    split at performed
    · rename_i usable
      obtain ⟨usable, alone⟩ := Bool.and_eq_true_iff.mp usable
      have available := (Bool.and_eq_true_iff.mp usable).1
      rw [called]
      exact (dropAttachment_makes available
        (List.isEmpty_iff.mp alone)).moves performed
    · cases performed
  · rename_i called
    obtain ⟨teardown, under, performed⟩ :=
      Option.map_eq_some_iff.mp performed
    have made := sound.advanceTeardown_makes under
    rw [performed] at made
    rw [called]
    exact made
  · cases performed

end Attached

end RustJsi.BackendJsc
