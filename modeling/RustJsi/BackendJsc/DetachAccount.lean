import RustJsi.BackendJsc.AttachedEnding
import RustJsi.BackendJsc.LocalBalance

/-!
# What a detach reports

A detach counts the roots and the host functions before it drops a callback,
and every native state when it is given up, by a token or with the registry.
Whatever is called between its steps, the report it ends with accounts for all
that was registered before it.
-/

namespace RustJsi.BackendJsc

open Counted Generational Interleaving
open RustJsi.Host (EntryGate EntryGuard FinalEntryOutcome HostState)

variable {Raw Payload : Type*}

/-- The teardown that a detach begins. -/
def Op.detaches : Op Raw Payload → Option TeardownKind
  | .detachWithContext _ _ => some .withContext
  | .detachWithoutContext => some .withoutContext
  | _ => none

/-- What a detach of a kind reports of the counts it found. -/
def DetachReport.Settles (report : DetachReport) (kind : TeardownKind)
    (roots functions nativeStates : Nat) : Prop :=
  match kind with
  | .withContext =>
      report.settled = ⟨roots, functions, nativeStates⟩ ∧
        report.unresolved = ⟨0, 0, 0⟩
  | _ =>
      report.settled = ⟨0, 0, nativeStates⟩ ∧
        report.unresolved = ⟨roots, functions, 0⟩

namespace RootRegistry

/-- A drain gives up as many values as are live. -/
theorem Sound.drain_length {Value : Type*} {registry : RootRegistry Value}
    (sound : registry.Sound) : (registry.drain).2.length = registry.live := by
  rw [sound.live, RootRegistry.drain, List.length_filterMap_eq_countP]
  rfl

end RootRegistry

namespace Attached

/-- What a teardown under way has counted so far, where the queue held some
tokens when it was closed. -/
structure Accounts (before : Attached Raw Payload)
    (teardown : Teardown Payload) (linked : Nat)
    (attached : Attached Raw Payload) : Prop where
  roots : teardown.roots = before.shared.roots.live
  functions : teardown.functions = before.shared.hostFunctions.length
  nativeStates :
    match teardown.phase with
    | .closing =>
        attached.shared.nativeStates.live = before.shared.nativeStates.live
    | .reclaiming tokens report =>
        report.retiredNativeStates + attached.shared.nativeStates.live =
            before.shared.nativeStates.live ∧
          report.signals + tokens.length = linked
    | .retiring _ report count =>
        count = before.shared.nativeStates.live ∧
          attached.shared.nativeStates.store.held = [] ∧
          report.signals = linked

variable {before attached next : Attached Raw Payload}

/-- A teardown that was only begun, or that other calls let be. -/
theorem Accounts.kept {teardown : Teardown Payload} {linked : Nat}
    (accounts : before.Accounts teardown linked attached)
    (nativeStates : next.shared.nativeStates = attached.shared.nativeStates) :
    before.Accounts teardown linked next where
  roots := accounts.roots
  functions := accounts.functions
  nativeStates := by
    rw [nativeStates]
    exact accounts.nativeStates

/-- A state that is given up was live before. -/
theorem Retires.live {id : NativeId} {value : Option (AnyRc Payload)}
    (retired : Nat) (retires : attached.Retires id value next) :
    retired + value.isSome.toNat + next.shared.nativeStates.live =
      retired + attached.shared.nativeStates.live := by
  cases retires with
  | nothing unnamed => rfl
  | @state value registry named sound moved live limit =>
      rw [← live]
      change retired + 1 + registry.live = retired + (registry.live + 1)
      omega

/-- The states left in the registry are counted with those the tokens
named. -/
theorem Accounts.retiring {teardown torn : Teardown Payload} {linked : Nat}
    {report : FinalizerDrain} {rest : Attached Raw Payload}
    (accounts : before.Accounts teardown linked attached)
    (sound : attached.Sound)
    (phase : teardown.phase = .reclaiming [] report)
    (roots : torn.roots = teardown.roots)
    (functions : torn.functions = teardown.functions)
    (registry : rest.shared.nativeStates =
      (attached.shared.nativeStates.drain).1)
    (retiring : torn.phase =
      .retiring (attached.shared.nativeStates.drain).2 report
        (report.retiredNativeStates +
          (attached.shared.nativeStates.drain).2.length)) :
    before.Accounts torn linked rest := by
  have counted := accounts.nativeStates
  rw [phase] at counted
  obtain ⟨live, signals⟩ := counted
  refine ⟨roots.trans accounts.roots, functions.trans accounts.functions, ?_⟩
  rw [retiring, registry, NativeRegistry.drain_values, List.length_map,
    ← sound.nativeStates.live]
  exact ⟨live, NativeRegistry.drain_held _, signals⟩

/-- The queue of signals is empty once it is closed. -/
def Hushed (attached : Attached Raw Payload) : Prop :=
  attached.shared.nativeFinalizers.closed = true →
    attached.shared.nativeFinalizers.tokens = []

theorem hushed_close (hushed : attached.Hushed) :
    (attached.shared.nativeFinalizers.close).2 =
      attached.shared.nativeFinalizers.tokens := by
  unfold FinalizerSignals.close
  split
  · rename_i closed
    exact (hushed closed).symm
  · rfl

section Moves

variable [DecidableEq Raw] {op : Op Raw Payload} {reply : Reply Raw Payload}

theorem Moves.hushed (moves : attached.Moves op reply next)
    (hushed : attached.Hushed) : next.Hushed := by
  cases moves with
  | refused top retires =>
      rw [retires.fields]
      exact hushed
  | rolledBack top retires =>
      rw [retires.fields]
      exact hushed
  | reclaimed top retires =>
      rw [retires.fields]
      exact hushed
  | settled under phase retires =>
      rw [retires.fields]
      exact hushed
  | signalled token =>
      intro closed
      change (attached.shared.nativeFinalizers.push token).tokens = []
      change (attached.shared.nativeFinalizers.push token).closed = true
        at closed
      unfold FinalizerSignals.push at closed ⊢
      split at closed
      · rename_i shut
        rw [if_pos shut]
        exact hushed shut
      · rename_i notShut
        exact absurd closed notShut
  | taken waits =>
      intro closed
      change (attached.shared.nativeFinalizers.take).1.tokens = []
      unfold FinalizerSignals.take
      split
      · rename_i shut
        exact hushed shut
      · rfl
  | queueClosed under phase =>
      intro closed
      change (attached.shared.nativeFinalizers.close).1.tokens = []
      unfold FinalizerSignals.close
      split
      · rename_i shut
        exact hushed shut
      · rfl
  | _ => exact hushed

/-- What a step does to a teardown under way, and to what it has counted. -/
inductive Tears (before attached : Attached Raw Payload)
    (teardown : Teardown Payload) (linked : Nat) (reply : Reply Raw Payload)
    (next : Attached Raw Payload) : Prop
  | kept (same : next.teardown = some teardown)
      (accounts : before.Accounts teardown linked next)
  | closed {torn : Teardown Payload} (goesOn : next.teardown = some torn)
      (kind : torn.kind = teardown.kind)
      (closing : teardown.phase = .closing)
      (closed : next.shared.nativeFinalizers.closed = true)
      (accounts : before.Accounts torn
        attached.shared.nativeFinalizers.tokens.length next)
  | advanced {torn : Teardown Payload} (goesOn : next.teardown = some torn)
      (kind : torn.kind = teardown.kind)
      (closed : teardown.phase ≠ .closing)
      (accounts : before.Accounts torn linked next)
  | finished {report : FinalizerDrain} {count : Nat}
      (ends : next.teardown = none)
      (phase : teardown.phase = .retiring [] report count)
      (nativeStates :
        next.shared.nativeStates = attached.shared.nativeStates)
      (replies : teardown.kind = .withContext ∨
          teardown.kind = .withoutContext →
        reply = .detached (Attached.report teardown report count) ∧
          next.shared.gate.state = .destroyed)

/-- Nothing can be entered or torn down while a teardown is under way. -/
theorem Moves.tears (moves : attached.Moves op reply next)
    (sound : attached.Sound) (hushed : attached.Hushed)
    {teardown : Teardown Payload} {linked : Nat}
    (under : attached.teardown = some teardown)
    (accounts : before.Accounts teardown linked attached) :
    Tears before attached teardown linked reply next := by
  have empty := (sound.tearing teardown under).1
  have unavailable : ∀ {Goal : Prop}, attached.available = true → Goal := by
    intro Goal available
    exact nomatch (available_teardown available).symm.trans under
  cases moves with
  | rested plain => exact .kept under accounts
  | wasDestroyed begins destroyed replies => exact .kept under accounts
  | entered available admitted => exact unavailable available
  | left top => exact absurd empty (waits_of_cons top)
  | pushed waits => exact absurd empty waits
  | popped plain top => exact absurd empty (waits_of_cons top)
  | replaced values top => exact absurd empty (waits_of_cons top)
  | handed top => exact absurd empty (waits_of_cons top)
  | resolved top => exact absurd empty (waits_of_cons top)
  | persisted roots waits => exact absurd empty waits
  | unrooted roots soundNext moved => exact .kept under (accounts.kept rfl)
  | requested roots soundNext same => exact .kept under (accounts.kept rfl)
  | registered waits => exact absurd empty waits
  | unregistered top => exact absurd empty (waits_of_cons top)
  | accepted installs waits => exact absurd empty waits
  | refused top => exact absurd empty (waits_of_cons top)
  | rolledBack top => exact absurd empty (waits_of_cons top)
  | leased reads waits => exact absurd empty waits
  | operated top => exact absurd empty (waits_of_cons top)
  | signalled token => exact .kept under (accounts.kept rfl)
  | taken waits => exact absurd empty waits
  | reclaimed top => exact absurd empty (waits_of_cons top)
  | drainRefused failure => exact .kept under (accounts.kept rfl)
  | released ends engine available => exact unavailable available
  | abandoned detaches available => exact unavailable available
  | dropped drops available => exact unavailable available
  | disowned destroyed => exact .kept under (accounts.kept rfl)
  | @queueClosed torn same phase =>
      cases same.symm.trans under
      have live := accounts.nativeStates
      rw [phase] at live
      refine .closed rfl rfl phase ?_ ⟨accounts.roots, accounts.functions, ?_⟩
      · change (attached.shared.nativeFinalizers.close).1.closed = true
        unfold FinalizerSignals.close
        split
        · rename_i shut
          exact shut
        · rfl
      · change 0 + _ = _ ∧ 0 + _ = _
        rw [Nat.zero_add, Nat.zero_add, hushed_close hushed]
        exact ⟨live, rfl⟩
  | @settled torn token tokens report value next same phase retires =>
      cases same.symm.trans under
      have counted := accounts.nativeStates
      rw [phase] at counted
      obtain ⟨live, signals⟩ := counted
      refine .advanced rfl rfl (by rw [phase]; nofun)
        ⟨accounts.roots, accounts.functions, ?_, ?_⟩
      · exact (retires.live _).trans live
      · rw [← signals, List.length_cons]
        exact Nat.add_right_comm _ _ _
  | @completed torn report same engine phase ends =>
      cases same.symm.trans under
      refine .advanced rfl rfl (by rw [phase]; nofun) ?_
      exact accounts.retiring sound phase rfl rfl rfl rfl
  | @retired torn report same bare phase =>
      cases same.symm.trans under
      refine .advanced rfl rfl (by rw [phase]; nofun) ?_
      exact accounts.retiring sound phase rfl rfl rfl rfl
  | @destroyed torn state states report count same phase =>
      cases same.symm.trans under
      have counted := accounts.nativeStates
      rw [phase] at counted
      exact .advanced rfl rfl (by rw [phase]; nofun)
        ⟨accounts.roots, accounts.functions, counted⟩
  | @finished torn report count _ owner advances same phase kind replies =>
      cases same.symm.trans under
      refine .finished rfl phase rfl ?_
      intro detaches
      refine ⟨?_, rfl⟩
      rw [replies]
      cases detaches with
      | inl withContext => rw [withContext]
      | inr withoutContext => rw [withoutContext]
  | @forsaken torn report count same phase kind =>
      cases same.symm.trans under
      refine .finished rfl phase rfl ?_
      intro detaches
      rw [kind] at detaches
      exact detaches.elim nofun nofun

end Moves

/-- What a detach comes to at once, or how it goes on. -/
inductive Begins (attached : Attached Raw Payload) (kind : TeardownKind) :
    Reply Raw Payload → Attached Raw Payload → Prop
  | refused {failure : Failure} {next : Attached Raw Payload}
      (roots : next.shared.roots = attached.shared.roots)
      (functions : next.shared.hostFunctions = attached.shared.hostFunctions)
      (nativeStates :
        next.shared.nativeStates = attached.shared.nativeStates) :
      Begins attached kind (.failed failure) next
  | again (destroyed : attached.shared.gate.state = .destroyed) :
      Begins attached kind (.detached attached.emptyReport) attached
  | begun {next : Attached Raw Payload} {teardown : Teardown Payload}
      (live : attached.shared.gate.state ≠ .destroyed)
      (under : next.teardown = some teardown) (same : teardown.kind = kind)
      (closing : teardown.phase = .closing)
      (accounts : attached.Accounts teardown 0 next) :
      Begins attached kind .begun next

section Begin

variable [DecidableEq Raw] {reply : Reply Raw Payload}

omit [DecidableEq Raw] in
theorem Sound.begins_withContext (sound : attached.Sound) (thread : Nat)
    (supplied : Option Nat) (active : ActiveEntry) :
    Begins attached .withContext
      (attached.detachWithContext thread supplied active).1
      (attached.detachWithContext thread supplied active).2 := by
  unfold detachWithContext
  split
  · exact .refused rfl rfl rfl
  · split
    · exact .refused rfl rfl rfl
    · split
      · exact .refused rfl rfl rfl
      · split
        · rename_i destroyed
          exact .again destroyed
        · rename_i live
          unfold beginCleanup
          cases begins : (attached.withGate
            attached.shared.gate.requestDrain).shared.gate.tryBeginCleanup with
          | mk outcome gate =>
              cases outcome with
              | error error =>
                  simp only [begins]
                  exact .refused rfl rfl rfl
              | ok guard =>
                  simp only [begins]
                  refine .begun live rfl rfl rfl ⟨?_, rfl, rfl⟩
                  exact sound.roots.drain_length

omit [DecidableEq Raw] in
theorem Sound.begins_withoutContext (sound : attached.Sound)
    (thread : Nat) :
    Begins attached .withoutContext
      (attached.detachWithoutContext thread).1
      (attached.detachWithoutContext thread).2 := by
  unfold detachWithoutContext
  split
  · exact .refused rfl rfl rfl
  · split
    · rename_i destroyed
      exact .again destroyed
    · rename_i live
      cases ends : (attached.withGate
        attached.shared.gate.requestDrain).shared.gate.finishDrain with
      | mk outcome gate =>
          cases outcome with
          | error error =>
              simp only [ends]
              exact .refused rfl rfl rfl
          | ok outcome =>
              simp only [ends]
              refine .begun live rfl rfl rfl ⟨?_, rfl, rfl⟩
              exact sound.roots.drain_length

theorem Sound.begins (sound : attached.Sound) {engine : Engine Raw}
    {invocation : Invocation Raw Payload} {kind : TeardownKind}
    (detaches : invocation.op.detaches = some kind)
    (performed : attached.perform engine invocation = some (reply, next)) :
    (kind = .withContext ∨ kind = .withoutContext) ∧
      Begins attached kind reply next := by
  cases invocation with
  | mk thread op =>
      cases op with
      | detachWithContext supplied active =>
          cases detaches
          change (if attached.available && attached.owner = .host then
            some (attached.detachWithContext thread supplied active)
            else none) = _ at performed
          split at performed
          · have begins := sound.begins_withContext thread supplied active
            rw [Option.some.inj performed] at begins
            exact ⟨Or.inl rfl, begins⟩
          · cases performed
      | detachWithoutContext =>
          cases detaches
          change (if attached.available && attached.owner = .host then
            some (attached.detachWithoutContext thread)
            else none) = _ at performed
          split at performed
          · have begins := sound.begins_withoutContext thread
            rw [Option.some.inj performed] at begins
            exact ⟨Or.inr rfl, begins⟩
          · cases performed
      | _ => cases detaches

end Begin

/-! ## The steps of a teardown -/

/-- An upper bound of the steps that are left of a teardown. -/
def remaining (attached : Attached Raw Payload)
    (teardown : Teardown Payload) : Nat :=
  match teardown.phase with
  | .closing =>
      attached.shared.nativeFinalizers.tokens.length +
        attached.shared.nativeStates.live + 3
  | .reclaiming tokens _ =>
      tokens.length + attached.shared.nativeStates.live + 2
  | .retiring states _ _ => states.length + 1

/-- A step of a teardown ends it or brings it closer to its end, and does not
fail. -/
structure Progresses (attached : Attached Raw Payload)
    (teardown : Teardown Payload)
    (result : Reply Raw Payload × Attached Raw Payload) : Prop where
  unfailing : ∀ failure, result.1 ≠ .failed failure
  closer : ∀ torn, result.2.teardown = some torn →
    result.2.remaining torn < attached.remaining teardown

section Progress

theorem remaining_closing {teardown : Teardown Payload}
    (phase : teardown.phase = .closing) : attached.remaining teardown =
      attached.shared.nativeFinalizers.tokens.length +
        attached.shared.nativeStates.live + 3 := by
  rw [remaining, phase]

theorem remaining_reclaiming (attached : Attached Raw Payload)
    {teardown : Teardown Payload}
    {tokens : List NativeId} {report : FinalizerDrain}
    (phase : teardown.phase = .reclaiming tokens report) :
    attached.remaining teardown =
      tokens.length + attached.shared.nativeStates.live + 2 := by
  rw [remaining, phase]

theorem remaining_retiring {teardown : Teardown Payload}
    {states : List (AnyRc Payload)} {report : FinalizerDrain} {count : Nat}
    (phase : teardown.phase = .retiring states report count) :
    attached.remaining teardown = states.length + 1 := by
  rw [remaining, phase]

theorem progresses_retiring (sound : attached.Sound)
    {teardown torn : Teardown Payload} {report : FinalizerDrain}
    {rest : Attached Raw Payload}
    (phase : teardown.phase = .reclaiming [] report)
    (same : rest.shared.nativeStates = attached.shared.nativeStates) :
    attached.Progresses teardown
      (.begun, rest.retireNativeStates torn report) where
  unfailing := nofun
  closer := by
    intro other under
    cases under
    change (rest.shared.nativeStates.drain).2.length + 1 < _
    rw [attached.remaining_reclaiming phase, same, NativeRegistry.drain_values,
      List.length_map, ← sound.nativeStates.live, List.length_nil]
    omega

/-- The end of a teardown finds the gate as it left it. -/
theorem finish_progresses {teardown : Teardown Payload}
    {report : FinalizerDrain} {retired : Nat}
    (guards : teardown.Guards attached.shared.gate)
    (phase : teardown.phase = .retiring [] report retired) :
    attached.Progresses teardown
      (attached.finish teardown report retired) := by
  have ends {result : Reply Raw Payload × Attached Raw Payload}
      (answered : ∀ failure, result.1 ≠ .failed failure)
      (ended : result.2.teardown = none) :
      attached.Progresses teardown result := by
    refine ⟨answered, ?_⟩
    intro torn under
    rw [ended] at under
    cases under
  rw [Teardown.Guards, phase] at guards
  cases kind : teardown.kind with
  | owned =>
      rw [kind] at guards
      simp only [finish, kind, markDestroyed_ok (congrArg Prod.fst guards)]
      exact ends (by intro failure same; cases same) rfl
  | withContext =>
      rw [kind] at guards
      simp only [finish, kind, markDestroyed_ok (congrArg Prod.fst guards)]
      exact ends (by intro failure same; cases same) rfl
  | withoutContext =>
      rw [kind] at guards
      simp only [finish, kind, markDestroyed_ok (congrArg Prod.fst guards)]
      exact ends (by intro failure same; cases same) rfl
  | dropped finished =>
      cases finished with
      | true =>
          simp only [finish, kind]
          exact ends (by intro failure same; cases same) rfl
      | false =>
          simp only [finish, kind]
          exact ends (by intro failure same; cases same) rfl

theorem Sound.advance_progresses (sound : attached.Sound)
    {teardown : Teardown Payload}
    (under : attached.teardown = some teardown) :
    attached.Progresses teardown (attached.advanceTeardown teardown) := by
  obtain ⟨empty, guards⟩ := sound.tearing teardown under
  unfold advanceTeardown
  split
  · rename_i phase
    refine ⟨(by intro failure same; cases same), ?_⟩
    intro torn goesOn
    cases goesOn
    have most : (attached.shared.nativeFinalizers.close).2.length ≤
        attached.shared.nativeFinalizers.tokens.length := by
      unfold FinalizerSignals.close
      split
      · exact Nat.zero_le _
      · exact Nat.le_refl _
    change (attached.shared.nativeFinalizers.close).2.length +
      attached.shared.nativeStates.live + 2 < _
    rw [remaining_closing phase]
    omega
  · rename_i token tokens report phase
    obtain ⟨registry, value, removed, retires⟩ := sound.retires token
    simp only [reclaimOne, removed]
    refine ⟨(by intro failure same; cases same), ?_⟩
    intro torn goesOn
    cases goesOn
    have fewer := retires.live 0
    have before := attached.remaining_reclaiming phase
    rw [List.length_cons] at before
    rw [before]
    change tokens.length + ({ attached with
      shared.nativeStates := registry }.dropState
        value).shared.nativeStates.live + 2 < _
    omega
  · rename_i report phase
    split
    · rename_i owned
      have ends := sound.finishDrain_completed under (Or.inl owned) phase
      simp only [completeCleanup, withGate, ends]
      exact progresses_retiring sound phase rfl
    · rename_i withContext
      have ends := sound.finishDrain_completed under (Or.inr withContext) phase
      simp only [completeCleanup, withGate, ends]
      exact progresses_retiring sound phase rfl
    · exact progresses_retiring sound phase rfl
    · exact progresses_retiring sound phase rfl
  · rename_i state states report retired phase
    refine ⟨(by intro failure same; cases same), ?_⟩
    intro torn goesOn
    cases goesOn
    rw [remaining_retiring rfl, remaining_retiring phase]
    exact Nat.lt_succ_self _
  · rename_i report retired phase
    exact finish_progresses guards phase

/-- A teardown can always take its next step. -/
theorem perform_advance [DecidableEq Raw] (engine : Engine Raw)
    (thread : Nat) :
    attached.perform engine ⟨thread, .advanceTeardown⟩ =
      attached.teardown.map fun teardown =>
        attached.advanceTeardown teardown :=
  rfl

end Progress

/-! ## A detach, from its first step to its last -/

section Runs

variable [DecidableEq Raw] {engine : Engine Raw} {limits : JscRuntimeLimits}
  {trace : List (Exchange (Invocation Raw Payload) (Reply Raw Payload))}

theorem run_hushed
    (run : (attachmentSystem engine limits).Run trace attached) :
    attached.Hushed := by
  refine System.Run.invariant (fun _ attached => attached.Hushed) ?_ ?_ run
  · intro attached fresh
    cases fresh with
    | runtime id address owner context => exact fun _ => rfl
    | attachment id address owner finalEntryPolicy => exact fun _ => rfl
  · intro trace attached exchange next run hushed step
    exact (run_moves run step).hushed hushed

/-- The queue was closed on the way, with some tokens linked in it. -/
def ClosedWith (engine : Engine Raw) (limits : JscRuntimeLimits)
    (begun : Attached Raw Payload)
    (during : List (Exchange (Invocation Raw Payload) (Reply Raw Payload)))
    (linked : Nat) : Prop :=
  ∃ earlier closing later atClose closed teardown,
    during = earlier ++ closing :: later ∧
      (attachmentSystem engine limits).Path begun earlier atClose ∧
      (attachmentSystem engine limits).step atClose closing closed ∧
      atClose.teardown = some teardown ∧ teardown.phase = .closing ∧
      closed.shared.nativeFinalizers.closed = true ∧
      atClose.shared.nativeFinalizers.tokens.length = linked

theorem ClosedWith.snoc {begun : Attached Raw Payload}
    {during : List (Exchange (Invocation Raw Payload) (Reply Raw Payload))}
    {linked : Nat} (closed : ClosedWith engine limits begun during linked)
    (last : Exchange (Invocation Raw Payload) (Reply Raw Payload)) :
    ClosedWith engine limits begun (during ++ [last]) linked := by
  obtain ⟨earlier, closing, later, atClose, after, teardown, split, rest⟩ :=
    closed
  refine ⟨earlier, closing, later ++ [last], atClose, after, teardown, ?_,
    rest⟩
  rw [split, List.append_assoc, List.cons_append]

/-- A detach is under way, or over. -/
inductive Detaching (engine : Engine Raw) (limits : JscRuntimeLimits)
    (before begun : Attached Raw Payload) (kind : TeardownKind)
    (during : List (Exchange (Invocation Raw Payload) (Reply Raw Payload)))
    (attached : Attached Raw Payload) : Prop
  | underWay {teardown : Teardown Payload} {linked : Nat}
      (under : attached.teardown = some teardown)
      (same : teardown.kind = kind)
      (accounts : before.Accounts teardown linked attached)
      (closed : teardown.phase ≠ .closing →
        ClosedWith engine limits begun during linked)
  | past (idle : attached.teardown = none)
      (destroyed : attached.shared.gate.state = .destroyed)

/-- Some steps lead to the end of the teardown under way. -/
def Completes (engine : Engine Raw) (limits : JscRuntimeLimits)
    (attached : Attached Raw Payload) : Prop :=
  ∃ during middle last after,
    (attachmentSystem engine limits).Path attached during middle ∧
      middle.teardown ≠ none ∧
      (attachmentSystem engine limits).step middle last after ∧
      after.teardown = none

theorem Completes.step {next : Attached Raw Payload}
    {exchange : Exchange (Invocation Raw Payload) (Reply Raw Payload)}
    (first : (attachmentSystem engine limits).step attached exchange next)
    (completes : Completes engine limits next) :
    Completes engine limits attached := by
  obtain ⟨during, middle, last, after, path, notOver, step, ends⟩ := completes
  exact ⟨exchange :: during, middle, last, after, .cons first path, notOver,
    step, ends⟩

/-- The steps of a teardown, one after the other, lead to its end. -/
theorem completes
    (run : (attachmentSystem engine limits).Run trace attached)
    (notOver : attached.teardown ≠ none) :
    Completes engine limits attached := by
  obtain ⟨teardown, under⟩ := Option.ne_none_iff_exists'.mp notOver
  generalize bound : attached.remaining teardown = steps
  induction steps using Nat.strongRecOn generalizing attached teardown trace with
  | ind steps inductionHypothesis =>
      have progresses := (run_sound run).advance_progresses under
      have step : (attachmentSystem engine limits).step attached
          ⟨⟨0, .advanceTeardown⟩, (attached.advanceTeardown teardown).1⟩
          (attached.advanceTeardown teardown).2 := by
        change attached.perform engine ⟨0, .advanceTeardown⟩ = _
        rw [perform_advance, under]
        rfl
      cases goesOn : (attached.advanceTeardown teardown).2.teardown with
      | none =>
          exact ⟨[], attached, _, _, .refl _, notOver, step, goesOn⟩
      | some torn =>
          have closer := progresses.closer torn goesOn
          rw [bound] at closer
          exact (inductionHypothesis _ closer (run.snoc step)
            (by rw [goesOn]; nofun) torn goesOn rfl).step step

/-- A detach that is under way ends with what it has counted. -/
theorem Detaching.ended {begun middle after : Attached Raw Payload}
    {kind : TeardownKind}
    {during : List (Exchange (Invocation Raw Payload) (Reply Raw Payload))}
    {last : Exchange (Invocation Raw Payload) (Reply Raw Payload)}
    (detaches : kind = .withContext ∨ kind = .withoutContext)
    (detaching : Detaching engine limits before begun kind during middle)
    (reached : (attachmentSystem engine limits).Run trace middle)
    (notOver : middle.teardown ≠ none)
    (step : (attachmentSystem engine limits).step middle last after)
    (ends : after.teardown = none) :
    ∃ report, last.reply = .detached report ∧
      report.Settles kind before.shared.roots.live
        before.shared.hostFunctions.length before.shared.nativeStates.live ∧
      ClosedWith engine limits begun during
        report.drainedNativeFinalizerSignals ∧
      after.shared.gate.state = .destroyed ∧
      after.shared.nativeStates.live = 0 := by
  cases detaching with
  | past idle destroyed => exact absurd idle notOver
  | @underWay teardown linked under same accounts closed =>
      have tears := (run_moves reached step).tears (run_sound reached)
        (run_hushed reached) under accounts
      cases tears with
      | kept goesOn accounts => exact nomatch ends.symm.trans goesOn
      | closed goesOn kind closing isClosed accounts =>
          exact nomatch ends.symm.trans goesOn
      | advanced goesOn kind notClosing accounts =>
          exact nomatch ends.symm.trans goesOn
      | @finished drain count ends phase nativeStates replies =>
          rw [same] at replies
          obtain ⟨replied, destroyed⟩ := replies detaches
          have counted := accounts.nativeStates
          rw [phase] at counted
          obtain ⟨settled, held, signals⟩ := counted
          refine ⟨_, replied, ?_, ?_, destroyed, ?_⟩
          · rw [← accounts.roots, ← accounts.functions, ← settled]
            cases detaches with
            | inl withContext =>
                rw [withContext] at same ⊢
                exact ⟨by rw [Attached.report, same],
                  by rw [Attached.report, same]⟩
            | inr withoutContext =>
                rw [withoutContext] at same ⊢
                exact ⟨by rw [Attached.report, same],
                  by rw [Attached.report, same]⟩
          · have linkedAt := closed (by rw [phase]; nofun)
            rw [← signals] at linkedAt
            exact linkedAt
          · have sound := run_sound (reached.snoc step)
            rw [sound.nativeStates.live, nativeStates, held]
            rfl

end Runs

end Attached

end RustJsi.BackendJsc
