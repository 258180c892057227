import RustJsi.BackendJsc.NativeStateCalls

/-!
# Frames of installations

Only the four steps of an installation of a native state touch the frame that
waits for the engine to make and to publish its object.
-/

namespace RustJsi.BackendJsc

open Counted

variable {Raw Payload : Type*}

namespace Activation

/-- A call that is installing a native state. -/
def installing : Activation Raw Payload → List (Activation Raw Payload)
  | .creating id => [.creating id]
  | .publishing object id => [.publishing object id]
  | .rolledBack object error => [.rolledBack object error]
  | _ => []

/-- The state a call has in the registry until its object is published. -/
def installs : Activation Raw Payload → List NativeId
  | .creating id => [id]
  | .publishing _ id => [id]
  | _ => []

theorem hold_installing {value : Raw} {holder held : Activation Raw Payload}
    (holds : holder.hold value = some held) :
    holder.installing = [] ∧ held.installing = [] := by
  cases holder with
  | context localRoots scopeDepth =>
      cases holds
      exact ⟨rfl, rfl⟩
  | scope roots =>
      cases holds
      exact ⟨rfl, rfl⟩
  | _ => cases holds

end Activation

/-- The installations under way, each with the number of the calls that wait
below it. -/
def installations : List (Activation Raw Payload) →
    List (Activation Raw Payload × Nat)
  | [] => []
  | frame :: rest =>
      frame.installing.map (fun frame => (frame, rest.length)) ++
        installations rest

theorem installations_bare {frame : Activation Raw Payload}
    (bare : frame.installing = []) (rest : List (Activation Raw Payload)) :
    installations (frame :: rest) = installations rest := by
  rw [installations, bare]
  rfl

theorem installation_height {stack : List (Activation Raw Payload)}
    {installation : Activation Raw Payload × Nat}
    (member : installation ∈ installations stack) :
    installation.2 < stack.length := by
  induction stack with
  | nil => cases member
  | cons frame rest inductionHypothesis =>
      rw [installations] at member
      cases List.mem_append.mp member with
      | inl here =>
          obtain ⟨frame, _, rfl⟩ := List.mem_map.mp here
          exact Nat.lt_succ_self _
      | inr below => exact Nat.lt_succ_of_lt (inductionHypothesis below)

/-- The steps of an installation. -/
def Op.isInstallation : Op Raw Payload → Bool
  | .tryInstallNativeState _ | .makeNativeObject _ _ => true
  | .publishNativeObject _ _ _ | .endRollback => true
  | _ => false

namespace Attached

/-- The installations of an attachment. -/
def installing (attached : Attached Raw Payload) :
    List (Activation Raw Payload × Nat) :=
  installations attached.stack

variable {attached next : Attached Raw Payload} {engine : Engine Raw}
  {reply : Reply Raw Payload} {rest : List (Activation Raw Payload)}

theorem installing_of_top {frame : Activation Raw Payload}
    (top : attached.stack = frame :: rest) (bare : frame.installing = []) :
    attached.installing = installations rest := by
  rw [installing, top, installations_bare bare]

theorem installing_of_eq {answer : Reply Raw Payload × Attached Raw Payload}
    {expected : List (Activation Raw Payload × Nat)}
    (made : answer = (reply, next))
    (same : answer.2.installing = expected) : next.installing = expected := by
  rw [made] at same
  exact same

/-- A computation that may stop the program. -/
theorem orFault_installing {Result : Type*} {result : Except Fault Result}
    {step : Result → Reply Raw Payload × Attached Raw Payload}
    {expected : List (Activation Raw Payload × Nat)}
    (stopped : attached.installing = expected)
    (goes : ∀ value, (step value).2.installing = expected) :
    (attached.orFault result step).2.installing = expected := by
  unfold orFault
  split
  · exact stopped
  · exact goes _

theorem enter_installing (thread : Nat) (supplied : Option Nat)
    (active : ActiveEntry) :
    (attached.enter thread supplied active).2.installing =
      attached.installing := by
  unfold enter
  split
  · rfl
  · split
    · rfl
    · split
      · rfl
      · split <;> rfl

theorem reclaim_installing {tokens : List NativeId} {report : FinalizerDrain}
    (top : attached.stack = .reclaiming tokens report :: rest) :
    (attached.reclaim tokens report rest).2.installing =
      attached.installing := by
  rw [installing_of_top top rfl]
  unfold reclaim
  split <;> rfl

theorem drainRootReleases_installing :
    attached.drainRootReleases.2.installing = attached.installing := by
  unfold drainRootReleases
  split
  · rfl
  · split <;> rfl

theorem openScope_installing (thread : Nat) :
    (attached.openScope thread).2.installing = attached.installing := by
  unfold openScope
  split <;> rfl

theorem withScope_installing (thread scopeDepth : Nat) :
    (attached.withScope thread scopeDepth).2.installing =
      attached.installing := by
  unfold withScope
  split
  · rfl
  · split <;> rfl

theorem close_installing {frame : Activation Raw Payload}
    (top : attached.stack = frame :: rest) (bare : frame.installing = [])
    (roots : LocalRoots Raw) :
    (attached.close roots rest).2.installing = attached.installing := by
  rw [installing_of_top top bare]
  exact orFault_installing (installing_of_top top bare) fun _ => rfl

theorem produce_installing (production : Production)
    (refuse : RuntimeError → Failure) (prepared : Except Failure Unit) :
    (attached.produce production refuse prepared).2.installing =
      attached.installing := by
  unfold produce
  split
  · rfl
  · split
    · exact orFault_installing rfl fun _ => rfl
    · rfl

theorem eval_installing (thread : Nat) (script url : Bool) :
    (attached.eval thread script url).2.installing = attached.installing := by
  unfold eval
  split
  · rfl
  · exact produce_installing _ _ _

theorem callValue_installing (function : JscValue Raw)
    (receiver : Option (JscValue Raw)) (arguments : List (JscValue Raw)) :
    (callValue engine attached function receiver arguments).2.installing =
      attached.installing := by
  unfold callValue
  split
  · rfl
  · split
    · rfl
    · split
      · rfl
      · exact produce_installing _ _ _

/-- The result of an operation is handed to a context or a scope. -/
theorem settle_installing {holder : Activation Raw Payload}
    {reservation : Reservation} {result : Except Failure (Settled Raw)}
    (performed : attached.settle holder rest reservation result =
      some (reply, next))
    (below : attached.installing = installations (holder :: rest)) :
    next.installing = installations (holder :: rest) := by
  unfold settle at performed
  split at performed
  · exact installing_of_eq (Option.some.inj performed)
      (orFault_installing below fun _ => rfl)
  · exact installing_of_eq (Option.some.inj performed)
      (orFault_installing below fun _ => rfl)
  · obtain ⟨held, holds, performed⟩ := Option.map_eq_some_iff.mp performed
    obtain ⟨bare, bareHeld⟩ := Activation.hold_installing holds
    refine installing_of_eq performed
      (orFault_installing below fun _ => ?_)
    rw [installations_bare bare]
    exact installations_bare bareHeld rest

theorem resolve_installing {holder : Activation Raw Payload}
    {lease : RootLease} (top : attached.stack = holder :: rest)
    (performed : resolve engine attached holder rest lease =
      some (reply, next)) : next.installing = attached.installing := by
  have below : attached.installing = installations (holder :: rest) :=
    congrArg installations top
  unfold resolve at performed
  split at performed
  · cases performed
    rfl
  · split at performed
    · cases performed
      rfl
    · split at performed
      · cases performed
        rfl
      · rw [below]
        exact settle_installing performed below

theorem resolveRoot_installing {holder : Activation Raw Payload}
    {root : JscRoot} (top : attached.stack = holder :: rest)
    (performed : attached.resolveRoot holder rest root =
      some (reply, next)) : next.installing = attached.installing := by
  have below : attached.installing = installations (holder :: rest) :=
    congrArg installations top
  unfold resolveRoot at performed
  split at performed
  · cases performed
    rfl
  · split at performed
    · cases performed
      rfl
    · split at performed
      · cases performed
        rfl
      · rw [below]
        exact settle_installing performed below

theorem persist_installing (thread : Nat) (value : Local Raw) :
    (attached.persist thread value).2.installing = attached.installing := by
  unfold persist
  split
  · rfl
  · split
    · rfl
    · split <;> rfl

theorem persistValue_installing (value : JscValue Raw) :
    (attached.persistValue value).2.installing = attached.installing := by
  unfold persistValue
  split
  · rfl
  · split <;> rfl

theorem release_installing (root : JscRoot) :
    (attached.release root).2.installing = attached.installing := by
  unfold release
  split
  · rfl
  · split <;> rfl

theorem abandonCall_installing {call : CallFrame Raw}
    (top : attached.stack = .calling call :: rest) :
    (attached.abandonCall call rest reply).2.installing =
      attached.installing := by
  rw [installing_of_top top rfl]
  have below := installing_of_top top rfl
  exact orFault_installing below fun _ =>
    orFault_installing below fun _ => rfl

theorem prepareArgument_installing {call : CallFrame Raw} {created : Bool}
    {value : Option Raw} (top : attached.stack = .calling call :: rest)
    (performed : attached.prepareArgument call rest created value =
      some (reply, next)) : next.installing = attached.installing := by
  have below := installing_of_top top rfl
  unfold prepareArgument at performed
  split at performed
  · cases performed
  · split at performed
    · exact installing_of_eq (Option.some.inj performed)
        (abandonCall_installing top)
    · split at performed
      · exact installing_of_eq (Option.some.inj performed)
          (abandonCall_installing top)
      · cases performed
        exact below.symm
  · cases performed
    exact below.symm

section Calls

variable [DecidableEq Raw]

theorem call_installing (function : HostFunction Raw)
    (arguments : List Value) :
    (attached.call function arguments).2.installing =
      attached.installing := by
  unfold call
  split
  · rfl
  · split
    · rfl
    · split
      · rfl
      · split
        · rfl
        · split
          · exact orFault_installing rfl fun _ => rfl
          · rfl

omit [DecidableEq Raw] in
theorem called_installing {call : CallFrame Raw}
    {holder : Activation Raw Payload} {value : Option Raw}
    {exception : Option JsException}
    (top : attached.stack = .calling call :: holder :: rest)
    (performed : called engine attached call holder rest value exception =
      some (reply, next)) : next.installing = attached.installing := by
  obtain ⟨⟨answer, settled⟩, settles, performed⟩ :=
    Option.map_eq_some_iff.mp performed
  have below := installing_of_top top rfl
  rw [below]
  have same := settle_installing settles below
  exact installing_of_eq performed (orFault_installing same fun _ => same)

theorem installHostFunction_installing (thread : Nat) (name : Bool)
    (function : Option Raw) :
    (attached.installHostFunction thread name function).2.installing =
      attached.installing := by
  unfold installHostFunction
  split
  · rfl
  · split
    · rfl
    · split
      · rfl
      · split <;> rfl

theorem publishHostFunction_installing {function : Raw}
    (top : attached.stack = .registering function :: rest) (global : Bool)
    (exception : Option JsException) :
    (attached.publishHostFunction function rest global exception).2.installing
      = attached.installing := by
  rw [installing_of_top top rfl]
  unfold publishHostFunction
  split
  · rfl
  · split <;> rfl

omit [DecidableEq Raw] in
theorem withNativeState_installing (thread : Nat) (handle : NativeObject) :
    (attached.withNativeState thread handle).2.installing =
      attached.installing := by
  unfold withNativeState
  split
  · rfl
  · split
    · rfl
    · split
      · rfl
      · split <;> rfl

omit [DecidableEq Raw] in
theorem beginCleanup_installing (kind : TeardownKind) :
    (attached.beginCleanup kind).2.installing = attached.installing := by
  unfold beginCleanup
  simp only
  split <;> rfl

omit [DecidableEq Raw] in
theorem invalidate_installing (thread : Nat) (context : Option Nat)
    (active : ActiveEntry) (independent : Bool) :
    (attached.invalidate thread context active independent).2.installing =
      attached.installing := by
  unfold invalidate destroyOwnedRuntime
  split
  · rfl
  · split
    · rfl
    · split
      · rfl
      · split
        · split
          · rfl
          · exact beginCleanup_installing _
        · exact beginCleanup_installing _

omit [DecidableEq Raw] in
theorem detachWithContext_installing (thread : Nat) (supplied : Option Nat)
    (active : ActiveEntry) :
    (attached.detachWithContext thread supplied active).2.installing =
      attached.installing := by
  unfold detachWithContext
  split
  · rfl
  · split
    · rfl
    · split
      · rfl
      · split
        · rfl
        · exact beginCleanup_installing _

omit [DecidableEq Raw] in
theorem detachWithoutContext_installing (thread : Nat) :
    (attached.detachWithoutContext thread).2.installing =
      attached.installing := by
  unfold detachWithoutContext
  split
  · rfl
  · split
    · rfl
    · simp only
      split <;> rfl

omit [DecidableEq Raw] in
theorem dropAttachment_installing :
    attached.dropAttachment.2.installing = attached.installing := by
  unfold dropAttachment
  simp only
  split
  · rfl
  · split <;> rfl

omit [DecidableEq Raw] in
theorem dropState_installing (state : Option (AnyRc Payload)) :
    (attached.dropState state).installing = attached.installing := by
  cases state <;> rfl

omit [DecidableEq Raw] in
theorem finish_installing (teardown : Teardown Payload)
    (drain : FinalizerDrain) (count : Nat) :
    (attached.finish teardown drain count).2.installing =
      attached.installing := by
  unfold finish
  simp only
  split
  · rfl
  · rfl
  · split <;> rfl
  · split <;> rfl
  · split <;> rfl

omit [DecidableEq Raw] in
theorem advanceTeardown_installing (teardown : Teardown Payload) :
    (attached.advanceTeardown teardown).2.installing =
      attached.installing := by
  unfold advanceTeardown
  split
  · rfl
  · exact dropState_installing _
  · split
    · unfold completeCleanup
      simp only
      split <;> rfl
    · unfold completeCleanup
      simp only
      split <;> rfl
    · rfl
    · rfl
  · rfl
  · exact finish_installing _ _ _

/-- Every other operation leaves the installations as they are. -/
theorem perform_installing {invocation : Invocation Raw Payload}
    (performed : attached.perform engine invocation = some (reply, next))
    (other : invocation.op.isInstallation = false) :
    next.installing = attached.installing := by
  unfold perform at performed
  split at performed
  · split at performed
    · exact installing_of_eq (Option.some.inj performed)
        (enter_installing _ _ _)
    · cases performed
  · rename_i top
    cases performed
    exact (installing_of_top top rfl).symm
  · cases performed
    rfl
  · rename_i top
    exact installing_of_eq (Option.some.inj performed)
      (reclaim_installing top)
  · exact installing_of_eq (Option.some.inj performed)
      drainRootReleases_installing
  · cases performed
    rfl
  · exact installing_of_eq (Option.some.inj performed)
      (openScope_installing _)
  · exact installing_of_eq (Option.some.inj performed)
      (withScope_installing _ _)
  · rename_i top
    exact installing_of_eq (Option.some.inj performed)
      (close_installing top rfl _)
  · rename_i top
    exact installing_of_eq (Option.some.inj performed)
      (close_installing top rfl _)
  · exact installing_of_eq (Option.some.inj performed)
      (eval_installing _ _ _)
  · exact installing_of_eq (Option.some.inj performed)
      (produce_installing _ _ _)
  · exact installing_of_eq (Option.some.inj performed)
      (produce_installing _ _ _)
  · exact installing_of_eq (Option.some.inj performed)
      (callValue_installing _ _ _)
  · exact installing_of_eq (Option.some.inj performed)
      (produce_installing _ _ _)
  · rename_i top
    have below := installing_of_top top rfl
    split at performed
    · cases performed
    · rw [below]
      exact settle_installing performed below
  · rename_i top
    have below := installing_of_top top rfl
    split at performed
    · rw [below]
      exact settle_installing performed below
    · cases performed
  · rename_i top
    exact resolve_installing top performed
  · rename_i top
    exact resolveRoot_installing top performed
  · exact installing_of_eq (Option.some.inj performed)
      (persist_installing _ _)
  · exact installing_of_eq (Option.some.inj performed)
      (persistValue_installing _)
  · exact installing_of_eq (Option.some.inj performed)
      (release_installing _)
  · cases performed
    rfl
  · exact installing_of_eq (Option.some.inj performed)
      (call_installing _ _)
  · rename_i top
    exact prepareArgument_installing top performed
  · rename_i top
    split at performed
    · exact called_installing top performed
    · cases performed
  · rename_i top
    have below := installing_of_top top rfl
    rw [below]
    exact installing_of_eq (Option.some.inj performed)
      (orFault_installing below fun _ => rfl)
  · rename_i top
    exact installing_of_eq (Option.some.inj performed)
      (abandonCall_installing top)
  · split at performed
    · exact installing_of_eq (Option.some.inj performed)
        (installHostFunction_installing _ _ _)
    · cases performed
  · rename_i top
    exact installing_of_eq (Option.some.inj performed)
      (publishHostFunction_installing top _ _)
  · rename_i called _
    rw [called] at other
    cases other
  · rename_i called _
    rw [called] at other
    cases other
  · rename_i called _
    rw [called] at other
    cases other
  · rename_i called _
    rw [called] at other
    cases other
  · exact installing_of_eq (Option.some.inj performed)
      (withNativeState_installing _ _)
  · rename_i top
    cases performed
    exact (installing_of_top top rfl).symm
  · cases performed
    rfl
  · split at performed
    · split at performed
      · exact installing_of_eq (Option.some.inj performed)
          (invalidate_installing _ _ _ _)
      · cases performed
    · cases performed
  · split at performed
    · split at performed
      · exact installing_of_eq (Option.some.inj performed)
          (beginCleanup_installing _)
      · cases performed
    · cases performed
  · split at performed
    · exact installing_of_eq (Option.some.inj performed)
        (detachWithContext_installing _ _ _)
    · cases performed
  · split at performed
    · exact installing_of_eq (Option.some.inj performed)
        (detachWithoutContext_installing _)
    · cases performed
  · split at performed
    · exact installing_of_eq (Option.some.inj performed)
        dropAttachment_installing
    · cases performed
  · obtain ⟨teardown, _, performed⟩ := Option.map_eq_some_iff.mp performed
    exact installing_of_eq performed (advanceTeardown_installing _)
  · cases performed

end Calls

end Attached

end RustJsi.BackendJsc
