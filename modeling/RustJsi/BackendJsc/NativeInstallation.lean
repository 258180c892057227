import RustJsi.BackendJsc.NativeFrames
import RustJsi.BackendJsc.NativeStateIdentity
import RustJsi.Nested.CallStack

/-!
# An installation of a native state

A state is returned, destroyed or installed, whatever the code does that runs
while its object is published.
-/

namespace RustJsi.BackendJsc

open Counted Generational Interleaving Nested

variable {Raw Payload : Type*}

theorem Activation.eq_of_installing {frame other : Activation Raw Payload}
    (member : other ∈ frame.installing) : other = frame := by
  cases frame with
  | creating id => exact List.mem_singleton.mp member
  | publishing object id => exact List.mem_singleton.mp member
  | rolledBack object error => exact List.mem_singleton.mp member
  | _ => cases member

/-- An installation is the call made last, or one that waits below it. -/
theorem installations_cases {top frame : Activation Raw Payload}
    {rest : List (Activation Raw Payload)} {height : Nat}
    (member : (frame, height) ∈ installations (top :: rest)) :
    (frame = top ∧ height = rest.length) ∨
      (frame, height) ∈ installations rest := by
  rw [installations] at member
  cases List.mem_append.mp member with
  | inl here =>
      obtain ⟨installing, among, same⟩ := List.mem_map.mp here
      obtain ⟨rfl, rfl⟩ := Prod.mk.inj same
      exact Or.inl ⟨Activation.eq_of_installing among, rfl⟩
  | inr below => exact Or.inr below

/-- Two installations of the same height are one. -/
theorem installation_unique {stack : List (Activation Raw Payload)}
    {first second : Activation Raw Payload} {height : Nat}
    (one : (first, height) ∈ installations stack)
    (two : (second, height) ∈ installations stack) : first = second := by
  induction stack with
  | nil => cases one
  | cons frame rest inductionHypothesis =>
      cases installations_cases one with
      | inl here =>
          obtain ⟨rfl, rfl⟩ := here
          cases installations_cases two with
          | inl also => exact also.1.symm
          | inr below =>
              exact absurd (installation_height below) (Nat.lt_irrefl _)
      | inr below =>
          cases installations_cases two with
          | inl also =>
              obtain ⟨rfl, rfl⟩ := also
              exact absurd (installation_height below) (Nat.lt_irrefl _)
          | inr also => exact inductionHypothesis below also

namespace Attached

/-- What a step does to the installations. -/
inductive Installs (attached : Attached Raw Payload) :
    Reply Raw Payload → Attached Raw Payload → Prop
  | kept {reply : Reply Raw Payload} {next : Attached Raw Payload}
      (same : next.installing = attached.installing) :
      Installs attached reply next
  | accepted {state : NativeState Payload} {id : NativeId}
      {next : Attached Raw Payload}
      (accepts : attached.Accepts state id next) :
      Installs attached .begun next
  | refused {id : NativeId} {error : JsError}
      {rest : List (Activation Raw Payload)}
      (top : attached.stack = .creating id :: rest) :
      Installs attached (.failed (.js error))
        ((attached.removeNativeState id).withStack rest)
  | made {object : Raw} {id : NativeId}
      {rest : List (Activation Raw Payload)}
      (top : attached.stack = .creating id :: rest) :
      Installs attached .begun
        ((attached.protect object).withStack
          (.publishing object id :: rest))
  | rolledBack {object : Raw} {id : NativeId} {error : JsError}
      {rest : List (Activation Raw Payload)}
      (top : attached.stack = .publishing object id :: rest) :
      Installs attached .begun
        ((attached.removeNativeState id).withStack
          (.rolledBack object error :: rest))
  | published {object : Raw} {id : NativeId}
      {rest : List (Activation Raw Payload)}
      (top : attached.stack = .publishing object id :: rest) :
      Installs attached (.installedState id)
        ((attached.unprotect object).withStack rest)
  | ended {object : Raw} {error : JsError}
      {rest : List (Activation Raw Payload)}
      (top : attached.stack = .rolledBack object error :: rest) :
      Installs attached (.failed (.js error))
        ((attached.unprotect object).withStack rest)

section Steps

variable [DecidableEq Raw] {attached next : Attached Raw Payload}
  {engine : Engine Raw} {reply : Reply Raw Payload} {id : NativeId}

theorem Sound.installs (handsBack : engine.HandsBack)
    (sound : attached.Sound) {invocation : Invocation Raw Payload}
    (performed : attached.perform engine invocation = some (reply, next)) :
    attached.Installs reply next := by
  obtain ⟨thread, op⟩ := invocation
  cases other : op.isInstallation with
  | false => exact .kept (perform_installing performed other)
  | true =>
      cases op with
      | tryInstallNativeState state =>
          obtain ⟨_, outcome⟩ := sound.tryInstallNativeState_cases performed
          rcases outcome with ⟨error, _, rfl, _⟩ | ⟨id, rfl, accepts, _⟩
          · exact .kept rfl
          · exact .accepted accepts
      | makeNativeObject made object =>
          obtain ⟨id, rest, top, outcome⟩ := makeNativeObject_cases performed
          rcases outcome with ⟨error, rfl, rfl⟩ | ⟨raw, _, rfl, rfl⟩
          · exact .refused top
          · exact .made top
      | publishNativeObject name global exception =>
          obtain ⟨raw, id, rest, top, outcome⟩ :=
            publishNativeObject_cases handsBack performed
          rcases outcome with ⟨error, rfl, rfl⟩ | ⟨rfl, rfl⟩
          · exact .rolledBack top
          · exact .published top
      | endRollback =>
          obtain ⟨raw, error, rest, top, rfl, rfl⟩ :=
            endRollback_cases performed
          exact .ended top
      | _ => cases other

omit [DecidableEq Raw] in
/-- An installation goes on, or it was the call made last. -/
theorem Installs.persists {frame : Activation Raw Payload} {height : Nat}
    (installs : attached.Installs reply next)
    (member : (frame, height) ∈ attached.installing) :
    (frame, height) ∈ next.installing ∨
      ∃ rest, attached.stack = frame :: rest ∧ height = rest.length := by
  have split {top : Activation Raw Payload}
      {rest : List (Activation Raw Payload)}
      (stack : attached.stack = top :: rest)
      (goes : (frame, height) ∈ installations rest →
        (frame, height) ∈ next.installing) :
      (frame, height) ∈ next.installing ∨
        ∃ rest, attached.stack = frame :: rest ∧ height = rest.length := by
    rw [installing, stack] at member
    cases installations_cases member with
    | inl here =>
        obtain ⟨rfl, same⟩ := here
        exact Or.inr ⟨rest, stack, same⟩
    | inr below => exact Or.inl (goes below)
  cases installs with
  | kept same =>
      rw [same]
      exact Or.inl member
  | accepted accepts =>
      rw [accepts.same]
      exact Or.inl (List.mem_cons_of_mem _ member)
  | refused top => exact split top id
  | made top => exact split top (List.mem_cons_of_mem _)
  | rolledBack top => exact split top (List.mem_cons_of_mem _)
  | published top => exact split top id
  | ended top => exact split top id

end Steps

/-- The identities that are being installed. -/
def installingIds (attached : Attached Raw Payload) : List NativeId :=
  attached.installing.flatMap fun installation => installation.1.installs

theorem installingIds_cons {attached : Attached Raw Payload}
    {frame : Activation Raw Payload} {rest : List (Activation Raw Payload)}
    (stack : attached.stack = frame :: rest) :
    attached.installingIds = frame.installs ++
      (installations rest).flatMap
        fun installation => installation.1.installs := by
  rw [installingIds, installing, stack, installations, List.flatMap_append]
  cases frame <;> rfl

/-- The identities that are being installed were handed out, once each. -/
structure InstallsOnce (issued : List (NativeId × AnyRc Payload))
    (attached : Attached Raw Payload) : Prop where
  nodup : attached.installingIds.Nodup
  issued : ∀ id ∈ attached.installingIds, id ∈ issued.map Prod.fst

section Ids

variable {attached next : Attached Raw Payload} {reply : Reply Raw Payload}
  {issued issuing : List (NativeId × AnyRc Payload)} {id : NativeId}

/-- Nothing more is being installed. -/
theorem InstallsOnce.fewer (once : attached.InstallsOnce issued)
    (fewer : next.installingIds.Sublist attached.installingIds) :
    next.InstallsOnce (issued ++ issuing) where
  nodup := once.nodup.sublist fewer
  issued := by
    intro id member
    rw [List.map_append]
    exact List.mem_append_left _ (once.issued id (fewer.subset member))

theorem InstallsOnce.accepted {state : NativeState Payload}
    (once : attached.InstallsOnce issued)
    (accepts : attached.Accepts state id next)
    (fresh : id ∉ issued.map Prod.fst) {value : AnyRc Payload} :
    next.InstallsOnce (issued ++ [(id, value)]) := by
  have ids : next.installingIds = id :: attached.installingIds := by
    have stack : next.stack = .creating id :: attached.stack := by
      rw [accepts.same]
    rw [installingIds_cons stack]
    rfl
  constructor
  · rw [ids, List.nodup_cons]
    exact ⟨fun among => fresh (once.issued id among), once.nodup⟩
  · intro other among
    rw [ids] at among
    rw [List.map_append]
    cases List.mem_cons.mp among with
    | inl same =>
        rw [same]
        exact List.mem_append_right _ (List.mem_singleton.mpr rfl)
    | inr before => exact List.mem_append_left _ (once.issued other before)

/-- Two installations of one identity are one. -/
theorem InstallsOnce.unique (once : attached.InstallsOnce issued)
    {first second : Activation Raw Payload × Nat}
    (one : first ∈ attached.installing) (two : second ∈ attached.installing)
    (installs : id ∈ first.1.installs) (also : id ∈ second.1.installs) :
    first = second := by
  by_contra apart
  have disjoint := (List.nodup_flatMap.mp once.nodup).2
  have symmetric : Std.Symm (Function.onFun List.Disjoint
      fun installation : Activation Raw Payload × Nat =>
        installation.1.installs) :=
    ⟨fun _ _ separate => separate.symm⟩
  exact disjoint.forall one two apart installs also

/-- No step but an acceptance installs anything more. -/
theorem Installs.installingIds (installs : attached.Installs reply next) :
    next.installingIds.Sublist attached.installingIds ∨
      ∃ state id, attached.Accepts state id next := by
  have popped {frame : Activation Raw Payload}
      {rest : List (Activation Raw Payload)}
      (top : attached.stack = frame :: rest) (stack : next.stack = rest) :
      next.installingIds.Sublist attached.installingIds := by
    rw [installingIds_cons top, Attached.installingIds, installing, stack]
    exact List.sublist_append_right _ _
  cases installs with
  | kept same =>
      refine Or.inl ?_
      rw [Attached.installingIds, same]
      exact List.Sublist.refl _
  | accepted accepts => exact Or.inr ⟨_, _, accepts⟩
  | refused top => exact Or.inl (popped top rfl)
  | @made object id rest top =>
      refine Or.inl ?_
      rw [installingIds_cons top, installingIds_cons rfl]
      exact List.Sublist.refl _
  | rolledBack top =>
      refine Or.inl ?_
      rw [installingIds_cons top, installingIds_cons rfl]
      exact List.sublist_append_right _ _
  | published top => exact Or.inl (popped top rfl)
  | ended top => exact Or.inl (popped top rfl)

end Ids

section Runs

variable [DecidableEq Raw] {engine : Engine Raw} {limits : JscRuntimeLimits}
  {trace : List (Exchange (Invocation Raw Payload) (Reply Raw Payload))}
  {attached : Attached Raw Payload}

theorem run_installsOnce (handsBack : engine.HandsBack)
    (run : (attachmentSystem engine limits).Run trace attached) :
    ∃ issued returned, attached.Ledgered issued returned ∧
      attached.InstallsOnce issued := by
  refine System.Run.invariant
    (fun _ attached => ∃ issued returned,
      attached.Ledgered issued returned ∧ attached.InstallsOnce issued)
    ?_ ?_ run
  · intro attached fresh
    cases fresh with
    | runtime id address owner context =>
        exact ⟨[], [], ⟨Store.ledger_empty, rfl⟩, List.nodup_nil,
          List.forall_mem_nil _⟩
    | attachment id address owner finalEntryPolicy =>
        exact ⟨[], [], ⟨Store.ledger_empty, rfl⟩, List.nodup_nil,
          List.forall_mem_nil _⟩
  · intro trace attached exchange next run accounted step
    obtain ⟨issued, returned, ledgered, once⟩ := accounted
    cases ((run_sound run).installs handsBack step).installingIds with
    | inl fewer =>
        obtain ⟨issuing, returning, ledgered⟩ :=
          ledgered.performed (run_moves run step)
        exact ⟨_, _, ledgered, once.fewer fewer⟩
    | inr accepted =>
        obtain ⟨state, id, accepts⟩ := accepted
        have ledgered := accepts.ledgered ledgered
        refine ⟨_, _, ledgered, once.accepted accepts ?_⟩
        intro before
        have twice := ledgered.ledger.issuedOnce
        rw [List.map_append, List.nodup_append] at twice
        exact twice.2.2 id before id (List.mem_singleton.mpr rfl) rfl

end Runs

end Attached

end RustJsi.BackendJsc
