import RustJsi.BackendJsc.CallbackInstallation

/-!
# An installation is all or nothing

An installation that succeeds adds one registration with one protection.  One
that fails leaves both as they were, and destroys its callback once, after they
are gone.  A teardown destroys what is left.
-/

namespace RustJsi.BackendJsc

open Counted Interleaving Nested

variable {Raw Payload : Type*} [DecidableEq Raw]

namespace Attached

/-- The protections of a value that no persistent root accounts for. -/
def besideRoots (attached : Attached Raw Payload) (value : Raw) : Int :=
  attached.protections.count value -
    (attached.shared.roots.store.held.map Prod.snd).count value

/-- Each host function accounts for one protection. -/
theorem besideRoots_eq {attached : Attached Raw Payload}
    (balanced : attached.Balanced) (ended : attached.Ended)
    (live : ¬attached.Torn) (value : Raw) :
    attached.besideRoots value =
      attached.shared.hostFunctions.count value +
        attached.named Activation.protects value := by
  have usable : attached.abandoned = [] := by
    apply ended.usable
    · by_contra torn
      exact live (Or.inl torn)
    · exact fun torn => live (Or.inr (Or.inl torn))
    · exact fun torn => live (Or.inr (Or.inr torn))
  have counted := balanced value
  rw [owed, usable, List.count_nil] at counted
  rw [besideRoots, Protections.count]
  omega

end Attached

namespace Hosted

variable {hosted next : Hosted Raw Payload} {limits : JscRuntimeLimits}
  {engine : Engine Raw}
  {trace : List (Exchange (HostedOp Raw Payload) (HostedReply Raw Payload))}

omit [DecidableEq Raw] in
/-- A callback that is refused is destroyed. -/
theorem Sound.refuse_destroyed [DecidableEq Raw] (sound : hosted.Sound limits) :
    hosted.refuse.callbacks.destroyed =
      hosted.callbacks.destroyed ++ [hosted.callbacks.strong.length] := by
  apply sound.owned.alloc.drop_last
  intro owner
  exact absurd (sound.owned.bound owner) (Nat.lt_irrefl _)

/-- An installation fails at once, or goes on with the function that the
engine has made. -/
theorem install_replies {thread : Nat} {name : Bool} {answer : Option Raw}
    {panics : Bool} {reply : HostedReply Raw Payload}
    (performed : hosted.perform engine
      (.attachment ⟨thread, .installHostFunction name answer⟩ panics) =
        some (reply, next)) :
    (∃ failure, reply = .attachment (.failed failure) ∧
      next = hosted.refuse) ∨
    reply = .attachment .begun := by
  simp only [perform] at performed
  cases outcome : hosted.attached.perform engine
      ⟨thread, .installHostFunction name answer⟩ with
  | none =>
      simp only [outcome] at performed
      cases performed
  | some result =>
      obtain ⟨inner, attached⟩ := result
      simp only [outcome] at performed
      split at performed
      · cases performed
        obtain ⟨waits, outcome⟩ := Attached.installHostFunction_cases outcome
        rcases outcome with ⟨failure, rfl, rfl⟩ |
          ⟨function, rfl, fresh, room, rfl, rfl⟩
        · exact Or.inl ⟨failure, rfl, rfl⟩
        · exact Or.inr rfl
      · cases performed

/-- At its limit the registry refuses without asking the engine. -/
theorem install_limited (sound : hosted.Sound limits)
    (full : limits.hostFunctions ≤ hosted.hostFunctions.keys.length)
    (thread : Nat) :
    ∃ error, (hosted.attached.shared.ensureActive thread = .ok () →
        error = .hostFunctionLimitReached) ∧
      ∀ name function,
        hosted.attached.installHostFunction thread name function =
          (.failed (.js (.runtime error)), hosted.attached) := by
  rw [sound.keys, ← sound.limit] at full
  cases active : hosted.attached.shared.ensureActive thread with
  | error error =>
      refine ⟨error, ?_, ?_⟩
      · intro ok
        cases ok
      · intro name function
        simp only [Attached.installHostFunction, active]
  | ok _ =>
      refine ⟨.hostFunctionLimitReached, fun _ => rfl, ?_⟩
      intro name function
      simp only [Attached.installHostFunction, active, ge_iff_le, full,
        if_true]

/-- Once a teardown has begun, only what it has still to drop is owned. -/
theorem Sound.owners_torn (sound : hosted.Sound limits)
    (torn : hosted.attached.Torn) : hosted.owners = hosted.dropping := by
  obtain ⟨empty, nothing⟩ := sound.torn torn
  rw [owners, nothing, sound.quiet empty]
  rfl

/-- The next callback is destroyed, whether its destructor panics or not. -/
theorem Sound.drops (sound : hosted.Sound limits) {index callback : Nat}
    (found : hosted.dropping[index]? = some callback) (panics : Bool) :
    ∃ next, hosted.perform engine (.dropNext index panics) =
        some (.done, next) ∧
      next.dropping = hosted.dropping.eraseIdx index ∧
      next.callbacks.destroyed = hosted.callbacks.destroyed ++ [callback] := by
  have something : hosted.dropping ≠ [] := by
    intro nothing
    rw [nothing] at found
    cases found
  have owners := sound.owners_torn (sound.dropped something)
  obtain ⟨bound, here⟩ := List.getElem?_eq_some_iff.mp found
  have taken := List.getElem_cons_eraseIdx_perm bound
  rw [here] at taken
  have apart := (sound.apart.sublist (List.sublist_append_right _ _))
  have alone := (List.nodup_cons.mp (taken.nodup_iff.mpr apart)).1
  have owned := sound.owned
  rw [owners] at owned
  refine ⟨({ hosted with
    dropping := hosted.dropping.eraseIdx index } :
      Hosted Raw Payload).dropCallback callback panics, ?_, rfl,
    (owned.perm taken.symm).drop_last alone⟩
  simp only [perform, Hosted.dropNext, found, Option.map_some]

/-- A teardown that has dropped everything has destroyed every callback. -/
theorem Sound.all_destroyed (sound : hosted.Sound limits)
    (torn : hosted.attached.Torn) (finished : hosted.dropping = [])
    {callback : Nat} (passed : callback < hosted.callbacks.strong.length) :
    hosted.callbacks.destroyed.count callback = 1 := by
  have owners := sound.owners_torn torn
  have owned := sound.owned
  rw [owners, finished] at owned
  have member := owned.settled passed List.not_mem_nil
  exact List.count_eq_one_of_mem owned.once member

/-- A teardown takes every callback that is registered when it begins. -/
theorem Changes.takes {op : HostedOp Raw Payload}
    {reply : HostedReply Raw Payload} (changes : hosted.Changes op reply next)
    (live : ¬hosted.attached.Torn) (torn : next.attached.Torn) :
    next.dropping = hosted.hostFunctions.callbacks ∧
      next.callbacks = hosted.callbacks := by
  cases changes with
  | kept functions frames same nothing => exact absurd (same.mp torn) live
  | registered fresh functions stack same nothing =>
      exact absurd (same.mp torn) live
  | published top functions same replied something =>
      exact absurd (same.mp torn) live
  | rolledBack top heights rollback attachment same replied nothing =>
      exact absurd (same.mp torn) live
  | taken idle empty same callbacks dropping => exact ⟨dropping, callbacks⟩

/-- A teardown goes on when every callback is dropped. -/
theorem advance_waits {thread : Nat} {panics : Bool}
    {reply : HostedReply Raw Payload}
    (performed : hosted.perform engine
      (.attachment ⟨thread, .advanceTeardown⟩ panics) = some (reply, next)) :
    hosted.dropping = [] := by
  simp only [perform] at performed
  split at performed
  · cases performed
  · split at performed
    · rename_i admitted
      exact List.isEmpty_iff.mp admitted
    · cases performed

/-! ## What an installation leaves -/

section Outcomes

variable (before middle : Hosted Raw Payload) (function : Raw)
  (during : List (Exchange (HostedOp Raw Payload) (HostedReply Raw Payload)))
  (after : Hosted Raw Payload)

/-- The callback that an installation is passed. -/
abbrev passed : Nat := before.callbacks.strong.length

/-- The registry is what it was, with what other installations have added, and
the callback was destroyed when its registration and its protection were
gone. -/
structure Rejected : Prop where
  functions : after.hostFunctions.keys.Perm
    (before.hostFunctions.keys ++ during.flatMap installed)
  protections : ∀ value, after.attached.besideRoots value =
    before.attached.besideRoots value + (during.flatMap installed).count value
  destroyed : ∃ rolledBack : Hosted Raw Payload, ∃ panics,
    rolledBack.hostFunctions.lookup function = none ∧
    function ∉ rolledBack.attached.shared.hostFunctions ∧
    rolledBack.attached.protections.unprotectCalls =
      middle.attached.protections.unprotectCalls ++ [function] ∧
    before.passed ∉ rolledBack.callbacks.destroyed ∧
    after = rolledBack.dropCallback before.passed panics ∧
    after.callbacks.destroyed =
      rolledBack.callbacks.destroyed ++ [before.passed]

/-- The registry has one function more, with its callback and one
protection. -/
structure Accepted : Prop where
  functions : after.hostFunctions.keys.Perm
    (function :: (before.hostFunctions.keys ++ during.flatMap installed))
  protections : ∀ value, after.attached.besideRoots value =
    before.attached.besideRoots value +
      (function :: during.flatMap installed).count value
  registered : after.hostFunctions.lookup function = some before.passed
  alive : before.passed ∉ after.callbacks.destroyed

end Outcomes

section Installations

variable {before begun middle after : Hosted Raw Payload} {function : Raw}
  {during : List (Exchange (HostedOp Raw Payload)
    (HostedReply Raw Payload))}
  {last : Exchange (HostedOp Raw Payload) (HostedReply Raw Payload)}

/-- The registry after an installation, with the functions that were installed
meanwhile. -/
theorem Installation.functions
    (installation : Installation engine limits before begun function during
      middle last after)
    (run : (hostedSystem engine limits).Run trace before) :
    after.hostFunctions.keys.Perm (before.hostFunctions.keys ++
      (during.flatMap installed ++ installed last)) := by
  have sound := run_sound run
  have waits := (installation.begun_publishes sound).1
  obtain ⟨first, none, begunRun, _⟩ := installation.reached run
  have afterRun := (begunRun.append installation.during.path).snoc
    installation.ends
  have same := (installation.ended run).2.1
  have earlier := run_accounted run (sound.live waits)
  have later := run_accounted afterRun ((run_sound afterRun).live (by
    rw [same]
    exact waits))
  rw [same, List.flatMap_append, List.flatMap_append, List.flatMap_append,
    List.flatMap_singleton, List.flatMap_singleton, none, List.append_nil,
    List.append_assoc, ← List.append_assoc] at later
  exact later.trans (earlier.symm.append_right _)

theorem Installation.protections
    (installation : Installation engine limits before begun function during
      middle last after)
    (run : (hostedSystem engine limits).Run trace before) (value : Raw) :
    after.attached.besideRoots value = before.attached.besideRoots value +
      (during.flatMap installed ++ installed last).count value := by
  have sound := run_sound run
  have waits := (installation.begun_publishes sound).1
  obtain ⟨first, _, begunRun, _⟩ := installation.reached run
  have afterSound := run_sound
    ((begunRun.append installation.during.path).snoc installation.ends)
  have same := (installation.ended run).2.1
  have live := afterSound.live (by
    rw [same]
    exact waits)
  have functions := (installation.functions run).count_eq value
  rw [List.count_append] at functions
  rw [Attached.besideRoots_eq afterSound.balanced afterSound.ended live,
    Attached.besideRoots_eq sound.balanced sound.ended (sound.live waits),
    Attached.named, same, Attached.named, ← afterSound.keys, ← sound.keys,
    functions]
  omega

/-- The callback of a publication that fails has no owner but its
registration: nothing that called it still runs. -/
theorem Sound.rollback_destroyed (sound : middle.Sound limits)
    {height callback : Nat}
    (publishes : middle.Publishes height function callback)
    (heights : ∀ run ∈ middle.running, run.height ≤ height) :
    (middle.callbacks.drop callback).destroyed =
      middle.callbacks.destroyed ++ [callback] := by
  have registered := publishes.registered
  have erased := HostFunctions.callbacks_erase registered
  have owned := sound.owned.perm (erased.append_right _)
  have apart := (erased.append_right _).nodup_iff.mp sound.apart
  have others := (List.nodup_cons.mp apart).1
  apply owned.drop_last
  intro owner
  rcases List.mem_append.mp owner with other | elsewhere
  · exact others (List.mem_append_left _ other)
  · rcases List.mem_append.mp elsewhere with running | dropping
    · obtain ⟨run, member, called⟩ := List.mem_map.mp running
      have above := sound.above function height callback publishes.published
        registered run member called
      exact absurd (heights run member) (Nat.not_le.mpr above)
    · exact others (List.mem_append_right _ dropping)

theorem Installation.rejected
    (installation : Installation engine limits before begun function during
      middle last after)
    (run : (hostedSystem engine limits).Run trace before) {failure : Failure}
    (failed : last.reply = .attachment (.failed failure)) :
    Rejected before middle function during after := by
  have sound := run_sound run
  obtain ⟨_, fresh, _, publishes⟩ := installation.begun_publishes sound
  obtain ⟨first, none, begunRun, _⟩ := installation.reached run
  have middleRun := begunRun.append installation.during.path
  have middleSound := run_sound middleRun
  have still := deeper_publishes begunRun installation.during publishes
  have functions := installation.functions run
  have protections := installation.protections run
  obtain ⟨top, same, outcome⟩ := installation.ended run
  rcases outcome with ⟨accepted, _, _⟩ |
    ⟨_, panics, _, nothing, heights, rollback, attachment⟩
  · cases accepted.symm.trans failed
  · rw [nothing, List.append_nil] at functions protections
    have found : ({ middle with attached := after.attached } :
        Hosted Raw Payload).hostFunctions.lookup function =
          some before.passed := still.registered
    have dropped := rollback.trans
      (rollbackHostFunction_registered found panics)
    have destroyed := congrArg (fun hosted => hosted.callbacks.destroyed)
      dropped
    refine ⟨functions, protections, { middle with
      attached := after.attached
      hostFunctions := middle.hostFunctions.erase function }, panics,
      AList.lookup_erase _ _, ?_, ?_, ?_, dropped,
      destroyed.trans (middleSound.rollback_destroyed still heights)⟩
    · have nodup := middle.hostFunctions.keys_nodup
      rw [middleSound.keys] at nodup
      rw [attachment]
      exact nodup.not_mem_erase
    · rw [attachment]
      rfl
    · exact middleSound.owned.alive (List.mem_append_left _
        (HostFunctions.mem_callbacks still.registered))

/-- The callback of an accepted installation is there. -/
theorem Installation.accepted
    (installation : Installation engine limits before begun function during
      middle last after)
    (run : (hostedSystem engine limits).Run trace before) {key : Raw}
    (published : last.reply = .attachment (.installedFunction key)) :
    key = function ∧ Accepted before function during after := by
  have sound := run_sound run
  obtain ⟨_, fresh, _, publishes⟩ := installation.begun_publishes sound
  obtain ⟨first, none, begunRun, _⟩ := installation.reached run
  have afterSound := run_sound
    ((begunRun.append installation.during.path).snoc installation.ends)
  have still := deeper_publishes begunRun installation.during publishes
  have functions := installation.functions run
  have protections := installation.protections run
  obtain ⟨top, same, outcome⟩ := installation.ended run
  rcases outcome with ⟨accepted, something, registry⟩ |
    ⟨_, panics, rejected, _⟩
  · cases accepted.symm.trans published
    have registered := still.registered
    rw [← registry] at registered
    rw [something] at functions protections
    refine ⟨rfl, ?_, ?_, registered, ?_⟩
    · rw [← List.append_assoc] at functions
      exact functions.trans (List.perm_append_singleton _ _)
    · intro value
      rw [protections value,
        (List.perm_append_singleton _ (during.flatMap installed)).count_eq]
    · exact afterSound.owned.alive (List.mem_append_left _
        (HostFunctions.mem_callbacks registered))
  · cases rejected.symm.trans published

end Installations

/-- What an installation that has registered its function does. -/
structure Concluded (engine : Engine Raw) (limits : JscRuntimeLimits)
    (before begun : Hosted Raw Payload) (function : Raw)
    (during : List (Exchange (HostedOp Raw Payload)
      (HostedReply Raw Payload))) (middle : Hosted Raw Payload)
    (last : Exchange (HostedOp Raw Payload) (HostedReply Raw Payload))
    (after : Hosted Raw Payload) : Prop where
  fresh : function ∉ before.hostFunctions
  protectedOnce : begun.attached.protections.protectCalls =
    before.attached.protections.protectCalls ++ [function]
  /-- The function and all earlier ones have their own callbacks. -/
  meanwhile : ∀ {earlier now}, Deeper (hostedSystem engine limits) frames
      before.attached.stack.length begun earlier now →
    now.hostFunctions.lookup function = some before.passed ∧
      ∀ other callback, before.hostFunctions.lookup other = some callback →
        now.hostFunctions.lookup other = some callback
  afterwards : ∀ other callback,
    before.hostFunctions.lookup other = some callback →
      after.hostFunctions.lookup other = some callback
  ends : (∃ failure, last.reply = .attachment (.failed failure)) ∨
    last.reply = .attachment (.installedFunction function)
  rejected : ∀ failure, last.reply = .attachment (.failed failure) →
    Rejected before middle function during after
  accepted : last.reply = .attachment (.installedFunction function) →
    Accepted before function during after

/-- Host functions are installed all or nothing. -/
structure AllOrNothing (engine : Engine Raw) (limits : JscRuntimeLimits)
    (hosted : Hosted Raw Payload) : Prop where
  bounded : hosted.hostFunctions.keys.length ≤ limits.hostFunctions
  listed : hosted.hostFunctions.keys = hosted.attached.shared.hostFunctions
  /-- No callback is destroyed twice. -/
  once : hosted.callbacks.destroyed.Nodup
  /-- A full registry refuses before the engine answers anything. -/
  limited : limits.hostFunctions ≤ hosted.hostFunctions.keys.length →
    ∀ thread, ∃ error,
      (hosted.attached.shared.ensureActive thread = .ok () →
        error = .hostFunctionLimitReached) ∧
      ∀ name function,
        hosted.attached.installHostFunction thread name function =
          (.failed (.js (.runtime error)), hosted.attached)
  /-- An installation that fails at once only destroys its callback. -/
  refused : ∀ {thread name answer panics reply next},
    hosted.perform engine
      (.attachment ⟨thread, .installHostFunction name answer⟩ panics) =
        some (reply, next) →
    (∃ failure, reply = .attachment (.failed failure) ∧
      next = { hosted with callbacks := next.callbacks } ∧
      next.callbacks.destroyed =
        hosted.callbacks.destroyed ++ [hosted.passed]) ∨
    reply = .attachment .begun ∧ ∃ function, answer = some function
  installs : ∀ {begun function during middle last after},
    Installation engine limits hosted begun function during middle last
      after →
    Concluded engine limits hosted begun function during middle last after
  /-- A published function runs its own callback, until a teardown begins. -/
  dispatches : ∀ {function callback},
    hosted.hostFunctions.lookup function = some callback →
    (∀ height, (function, height) ∉ publishing hosted.attached.stack) →
    ∀ {during later}, (hostedSystem engine limits).Path hosted during later →
      ¬later.attached.Torn →
      ∀ call : HostCall Raw, call.function = function →
        ∀ run, (later.hostFunctionCallback call).1 = .ok run ↔
          later.Passes call ∧ run = callback
  /-- A teardown takes every callback, and drops them one by one. -/
  takes : ∀ {op reply next}, hosted.perform engine op = some (reply, next) →
    ¬hosted.attached.Torn → next.attached.Torn →
      next.dropping = hosted.hostFunctions.callbacks ∧
        next.callbacks = hosted.callbacks
  drops : ∀ {index callback}, hosted.dropping[index]? = some callback →
    ∀ panics, ∃ next,
      hosted.perform engine (.dropNext index panics) = some (.done, next) ∧
      next.dropping = hosted.dropping.eraseIdx index ∧
      next.callbacks.destroyed = hosted.callbacks.destroyed ++ [callback]
  waits : ∀ {thread panics reply next},
    hosted.perform engine (.attachment ⟨thread, .advanceTeardown⟩ panics) =
      some (reply, next) → hosted.dropping = []
  settled : hosted.attached.Torn → hosted.dropping = [] →
    hosted.hostFunctions = ∅ ∧
      ∀ callback < hosted.callbacks.strong.length,
        hosted.callbacks.destroyed.count callback = 1

theorem Installation.concluded {before begun middle after : Hosted Raw Payload}
    {function : Raw} {during : List (Exchange (HostedOp Raw Payload)
      (HostedReply Raw Payload))}
    {last : Exchange (HostedOp Raw Payload) (HostedReply Raw Payload)}
    (installation : Installation engine limits before begun function during
      middle last after)
    (run : (hostedSystem engine limits).Run trace before) :
    Concluded engine limits before begun function during middle last
      after := by
  have sound := run_sound run
  obtain ⟨waits, fresh, _, publishes⟩ := installation.begun_publishes sound
  obtain ⟨first, _, begunRun, deeper⟩ := installation.reached run
  constructor
  · exact fresh
  · obtain ⟨thread, name, panics, performed⟩ := installation.begins
    obtain ⟨_, created, same, _, rfl⟩ := install_begun sound performed
    cases same
    rfl
  · intro earlier now during
    refine ⟨(deeper_publishes begunRun during publishes).registered, ?_⟩
    intro other callback registered
    exact (deeper_settled begunRun during
      (installation.begun_settled sound registered) (Nat.le_refl _)).registered
  · intro other callback registered
    have settled := deeper_settled begunRun installation.during
      (installation.begun_settled sound registered) (Nat.le_refl _)
    have middleRun := begunRun.append installation.during.path
    have afterSound := run_sound (middleRun.snoc installation.ends)
    have changes := run_changes middleRun installation.ends
    refine (changes.settled settled (Nat.le_of_eq installation.level.symm)
      (afterSound.live ?_)).registered
    rw [(installation.ended run).2.1]
    exact waits
  · obtain ⟨_, _, outcome⟩ := installation.ended run
    rcases outcome with ⟨accepted, _⟩ | ⟨failure, _, rejected, _⟩
    · exact Or.inr accepted
    · exact Or.inl ⟨failure, rejected⟩
  · intro failure failed
    exact installation.rejected run failed
  · intro published
    exact (installation.accepted run published).2

/-- In every run, host functions are installed all or nothing. -/
theorem run_allOrNothing
    (run : (hostedSystem engine limits).Run trace hosted) :
    hosted.AllOrNothing engine limits := by
  have sound := run_sound run
  constructor
  · exact sound.bounded
  · exact sound.keys
  · exact sound.owned.once
  · exact fun full thread => install_limited sound full thread
  · intro thread name answer panics reply next performed
    cases install_replies performed with
    | inl refused =>
        obtain ⟨failure, failed, rfl⟩ := refused
        exact Or.inl ⟨failure, failed, rfl, sound.refuse_destroyed⟩
    | inr begun =>
        refine Or.inr ⟨begun, ?_⟩
        rw [begun] at performed
        obtain ⟨_, function, same, _⟩ := install_begun sound performed
        exact ⟨function, same⟩
  · exact fun installation => installation.concluded run
  · intro function callback registered published during later path live call
      same called
    have settled := path_settled run path
      ⟨registered, fun other member => absurd member (published other)⟩ live
    rw [hostFunctionCallback_ok_iff, same, settled.registered,
      Option.some.injEq, eq_comm]
  · intro op reply next performed live torn
    exact (sound.changes performed).takes live torn
  · exact fun found panics => sound.drops found panics
  · exact fun performed => advance_waits performed
  · intro torn finished
    exact ⟨(sound.torn torn).2, fun callback passed =>
      sound.all_destroyed torn finished passed⟩

def hostedRuntime : Hosted Nat Unit where
  attached := .new (.new Attached.firstAttachment 0 0 .guaranteed
    Attached.threeRoots) (.runtime (some 0))
  inboundArguments := 1
  hostFunctions := ∅
  callbacks := .new
  running := []
  dropping := []
  callbackDropPanics := 0

/-- An operation whose destructors return. -/
def calmly (op : Op Nat Unit) : HostedOp Nat Unit :=
  .attachment ⟨0, op⟩ false

/-- A setter calls the new function and throws; the next installation fills the
registry, and one more is refused.  The last callback is dropped by the
teardown, and two of the destructors panic. -/
def rejections : List (HostedOp Nat Unit) :=
  [calmly (.enter none ⟨none, none⟩), calmly .lendContext,
    calmly (.installHostFunction true (some 30)),
    .call ⟨0, some 0, 0, 30, 1, false⟩, .returned,
    .attachment ⟨0, .publishHostFunction true (some ⟨"rejected", false⟩)⟩
      true,
    calmly (.installHostFunction true (some 31)),
    calmly (.publishHostFunction true none),
    calmly (.installHostFunction true (some 32)), calmly .close, calmly .leave,
    calmly (.invalidate ⟨none, none⟩ false), .dropNext 0 true,
    calmly .advanceTeardown]

theorem rejections_allOrNothing :
    ∃ trace hosted,
      (hosting Attached.smallScalars).performAll hostedRuntime rejections =
        some (trace, hosted) ∧
      hosted.callbacks.destroyed = [0, 2, 1] ∧
      hosted.AllOrNothing Attached.smallScalars Attached.threeRoots := by
  have fresh : Fresh Attached.threeRoots hostedRuntime :=
    ⟨.runtime Attached.firstAttachment 0 0 0, rfl, rfl, rfl, rfl, rfl⟩
  obtain ⟨trace, hosted, performed, run⟩ :=
    (hosting Attached.smallScalars).exists_run_of_performAll
      (Fresh Attached.threeRoots) rejections fresh (by decide)
  refine ⟨trace, hosted, performed, ?_, run_allOrNothing run⟩
  have destroyed : (((hosting Attached.smallScalars).performAll hostedRuntime
      rejections).map fun done => done.2.callbacks.destroyed) =
        some [0, 2, 1] := rfl
  rw [performed] at destroyed
  exact Option.some.inj destroyed

end Hosted

end RustJsi.BackendJsc
