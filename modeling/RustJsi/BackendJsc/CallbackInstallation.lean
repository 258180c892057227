import RustJsi.BackendJsc.CallbackOwnership
import RustJsi.Nested.CallStack

/-!
# Installing a host function

An installation registers its function, publishes it, and takes the
registration back if the publication fails.  In between, the setter of the
global may run anything, the new function and further installations included.
-/

namespace RustJsi.BackendJsc

open Counted Interleaving Nested

variable {Raw Payload : Type*} [DecidableEq Raw]

omit [DecidableEq Raw] in
/-- The function that a step has installed, if any. -/
def installed (exchange : Exchange (HostedOp Raw Payload)
    (HostedReply Raw Payload)) : List Raw :=
  match exchange.op, exchange.reply with
  | .attachment ⟨_, .publishHostFunction _ _⟩ _,
      .attachment (.installedFunction function) => [function]
  | _, _ => []

namespace Hosted

variable {hosted next : Hosted Raw Payload} {limits : JscRuntimeLimits}
  {engine : Engine Raw} {op : HostedOp Raw Payload}
  {reply : HostedReply Raw Payload}

/-- What a step does to the registry of host functions. -/
inductive Changes (hosted : Hosted Raw Payload) (op : HostedOp Raw Payload)
    (reply : HostedReply Raw Payload) (next : Hosted Raw Payload) : Prop
  | kept (functions : next.hostFunctions = hosted.hostFunctions)
      (frames : publishing next.attached.stack =
        publishing hosted.attached.stack)
      (torn : next.attached.Torn ↔ hosted.attached.Torn)
      (nothing : installed ⟨op, reply⟩ = [])
  | registered {function : Raw}
      (fresh : function ∉ hosted.hostFunctions)
      (functions : next.hostFunctions =
        hosted.hostFunctions.insert function hosted.callbacks.strong.length)
      (stack : next.attached.stack =
        .registering function :: hosted.attached.stack)
      (torn : next.attached.Torn ↔ hosted.attached.Torn)
      (nothing : installed ⟨op, reply⟩ = [])
  | published {function : Raw}
      (top : hosted.attached.stack =
        .registering function :: next.attached.stack)
      (functions : next.hostFunctions = hosted.hostFunctions)
      (torn : next.attached.Torn ↔ hosted.attached.Torn)
      (replied : reply = .attachment (.installedFunction function))
      (something : installed ⟨op, reply⟩ = [function])
  | rolledBack {function : Raw} {failure : Failure} {panics : Bool}
      (top : hosted.attached.stack =
        .registering function :: next.attached.stack)
      (heights : ∀ run ∈ hosted.running,
        run.height ≤ next.attached.stack.length)
      (rollback : next =
        ({ hosted with attached := next.attached } :
          Hosted Raw Payload).rollbackHostFunction function panics)
      (attachment : next.attached =
        (hosted.attached.rollbackHostFunction function).withStack
          next.attached.stack)
      (torn : next.attached.Torn ↔ hosted.attached.Torn)
      (replied : reply = .attachment (.failed failure))
      (nothing : installed ⟨op, reply⟩ = [])
  | taken (live : ¬hosted.attached.Torn)
      (empty : hosted.attached.stack = [])
      (torn : next.attached.Torn)
      (callbacks : next.callbacks = hosted.callbacks)
      (dropping : next.dropping = hosted.hostFunctions.callbacks)

/-- A step of an operation that names no host function. -/
theorem Changes.of_other {invocation : Invocation Raw Payload}
    (sound : hosted.Sound limits)
    {inner : Reply Raw Payload} {attached : Attached Raw Payload}
    (performed : hosted.attached.perform engine invocation =
      some (inner, attached))
    (installs : ∀ name function,
      invocation.op ≠ .installHostFunction name function)
    (publishes : ∀ global exception,
      invocation.op ≠ .publishHostFunction global exception)
    (panics : Bool) :
    hosted.Changes (.attachment invocation panics) (.attachment inner)
      (hosted.follow invocation.op panics inner attached) := by
  have moves := sound.attached.moves performed
  have nothing : installed (⟨.attachment invocation panics,
      .attachment inner⟩ : Exchange (HostedOp Raw Payload)
        (HostedReply Raw Payload)) = [] := by
    obtain ⟨thread, op⟩ := invocation
    cases op with
    | publishHostFunction global exception =>
        exact absurd rfl (publishes global exception)
    | _ => rfl
  cases moves.registers sound.attached sound.ended with
  | kept functions frames torn empties idle =>
      rw [follow_kept installs publishes panics inner idle]
      exact .kept rfl frames torn nothing
  | called names =>
      rcases names with ⟨name, function, same⟩ | ⟨global, exception, same⟩
      · exact absurd same (installs name function)
      · exact absurd same (publishes global exception)
  | taken live idle empty functions nextEmpty teardown =>
      rw [follow_taken installs publishes panics inner idle teardown]
      exact .taken live empty (torn_of_isSome teardown) rfl rfl

/-- A step of user code that leaves the registry alone. -/
theorem Changes.of_user (attached : next.attached = hosted.attached)
    (functions : next.hostFunctions = hosted.hostFunctions)
    (nothing : installed ⟨op, reply⟩ = []) :
    hosted.Changes op reply next :=
  .kept functions (by rw [attached]) (by rw [attached]) nothing

theorem Sound.changes (sound : hosted.Sound limits)
    (performed : hosted.perform engine op = some (reply, next)) :
    hosted.Changes op reply next := by
  cases op with
  | call call =>
      cases performed
      have same := hosted.hostFunctionCallback_same call
      exact .of_user same.1 same.2 rfl
  | returned =>
      obtain ⟨after, returned, same⟩ := Option.map_eq_some_iff.mp performed
      cases same
      obtain ⟨run, rest, _, _, rfl⟩ := returned_eq returned
      exact .of_user rfl rfl rfl
  | dropNext index panics =>
      obtain ⟨after, drops, same⟩ := Option.map_eq_some_iff.mp performed
      cases same
      obtain ⟨callback, _, rfl⟩ := dropNext_eq drops
      exact .of_user rfl rfl rfl
  | attachment invocation panics =>
      simp only [perform] at performed
      cases outcome : hosted.attached.perform engine invocation with
      | none =>
          simp only [outcome] at performed
          cases performed
      | some result =>
          obtain ⟨inner, attached⟩ := result
          simp only [outcome] at performed
          split at performed
          · rename_i admitted
            cases performed
            have heights := sound.heights outcome admitted
            obtain ⟨thread, op⟩ := invocation
            by_cases installs :
                ∃ name function, op = .installHostFunction name function
            · obtain ⟨name, function, rfl⟩ := installs
              obtain ⟨waits, outcome⟩ :=
                Attached.installHostFunction_cases outcome
              cases outcome with
              | inl failed =>
                  obtain ⟨failure, rfl, rfl⟩ := failed
                  exact .kept rfl rfl Iff.rfl rfl
              | inr begun =>
                  obtain ⟨created, rfl, fresh, room, rfl, rfl⟩ := begun
                  refine .registered ?_ rfl rfl Iff.rfl rfl
                  rw [AList.mem_keys, sound.keys]
                  exact fresh
            · by_cases publishes : ∃ global exception,
                  op = .publishHostFunction global exception
              · obtain ⟨global, exception, rfl⟩ := publishes
                obtain ⟨function, rest, top, outcome⟩ :=
                  Attached.publishHostFunction_cases outcome
                cases outcome with
                | inl failed =>
                    obtain ⟨failure, rfl, rfl⟩ := failed
                    simp only [follow, top]
                    obtain ⟨⟨callback, registered⟩, _⟩ := sound.top top
                    simp only [rollbackHostFunction, registered]
                    refine .rolledBack top heights (?_ : _ =
                      Hosted.rollbackHostFunction _ _ panics) rfl Iff.rfl rfl rfl
                    simp only [rollbackHostFunction, registered]
                    rfl
                | inr published =>
                    obtain ⟨rfl, rfl⟩ := published
                    exact .published top rfl Iff.rfl rfl rfl
              · exact .of_other sound outcome
                  (fun name function same => installs ⟨name, function, same⟩)
                  (fun global exception same =>
                    publishes ⟨global, exception, same⟩) panics
          · cases performed

theorem rollback_same (function : Raw) (panics : Bool) :
    (hosted.rollbackHostFunction function panics).attached =
        hosted.attached ∧
      (hosted.rollbackHostFunction function panics).hostFunctions =
        hosted.hostFunctions.erase function := by
  unfold rollbackHostFunction
  cases hosted.hostFunctions.lookup function with
  | none => exact ⟨rfl, rfl⟩
  | some callback => exact ⟨rfl, rfl⟩

theorem follow_attached (op : Op Raw Payload) (panics : Bool)
    (inner : Reply Raw Payload) (attached : Attached Raw Payload) :
    (hosted.follow op panics inner attached).attached = attached := by
  unfold follow
  repeat' split
  all_goals first
    | rfl
    | exact (rollback_same _ _).1

/-- A teardown that has begun stays so. -/
theorem Changes.torn (changes : hosted.Changes op reply next)
    (torn : hosted.attached.Torn) :
    next.attached.Torn := by
  cases changes with
  | kept functions frames same nothing => exact same.mpr torn
  | registered fresh functions stack same nothing => exact same.mpr torn
  | published top functions same replied something => exact same.mpr torn
  | rolledBack top heights rollback attachment same replied nothing =>
      exact same.mpr torn
  | taken live empty same callbacks dropping => exact same

/-- A function with its callback, whose publication is over or lies below the
given height. -/
structure Settled (hosted : Hosted Raw Payload) (height : Nat)
    (function : Raw) (callback : Nat) : Prop where
  registered : hosted.hostFunctions.lookup function = some callback
  below : ∀ other, (function, other) ∈ publishing hosted.attached.stack →
    other < height

variable {height callback : Nat} {function : Raw}

theorem mem_of_lookup
    (registered : hosted.hostFunctions.lookup function = some callback) :
    function ∈ hosted.hostFunctions :=
  AList.lookup_isSome.mp (Option.isSome_of_mem registered)

/-- Only its own publication takes a registration back. -/
theorem Changes.settled (changes : hosted.Changes op reply next)
    (settled : hosted.Settled height function callback)
    (high : height ≤ next.attached.stack.length)
    (live : ¬next.attached.Torn) :
    next.Settled height function callback := by
  have registered := settled.registered
  cases changes with
  | kept functions frames torn nothing =>
      refine ⟨by rw [functions]; exact registered, ?_⟩
      rw [frames]
      exact settled.below
  | @registered other fresh functions stack torn nothing =>
      have apart : function ≠ other := by
        intro same
        rw [same] at registered
        exact fresh (mem_of_lookup registered)
      refine ⟨by rw [functions, AList.lookup_insert_ne apart]; exact registered,
        ?_⟩
      rw [stack]
      intro level member
      cases List.mem_cons.mp member with
      | inl here => exact absurd (congrArg Prod.fst here) apart
      | inr below => exact settled.below level below
  | published top functions torn replied something =>
      refine ⟨by rw [functions]; exact registered, ?_⟩
      intro level member
      apply settled.below level
      rw [top]
      exact List.mem_cons_of_mem _ member
  | @rolledBack other failure panics top heights rollback attachment torn
      replied nothing =>
      have apart : function ≠ other := by
        intro same
        have under := settled.below next.attached.stack.length (by
          rw [top, same]
          exact List.mem_cons_self)
        exact Nat.not_lt.mpr high under
      refine ⟨?_, ?_⟩
      · rw [rollback, (rollback_same _ _).2]
        exact (AList.lookup_erase_ne apart).trans registered
      · intro level member
        apply settled.below level
        rw [top]
        exact List.mem_cons_of_mem _ member
  | taken idle empty torn callbacks dropping => exact absurd torn live

/-- The publication under way at a height, with its function. -/
structure Publishes (hosted : Hosted Raw Payload) (height : Nat)
    (function : Raw) (callback : Nat) : Prop where
  registered : hosted.hostFunctions.lookup function = some callback
  published : (function, height) ∈ publishing hosted.attached.stack

/-- A publication stays under way while the stack is higher. -/
theorem Changes.publishes (changes : hosted.Changes op reply next)
    (publishes : hosted.Publishes height function callback)
    (sound : hosted.Sound limits)
    (high : height < next.attached.stack.length) :
    next.Publishes height function callback := by
  have registered := publishes.registered
  have published := publishes.published
  have waits {other : Raw}
      (top : hosted.attached.stack =
        .registering other :: next.attached.stack) :
      (function, height) ∈ publishing next.attached.stack := by
    rw [top] at published
    cases List.mem_cons.mp published with
    | inl here =>
        have level : height = next.attached.stack.length :=
          congrArg Prod.snd here
        exact absurd level (Nat.ne_of_lt high)
    | inr below => exact below
  cases changes with
  | kept functions frames torn nothing =>
      exact ⟨by rw [functions]; exact registered,
        by rw [frames]; exact published⟩
  | @registered other fresh functions stack torn nothing =>
      have apart : function ≠ other := by
        intro same
        rw [same] at registered
        exact fresh (mem_of_lookup registered)
      refine ⟨by rw [functions, AList.lookup_insert_ne apart]; exact registered,
        ?_⟩
      rw [stack]
      exact List.mem_cons_of_mem _ published
  | published top functions torn replied something =>
      exact ⟨by rw [functions]; exact registered, waits top⟩
  | @rolledBack other failure panics top heights rollback attachment torn
      replied nothing =>
      have apart := (sound.top top).2 _ (waits top)
      refine ⟨?_, waits top⟩
      rw [rollback, (rollback_same _ _).2]
      exact (AList.lookup_erase_ne apart).trans registered
  | taken idle empty torn callbacks dropping =>
      rw [empty] at published
      exact absurd published List.not_mem_nil

variable {trace : List (Exchange (HostedOp Raw Payload)
  (HostedReply Raw Payload))}

theorem run_changes (run : (hostedSystem engine limits).Run trace hosted)
    {exchange : Exchange (HostedOp Raw Payload) (HostedReply Raw Payload)}
    (step : (hostedSystem engine limits).step hosted exchange next) :
    hosted.Changes exchange.op exchange.reply next :=
  (run_sound run).changes step

theorem run_turns
    (trace : List (Exchange (HostedOp Raw Payload)
      (HostedReply Raw Payload)))
    (hosted : Hosted Raw Payload)
    (exchange : Exchange (HostedOp Raw Payload) (HostedReply Raw Payload))
    (next : Hosted Raw Payload)
    (run : (hostedSystem engine limits).Run trace hosted)
    (step : (hostedSystem engine limits).step hosted exchange next) :
    Turns hosted.attached.stack next.attached.stack := by
  obtain ⟨op, reply⟩ := exchange
  have performed : hosted.perform engine op = some (reply, next) := step
  cases op with
  | attachment invocation panics =>
      simp only [perform] at performed
      cases outcome : hosted.attached.perform engine invocation with
      | none =>
          simp only [outcome] at performed
          cases performed
      | some result =>
          obtain ⟨inner, attached⟩ := result
          simp only [outcome] at performed
          split at performed
          · cases performed
            rw [follow_attached]
            exact ((run_sound run).attached.moves outcome).shifts.turns
          · cases performed
  | call call =>
      cases performed
      have turned : Turns hosted.attached.stack
          (hosted.hostFunctionCallback call).2.attached.stack := by
        rw [(hosted.hostFunctionCallback_same call).1]
        exact .kept _
      exact turned
  | returned =>
      obtain ⟨after, returned, same⟩ := Option.map_eq_some_iff.mp performed
      cases same
      obtain ⟨run, rest, _, _, rfl⟩ := returned_eq returned
      exact .kept _
  | dropNext index panics =>
      obtain ⟨after, drops, same⟩ := Option.map_eq_some_iff.mp performed
      cases same
      obtain ⟨callback, _, rfl⟩ := dropNext_eq drops
      exact .kept _

/-- Until a teardown begins, the registered functions are the ones under
publication and the ones that were installed. -/
theorem run_accounted (run : (hostedSystem engine limits).Run trace hosted)
    (live : ¬hosted.attached.Torn) :
    hosted.hostFunctions.keys.Perm
      ((publishing hosted.attached.stack).map Prod.fst ++
        trace.flatMap installed) := by
  refine System.Run.invariant (fun trace hosted => ¬hosted.attached.Torn →
    hosted.hostFunctions.keys.Perm
      ((publishing hosted.attached.stack).map Prod.fst ++
        trace.flatMap installed)) ?_ ?_ run live
  · intro hosted fresh _
    rw [fresh.hostFunctions, fresh.attached.idle.1]
    exact List.Perm.refl []
  · intro trace hosted exchange next run accounted step live
    have sound := run_sound run
    have changes := run_changes run step
    have before := accounted fun torn => live (changes.torn torn)
    rw [List.flatMap_append, List.flatMap_singleton]
    cases changes with
    | kept functions frames torn nothing =>
        have nothing : installed exchange = [] := nothing
        rw [functions, frames, nothing, List.append_nil]
        exact before
    | registered fresh functions stack torn nothing =>
        have nothing : installed exchange = [] := nothing
        rw [functions, stack, nothing, List.append_nil,
          HostFunctions.keys_insert_fresh fresh]
        exact before.cons _
    | @published function top functions torn replied something =>
        have something : installed exchange = [function] := something
        rw [functions, something, ← List.append_assoc]
        rw [top] at before
        exact before.trans (List.perm_append_singleton _ _).symm
    | @rolledBack function failure panics top heights rollback attachment
        torn replied nothing =>
        have nothing : installed exchange = [] := nothing
        have erased := before.erase function
        rw [top, publishing, Activation.functions, List.map_singleton,
          List.singleton_append, List.map_cons, List.cons_append,
          List.erase_cons_head] at erased
        rw [nothing, List.append_nil, rollback, (rollback_same _ _).2,
          (rollback_same _ _).1, AList.keys_erase]
        exact erased
    | taken idle empty torn callbacks dropping => exact absurd torn live

/-- Along a run, a published function keeps its callback until a teardown
begins. -/
theorem path_settled (run : (hostedSystem engine limits).Run trace hosted)
    {during : List (Exchange (HostedOp Raw Payload)
      (HostedReply Raw Payload))} {later : Hosted Raw Payload}
    (path : (hostedSystem engine limits).Path hosted during later)
    (settled : hosted.Settled 0 function callback)
    (live : ¬later.attached.Torn) : later.Settled 0 function callback := by
  induction path with
  | refl => exact settled
  | snoc path step inductionHypothesis =>
      have reached := run.append path
      have changes := run_changes reached step
      have before := inductionHypothesis
        fun torn => live (changes.torn torn)
      exact changes.settled before (Nat.zero_le _) live

/-! ## One installation -/

/-- The calls under way. -/
def frames (hosted : Hosted Raw Payload) : List (Activation Raw Payload) :=
  hosted.attached.stack

/-- One call of `install_host_function` that has registered a function: what is
done during its publication stays above it, and the last step ends it. -/
structure Installation (engine : Engine Raw) (limits : JscRuntimeLimits)
    (before begun : Hosted Raw Payload) (function : Raw)
    (during : List (Exchange (HostedOp Raw Payload)
      (HostedReply Raw Payload))) (middle : Hosted Raw Payload)
    (last : Exchange (HostedOp Raw Payload) (HostedReply Raw Payload))
    (after : Hosted Raw Payload) : Prop where
  begins : ∃ thread name panics, before.perform engine
    (.attachment ⟨thread, .installHostFunction name (some function)⟩ panics) =
      some (.attachment .begun, begun)
  during : Deeper (hostedSystem engine limits) frames
    before.attached.stack.length begun during middle
  ends : (hostedSystem engine limits).step middle last after
  level : after.attached.stack.length = before.attached.stack.length

/-- An installation that goes on has registered its function. -/
theorem install_begun {next : Hosted Raw Payload} {thread : Nat} {name : Bool}
    {answer : Option Raw} {panics : Bool} (sound : hosted.Sound limits)
    (performed : hosted.perform engine
      (.attachment ⟨thread, .installHostFunction name answer⟩ panics) =
        some (.attachment .begun, next)) :
    hosted.attached.stack ≠ [] ∧ ∃ function, answer = some function ∧
      function ∉ hosted.hostFunctions ∧
      next = ({ hosted with
        attached := ({ hosted.attached with
          shared.hostFunctions :=
            function :: hosted.attached.shared.hostFunctions }.protect
          function).withStack
            (.registering function :: hosted.attached.stack) } :
              Hosted Raw Payload).register function := by
  simp only [perform] at performed
  cases outcome : hosted.attached.perform engine
      ⟨thread, .installHostFunction name answer⟩ with
  | none =>
      simp only [outcome] at performed
      cases performed
  | some result =>
      obtain ⟨inner, attached⟩ := result
      simp only [outcome] at performed
      split at performed
      · cases performed
        obtain ⟨waits, outcome⟩ := Attached.installHostFunction_cases outcome
        rcases outcome with ⟨failure, failed, _⟩ |
          ⟨function, rfl, fresh, room, _, rfl⟩
        · cases failed
        · refine ⟨waits, function, rfl, ?_, rfl⟩
          rw [AList.mem_keys, sound.keys]
          exact fresh
      · cases performed

section Installations

variable {before begun middle after : Hosted Raw Payload}
  {during : List (Exchange (HostedOp Raw Payload)
    (HostedReply Raw Payload))}
  {last : Exchange (HostedOp Raw Payload) (HostedReply Raw Payload)}

/-- Above a publication, and above the calls below it, registrations stay. -/
theorem deeper_settled (run : (hostedSystem engine limits).Run trace begun)
    {floor : Nat} (deeper : Deeper (hostedSystem engine limits) frames floor
      begun during middle)
    (settled : begun.Settled height function callback)
    (below : height ≤ floor) : middle.Settled height function callback := by
  induction deeper with
  | refl => exact settled
  | snoc earlier step high inductionHypothesis =>
      have reached := run.append earlier.path
      have changes := run_changes reached step
      apply changes.settled inductionHypothesis
      · exact Nat.le_trans below (Nat.le_of_lt high)
      · apply (run_sound (reached.snoc step)).live
        exact List.ne_nil_of_length_pos (Nat.zero_lt_of_lt high)

theorem deeper_publishes (run : (hostedSystem engine limits).Run trace begun)
    (deeper : Deeper (hostedSystem engine limits) frames height begun during
      middle)
    (publishes : begun.Publishes height function callback) :
    middle.Publishes height function callback := by
  induction deeper with
  | refl => exact publishes
  | snoc earlier step high inductionHypothesis =>
      have reached := run.append earlier.path
      exact (run_changes reached step).publishes inductionHypothesis
        (run_sound reached) high

/-- A function is new when its installation begins, and is published above all
the others. -/
theorem Installation.begun_publishes
    (installation : Installation engine limits before begun function during
      middle last after) (sound : before.Sound limits) :
    before.attached.stack ≠ [] ∧ function ∉ before.hostFunctions ∧
      begun.attached.stack =
        .registering function :: before.attached.stack ∧
      begun.Publishes before.attached.stack.length function
        before.callbacks.strong.length := by
  obtain ⟨thread, name, panics, performed⟩ := installation.begins
  obtain ⟨waits, other, same, fresh, rfl⟩ := install_begun sound performed
  cases same
  exact ⟨waits, fresh, rfl, AList.lookup_insert _, List.mem_cons_self⟩

/-- What was registered before is registered when an installation begins. -/
theorem Installation.begun_settled
    (installation : Installation engine limits before begun function during
      middle last after) (sound : before.Sound limits) {other : Raw}
    (registered : before.hostFunctions.lookup other = some callback) :
    begun.Settled before.attached.stack.length other callback := by
  obtain ⟨thread, name, panics, performed⟩ := installation.begins
  obtain ⟨_, created, same, fresh, rfl⟩ := install_begun sound performed
  cases same
  have apart : other ≠ function := by
    intro same
    rw [same] at registered
    exact fresh (mem_of_lookup registered)
  refine ⟨(AList.lookup_insert_ne apart).trans registered, ?_⟩
  intro level member
  cases List.mem_cons.mp member with
  | inl here => exact absurd (congrArg Prod.fst here) apart
  | inr below => exact height_lt below

/-- The first step of an installation, and what it has reached. -/
theorem Installation.reached
    (installation : Installation engine limits before begun function during
      middle last after)
    (run : (hostedSystem engine limits).Run trace before) :
    ∃ first, installed first = [] ∧
      (hostedSystem engine limits).Run (trace ++ [first]) begun ∧
      Deeper (hostedSystem engine limits) frames
        before.attached.stack.length before (first :: during) middle := by
  have stack := (installation.begun_publishes (run_sound run)).2.2.1
  obtain ⟨thread, name, panics, performed⟩ := installation.begins
  have step : (hostedSystem engine limits).step before
      ⟨.attachment ⟨thread, .installHostFunction name (some function)⟩ panics,
        .attachment .begun⟩ begun := performed
  refine ⟨_, rfl, run.snoc step, installation.during.cons step ?_⟩
  change _ < begun.attached.stack.length
  rw [stack, List.length_cons]
  exact Nat.lt_succ_self _

/-- The publication under way is the one that ends. -/
theorem Publishes.same {other : Raw}
    (publishes : middle.Publishes height function callback)
    (top : middle.attached.stack = .registering other :: after.attached.stack)
    (level : after.attached.stack.length = height) : other = function := by
  have published := publishes.published
  rw [top] at published
  cases List.mem_cons.mp published with
  | inl here => exact (congrArg Prod.fst here).symm
  | inr below =>
      have under := height_lt below
      rw [level] at under
      exact absurd under (Nat.lt_irrefl _)

/-- How an installation ends. -/
theorem Installation.ended
    (installation : Installation engine limits before begun function during
      middle last after)
    (run : (hostedSystem engine limits).Run trace before) :
    middle.attached.stack = .registering function :: after.attached.stack ∧
      after.attached.stack = before.attached.stack ∧
      (last.reply = .attachment (.installedFunction function) ∧
          installed last = [function] ∧
          after.hostFunctions = middle.hostFunctions ∨
        ∃ failure panics, last.reply = .attachment (.failed failure) ∧
          installed last = [] ∧
          (∀ run ∈ middle.running,
            run.height ≤ before.attached.stack.length) ∧
          after = ({ middle with attached := after.attached } :
            Hosted Raw Payload).rollbackHostFunction function panics ∧
          after.attached =
            (middle.attached.rollbackHostFunction function).withStack
              before.attached.stack) := by
  have publishes := (installation.begun_publishes (run_sound run)).2.2.2
  obtain ⟨first, _, begunRun, deeper⟩ := installation.reached run
  have still := deeper_publishes begunRun installation.during publishes
  have level := installation.level
  have changes := run_changes (begunRun.append installation.during.path)
    installation.ends
  -- The calls below the installation wait for it.
  have floor {other : Raw} (top : middle.attached.stack =
      .registering other :: after.attached.stack) :
      after.attached.stack = before.attached.stack := by
    cases deeper.floor run run_turns with
    | inl same => exact absurd same.1 (List.cons_ne_nil _ _)
    | inr above =>
        obtain ⟨frame, rest, above⟩ := above
        have whole := top.symm.trans above
        have below : after.attached.stack = rest ++ before.attached.stack :=
          (List.cons.inj whole).2
        have lengths := congrArg List.length below
        rw [List.length_append, level] at lengths
        have none : rest = [] := by
          apply List.eq_nil_of_length_eq_zero
          omega
        rw [none] at below
        exact below
  cases changes with
  | kept functions frames torn nothing =>
      have published := still.published
      rw [← frames] at published
      have under := height_lt published
      rw [level] at under
      exact absurd under (Nat.lt_irrefl _)
  | registered fresh functions stack torn nothing =>
      have under := height_lt still.published
      rw [stack, List.length_cons] at level
      change before.attached.stack.length < _ at under
      omega
  | published top functions torn replied something =>
      have same := still.same top level
      subst same
      exact ⟨top, floor top, Or.inl ⟨replied, something, functions⟩⟩
  | rolledBack top heights rollback attachment torn replied nothing =>
      have same := still.same top level
      subst same
      rw [floor top] at heights attachment
      exact ⟨top, floor top, Or.inr ⟨_, _, replied, nothing, heights,
        rollback, attachment⟩⟩
  | taken live empty torn callbacks dropping =>
      have published := still.published
      rw [empty] at published
      exact absurd published List.not_mem_nil

end Installations

end Hosted

end RustJsi.BackendJsc
