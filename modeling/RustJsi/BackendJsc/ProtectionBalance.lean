import RustJsi.BackendJsc.AttachedEnding
import RustJsi.BackendJsc.LocalBalance

/-!
# Protections balance

Each protection of a value is owed by one place that names it: a slot of the
registry, a live scope, an argument or a publication under way, or a host
function.  Only a teardown that may not enter the engine abandons some.
-/

namespace RustJsi.BackendJsc

open Generational Interleaving

variable {Raw Payload : Type*}

namespace Activation

/-- The local roots of a scope that were not cleared yet. -/
def localRoots : Activation Raw Payload → List Raw
  | .context localRoots _ => localRoots.values
  | .scope roots => roots.values
  | _ => []

def argumentRoots : Activation Raw Payload → List Raw
  | .calling call => call.argumentRoots
  | _ => []

def publicationRoots : Activation Raw Payload → List Raw
  | .publishing object _ => [object]
  | .rolledBack object _ => [object]
  | _ => []

end Activation

namespace Attached

section Counts

variable [DecidableEq Raw]

/-- The values kept by the registry, live or pending. -/
def registrySlots (attached : Attached Raw Payload) (value : Raw) : Nat :=
  attached.shared.roots.slots.countP fun slot => slot.value = some value

/-- How often the frames of a kind name the value. -/
def named (roots : Activation Raw Payload → List Raw)
    (attached : Attached Raw Payload) (value : Raw) : Nat :=
  total (fun frame => (roots frame).count value) attached.stack

/-- How many protections of a value are owed. -/
def owed (attached : Attached Raw Payload) (value : Raw) : Nat :=
  (attached.shared.roots.store.held.map Prod.snd).count value +
    attached.shared.hostFunctions.count value +
    attached.named Activation.protects value + attached.abandoned.count value

/-- The calls of the engine agree with what is owed. -/
def Balanced (attached : Attached Raw Payload) : Prop :=
  ∀ value, attached.protections.protectCalls.count value =
    attached.protections.unprotectCalls.count value + attached.owed value

variable {attached next : Attached Raw Payload}

/-- One operation protects what it makes owed, and the other way round. -/
theorem Balanced.step (balanced : attached.Balanced)
    (protects unprotects : List Raw) (roots : RootRegistry Raw)
    (functions : List Raw) (stack : List (Activation Raw Payload))
    (abandoned : List Raw)
    (protectCalls : next.protections.protectCalls =
      attached.protections.protectCalls ++ protects)
    (unprotectCalls : next.protections.unprotectCalls =
      attached.protections.unprotectCalls ++ unprotects)
    (nextRoots : next.shared.roots = roots)
    (nextFunctions : next.shared.hostFunctions = functions)
    (nextStack : next.stack = stack)
    (nextAbandoned : next.abandoned = abandoned)
    (moves : ∀ value, attached.owed value + protects.count value =
      unprotects.count value +
        ((roots.store.held.map Prod.snd).count value +
          functions.count value +
          total (fun frame => frame.protects.count value) stack +
          abandoned.count value)) : next.Balanced := by
  intro value
  have before := balanced value
  have moved := moves value
  rw [protectCalls, unprotectCalls, List.count_append, List.count_append,
    owed, named, nextRoots, nextFunctions, nextStack, nextAbandoned]
  omega

/-- Nothing is owed more or less. -/
theorem Balanced.same (balanced : attached.Balanced)
    (protections : next.protections = attached.protections)
    (owed : ∀ value, next.owed value = attached.owed value) :
    next.Balanced := by
  intro value
  rw [protections, owed value]
  exact balanced value

theorem named_cons {roots : Activation Raw Payload → List Raw}
    {frame : Activation Raw Payload} {rest : List (Activation Raw Payload)}
    (top : attached.stack = frame :: rest) (value : Raw) :
    attached.named roots value =
      (roots frame).count value +
        total (fun frame => (roots frame).count value) rest := by
  rw [named, top]
  rfl

omit [DecidableEq Raw] in
/-- What a step of the registry issues and returns. -/
theorem held_count {registry : RootRegistry Raw} [DecidableEq Raw]
    {issued returned : List (RootId × Raw)}
    (moved : attached.shared.roots.store.Step issued returned registry.store)
    (value : Raw) :
    (attached.shared.roots.store.held.map Prod.snd).count value +
        (issued.map Prod.snd).count value =
      (returned.map Prod.snd).count value +
        (registry.store.held.map Prod.snd).count value := by
  have moves := (moved.balance.map Prod.snd).count_eq value
  rw [List.map_append, List.map_append, List.count_append,
    List.count_append] at moves
  exact moves

end Counts

section Moves

variable [DecidableEq Raw] {attached next : Attached Raw Payload}

/-- Only the calls under way and the engine changed. -/
theorem Balanced.restacked (balanced : attached.Balanced)
    (protects unprotects : List Raw) (stack : List (Activation Raw Payload))
    (protectCalls : next.protections.protectCalls =
      attached.protections.protectCalls ++ protects)
    (unprotectCalls : next.protections.unprotectCalls =
      attached.protections.unprotectCalls ++ unprotects)
    (roots : next.shared.roots = attached.shared.roots)
    (functions : next.shared.hostFunctions = attached.shared.hostFunctions)
    (nextStack : next.stack = stack)
    (abandoned : next.abandoned = attached.abandoned)
    (moves : ∀ value,
      attached.named Activation.protects value + protects.count value =
        unprotects.count value +
          total (fun frame => frame.protects.count value) stack) :
    next.Balanced := by
  apply balanced.step protects unprotects attached.shared.roots
    attached.shared.hostFunctions stack attached.abandoned protectCalls
    unprotectCalls roots functions nextStack abandoned
  intro value
  have moved := moves value
  rw [owed]
  omega

/-- The calls under way protect what they did. -/
theorem Balanced.renamed (balanced : attached.Balanced)
    (protections : next.protections = attached.protections)
    (roots : next.shared.roots = attached.shared.roots)
    (functions : next.shared.hostFunctions = attached.shared.hostFunctions)
    (abandoned : next.abandoned = attached.abandoned)
    (named : ∀ value, next.named Activation.protects value =
      attached.named Activation.protects value) : next.Balanced := by
  apply balanced.same protections
  intro value
  rw [owed, owed, roots, functions, abandoned, named]

/-- A frame that protects nothing is put on top. -/
theorem named_pushed {frame : Activation Raw Payload}
    (protects : frame.protects = [])
    (stack : next.stack = frame :: attached.stack) (value : Raw) :
    next.named Activation.protects value =
      attached.named Activation.protects value := by
  rw [named_cons stack, protects, List.count_nil, Nat.zero_add]
  rfl

/-- A frame that protects nothing is taken away. -/
theorem named_popped {frame : Activation Raw Payload}
    (top : attached.stack = frame :: next.stack)
    (protects : frame.protects = []) (value : Raw) :
    next.named Activation.protects value =
      attached.named Activation.protects value := by
  rw [named_cons top, protects, List.count_nil, Nat.zero_add]
  rfl

/-- The top frame is replaced by one that protects the same values. -/
theorem named_replaced {old new : Activation Raw Payload}
    {rest : List (Activation Raw Payload)}
    (top : attached.stack = old :: rest) (stack : next.stack = new :: rest)
    (protects : new.protects = old.protects) (value : Raw) :
    next.named Activation.protects value =
      attached.named Activation.protects value := by
  rw [named_cons top, named_cons stack, protects]

omit [DecidableEq Raw] in
theorem Retires.protections {id : NativeId}
    {value : Option (AnyRc Payload)}
    (retires : attached.Retires id value next) :
    next.protections = attached.protections := by
  rw [retires.fields]

omit [DecidableEq Raw] in
theorem Retires.roots {id : NativeId} {value : Option (AnyRc Payload)}
    (retires : attached.Retires id value next) :
    next.shared.roots = attached.shared.roots := by
  rw [retires.fields]

omit [DecidableEq Raw] in
theorem Retires.hostFunctions {id : NativeId}
    {value : Option (AnyRc Payload)}
    (retires : attached.Retires id value next) :
    next.shared.hostFunctions = attached.shared.hostFunctions := by
  rw [retires.fields]

omit [DecidableEq Raw] in
theorem Retires.abandoned {id : NativeId}
    {value : Option (AnyRc Payload)}
    (retires : attached.Retires id value next) :
    next.abandoned = attached.abandoned := by
  rw [retires.fields]

/-- The values of a drained registry. -/
theorem drained_count (roots : RootRegistry Raw) (value : Raw) :
    (roots.drain).2.count value =
        (roots.store.held.map Prod.snd).count value ∧
      ((roots.drain).1.store.held.map Prod.snd).count value = 0 := by
  have moved := (roots.drain_step.balance.map Prod.snd).count_eq value
  rw [List.map_append, List.map_append, List.count_append, List.count_append,
    List.map_nil, List.count_nil] at moved
  rw [RootRegistry.drain_values]
  exact ⟨rfl, by omega⟩

/-- What the registries kept is abandoned. -/
theorem Balanced.forsaken (balanced : attached.Balanced)
    (empty : attached.stack = [])
    (protections : next.protections = attached.protections)
    (roots : next.shared.roots = (attached.shared.roots.drain).1)
    (functions : next.shared.hostFunctions = [])
    (abandoned : next.abandoned = attached.abandoned ++
      ((attached.shared.roots.drain).2 ++ attached.shared.hostFunctions))
    (nextEmpty : next.stack = []) : next.Balanced := by
  apply balanced.same protections
  intro value
  have drained := drained_count attached.shared.roots value
  rw [owed, owed, named, named, roots, functions, abandoned, empty, nextEmpty,
    List.count_append, List.count_append, drained.1, drained.2, List.count_nil]
  omega

/-- Every move keeps the balance. -/
theorem Moves.balanced {op : Op Raw Payload} {reply : Reply Raw Payload}
    (moves : attached.Moves op reply next) (sound : attached.Sound)
    (balanced : attached.Balanced) : next.Balanced := by
  cases moves with
  | rested plain => exact balanced
  | wasDestroyed begins destroyed replies => exact balanced
  | entered available admitted =>
      exact balanced.renamed rfl rfl rfl rfl (named_pushed rfl rfl)
  | left top =>
      exact balanced.renamed rfl rfl rfl rfl (named_popped top rfl)
  | pushed waits formed protects boxes functions notEntry room =>
      exact balanced.renamed rfl rfl rfl rfl (named_pushed protects rfl)
  | @popped reply frame rest plain top boxes notEntry =>
      refine balanced.restacked [] frame.protects rest
        (List.append_nil _).symm rfl rfl rfl rfl rfl ?_
      intro value
      rw [named_cons top]
      exact Nat.add_zero _
  | @replaced old new rest values top formed slots protects oldBoxes newBoxes
      oldFunctions newFunctions oldNotEntry newNotEntry =>
      refine balanced.restacked values [] (new :: rest) rfl
        (List.append_nil _).symm rfl rfl rfl rfl ?_
      intro value
      rw [named_cons top, total_cons, protects, List.count_append,
        List.count_nil]
      omega
  | @handed value frame holder held rest top holds boxes functions notEntry
      covered =>
      refine balanced.restacked [value] frame.protects (held :: rest)
        rfl rfl rfl rfl rfl rfl ?_
      intro other
      have kept := (Activation.hold_eq holds).2.1.count_eq other
      rw [List.count_cons] at kept
      rw [named_cons top, total_cons, total_cons, List.count_singleton, kept]
      omega
  | @resolved value holder held rest top holds room =>
      refine balanced.restacked [value] [] (held :: rest) rfl
        (List.append_nil _).symm rfl rfl rfl rfl ?_
      intro other
      have kept := (Activation.hold_eq holds).2.1.count_eq other
      rw [List.count_cons] at kept
      rw [named_cons top, total_cons, List.count_singleton, List.count_nil,
        kept]
      omega
  | @persisted value registry id roots waits soundNext moved =>
      refine balanced.step [value] [] registry attached.shared.hostFunctions
        attached.stack attached.abandoned rfl (List.append_nil _).symm rfl rfl
        rfl rfl ?_
      intro other
      have held := held_count moved other
      simp only [List.map_singleton, List.map_nil, List.count_nil] at held
      rw [owed, named, List.count_nil]
      omega
  | @unrooted value registry id roots soundNext moved =>
      refine balanced.step [] [value] registry attached.shared.hostFunctions
        attached.stack attached.abandoned (List.append_nil _).symm rfl rfl rfl
        rfl rfl ?_
      intro other
      have held := held_count moved other
      simp only [List.map_singleton, List.map_nil, List.count_nil] at held
      rw [owed, named, List.count_nil]
      omega
  | @requested registry roots soundNext same =>
      refine balanced.step [] [] registry attached.shared.hostFunctions
        attached.stack attached.abandoned (List.append_nil _).symm
        (List.append_nil _).symm rfl rfl rfl rfl ?_
      intro value
      rw [same, owed, named, List.count_nil]
      omega
  | @registered function waits fresh =>
      refine balanced.step [function] [] attached.shared.roots
        (function :: attached.shared.hostFunctions)
        (.registering function :: attached.stack) attached.abandoned rfl
        (List.append_nil _).symm rfl rfl rfl rfl ?_
      intro value
      have unprotected : (Activation.registering function :
          Activation Raw Payload).protects.count value = 0 := List.count_nil
      rw [owed, named, total_cons, unprotected, List.count_singleton,
        List.count_cons, List.count_nil]
      omega
  | @unregistered failure function rest top =>
      refine balanced.step [] [function] attached.shared.roots
        (attached.shared.hostFunctions.erase function) rest attached.abandoned
        (List.append_nil _).symm rfl rfl rfl rfl rfl ?_
      intro value
      have among : function ∈ attached.shared.hostFunctions := by
        apply sound.registered.subset
        rw [top]
        exact List.mem_cons_self
      have erased := (List.perm_cons_erase among).count_eq value
      rw [List.count_cons] at erased
      have unprotected : (Activation.registering function :
          Activation Raw Payload).protects.count value = 0 := List.count_nil
      rw [owed, named_cons top, unprotected, List.count_singleton,
        List.count_nil, erased]
      omega
  | accepted installs waits soundNext moved live limit =>
      exact balanced.renamed rfl rfl rfl rfl (named_pushed rfl rfl)
  | refused top retires =>
      refine balanced.renamed retires.protections retires.roots
        retires.hostFunctions retires.abandoned ?_
      exact named_popped top rfl
  | rolledBack top retires =>
      refine balanced.renamed retires.protections retires.roots
        retires.hostFunctions retires.abandoned ?_
      exact named_replaced top rfl rfl
  | leased reads waits named ofType =>
      exact balanced.renamed rfl rfl rfl rfl (named_pushed rfl rfl)
  | operated top =>
      exact balanced.renamed rfl rfl rfl rfl (named_popped top rfl)
  | signalled token => exact balanced
  | taken waits =>
      exact balanced.renamed rfl rfl rfl rfl (named_pushed rfl rfl)
  | reclaimed top retires =>
      refine balanced.renamed retires.protections retires.roots
        retires.hostFunctions retires.abandoned ?_
      exact named_replaced top rfl rfl
  | drainRefused failure => exact balanced
  | @released guard gate kind ends engine available empty begins =>
      refine balanced.step []
        ((attached.shared.roots.drain).2 ++ attached.shared.hostFunctions)
        (attached.shared.roots.drain).1 [] [] attached.abandoned
        (List.append_nil _).symm rfl rfl rfl empty rfl ?_
      intro value
      have drained := drained_count attached.shared.roots value
      rw [owed, named, empty, List.count_append, drained.1, drained.2]
      simp only [total, List.map_nil, List.sum_nil, List.count_nil]
      omega
  | abandoned detaches available empty ends =>
      exact balanced.forsaken empty rfl rfl rfl rfl empty
  | dropped drops available empty live ends =>
      exact balanced.forsaken empty rfl rfl rfl rfl empty
  | disowned destroyed => exact balanced
  | queueClosed under phase => exact balanced
  | settled under phase retires =>
      refine balanced.renamed retires.protections retires.roots
        retires.hostFunctions retires.abandoned ?_
      intro value
      rw [named, named, withPhase, retires.stack]
  | completed under engine phase ends => exact balanced
  | retired under bare phase => exact balanced
  | destroyed under phase => exact balanced
  | finished advances under phase kind replies => exact balanced
  | forsaken under phase kind => exact balanced

omit [DecidableEq Raw] in
/-- Only a teardown that may not enter the engine abandons anything. -/
theorem Moves.abandons [DecidableEq Raw] {op : Op Raw Payload}
    {reply : Reply Raw Payload} (moves : attached.Moves op reply next)
    (abandons : next.abandoned ≠ attached.abandoned) :
    (op = .detachWithoutContext ∨ op = .dropAttachment) ∧
      reply = .begun := by
  cases moves with
  | abandoned detaches available empty ends => exact ⟨Or.inl detaches, rfl⟩
  | dropped drops available empty live ends => exact ⟨Or.inr drops, rfl⟩
  | refused top retires => exact absurd retires.abandoned abandons
  | rolledBack top retires => exact absurd retires.abandoned abandons
  | reclaimed top retires => exact absurd retires.abandoned abandons
  | settled under phase retires => exact absurd retires.abandoned abandons
  | _ => exact absurd rfl abandons

/-- A teardown that ends reports what it has abandoned. -/
theorem Moves.reported {op : Op Raw Payload} {report : DetachReport}
    (moves : attached.Moves op (.detached report) next)
    (advances : op = .advanceTeardown) (ended : attached.Ended) :
    next.abandoned.length = report.unresolved.persistentRoots +
      report.unresolved.callbackRegistrations := by
  cases moves with
  | rested plain => cases plain
  | popped plain top boxes notEntry => cases plain
  | wasDestroyed begins destroyed replies => exact absurd advances begins
  | @finished teardown drain count _ owner advances under phase kind replies =>
      have leaves := ended.leaves teardown under
      unfold Leaves at leaves
      cases same : teardown.kind with
      | owned =>
          rw [same] at replies
          cases replies
      | withContext =>
          rw [same] at replies leaves
          cases replies
          rw [Attached.report, same]
          exact congrArg List.length leaves
      | withoutContext =>
          rw [same] at replies leaves
          cases replies
          rw [Attached.report, same]
          exact leaves
      | dropped finished =>
          rw [same] at replies
          cases replies

end Moves

namespace Balanced

variable [DecidableEq Raw] {attached : Attached Raw Payload}

/-- What was protected is what was unprotected and what is owed. -/
theorem perm (balanced : attached.Balanced) :
    attached.protections.protectCalls.Perm
      (attached.protections.unprotectCalls ++
        (attached.shared.roots.store.held.map Prod.snd ++
          attached.shared.hostFunctions ++
          attached.stack.flatMap Activation.protects ++
          attached.abandoned)) := by
  rw [List.perm_iff_count]
  intro value
  rw [balanced value, owed, named, total]
  simp only [List.count_append, List.count_flatMap]
  rfl

/-- What is left when the registries and the stack are empty. -/
theorem length_of_empty (balanced : attached.Balanced)
    (empty : attached.Empty) :
    attached.protections.protectCalls.length =
      attached.protections.unprotectCalls.length +
        attached.abandoned.length := by
  have lengths := balanced.perm.length_eq
  rw [empty.roots, empty.functions, empty.stack] at lengths
  simpa using lengths

theorem count_of_empty (balanced : attached.Balanced)
    (empty : attached.Empty) (value : Raw) :
    attached.protections.count value = attached.abandoned.count value := by
  have counted := balanced value
  rw [owed, named, empty.roots, empty.functions, empty.stack] at counted
  rw [Protections.count, counted, total]
  simp

end Balanced

/-! ## The count of a value -/

section Runs

variable [DecidableEq Raw] {engine : Engine Raw} {limits : JscRuntimeLimits}
  {trace : List (Exchange (Invocation Raw Payload) (Reply Raw Payload))}
  {attached : Attached Raw Payload}

theorem Fresh.balanced (fresh : Attached.Fresh limits attached) :
    attached.Balanced := by
  cases fresh with
  | runtime id address owner context => exact fun value => rfl
  | attachment id address owner finalEntryPolicy => exact fun value => rfl

theorem run_balanced
    (run : (attachmentSystem engine limits).Run trace attached) :
    attached.Balanced := by
  refine System.Run.invariant (fun _ attached => attached.Balanced) ?_ ?_ run
  · intro attached fresh
    exact fresh.balanced
  · intro trace attached exchange next run balanced step
    exact (run_moves run step).balanced (run_sound run) balanced

/-- Nothing is abandoned unless an attachment is detached without its context
or dropped. -/
theorem run_abandons
    (run : (attachmentSystem engine limits).Run trace attached)
    (abandons : attached.abandoned ≠ []) :
    ∃ exchange ∈ trace, (exchange.op.op = .detachWithoutContext ∨
      exchange.op.op = .dropAttachment) ∧ exchange.reply = .begun := by
  refine System.Run.invariant (fun trace attached =>
    attached.abandoned ≠ [] →
      ∃ exchange ∈ trace, (exchange.op.op = .detachWithoutContext ∨
        exchange.op.op = .dropAttachment) ∧ exchange.reply = .begun)
    ?_ ?_ run abandons
  · intro attached fresh abandons
    cases fresh with
    | runtime id address owner context => exact absurd rfl abandons
    | attachment id address owner finalEntryPolicy =>
        exact absurd rfl abandons
  · intro trace attached exchange next run earlier step abandons
    by_cases same : next.abandoned = attached.abandoned
    · rw [same] at abandons
      obtain ⟨other, member, abandoning⟩ := earlier abandons
      exact ⟨other, List.mem_append_left _ member, abandoning⟩
    · refine ⟨exchange, ?_, (run_moves run step).abandons same⟩
      exact List.mem_append_right _ (List.mem_singleton_self _)

theorem registrySlots_eq (value : Raw) : attached.registrySlots value =
    (attached.shared.roots.store.held.map Prod.snd).count value := by
  rw [registrySlots, ← RootRegistry.drain_values, RootRegistry.drain,
    List.count, List.countP_filterMap]
  apply List.countP_congr
  intro slot _
  cases slot.value <;> simp

theorem named_protects (attached : Attached Raw Payload) (value : Raw) :
    attached.named Activation.protects value =
      attached.named Activation.localRoots value +
        attached.named Activation.argumentRoots value +
        attached.named Activation.publicationRoots value := by
  rw [named, named, named, named, ← total_add, ← total_add]
  congr 1
  funext frame
  cases frame <;> simp [Activation.protects, Activation.localRoots, Activation.argumentRoots, Activation.publicationRoots]

/-- The protections of an attachment that has made the calls of a trace. -/
structure ProtectionsBalance
    (trace : List (Exchange (Invocation Raw Payload) (Reply Raw Payload)))
    (attached : Attached Raw Payload) : Prop where
  counted : ∀ value, attached.protections.count value =
    (attached.registrySlots value +
      attached.named Activation.localRoots value +
      attached.named Activation.argumentRoots value +
      attached.named Activation.publicationRoots value +
      attached.shared.hostFunctions.count value +
      attached.abandoned.count value : Nat)
  nonneg : ∀ value, 0 ≤ attached.protections.count value
  abandons : attached.abandoned ≠ [] →
    ∃ exchange ∈ trace, (exchange.op.op = .detachWithoutContext ∨
      exchange.op.op = .dropAttachment) ∧ exchange.reply = .begun
  /-- Once an attachment that abandoned nothing is torn down, nothing is
  protected any more. -/
  settled : attached.abandoned = [] →
    (∃ exchange ∈ trace, exchange.reply.isTornDown = true) →
      ∀ value, attached.protections.count value = 0
  /-- A teardown that ends reports all that is still protected. -/
  unresolved : ∀ earlier thread report,
    trace = earlier ++ [⟨⟨thread, .advanceTeardown⟩, .detached report⟩] →
      attached.protections.protectCalls.length =
        attached.protections.unprotectCalls.length +
          (report.unresolved.persistentRoots +
            report.unresolved.callbackRegistrations)

/-- Protections balance in every run. -/
theorem run_protectionsBalance
    (run : (attachmentSystem engine limits).Run trace attached) :
    ProtectionsBalance trace attached where
  counted := by
    intro value
    have balanced := run_balanced run value
    have parts := named_protects attached value
    rw [owed, parts, ← registrySlots_eq] at balanced
    rw [Protections.count, balanced]
    omega
  nonneg := by
    intro value
    have balanced := run_balanced run value
    rw [Protections.count, balanced]
    omega
  abandons := run_abandons run
  settled := by
    intro unspent past value
    have empty := (run_ended run).empty (Or.inr (run_destroyed run past))
    rw [(run_balanced run).count_of_empty empty, unspent]
    rfl
  unresolved := by
    intro earlier thread report last
    subst last
    have past : ∃ exchange ∈ earlier ++
        [⟨⟨thread, .advanceTeardown⟩, .detached report⟩],
        exchange.reply.isTornDown = true := by
      refine ⟨_, List.mem_append_right _ (List.mem_singleton_self _), rfl⟩
    have empty := (run_ended run).empty (Or.inr (run_destroyed run past))
    rw [(run_balanced run).length_of_empty empty]
    congr 1
    obtain ⟨before, after, reached, step, path⟩ := run.split_at
    have same := path.nil_inv
    subst same
    exact (run_moves reached step).reported rfl (run_ended reached)

end Runs

def hostAttachment : Attached Nat Unit :=
  .new (.new firstAttachment 0 0 .bestEffort threeRoots) .host

/-- A value is persisted, and the attachment is detached without its context;
then it is detached once more, with one. -/
def abandonment : List (Op Nat Unit) :=
  [.enter (some 0) ⟨none, none⟩, .lendContext, .eval true true,
    .produced (some 20) none, .persist ⟨firstAttachment, 20⟩, .close, .leave,
    .detachWithoutContext, .advanceTeardown, .advanceTeardown,
    .advanceTeardown, .detachWithContext (some 0) ⟨none, none⟩]

/-- A detach that finds the attachment destroyed succeeds, whatever the one
before it has abandoned. -/
theorem abandonment_protected :
    ∃ trace, ∃ attached : Attached Nat Unit,
      (attachmentSystem smallScalars threeRoots).Run trace attached ∧
      (trace.getLast?.map fun exchange => (exchange.op.op, exchange.reply)) =
        some (.detachWithContext (some 0) ⟨none, none⟩,
          .detached ⟨.unavailable, ⟨0, 0, 0⟩, ⟨0, 0, 0⟩, 0⟩) ∧
      attached.protections.count 20 = 1 := by
  obtain ⟨trace, attached, performed, run⟩ :=
    (attachment smallScalars).exists_run_of_performAll
      (Fresh threeRoots) (abandonment.map (Invocation.mk 0))
      (.attachment firstAttachment 0 0 .bestEffort) (by decide)
  refine ⟨trace, attached, run, ?_, ?_⟩
  · have last : (((attachment smallScalars).performAll hostAttachment
        (abandonment.map (Invocation.mk 0))).bind fun done =>
          done.1.getLast?.map fun exchange =>
            (exchange.op.op, exchange.reply)) =
        some (.detachWithContext (some 0) ⟨none, none⟩,
          .detached ⟨.unavailable, ⟨0, 0, 0⟩, ⟨0, 0, 0⟩, 0⟩) := rfl
    rw [hostAttachment, performed] at last
    exact last
  · have count : (((attachment smallScalars).performAll hostAttachment
        (abandonment.map (Invocation.mk 0))).map fun done =>
          done.2.protections.count 20) = some 1 := rfl
    rw [hostAttachment, performed] at count
    exact Option.some.inj count

theorem abandonment_protectionsBalance :
    ∃ trace attached,
      (attachment smallScalars).performAll hostAttachment
        (abandonment.map (Invocation.mk 0)) = some (trace, attached) ∧
      ProtectionsBalance trace attached := by
  obtain ⟨trace, attached, performed, run⟩ :=
    (attachment smallScalars).exists_run_of_performAll
      (Fresh threeRoots) (abandonment.map (Invocation.mk 0))
      (.attachment firstAttachment 0 0 .bestEffort) (by decide)
  exact ⟨trace, attached, performed, run_protectionsBalance run⟩

end Attached

end RustJsi.BackendJsc
