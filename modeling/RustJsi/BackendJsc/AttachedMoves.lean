import RustJsi.BackendJsc.AttachedSystem
import RustJsi.BackendJsc.RootLedger

/-!
# What an operation does to an attachment

Every operation makes one of a few moves, as long as the attachment is sound:
its counters agree with its stack and its registries, and its gate with the
entries and the teardown under way.
-/

namespace RustJsi.BackendJsc

open Counted Generational Interleaving
open RustJsi.Host (EntryGate EntryGuard FinalEntryOutcome HostState)

variable {Raw Payload : Type*}

namespace Activation

/-- The functions a call is publishing. -/
def functions : Activation Raw Payload → List Raw
  | .registering function => [function]
  | _ => []

/-- Each operation has reserved what it needs: one slot for its result, and
one for each string among its arguments. -/
def Formed : Activation Raw Payload → Prop
  | .producing _ reservation => reservation.held = 1
  | .calling call =>
      call.reservation.held = 1 ∧
        call.argumentRoots.length + call.arguments.countP Value.isString =
          call.argumentReservation.held
  | _ => True

end Activation

def TeardownPhase.isRetiring : TeardownPhase Payload → Bool
  | .retiring _ _ _ => true
  | _ => false

/-- The state of the gate, and whether it is cleaned up, while a teardown is
under way. -/
def TeardownKind.guards (kind : TeardownKind) (retiring : Bool) :
    HostState × Bool :=
  match kind with
  | .owned | .withContext =>
      if retiring then (.invalid, false) else (.draining, true)
  | .withoutContext | .dropped true => (.invalid, false)
  | .dropped false => (.draining, false)

def Teardown.Guards (teardown : Teardown Payload) (gate : EntryGate) : Prop :=
  (gate.state, gate.cleanup) = teardown.kind.guards teardown.phase.isRetiring

namespace Attached

/-- The slots charged by all calls under way. -/
def slots (attached : Attached Raw Payload) : Nat :=
  total Activation.slots attached.stack

/-- The number of entries under way. -/
def entries (attached : Attached Raw Payload) : Nat :=
  attached.stack.countP Activation.isEntry

structure Sound (attached : Attached Raw Payload) : Prop where
  roots : attached.shared.roots.Sound
  nativeStates : attached.shared.nativeStates.Sound
  used : attached.shared.localBudget.used = attached.slots
  bounded : attached.shared.localBudget.used ≤
    attached.shared.localBudget.limit
  formed : ∀ frame ∈ attached.stack, frame.Formed
  registered : (attached.stack.flatMap Activation.functions).Subperm
    attached.shared.hostFunctions
  entered : attached.shared.gate.entries.toNat = attached.entries
  /-- Everything is called from within an entry. -/
  grounded : ∀ frame, attached.stack.getLast? = some frame →
    frame.isEntry = true
  idle : attached.teardown = none →
    attached.shared.gate.cleanup = false ∧
      attached.shared.gate.state ≠ .invalid
  tearing : ∀ teardown, attached.teardown = some teardown →
    attached.stack = [] ∧ teardown.Guards attached.shared.gate

/-! ## Moves -/

end Attached

namespace Op

/-- The operations on the registry of persistent roots. -/
def usesRoots : Op Raw Payload → Bool
  | .persist _ | .persistValue _ | .release _ | .dropLease _ => true
  | .drainRootReleases => true
  | _ => false

def isTeardown : Op Raw Payload → Bool
  | .invalidate _ _ | .destroyOwnedRuntime | .detachWithContext _ _ => true
  | .detachWithoutContext | .dropAttachment | .advanceTeardown => true
  | _ => false

end Op

namespace Reply

def isRooted : Reply Raw Payload → Bool
  | .rooted _ => true
  | _ => false

/-- Nothing is returned that only some moves return. -/
def isPlain : Reply Raw Payload → Bool
  | .rooted _ | .faulted _ | .invalidated | .detached _ => false
  | _ => true

end Reply

namespace Attached

/-- A state was taken out of the registry and given up by it, if the identity
named one. -/
inductive Retires (attached : Attached Raw Payload) (id : NativeId) :
    Option (AnyRc Payload) → Attached Raw Payload → Prop
  | nothing (unnamed : attached.shared.nativeStates.store.get id = none) :
      Retires attached id none attached
  | state {value : AnyRc Payload} {registry : NativeRegistry Payload}
      (named : attached.shared.nativeStates.store.get id = some value)
      (sound : registry.Sound)
      (moved : attached.shared.nativeStates.store.Step [] [(id, value)]
        registry.store)
      (live : registry.live + 1 = attached.shared.nativeStates.live)
      (limit : registry.limit = attached.shared.nativeStates.limit) :
      Retires attached id (some value)
        { attached with
          shared.nativeStates := registry
          heap := attached.heap.drop value.box }

/-- The local budget with other slots charged. -/
def charge (attached : Attached Raw Payload) (used : Nat) :
    Attached Raw Payload :=
  attached.withBudget (attached.shared.localBudget.charged used)

def protectAll (attached : Attached Raw Payload) (values : List Raw) :
    Attached Raw Payload :=
  { attached with
    protections.protectCalls := attached.protections.protectCalls ++ values }

/-- What one operation does to a sound attachment. -/
inductive Moves [DecidableEq Raw] (attached : Attached Raw Payload)
    (op : Op Raw Payload) : Reply Raw Payload → Attached Raw Payload → Prop
  | rested {reply : Reply Raw Payload} (plain : reply.isPlain = true) :
      Moves attached op reply attached
  /-- A teardown of an attachment that is destroyed already. -/
  | wasDestroyed {reply : Reply Raw Payload}
      (begins : op ≠ .advanceTeardown)
      (destroyed : attached.shared.gate.state = .destroyed)
      (replies : reply = .invalidated ∨
        reply = .detached attached.emptyReport) :
      Moves attached op reply attached
  | entered {guard : EntryGuard} {gate : EntryGate}
      (available : attached.available = true)
      (admitted : attached.shared.gate.tryEnter = (.ok guard, gate)) :
      Moves attached op .begun
        ((attached.withGate gate).withStack (.entry :: attached.stack))
  | left {rest : List (Activation Raw Payload)}
      (top : attached.stack = .entry :: rest) :
      Moves attached op .done
        ((attached.withGate attached.shared.gate.dropEntry).withStack rest)
  | pushed {frame : Activation Raw Payload}
      (waits : attached.stack ≠ []) (formed : frame.Formed)
      (protects : frame.protects = []) (boxes : frame.boxes = [])
      (functions : frame.functions = []) (notEntry : frame.isEntry = false)
      (room : attached.shared.localBudget.used + frame.slots ≤
        attached.shared.localBudget.limit) :
      Moves attached op .begun
        ((attached.charge
          (attached.shared.localBudget.used + frame.slots)).withStack
          (frame :: attached.stack))
  | popped {reply : Reply Raw Payload} {frame : Activation Raw Payload}
      {rest : List (Activation Raw Payload)}
      (plain : reply.isPlain = true) (top : attached.stack = frame :: rest)
      (boxes : frame.boxes = []) (notEntry : frame.isEntry = false)
      (publishes : frame.functions = [] ∨ ∃ global exception,
        op = .publishHostFunction global exception) :
      Moves attached op reply
        (((attached.unprotectAll frame.protects).charge
          (attached.shared.localBudget.used - frame.slots)).withStack rest)
  | replaced {old new : Activation Raw Payload}
      {rest : List (Activation Raw Payload)} (values : List Raw)
      (top : attached.stack = old :: rest) (formed : new.Formed)
      (slots : new.slots = old.slots)
      (protects : new.protects = old.protects ++ values)
      (oldBoxes : old.boxes = []) (newBoxes : new.boxes = [])
      (oldFunctions : old.functions = []) (newFunctions : new.functions = [])
      (oldNotEntry : old.isEntry = false)
      (newNotEntry : new.isEntry = false) :
      Moves attached op .begun
        ((attached.protectAll values).withStack (new :: rest))
  | handed {value : Raw} {frame holder held : Activation Raw Payload}
      {rest : List (Activation Raw Payload)}
      (top : attached.stack = frame :: holder :: rest)
      (holds : holder.hold value = some held)
      (boxes : frame.boxes = []) (functions : frame.functions = [])
      (notEntry : frame.isEntry = false) (covered : 1 ≤ frame.slots) :
      Moves attached op (.rooted value)
        ((((attached.protect value).unprotectAll frame.protects).charge
          (attached.shared.localBudget.used - frame.slots + 1)).withStack
          (held :: rest))
  | resolved {value : Raw} {holder held : Activation Raw Payload}
      {rest : List (Activation Raw Payload)}
      (top : attached.stack = holder :: rest)
      (holds : holder.hold value = some held)
      (room : attached.shared.localBudget.used + 1 ≤
        attached.shared.localBudget.limit) :
      Moves attached op (.rooted value)
        (((attached.protect value).charge
          (attached.shared.localBudget.used + 1)).withStack (held :: rest))
  | persisted {value : Raw} {registry : RootRegistry Raw} {id : RootId}
      (roots : op.usesRoots = true) (waits : attached.stack ≠ [])
      (sound : registry.Sound)
      (moved : attached.shared.roots.store.Step [(id, value)] []
        registry.store) :
      Moves attached op (.persisted id)
        ({ attached with shared.roots := registry }.protect value)
  | unrooted {value : Raw} {registry : RootRegistry Raw} {id : RootId}
      (roots : op.usesRoots = true) (sound : registry.Sound)
      (moved : attached.shared.roots.store.Step [] [(id, value)]
        registry.store) :
      Moves attached op .done
        ({ attached with shared.roots := registry }.unprotect value)
  | requested {registry : RootRegistry Raw} (roots : op.usesRoots = true)
      (sound : registry.Sound)
      (same : registry.store = attached.shared.roots.store) :
      Moves attached op .done { attached with shared.roots := registry }
  | registered {function : Raw}
      (waits : attached.stack ≠ [])
      (fresh : function ∉ attached.shared.hostFunctions)
      (installs : ∃ name, op = .installHostFunction name (some function)) :
      Moves attached op .begun
        (({ attached with
          shared.hostFunctions :=
            function :: attached.shared.hostFunctions }.protect
          function).withStack (.registering function :: attached.stack))
  | unregistered {failure : Failure} {function : Raw}
      {rest : List (Activation Raw Payload)}
      (top : attached.stack = .registering function :: rest)
      (publishes : ∃ global exception,
        op = .publishHostFunction global exception) :
      Moves attached op (.failed failure)
        ((attached.rollbackHostFunction function).withStack rest)
  | accepted {state : NativeState Payload}
      {registry : NativeRegistry Payload} {id : NativeId}
      (installs : op = .tryInstallNativeState state)
      (waits : attached.stack ≠ [])
      (sound : registry.Sound)
      (moved : attached.shared.nativeStates.store.Step
        [(id, ⟨attached.heap.alloc.1, state⟩)] [] registry.store)
      (live : registry.live = attached.shared.nativeStates.live + 1)
      (limit : registry.limit = attached.shared.nativeStates.limit) :
      Moves attached op .begun
        { attached with
          shared.nativeStates := registry
          heap := attached.heap.alloc.2
          stack := .creating id :: attached.stack }
  | refused {failure : Failure} {id : NativeId}
      {value : Option (AnyRc Payload)} {next : Attached Raw Payload}
      {rest : List (Activation Raw Payload)}
      (top : attached.stack = .creating id :: rest)
      (retires : attached.Retires id value next) :
      Moves attached op (.failed failure) (next.withStack rest)
  | rolledBack {object : Raw} {id : NativeId} {error : JsError}
      {value : Option (AnyRc Payload)} {next : Attached Raw Payload}
      {rest : List (Activation Raw Payload)}
      (top : attached.stack = .publishing object id :: rest)
      (retires : attached.Retires id value next) :
      Moves attached op .begun
        (next.withStack (.rolledBack object error :: rest))
  | leased {handle : NativeObject} {lease : AnyRc Payload}
      (reads : op = .withNativeState handle)
      (waits : attached.stack ≠ [])
      (named : attached.shared.nativeStates.store.get handle.id =
        some lease)
      (ofType : lease.state.typeId = handle.typeId) :
      Moves attached op (.leased lease.state)
        { attached with
          heap := attached.heap.clone lease.box
          stack := .operating lease :: attached.stack }
  | operated {lease : AnyRc Payload} {rest : List (Activation Raw Payload)}
      (top : attached.stack = .operating lease :: rest) :
      Moves attached op .done
        { attached with
          heap := attached.heap.drop lease.box, stack := rest }
  | signalled (token : NativeId) :
      Moves attached op .done
        { attached with
          shared.nativeFinalizers :=
            attached.shared.nativeFinalizers.push token }
  | taken (waits : attached.stack ≠ []) :
      Moves attached op .begun
        { attached with
          shared.nativeFinalizers := attached.shared.nativeFinalizers.take.1
          stack := .reclaiming attached.shared.nativeFinalizers.take.2
            ⟨0, 0⟩ :: attached.stack }
  | reclaimed {token : NativeId} {tokens : List NativeId}
      {before after : FinalizerDrain} {value : Option (AnyRc Payload)}
      {next : Attached Raw Payload} {rest : List (Activation Raw Payload)}
      (top : attached.stack = .reclaiming (token :: tokens) before :: rest)
      (retires : attached.Retires token value next) :
      Moves attached op .begun
        (next.withStack (.reclaiming tokens after :: rest))
  | drainRefused (failure : Failure) :
      Moves attached op (.failed failure)
        (attached.withGate attached.shared.gate.requestDrain)
  | released {guard : Host.CleanupGuard} {gate : EntryGate}
      {kind : TeardownKind} (ends : op.isTeardown = true)
      (engine : kind = .owned ∨ kind = .withContext)
      (available : attached.available = true) (empty : attached.stack = [])
      (begins : attached.shared.gate.requestDrain.tryBeginCleanup =
        (.ok guard, gate)) :
      Moves attached op .begun
        ((attached.withGate gate).releaseEngineResources kind)
  | abandoned {gate : EntryGate} {finalEntry : FinalEntryOutcome}
      (detaches : op = .detachWithoutContext)
      (available : attached.available = true) (empty : attached.stack = [])
      (ends : attached.shared.gate.requestDrain.finishDrain =
        (.ok finalEntry, gate)) :
      Moves attached op .begun
        ((attached.withGate gate).abandonEngineResources .withoutContext
          (some finalEntry))
  | dropped {gate : EntryGate} {finished : Bool}
      {finalEntry : Option FinalEntryOutcome}
      (drops : op = .dropAttachment)
      (available : attached.available = true) (empty : attached.stack = [])
      (gone : attached.shared.gate.state ≠ .destroyed)
      (ends : (finished = true ∧ ∃ outcome, finalEntry = some outcome ∧
          attached.shared.gate.requestDrain.finishDrain =
            (.ok outcome, gate)) ∨
        (finished = false ∧ gate = attached.shared.gate.requestDrain)) :
      Moves attached op .begun
        (({ attached with owner := .gone }.withGate
          gate).abandonEngineResources (.dropped finished) finalEntry)
  | disowned (destroyed : attached.shared.gate.state = .destroyed) :
      Moves attached op .done { attached with owner := .gone }
  | queueClosed {teardown : Teardown Payload}
      (under : attached.teardown = some teardown)
      (phase : teardown.phase = .closing) :
      Moves attached op .begun
        ({ attached with
          shared.nativeFinalizers :=
            attached.shared.nativeFinalizers.close.1 }.withPhase teardown
          (.reclaiming attached.shared.nativeFinalizers.close.2 ⟨0, 0⟩))
  | settled {teardown : Teardown Payload} {token : NativeId}
      {tokens : List NativeId} {report : FinalizerDrain}
      {value : Option (AnyRc Payload)} {next : Attached Raw Payload}
      (under : attached.teardown = some teardown)
      (phase : teardown.phase = .reclaiming (token :: tokens) report)
      (retires : attached.Retires token value next) :
      Moves attached op .begun
        (next.withPhase teardown (.reclaiming tokens
          ⟨report.signals + 1,
            report.retiredNativeStates + value.isSome.toNat⟩))
  | completed {teardown : Teardown Payload} {report : FinalizerDrain}
      (under : attached.teardown = some teardown)
      (engine : teardown.kind = .owned ∨ teardown.kind = .withContext)
      (phase : teardown.phase = .reclaiming [] report)
      (ends : attached.shared.gate.complete.finishDrain =
        (.ok .completed,
          { attached.shared.gate.complete with
            finalEntry := some .completed, state := .invalid })) :
      Moves attached op .begun
        ((attached.withGate { attached.shared.gate.complete with
          finalEntry := some .completed
          state := .invalid }).retireNativeStates
          { teardown with finalEntry := some .completed } report)
  | retired {teardown : Teardown Payload} {report : FinalizerDrain}
      (under : attached.teardown = some teardown)
      (bare : teardown.kind ≠ .owned ∧ teardown.kind ≠ .withContext)
      (phase : teardown.phase = .reclaiming [] report) :
      Moves attached op .begun (attached.retireNativeStates teardown report)
  | destroyed {teardown : Teardown Payload} {state : AnyRc Payload}
      {states : List (AnyRc Payload)} {report : FinalizerDrain}
      {count : Nat}
      (under : attached.teardown = some teardown)
      (phase : teardown.phase = .retiring (state :: states) report count) :
      Moves attached op .begun
        ({ attached with heap := attached.heap.drop state.box }.withPhase
          teardown (.retiring states report count))
  | finished {teardown : Teardown Payload} {report : FinalizerDrain}
      {count : Nat} {reply : Reply Raw Payload} {owner : Owner}
      (advances : op = .advanceTeardown)
      (under : attached.teardown = some teardown)
      (phase : teardown.phase = .retiring [] report count)
      (kind : teardown.kind ≠ .dropped false)
      (replies : reply =
        match teardown.kind with
        | .owned => .invalidated
        | .dropped _ => .done
        | _ => .detached (Attached.report teardown report count)) :
      Moves attached op reply
        { attached with
          shared.gate := { attached.shared.gate with state := .destroyed }
          owner := owner
          teardown := none }
  | forsaken {teardown : Teardown Payload} {report : FinalizerDrain}
      {count : Nat}
      (under : attached.teardown = some teardown)
      (phase : teardown.phase = .retiring [] report count)
      (kind : teardown.kind = .dropped false) :
      Moves attached op .done { attached with teardown := none }

end Attached

end RustJsi.BackendJsc
