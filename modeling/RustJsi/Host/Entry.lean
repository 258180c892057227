import RustJsi.Interleaving.Component

/-!
# Entry accounting of one host attachment

The gate is a record of cells owned by one thread.  An operation returns its
result together with the gate it leaves behind, also when the result is an
error.
-/

namespace RustJsi.Host

open Interleaving

/-- Monotonic state of one host attachment after initialization. -/
inductive HostState where
  | active
  | draining
  | invalid
  | destroyed
  deriving DecidableEq, Repr

/-- Host promise for a final legal engine entry during teardown. -/
inductive FinalEntryPolicy where
  | guaranteed
  | bestEffort
  | unavailable
  deriving DecidableEq, Repr

/-- Observed final-entry outcome when draining becomes invalid. -/
inductive FinalEntryOutcome where
  | completed
  | unavailable
  deriving DecidableEq, Repr

/-- A rejected entry or lifecycle transition. -/
inductive GateError where
  | notActive (state : HostState)
  | depthLimit
  | entriesRemain (count : UInt32)
  | cleanupInProgress
  | finalEntryRequired
  | finalEntryUnavailable
  | finalEntryComplete
  | invalidTransition (state : HostState) (operation : String)
  deriving DecidableEq, Repr

structure NonZeroU32 where
  value : UInt32
  nonZero : value ≠ 0
  deriving DecidableEq, Repr

/-- One counted entry and what became of it. -/
inductive EntryGuard where
  | live
  | leaked
  | dropped
  deriving DecidableEq, Repr

/-- One cleanup entry and what became of it. -/
inductive CleanupGuard where
  | live
  | leaked
  | dropped
  | completed
  deriving DecidableEq, Repr

structure EntryGate where
  state : HostState
  entries : UInt32
  cleanup : Bool
  finalEntry : Option FinalEntryOutcome
  limit : NonZeroU32
  finalEntryPolicy : FinalEntryPolicy
  deriving DecidableEq, Repr

namespace EntryGate

def new (limit : NonZeroU32) (finalEntryPolicy : FinalEntryPolicy) :
    EntryGate where
  state := .active
  entries := 0
  cleanup := false
  finalEntry := none
  limit := limit
  finalEntryPolicy := finalEntryPolicy

def tryEnter (gate : EntryGate) : Except GateError EntryGuard × EntryGate :=
  if gate.state ≠ .active then
    (.error (.notActive gate.state), gate)
  else if gate.entries ≥ gate.limit.value then
    (.error .depthLimit, gate)
  else
    (.ok .live, { gate with entries := gate.entries + 1 })

def requestDrain (gate : EntryGate) : EntryGate :=
  if gate.state = .active then { gate with state := .draining } else gate

def isDrainReady (gate : EntryGate) : Bool :=
  gate.state = .draining ∧ gate.entries = 0 ∧ !gate.cleanup

def tryBeginCleanup (gate : EntryGate) :
    Except GateError CleanupGuard × EntryGate :=
  if gate.state ≠ .draining then
    (.error (.invalidTransition gate.state "begin_cleanup"), gate)
  else if gate.entries ≠ 0 then
    (.error (.entriesRemain gate.entries), gate)
  else if gate.finalEntryPolicy = .unavailable then
    (.error .finalEntryUnavailable, gate)
  else if gate.finalEntry.isSome then
    (.error .finalEntryComplete, gate)
  else if gate.cleanup then
    (.error .cleanupInProgress, gate)
  else
    (.ok .live, { gate with cleanup := true })

def finishDrain (gate : EntryGate) :
    Except GateError FinalEntryOutcome × EntryGate :=
  if gate.cleanup then
    (.error .cleanupInProgress, gate)
  else
    match gate.state with
    | .invalid => (.ok (gate.finalEntry.getD .unavailable), gate)
    | .draining =>
        if gate.entries = 0 then
          if gate.finalEntryPolicy = .guaranteed ∧ gate.finalEntry.isNone then
            (.error .finalEntryRequired, gate)
          else
            let outcome := gate.finalEntry.getD .unavailable
            (.ok outcome,
              { gate with finalEntry := some outcome, state := .invalid })
        else
          (.error (.entriesRemain gate.entries), gate)
    | state => (.error (.invalidTransition state "finish_drain"), gate)

def markDestroyed (gate : EntryGate) : Except GateError Unit × EntryGate :=
  match gate.state with
  | .destroyed => (.ok (), gate)
  | .invalid => (.ok (), { gate with state := .destroyed })
  | state => (.error (.invalidTransition state "destroy"), gate)

/-- `Drop` of an `EntryGuard`. -/
def dropEntry (gate : EntryGate) : EntryGate :=
  { gate with entries := gate.entries - 1 }

/-- `Drop` of a `CleanupGuard`. -/
def dropCleanup (gate : EntryGate) : EntryGate :=
  { gate with cleanup := false }

/-- `CleanupGuard::complete`, which drops the guard it consumes. -/
def complete (gate : EntryGate) : EntryGate :=
  { gate with finalEntry := some .completed }.dropCleanup

end EntryGate

/-- A gate together with every guard it ever granted, in order. -/
structure Attachment where
  gate : EntryGate
  entryGuards : List EntryGuard
  cleanupGuards : List CleanupGuard
  deriving DecidableEq, Repr

/-- What a host may do next.  A guard is named by the order of its grant. -/
inductive GateOp where
  | tryEnter
  | dropEntry (guard : Nat)
  | leakEntry (guard : Nat)
  | requestDrain
  | tryBeginCleanup
  | complete (guard : Nat)
  | dropCleanup (guard : Nat)
  | leakCleanup (guard : Nat)
  | finishDrain
  | markDestroyed
  deriving DecidableEq, Repr

inductive GateReply where
  | done
  | entered
  | cleanupBegun
  | finished (outcome : FinalEntryOutcome)
  | rejected (error : GateError)
  deriving DecidableEq, Repr

namespace Attachment

def EntryGuardLive (host : Attachment) (guard : Nat) : Prop :=
  host.entryGuards[guard]? = some .live

instance (host : Attachment) (guard : Nat) :
    Decidable (host.EntryGuardLive guard) :=
  inferInstanceAs (Decidable (_ = _))

def CleanupGuardLive (host : Attachment) (guard : Nat) : Prop :=
  host.cleanupGuards[guard]? = some .live

instance (host : Attachment) (guard : Nat) :
    Decidable (host.CleanupGuardLive guard) :=
  inferInstanceAs (Decidable (_ = _))

def enter (host : Attachment) : GateReply × Attachment :=
  match host.gate.tryEnter with
  | (.ok guard, gate) =>
      (.entered,
        { host with gate, entryGuards := host.entryGuards ++ [guard] })
  | (.error error, gate) => (.rejected error, { host with gate })

def beginCleanup (host : Attachment) : GateReply × Attachment :=
  match host.gate.tryBeginCleanup with
  | (.ok guard, gate) =>
      (.cleanupBegun,
        { host with gate, cleanupGuards := host.cleanupGuards ++ [guard] })
  | (.error error, gate) => (.rejected error, { host with gate })

def finish (host : Attachment) : GateReply × Attachment :=
  match host.gate.finishDrain with
  | (.ok outcome, gate) => (.finished outcome, { host with gate })
  | (.error error, gate) => (.rejected error, { host with gate })

def destroy (host : Attachment) : GateReply × Attachment :=
  match host.gate.markDestroyed with
  | (.ok (), gate) => (.done, { host with gate })
  | (.error error, gate) => (.rejected error, { host with gate })

/-- The guard leaves the hands of its owner with the given fate. -/
def settleEntry (host : Attachment) (guard : Nat) (gate : EntryGate)
    (fate : EntryGuard) : Attachment :=
  { host with gate, entryGuards := host.entryGuards.set guard fate }

def settleCleanup (host : Attachment) (guard : Nat) (gate : EntryGate)
    (fate : CleanupGuard) : Attachment :=
  { host with gate, cleanupGuards := host.cleanupGuards.set guard fate }

/-- One operation.  Only a guard still in the hands of its owner can be
dropped, completed or leaked. -/
def perform (host : Attachment) : GateOp → Option (GateReply × Attachment)
  | .tryEnter => some host.enter
  | .dropEntry guard =>
      if host.EntryGuardLive guard then
        some (.done, host.settleEntry guard host.gate.dropEntry .dropped)
      else none
  | .leakEntry guard =>
      if host.EntryGuardLive guard then
        some (.done, host.settleEntry guard host.gate .leaked)
      else none
  | .requestDrain =>
      some (.done, { host with gate := host.gate.requestDrain })
  | .tryBeginCleanup => some host.beginCleanup
  | .complete guard =>
      if host.CleanupGuardLive guard then
        some (.done, host.settleCleanup guard host.gate.complete .completed)
      else none
  | .dropCleanup guard =>
      if host.CleanupGuardLive guard then
        some (.done,
          host.settleCleanup guard host.gate.dropCleanup .dropped)
      else none
  | .leakCleanup guard =>
      if host.CleanupGuardLive guard then
        some (.done, host.settleCleanup guard host.gate .leaked)
      else none
  | .finishDrain => some host.finish
  | .markDestroyed => some host.destroy

end Attachment

/-- A gate under one caller. -/
def entryGate : Component Attachment GateOp GateReply where
  perform := Attachment.perform

/-- Every sequence of operations on a gate created by `EntryGate::new`. -/
def gateSystem (limit : NonZeroU32) (policy : FinalEntryPolicy) :
    System Attachment (Exchange GateOp GateReply) :=
  entryGate.system (fun host => host = ⟨.new limit policy, [], []⟩)

/-- A guard that still counts: its owner has it or leaked it. -/
def EntryGuard.held : EntryGuard → Bool
  | .live => true
  | .leaked => true
  | .dropped => false

def CleanupGuard.held : CleanupGuard → Bool
  | .live => true
  | .leaked => true
  | .dropped => false
  | .completed => false

namespace Attachment

def heldEntries (host : Attachment) : Nat :=
  host.entryGuards.countP EntryGuard.held

def heldCleanups (host : Attachment) : Nat :=
  host.cleanupGuards.countP CleanupGuard.held

end Attachment

end RustJsi.Host
