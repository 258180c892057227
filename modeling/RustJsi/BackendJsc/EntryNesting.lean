import RustJsi.BackendJsc.EntryThread
import RustJsi.Host.EntryTeardown

/-!
# What holds on a thread between two steps

The active pair is that of the entry made last, and every entry has saved the
pair below it.  An owned context that was not released is with its runtime, in
the deferred list, or with the call that destroys the runtime.
-/

namespace RustJsi.BackendJsc

open RustJsi.Host (EntryGate HostState)

namespace EntryCall

/-- The shared state and the context an entry names. -/
def entry : EntryCall → Option (Nat × Nat)
  | .frame shared context _ => some (shared, context)
  | _ => none

def enters (shared : Nat) : EntryCall → Bool
  | .frame entered _ _ => entered = shared
  | _ => false

/-- The runtime a call destroys. -/
def destroys : EntryCall → Option Nat
  | .destroying shared _ _ _ => some shared
  | _ => none

end EntryCall

/-- The live frames of a stack of calls. -/
def liveFrames (stack : List EntryCall) : List (Nat × Nat) :=
  stack.filterMap EntryCall.entry

/-- The pair that a stack of calls makes active. -/
def activePair : List EntryCall → ActiveEntry
  | [] => ⟨none, none⟩
  | .frame shared context _ :: _ => ⟨some shared, some context⟩
  | _ :: rest => activePair rest

def entriesOf (shared : Nat) (stack : List EntryCall) : Nat :=
  stack.countP (EntryCall.enters shared)

theorem activePair_cases (stack : List EntryCall) :
    activePair stack = ⟨none, none⟩ ∨
    ∃ shared context, activePair stack = ⟨some shared, some context⟩ := by
  induction stack with
  | nil => exact Or.inl rfl
  | cons call rest inductionHypothesis =>
      cases call with
      | frame shared context previous => exact Or.inr ⟨shared, context, rfl⟩
      | draining => exact inductionHypothesis
      | destroying => exact inductionHypothesis
      | detaching => exact inductionHypothesis

theorem activePair_of_runtime {stack : List EntryCall}
    (idle : (activePair stack).runtime = none) :
    activePair stack = ⟨none, none⟩ := by
  obtain none | ⟨shared, context, some⟩ := activePair_cases stack
  · exact none
  · rw [some] at idle
    cases idle

/-- The group of a context is not that of the active one. -/
def Apart (contexts : List EngineContext) (context : Nat)
    (active : ActiveEntry) : Prop :=
  ∀ other, active.context = some other →
    contexts[other]?.bind EngineContext.group ≠
      contexts[context]?.bind EngineContext.group

/-- Every call found the pair below it as it had to be. -/
def Nests (contexts : List EngineContext) : List EntryCall → Prop
  | [] => True
  | .frame shared context previous :: rest =>
      previous = activePair rest ∧
      (activePair rest = ⟨none, none⟩ ∨
        activePair rest = ⟨some shared, some context⟩) ∧
      Nests contexts rest
  | .draining :: rest => activePair rest = ⟨none, none⟩ ∧ Nests contexts rest
  | .destroying _ context _ .releasing :: rest =>
      Apart contexts context (activePair rest) ∧ Nests contexts rest
  | _ :: rest => Nests contexts rest

/-- All live frames are those of the active pair. -/
theorem Nests.frames {contexts : List EngineContext} {stack : List EntryCall}
    (nests : Nests contexts stack) {frame : Nat × Nat}
    (live : frame ∈ liveFrames stack) :
    activePair stack = ⟨some frame.1, some frame.2⟩ := by
  induction stack with
  | nil => cases live
  | cons call rest inductionHypothesis =>
      cases call with
      | frame shared context previous =>
          obtain ⟨_, below, nests⟩ := nests
          cases List.mem_cons.mp live with
          | inl top => rw [top]; rfl
          | inr live =>
              have named := inductionHypothesis nests live
              cases below with
              | inl none =>
                  rw [none] at named
                  cases named
              | inr same =>
                  rw [same] at named
                  exact named
      | draining => exact inductionHypothesis nests.2 live
      | destroying shared context cause phase =>
          cases phase with
          | releasing => exact inductionHypothesis nests.2 live
          | retiring => exact inductionHypothesis nests live
      | detaching => exact inductionHypothesis nests live

/-- An attachment has entries only where the active pair names it. -/
theorem Nests.entriesOf_eq_zero {contexts : List EngineContext}
    {stack : List EntryCall} (nests : Nests contexts stack) {shared : Nat}
    (other : (activePair stack).runtime ≠ some shared) :
    entriesOf shared stack = 0 := by
  rw [entriesOf, List.countP_eq_zero]
  intro call member enters
  cases call with
  | frame entered context previous =>
      have live : (entered, context) ∈ liveFrames stack :=
        List.mem_filterMap.mpr ⟨_, member, rfl⟩
      rw [nests.frames live] at other
      exact other (congrArg some (of_decide_eq_true enters))
  | draining => cases enters
  | destroying => cases enters
  | detaching => cases enters

theorem entriesOf_pos {stack : List EntryCall} {shared context : Nat}
    (active : activePair stack = ⟨some shared, some context⟩) :
    0 < entriesOf shared stack := by
  induction stack with
  | nil => cases active
  | cons call rest inductionHypothesis =>
      cases call with
      | frame entered entry previous =>
          obtain ⟨rfl, _⟩ : entered = shared ∧ entry = context := by
            simpa [activePair] using active
          rw [entriesOf, List.countP_cons_of_pos (by simp [EntryCall.enters])]
          exact Nat.succ_pos _
      | draining => exact inductionHypothesis active
      | destroying => exact inductionHypothesis active
      | detaching => exact inductionHypothesis active

/-- An entry into an attachment may name the context. -/
def Entrant.Admits (entrant : Entrant) (context : Nat) : Prop :=
  match entrant with
  | .runtime own _ => own = some context
  | .attachment => True

namespace EntryThread

/-- The context was made for the runtime, and was not released. -/
def Unreleased (thread : EntryThread) (context shared group : Nat) : Prop :=
  thread.contexts[context]? = some ⟨some group, some shared, 0⟩

/-- What a call relies on. -/
inductive Relies (thread : EntryThread) : EntryCall → Prop
  | frame (shared context : Nat) (previous : ActiveEntry) (place : Place) :
      thread.places[shared]? = some place →
      place.entrant.Admits context →
      context < thread.contexts.length →
      Relies thread (.frame shared context previous)
  | draining : Relies thread .draining
  | releasing (shared context : Nat) (cause : DestroyCause) (place : Place)
      (own : Option Nat) (group : Nat) :
      thread.places[shared]? = some place →
      place.entrant = .runtime own group →
      place.custody = cause.custody →
      place.shared.gate.state = .draining →
      place.shared.gate.entries = 0 →
      thread.Unreleased context shared group →
      Relies thread (.destroying shared context cause .releasing)
  | retiring (shared context : Nat) (cause : DestroyCause) (place : Place)
      (own : Option Nat) (group : Nat) :
      thread.places[shared]? = some place →
      place.entrant = .runtime own group →
      place.custody = cause.custody →
      place.shared.gate.state = .invalid →
      place.shared.gate.entries = 0 →
      Relies thread (.destroying shared context cause .retiring)
  | detaching (shared : Nat) (cause : DetachCause) (phase : DestructorPhase)
      (place : Place) :
      thread.places[shared]? = some place →
      place.entrant = .attachment →
      Relies thread (.detaching shared cause phase)

/-- A runtime that user code has, and that still has its context. -/
structure Owns (thread : EntryThread) (shared : Nat) (place : Place)
    (context group : Nat) : Prop where
  unreleased : thread.Unreleased context shared group
  unbegun : place.shared.gate.Unbegun

/-- A runtime that waits for its teardown. -/
def Waits (thread : EntryThread) (record : DeferredOwnedRuntimeDrop) :
    Prop :=
  ∃ place group, thread.places[record.shared]? = some place ∧
    place.entrant = .runtime none group ∧ place.custody = .dropped ∧
    place.shared.gate.Unbegun ∧ place.shared.gate.entries = 0 ∧
    thread.Unreleased record.context record.shared group

/-- The runtimes whose teardown is deferred or under way. -/
def doomed (thread : EntryThread) : List Nat :=
  thread.deferred.map DeferredOwnedRuntimeDrop.shared ++
    thread.stack.filterMap EntryCall.destroys

structure Sound (thread : EntryThread) : Prop where
  addressed : ∀ (shared : Nat) (place : Place),
    thread.places[shared]? = some place → place.shared.address = shared
  active : thread.active = activePair thread.stack
  nests : Nests thread.contexts thread.stack
  counted : ∀ (shared : Nat) (place : Place),
    thread.places[shared]? = some place →
    place.shared.gate.entries.toNat = entriesOf shared thread.stack
  relies : ∀ call ∈ thread.stack, thread.Relies call
  owns : ∀ (shared : Nat) (place : Place) (context group : Nat),
    thread.places[shared]? = some place →
    place.entrant = .runtime (some context) group →
    place.custody = .here →
    thread.Owns shared place context group
  waits : ∀ record ∈ thread.deferred, thread.Waits record
  exclusive : thread.doomed.Nodup
  released : ∀ record ∈ thread.contexts, record.released ≤ 1
  pending : thread.deferred ≠ [] →
    thread.active.runtime ≠ none ∨ .draining ∈ thread.stack

end EntryThread

end RustJsi.BackendJsc
