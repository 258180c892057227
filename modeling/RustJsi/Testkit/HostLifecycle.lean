import RustJsi.Host.EntryLifecycle
import RustJsi.Testkit.Lifecycle

/-!
# The entry gate against the lifecycle model

Every operation on a gate is paired with the one it stands for in the model.
The gate counts its entries and the model lists their tokens; the two accept
and reject alike and show the same state, count and readiness to drain.
-/

namespace RustJsi.Testkit

open Interleaving RustJsi.Host

/-- The state of a gate that a model state stands for. -/
def hostState : RuntimeState → HostState
  | .active => .active
  | .draining => .draining
  | .invalid => .invalid
  | .destroyed => .destroyed

inductive ModelReply where
  | done
  | entered (entry : Entry)
  | rejected (error : LifecycleError)
  deriving DecidableEq, Repr

/-- The part of the model in an operation on the gate, and the tokens it has
issued.  Cleanup and leaks have no part in it. -/
def LifecycleModel.follow (model : LifecycleModel) (tokens : List Entry) :
    GateOp → Option ModelReply × LifecycleModel × List Entry
  | .tryEnter =>
      match model.enter with
      | (.ok entry, next) => (some (.entered entry), next, tokens ++ [entry])
      | (.error error, next) => (some (.rejected error), next, tokens)
  | .dropEntry guard =>
      match tokens[guard]? with
      | none => (none, model, tokens)
      | some entry =>
          match model.exit entry with
          | (.ok (), next) => (some .done, next, tokens)
          | (.error error, next) => (some (.rejected error), next, tokens)
  | .requestDrain => (some .done, model.requestInvalidate, tokens)
  | .finishDrain =>
      match model.finishDrain with
      | (.ok (), next) => (some .done, next, tokens)
      | (.error error, next) => (some (.rejected error), next, tokens)
  | .markDestroyed =>
      match model.destroy with
      | (.ok (), next) => (some .done, next, tokens)
      | (.error error, next) => (some (.rejected error), next, tokens)
  | _ => (none, model, tokens)

/-- What the gate answered, and the model if it had a part. -/
structure PairReply where
  gate : GateReply
  model : Option ModelReply
  deriving DecidableEq, Repr

/-- A gate and a model under the same operations; the token of an entry has the
index of its guard. -/
structure Pair where
  host : Attachment
  model : LifecycleModel
  tokens : List Entry
  deriving DecidableEq, Repr

namespace Pair

/-- The depth limit is not reached, no number runs out, and no drain is finished
under a cleanup guard. -/
def Admits (pair : Pair) : GateOp → Prop
  | .tryEnter =>
      pair.host.gate.state = .active →
        pair.host.gate.entries < pair.host.gate.limit.value ∧
        pair.model.nextEntry.toNat + 1 < UInt64.size
  | .finishDrain => pair.host.gate.cleanup = false
  | _ => True

instance (pair : Pair) (op : GateOp) : Decidable (pair.Admits op) := by
  cases op <;> unfold Admits <;> infer_instance

/-- What an operation leaves, given the gate's part of it. -/
def paired (pair : Pair) (op : GateOp) (performed : GateReply × Attachment) :
    PairReply × Pair :=
  let followed := pair.model.follow pair.tokens op
  (⟨performed.1, followed.1⟩, ⟨performed.2, followed.2.1, followed.2.2⟩)

def perform (pair : Pair) (op : GateOp) : Option (PairReply × Pair) :=
  if pair.Admits op then
    (pair.host.perform op).map (pair.paired op)
  else
    none

end Pair

def pairing : Component Pair GateOp PairReply where
  perform := Pair.perform

/-- Every sequence of paired operations on a new best-effort gate and a new
model. -/
def pairSystem (limit : NonZeroU32) (attachment : AttachmentId) :
    System Pair (Exchange GateOp PairReply) :=
  pairing.system (fun pair =>
    pair = ⟨⟨.new limit .bestEffort, [], []⟩, .new attachment, []⟩)

def GateReply.accepts : GateReply → Bool
  | .rejected _ => false
  | _ => true

def ModelReply.accepts : ModelReply → Bool
  | .rejected _ => false
  | _ => true

/-- Both accepted or both rejected. -/
def PairReply.Agree (reply : PairReply) : Prop :=
  ∀ answer, reply.model = some answer →
    GateReply.accepts reply.gate = answer.accepts

namespace Pair

/-- The gate shows what the model shows. -/
structure Corresponds (pair : Pair) : Prop where
  state : pair.host.gate.state = hostState pair.model.state
  entries : pair.host.gate.entries = pair.model.activeEntries
  drainReady : pair.host.gate.isDrainReady = true ↔
    pair.model.state = .draining ∧ pair.model.activeEntries = 0 ∧
    pair.host.heldCleanups = 0

/-- The tokens are numbered in the order of their grants, and the model lists
exactly those whose guards are held. -/
structure Linked (pair : Pair) : Prop where
  sound : pair.host.Sound
  policy : pair.host.gate.finalEntryPolicy = .bestEffort
  state : pair.host.gate.state = hostState pair.model.state
  issued : pair.model.nextEntry.toNat = pair.tokens.length + 1
  granted : pair.tokens.length = pair.host.entryGuards.length
  numbered : ∀ (guard : Nat) (entry : Entry),
    pair.tokens[guard]? = some entry →
    entry.attachment = pair.model.attachment ∧
    entry.sequence.toNat = guard + 1
  live : ∀ (guard : Nat) (entry : Entry),
    pair.tokens[guard]? = some entry →
    (entry.sequence ∈ pair.model.liveEntries ↔
      ∃ fate : EntryGuard, pair.host.entryGuards[guard]? = some fate ∧
        fate.held = true)
  bounded : ∀ sequence ∈ pair.model.liveEntries,
    sequence.toNat ≤ pair.tokens.length
  apart : pair.model.liveEntries.Nodup
  counted : pair.model.liveEntries.length = pair.host.heldEntries

section Linked

variable {pair next : Pair}

theorem Linked.activeEntries (linked : pair.Linked) :
    pair.model.activeEntries.toNat = pair.host.heldEntries := by
  have fits := linked.sound.withinLimit
  have small := pair.host.gate.limit.value.toNat_lt
  have below : pair.model.liveEntries.length < UInt32.size := by
    rw [linked.counted]
    exact Nat.lt_of_le_of_lt fits small
  rw [LifecycleModel.activeEntries, if_pos below, UInt32.toNat_ofNat_of_lt' below]
  exact linked.counted

theorem Linked.entries (linked : pair.Linked) :
    pair.host.gate.entries = pair.model.activeEntries := by
  apply UInt32.toNat_inj.mp
  rw [linked.activeEntries]
  exact linked.sound.entriesCounted

theorem hostState_eq {state : RuntimeState} :
    (hostState state = .active ↔ state = .active) ∧
    (hostState state = .draining ↔ state = .draining) ∧
    (hostState state = .invalid ↔ state = .invalid) ∧
    (hostState state = .destroyed ↔ state = .destroyed) := by
  cases state <;> decide

theorem Linked.corresponds (linked : pair.Linked) : pair.Corresponds where
  state := linked.state
  entries := linked.entries
  drainReady := by
    have cleanups := linked.sound.cleanupCounted
    rw [← linked.entries, ← hostState_eq.2.1, ← linked.state, cleanups]
    cases busy : pair.host.gate.cleanup <;> simp [EntryGate.isDrainReady, busy]

/-- What does not touch the entries keeps the relation. -/
theorem Linked.carry (linked : pair.Linked) (sound : next.host.Sound)
    (policy : next.host.gate.finalEntryPolicy =
      pair.host.gate.finalEntryPolicy)
    (state : next.host.gate.state = hostState next.model.state)
    (guards : next.host.entryGuards = pair.host.entryGuards)
    (tokens : next.tokens = pair.tokens)
    (issued : next.model.nextEntry = pair.model.nextEntry)
    (attachment : next.model.attachment = pair.model.attachment)
    (entries : next.model.liveEntries = pair.model.liveEntries) :
    next.Linked where
  sound := sound
  policy := policy.trans linked.policy
  state := state
  issued := by rw [issued, tokens, linked.issued]
  granted := by rw [tokens, guards, linked.granted]
  numbered := by
    rw [tokens, attachment]
    exact linked.numbered
  live := by
    rw [tokens, entries, guards]
    exact linked.live
  bounded := by
    rw [tokens, entries]
    exact linked.bounded
  apart := entries ▸ linked.apart
  counted := by
    rw [entries, linked.counted, Attachment.heldEntries,
      Attachment.heldEntries, guards]

theorem fresh_linked (limit : NonZeroU32) (attachment : AttachmentId) :
    Linked ⟨⟨.new limit .bestEffort, [], []⟩, .new attachment, []⟩ where
  sound := Attachment.Sound.initial limit .bestEffort
  policy := rfl
  state := rfl
  issued := rfl
  granted := rfl
  numbered := nofun
  live := nofun
  bounded := nofun
  apart := List.nodup_nil
  counted := rfl

theorem Linked.entered (linked : pair.Linked)
    (active : pair.host.gate.state = .active)
    (room : pair.host.gate.entries < pair.host.gate.limit.value)
    (issuable : pair.model.nextEntry.toNat + 1 < UInt64.size) :
    let entry : Entry := ⟨pair.model.attachment, pair.model.nextEntry⟩
    Linked
      { host :=
          { pair.host with
            gate.entries := pair.host.gate.entries + 1
            entryGuards := pair.host.entryGuards ++ [.live] }
        model :=
          { pair.model with
            nextEntry := pair.model.nextEntry + 1
            liveEntries := pair.model.liveEntries ++ [entry.sequence]
            events := pair.model.events ++ [.entered entry] }
        tokens := pair.tokens ++ [entry] } := by
  intro entry
  have fresh : pair.model.nextEntry ∉ pair.model.liveEntries := by
    intro member
    have old := linked.bounded _ member
    rw [linked.issued] at old
    exact absurd old (Nat.not_succ_le_self _)
  constructor
  · exact linked.sound.entered active room
  · exact linked.policy
  · exact linked.state
  · simp only [List.length_append, List.length_singleton]
    rw [UInt64.toNat_add, ← linked.issued]
    exact Nat.mod_eq_of_lt issuable
  · simp [linked.granted]
  · apply forall_append_single linked.numbered
    exact ⟨rfl, linked.issued⟩
  · intro guard granted present
    rw [List.mem_append, List.mem_singleton]
    rcases Nat.lt_trichotomy guard pair.tokens.length with
      before | same | after
    · rw [List.getElem?_append_left before] at present
      have within : guard < pair.host.entryGuards.length :=
        linked.granted ▸ before
      have number := (linked.numbered guard granted present).2
      have older : granted.sequence ≠ entry.sequence := by
        intro same
        rw [same, linked.issued] at number
        omega
      rw [List.getElem?_append_left within, linked.live guard granted present]
      simp [older]
    · subst same
      rw [List.getElem?_append_right (Nat.le_refl _), Nat.sub_self] at present
      cases present
      rw [linked.granted, List.getElem?_append_right (Nat.le_refl _),
        Nat.sub_self]
      exact ⟨fun _ => ⟨.live, rfl, rfl⟩, fun _ => Or.inr rfl⟩
    · rw [List.getElem?_eq_none (by simp; omega)] at present
      cases present
  · intro sequence member
    rw [List.length_append, List.length_singleton]
    rcases List.mem_append.mp member with old | new
    · exact Nat.le_succ_of_le (linked.bounded sequence old)
    · rw [List.mem_singleton.mp new]
      exact Nat.le_of_eq linked.issued
  · refine List.nodup_append.mpr ⟨linked.apart,
      List.nodup_cons.mpr ⟨List.not_mem_nil, List.nodup_nil⟩, ?_⟩
    intro old listed new issued same
    rw [same, List.mem_singleton.mp issued] at listed
    exact fresh listed
  · have held := countP_append_single EntryGuard.held pair.host.entryGuards
      .live
    rw [List.length_append, linked.counted]
    exact held.symm

theorem Linked.dropped (linked : pair.Linked) {guard : Nat} {entry : Entry}
    (held : pair.host.EntryGuardLive guard)
    (present : pair.tokens[guard]? = some entry)
    {liveEntries : List UInt64} {events : List LifecycleEvent}
    (removed : pair.model.liveEntries.Perm (entry.sequence :: liveEntries)) :
    Linked
      { host :=
          pair.host.settleEntry guard pair.host.gate.dropEntry .dropped
        model := { pair.model with liveEntries, events }
        tokens := pair.tokens } := by
  have apart := removed.nodup_iff.mp linked.apart
  obtain ⟨gone, rest⟩ := List.nodup_cons.mp apart
  have within : guard < pair.host.entryGuards.length :=
    (List.getElem?_eq_some_iff.mp held).1
  constructor
  · exact linked.sound.entryDropped held
  · exact linked.policy
  · exact linked.state
  · exact linked.issued
  · exact linked.granted.trans (List.length_set ..).symm
  · exact linked.numbered
  · intro other token granted
    simp only [Attachment.settleEntry]
    by_cases same : other = guard
    · subst same
      have token_eq : token = entry :=
        Option.some.inj (granted.symm.trans present)
      rw [token_eq, List.getElem?_set_self within]
      constructor
      · exact fun member => absurd member gone
      · rintro ⟨fate, fateEq, stillHeld⟩
        cases fateEq
        cases stillHeld
    · have differs : token.sequence ≠ entry.sequence := by
        intro equal
        have first := (linked.numbered other token granted).2
        have second := (linked.numbered guard entry present).2
        rw [equal] at first
        omega
      rw [List.getElem?_set_ne (Ne.symm same), ← linked.live other token granted,
        removed.mem_iff, List.mem_cons]
      simp [differs]
  · intro sequence member
    exact linked.bounded sequence
      (removed.mem_iff.mpr (List.mem_cons_of_mem _ member))
  · exact rest
  · have shorter := removed.length_eq
    have fewer := Attachment.heldEntries_dropped held pair.host.gate.dropEntry
    rw [List.length_cons, linked.counted] at shorter
    exact Nat.add_right_cancel (shorter.symm.trans fewer.symm)

theorem Linked.leaked (linked : pair.Linked) {guard : Nat}
    (held : pair.host.EntryGuardLive guard) :
    Linked
      { pair with
        host := pair.host.settleEntry guard pair.host.gate .leaked } := by
  have within : guard < pair.host.entryGuards.length :=
    (List.getElem?_eq_some_iff.mp held).1
  constructor
  · exact linked.sound.entryLeaked held
  · exact linked.policy
  · exact linked.state
  · exact linked.issued
  · exact linked.granted.trans (List.length_set ..).symm
  · exact linked.numbered
  · intro other token granted
    rw [linked.live other token granted]
    simp only [Attachment.settleEntry]
    by_cases same : other = guard
    · subst same
      rw [List.getElem?_set_self within, held]
      simp [EntryGuard.held]
    · rw [List.getElem?_set_ne (Ne.symm same)]
  · exact linked.bounded
  · exact linked.apart
  · exact linked.counted.trans
      (Attachment.heldEntries_leaked held pair.host.gate).symm

/-- The two answers agree and what they leave is related. -/
def Keeps (result : PairReply × Pair) : Prop :=
  result.1.Agree ∧ result.2.Linked

theorem agree_of {gate : GateReply} {model : ModelReply}
    (same : GateReply.accepts gate = model.accepts) :
    PairReply.Agree ⟨gate, some model⟩ := by
  intro answer given
  cases given
  exact same

theorem enter_keeps (linked : pair.Linked) (admits : pair.Admits .tryEnter) :
    Keeps (pair.paired .tryEnter pair.host.enter) := by
  by_cases active : pair.host.gate.state = .active
  · obtain ⟨room, issuable⟩ := admits active
    have modelActive : pair.model.state = .active :=
      hostState_eq.1.mp (linked.state.symm.trans active)
    have gate : pair.host.enter = (.entered,
        { pair.host with
          gate.entries := pair.host.gate.entries + 1
          entryGuards := pair.host.entryGuards ++ [.live] }) := by
      simp [Attachment.enter, EntryGate.tryEnter, active,
        UInt32.not_le.mpr room]
    have model : pair.model.follow pair.tokens .tryEnter =
        (some (.entered ⟨pair.model.attachment, pair.model.nextEntry⟩),
          { pair.model with
            nextEntry := pair.model.nextEntry + 1
            liveEntries :=
              pair.model.liveEntries ++ [pair.model.nextEntry]
            events := pair.model.events ++
              [.entered ⟨pair.model.attachment, pair.model.nextEntry⟩] },
          pair.tokens ++
            [⟨pair.model.attachment, pair.model.nextEntry⟩]) := by
      simp [LifecycleModel.follow, LifecycleModel.enter, modelActive,
        checkedSucc, issuable]
    rw [paired, gate, model]
    exact ⟨agree_of rfl, linked.entered active room issuable⟩
  · have modelLeft : pair.model.state ≠ .active := by
      intro modelActive
      exact active (linked.state.trans (hostState_eq.1.mpr modelActive))
    have gate : pair.host.enter =
        (.rejected (.notActive pair.host.gate.state), pair.host) := by
      simp [Attachment.enter, EntryGate.tryEnter, active]
    have model : pair.model.follow pair.tokens .tryEnter =
        (some (.rejected (.notActive pair.model.state)), pair.model,
          pair.tokens) := by
      simp [LifecycleModel.follow, LifecycleModel.enter, modelLeft]
    rw [paired, gate, model]
    exact ⟨agree_of rfl, linked⟩

theorem exit_keeps (linked : pair.Linked) {guard : Nat}
    (held : pair.host.EntryGuardLive guard) :
    Keeps (pair.paired (.dropEntry guard) (.done,
      pair.host.settleEntry guard pair.host.gate.dropEntry .dropped)) := by
  have within : guard < pair.tokens.length := by
    rw [linked.granted]
    exact (List.getElem?_eq_some_iff.mp held).1
  have present := List.getElem?_eq_getElem within
  have issued := (linked.numbered guard _ present).1
  have live := (linked.live guard _ present).mpr ⟨.live, held, rfl⟩
  obtain ⟨index, found, removed⟩ := findIdx_of_mem live
  have model : ∃ events, pair.model.follow pair.tokens (.dropEntry guard) =
      (some .done,
        { pair.model with
          liveEntries := swapRemove pair.model.liveEntries index
          events },
        pair.tokens) := by
    simp [LifecycleModel.follow, LifecycleModel.exit, present, issued, found]
  obtain ⟨events, followed⟩ := model
  rw [paired, followed]
  exact ⟨agree_of rfl, linked.dropped held present removed⟩

theorem drain_keeps (linked : pair.Linked) :
    Keeps (pair.paired .requestDrain
      (.done, { pair.host with gate := pair.host.gate.requestDrain })) := by
  refine ⟨agree_of rfl, ?_⟩
  have performed : pair.host.perform .requestDrain = some (.done,
      { pair.host with gate := pair.host.gate.requestDrain }) := rfl
  have sound := linked.sound.change (perform_change performed)
  have state := linked.state
  refine linked.carry sound ?_ ?_ rfl rfl ?_ ?_ ?_
  all_goals simp only [paired, LifecycleModel.follow,
    EntryGate.requestDrain, LifecycleModel.requestInvalidate]
  · split <;> rfl
  · cases held : pair.model.state <;> rw [held] at state <;>
      simp [state, held, hostState]
  · split <;> rfl
  · split <;> rfl
  · split <;> rfl

/-- An operation on the gate in which neither entries nor state move, and the
model has no part. -/
theorem cleanup_keeps (linked : pair.Linked) {op : GateOp}
    {reply : GateReply} {host : Attachment}
    (performed : pair.host.perform op = some (reply, host))
    (apart : pair.model.follow pair.tokens op =
      (none, pair.model, pair.tokens))
    (guards : host.entryGuards = pair.host.entryGuards)
    (policy : host.gate.finalEntryPolicy = pair.host.gate.finalEntryPolicy)
    (state : host.gate.state = pair.host.gate.state) :
    Keeps (pair.paired op (reply, host)) := by
  rw [paired, apart]
  have sound := linked.sound.change (perform_change performed)
  exact ⟨nofun, linked.carry sound policy (state.trans linked.state) guards
    rfl rfl rfl rfl⟩

theorem finish_keeps (linked : pair.Linked)
    (admits : pair.Admits .finishDrain) :
    Keeps (pair.paired .finishDrain pair.host.finish) := by
  have sound : pair.host.finish.2.Sound :=
    linked.sound.change (finish_change pair.host)
  have free : pair.host.gate.cleanup = false := admits
  have policy := linked.policy
  have state := linked.state
  have listed : pair.model.liveEntries.isEmpty = true ↔
      pair.host.gate.entries = 0 := by
    rw [List.isEmpty_iff, ← List.length_eq_zero_iff, linked.counted,
      ← linked.sound.entriesCounted, ← UInt32.toNat_inj]
    rfl
  cases held : pair.model.state with
  | draining =>
      rw [held] at state
      by_cases empty : pair.host.gate.entries = 0
      · have gate : pair.host.finish =
            (.finished (pair.host.gate.finalEntry.getD .unavailable),
              { pair.host with
                gate.finalEntry :=
                  some (pair.host.gate.finalEntry.getD .unavailable)
                gate.state := .invalid }) := by
          simp [Attachment.finish, EntryGate.finishDrain, free, state,
            hostState, empty, policy]
        have model : pair.model.follow pair.tokens .finishDrain =
            (some .done,
              { pair.model with
                state := .invalid
                events := pair.model.events ++ [.invalidated] },
              pair.tokens) := by
          simp [LifecycleModel.follow, LifecycleModel.finishDrain, held,
            listed.mpr empty]
        rw [gate] at sound
        rw [paired, gate, model]
        exact ⟨agree_of rfl,
          linked.carry sound rfl rfl rfl rfl rfl rfl rfl⟩
      · have gate : pair.host.finish =
            (.rejected (.entriesRemain pair.host.gate.entries),
              pair.host) := by
          simp [Attachment.finish, EntryGate.finishDrain, free, state,
            hostState, empty]
        have model : pair.model.follow pair.tokens .finishDrain =
            (some (.rejected (.entriesRemain pair.model.activeEntries)),
              pair.model, pair.tokens) := by
          simp [LifecycleModel.follow, LifecycleModel.finishDrain, held,
            mt listed.mp empty]
        rw [paired, gate, model]
        exact ⟨agree_of rfl, linked⟩
  | invalid =>
      rw [held] at state
      have gate : pair.host.finish =
          (.finished (pair.host.gate.finalEntry.getD .unavailable),
            pair.host) := by
        simp [Attachment.finish, EntryGate.finishDrain, free, state, hostState]
      have model : pair.model.follow pair.tokens .finishDrain =
          (some .done, pair.model, pair.tokens) := by
        simp [LifecycleModel.follow, LifecycleModel.finishDrain, held]
      rw [paired, gate, model]
      exact ⟨agree_of rfl, linked⟩
  | active | destroyed =>
      rw [held] at state
      have gate : ∃ error, pair.host.finish = (.rejected error, pair.host) := by
        simp [Attachment.finish, EntryGate.finishDrain, free, state, hostState]
      have model : ∃ error, pair.model.follow pair.tokens .finishDrain =
          (some (.rejected error), pair.model, pair.tokens) := by
        simp [LifecycleModel.follow, LifecycleModel.finishDrain, held]
      obtain ⟨reason, refused⟩ := gate
      obtain ⟨error, followed⟩ := model
      rw [paired, refused, followed]
      exact ⟨agree_of rfl, linked⟩

theorem destroy_keeps (linked : pair.Linked) :
    Keeps (pair.paired .markDestroyed pair.host.destroy) := by
  have sound : pair.host.destroy.2.Sound :=
    linked.sound.change (destroy_change pair.host)
  have state := linked.state
  cases held : pair.model.state with
  | invalid =>
      rw [held] at state
      have gate : pair.host.destroy =
          (.done, { pair.host with gate.state := .destroyed }) := by
        simp [Attachment.destroy, EntryGate.markDestroyed, state, hostState]
      have model : pair.model.follow pair.tokens .markDestroyed =
          (some .done,
            { pair.model with
              state := .destroyed
              events := pair.model.events ++ [.destroyed] },
            pair.tokens) := by
        simp [LifecycleModel.follow, LifecycleModel.destroy, held]
      rw [gate] at sound
      rw [paired, gate, model]
      exact ⟨agree_of rfl, linked.carry sound rfl rfl rfl rfl rfl rfl rfl⟩
  | destroyed =>
      rw [held] at state
      have gate : pair.host.destroy = (.done, pair.host) := by
        simp [Attachment.destroy, EntryGate.markDestroyed, state, hostState]
      have model : pair.model.follow pair.tokens .markDestroyed =
          (some .done, pair.model, pair.tokens) := by
        simp [LifecycleModel.follow, LifecycleModel.destroy, held]
      rw [paired, gate, model]
      exact ⟨agree_of rfl, linked⟩
  | active | draining =>
      rw [held] at state
      have gate : ∃ error,
          pair.host.destroy = (.rejected error, pair.host) := by
        simp [Attachment.destroy, EntryGate.markDestroyed, state, hostState]
      have model : ∃ error, pair.model.follow pair.tokens .markDestroyed =
          (some (.rejected error), pair.model, pair.tokens) := by
        simp [LifecycleModel.follow, LifecycleModel.destroy, held]
      obtain ⟨reason, refused⟩ := gate
      obtain ⟨error, followed⟩ := model
      rw [paired, refused, followed]
      exact ⟨agree_of rfl, linked⟩

theorem beginCleanup_fixed (host : Attachment) :
    host.beginCleanup.2.entryGuards = host.entryGuards ∧
    host.beginCleanup.2.gate.finalEntryPolicy =
      host.gate.finalEntryPolicy ∧
    host.beginCleanup.2.gate.state = host.gate.state := by
  have changes := beginCleanup_change host
  generalize host.beginCleanup.1 = reply at changes
  generalize host.beginCleanup.2 = after at changes ⊢
  cases changes with
  | refused => exact ⟨rfl, rfl, rfl⟩
  | cleanupBegun => exact ⟨rfl, rfl, rfl⟩

/-- One paired operation is answered alike on both sides. -/
theorem perform_keeps (linked : pair.Linked) {op : GateOp}
    {result : PairReply × Pair} (performed : pair.perform op = some result) :
    Keeps result := by
  unfold perform at performed
  split at performed
  · rename_i admits
    obtain ⟨⟨reply, host⟩, answered, resultEq⟩ :=
      Option.map_eq_some_iff.mp performed
    rw [← resultEq]
    cases op with
    | tryEnter =>
        have keeps := enter_keeps linked admits
        rwa [Option.some.inj answered] at keeps
    | dropEntry guard =>
        cases perform_change answered with
        | refused _ _ refusable => exact refusable.elim
        | entryDropped guard live => exact exit_keeps linked live
    | leakEntry guard =>
        cases perform_change answered with
        | refused _ _ refusable => exact refusable.elim
        | entryLeaked guard live => exact ⟨nofun, linked.leaked live⟩
    | requestDrain =>
        cases answered
        exact drain_keeps linked
    | tryBeginCleanup =>
        have fixed := beginCleanup_fixed pair.host
        rw [Option.some.inj answered] at fixed
        obtain ⟨guards, policy, state⟩ := fixed
        exact cleanup_keeps linked answered rfl guards policy state
    | complete guard =>
        refine cleanup_keeps linked answered rfl ?_ ?_ ?_ <;>
          cases perform_change answered <;> rfl
    | dropCleanup guard =>
        refine cleanup_keeps linked answered rfl ?_ ?_ ?_ <;>
          cases perform_change answered <;> rfl
    | leakCleanup guard =>
        refine cleanup_keeps linked answered rfl ?_ ?_ ?_ <;>
          cases perform_change answered <;> rfl
    | finishDrain =>
        have keeps := finish_keeps linked admits
        rwa [Option.some.inj answered] at keeps
    | markDestroyed =>
        have keeps := destroy_keeps linked
        rwa [Option.some.inj answered] at keeps
  · cases performed

end Linked

end Pair

/-- Every paired operation is accepted by both or rejected by both, and the gate
always shows the state, the entries and the readiness of the model. -/
theorem run_bisimilar {limit : NonZeroU32} {attachment : AttachmentId}
    {trace : List (Exchange GateOp PairReply)} {pair : Pair}
    (run : (pairSystem limit attachment).Run trace pair) :
    (∀ exchange ∈ trace, exchange.reply.Agree) ∧ pair.Corresponds := by
  have kept : (∀ exchange ∈ trace, exchange.reply.Agree) ∧ pair.Linked := by
    apply run.invariant (fun trace pair =>
      (∀ exchange ∈ trace, exchange.reply.Agree) ∧ pair.Linked)
    · intro pair starts
      obtain rfl := starts
      exact ⟨fun _ member => absurd member List.not_mem_nil,
        Pair.fresh_linked limit attachment⟩
    · intro trace pair exchange next _ kept performed
      obtain ⟨agreed, linked⟩ := kept
      have keeps := Pair.perform_keeps linked performed
      refine ⟨?_, keeps.2⟩
      intro tested member
      cases List.mem_append.mp member with
      | inl before => exact agreed tested before
      | inr last =>
          rw [List.mem_singleton.mp last]
          exact keeps.1
  exact ⟨kept.1, kept.2.corresponds⟩

/-- Two nested entries, the outer one left first, a cleanup that is dropped and
one that is completed, and the end of the attachment. -/
def nestedTeardown : List GateOp :=
  [.tryEnter, .tryEnter, .requestDrain, .tryEnter, .dropEntry 0,
    .finishDrain, .dropEntry 1, .tryBeginCleanup, .dropCleanup 0,
    .requestDrain, .tryBeginCleanup, .complete 1, .finishDrain,
    .markDestroyed, .markDestroyed, .finishDrain]

def firstPair : Pair :=
  ⟨⟨.new ⟨2, by decide⟩ .bestEffort, [], []⟩,
    .new ⟨⟨.one⟩, ⟨.one⟩⟩, []⟩

theorem nestedTeardown_bisimilar :
    ∃ trace pair,
      pairing.performAll firstPair nestedTeardown = some (trace, pair) ∧
      (∀ exchange ∈ trace, exchange.reply.Agree) ∧
      pair.Corresponds ∧
      pair.model.state = .destroyed := by
  obtain ⟨trace, pair, performed, run⟩ :=
    pairing.exists_run_of_performAll (fun pair => pair = firstPair)
      nestedTeardown rfl (by decide)
  have bisimilar := run_bisimilar run
  refine ⟨trace, pair, performed, bisimilar.1, bisimilar.2, ?_⟩
  have ended : (pairing.performAll firstPair nestedTeardown).map
      (fun result => result.2.model.state) = some .destroyed := by
    decide
  simpa [performed] using ended

end RustJsi.Testkit
