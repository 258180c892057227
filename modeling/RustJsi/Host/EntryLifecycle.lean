import RustJsi.Host.Entry
import RustJsi.Interleaving.Counting

/-!
# Lifecycle safety of the entry gate

Every operation is a refusal, a repetition without effect, or one of the
changes listed by `GateChange`.  The fields of the gate and the guards it
granted agree after each of them.
-/

namespace RustJsi.Host

open Interleaving

/-- The operations that can fail.  Finishing an invalid attachment only fails
under a cleanup guard. -/
def Refusable (before : Attachment) : GateOp → Prop
  | .tryEnter | .tryBeginCleanup | .markDestroyed => True
  | .finishDrain =>
      before.gate.state ≠ .invalid ∨ before.gate.cleanup = true
  | _ => False

/-- The outcomes of one operation, each with the condition it needs. -/
inductive GateChange (before : Attachment) :
    GateOp → GateReply → Attachment → Prop
  | refused (op : GateOp) (error : GateError) :
      Refusable before op →
      GateChange before op (.rejected error) before
  | drainRepeated :
      before.gate.state ≠ .active →
      GateChange before .requestDrain .done before
  | finishRepeated :
      before.gate.state = .invalid → before.gate.cleanup = false →
      GateChange before .finishDrain
        (.finished (before.gate.finalEntry.getD .unavailable)) before
  | destroyRepeated :
      before.gate.state = .destroyed →
      GateChange before .markDestroyed .done before
  | entered :
      before.gate.state = .active →
      before.gate.entries < before.gate.limit.value →
      GateChange before .tryEnter .entered
        { before with
          gate.entries := before.gate.entries + 1
          entryGuards := before.entryGuards ++ [.live] }
  | entryDropped (guard : Nat) :
      before.EntryGuardLive guard →
      GateChange before (.dropEntry guard) .done
        (before.settleEntry guard before.gate.dropEntry .dropped)
  | entryLeaked (guard : Nat) :
      before.EntryGuardLive guard →
      GateChange before (.leakEntry guard) .done
        (before.settleEntry guard before.gate .leaked)
  | drained :
      before.gate.state = .active →
      GateChange before .requestDrain .done
        { before with gate.state := .draining }
  | cleanupBegun :
      before.gate.state = .draining → before.gate.entries = 0 →
      before.gate.finalEntryPolicy ≠ .unavailable →
      before.gate.finalEntry = none → before.gate.cleanup = false →
      GateChange before .tryBeginCleanup .cleanupBegun
        { before with
          gate.cleanup := true
          cleanupGuards := before.cleanupGuards ++ [.live] }
  | cleanupCompleted (guard : Nat) :
      before.CleanupGuardLive guard →
      GateChange before (.complete guard) .done
        (before.settleCleanup guard before.gate.complete .completed)
  | cleanupDropped (guard : Nat) :
      before.CleanupGuardLive guard →
      GateChange before (.dropCleanup guard) .done
        (before.settleCleanup guard before.gate.dropCleanup .dropped)
  | cleanupLeaked (guard : Nat) :
      before.CleanupGuardLive guard →
      GateChange before (.leakCleanup guard) .done
        (before.settleCleanup guard before.gate .leaked)
  | finished (outcome : FinalEntryOutcome) :
      before.gate.state = .draining → before.gate.entries = 0 →
      before.gate.cleanup = false →
      (before.gate.finalEntryPolicy = .guaranteed →
        before.gate.finalEntry.isSome) →
      outcome = before.gate.finalEntry.getD .unavailable →
      GateChange before .finishDrain (.finished outcome)
        { before with
          gate.finalEntry := some outcome
          gate.state := .invalid }
  | destroyed :
      before.gate.state = .invalid →
      GateChange before .markDestroyed .done
        { before with gate.state := .destroyed }

theorem enter_change (host : Attachment) :
    GateChange host .tryEnter host.enter.1 host.enter.2 := by
  unfold Attachment.enter EntryGate.tryEnter
  by_cases active : host.gate.state = .active
  · by_cases full : host.gate.entries ≥ host.gate.limit.value
    · simpa [active, full] using GateChange.refused .tryEnter .depthLimit trivial
    · simpa [active, full] using
        GateChange.entered active (UInt32.not_le.mp full)
  · simpa [active] using
      GateChange.refused .tryEnter (.notActive host.gate.state) trivial

theorem beginCleanup_change (host : Attachment) :
    GateChange host .tryBeginCleanup
      host.beginCleanup.1 host.beginCleanup.2 := by
  unfold Attachment.beginCleanup EntryGate.tryBeginCleanup
  by_cases draining : host.gate.state = .draining
  · by_cases empty : host.gate.entries = 0
    · by_cases denied : host.gate.finalEntryPolicy = .unavailable
      · simpa [draining, empty, denied] using
          GateChange.refused .tryBeginCleanup .finalEntryUnavailable
            trivial
      · cases recorded : host.gate.finalEntry with
        | some outcome =>
            simpa [draining, empty, denied, recorded] using
              GateChange.refused .tryBeginCleanup .finalEntryComplete
                trivial
        | none =>
            cases busy : host.gate.cleanup with
            | true =>
                simpa [draining, empty, denied, recorded, busy] using
                  GateChange.refused .tryBeginCleanup .cleanupInProgress
                    trivial
            | false =>
                simpa [draining, empty, denied, recorded, busy] using
                  GateChange.cleanupBegun draining empty denied
                    recorded busy
    · simpa [draining, empty] using
        GateChange.refused .tryBeginCleanup
          (.entriesRemain host.gate.entries) trivial
  · simpa [draining] using
      GateChange.refused .tryBeginCleanup
        (.invalidTransition host.gate.state "begin_cleanup") trivial

theorem finish_change (host : Attachment) :
    GateChange host .finishDrain host.finish.1 host.finish.2 := by
  unfold Attachment.finish EntryGate.finishDrain
  cases busy : host.gate.cleanup with
  | true =>
      exact .refused .finishDrain .cleanupInProgress (Or.inr busy)
  | false =>
      cases phase : host.gate.state with
      | active =>
          exact .refused .finishDrain (.invalidTransition .active _)
            (Or.inl (by simp [phase]))
      | destroyed =>
          exact .refused .finishDrain (.invalidTransition .destroyed _)
            (Or.inl (by simp [phase]))
      | invalid =>
          exact .finishRepeated phase busy
      | draining =>
          have refusable : Refusable host .finishDrain :=
            Or.inl (by simp [phase])
          by_cases empty : host.gate.entries = 0
          · by_cases required : host.gate.finalEntryPolicy = .guaranteed ∧
              host.gate.finalEntry = none
            · simpa [empty, required] using
                GateChange.refused .finishDrain .finalEntryRequired refusable
            · have permitted : host.gate.finalEntryPolicy = .guaranteed →
                  host.gate.finalEntry.isSome := by
                intro guaranteed
                cases recorded : host.gate.finalEntry with
                | none => exact absurd ⟨guaranteed, recorded⟩ required
                | some _ => rfl
              simpa [empty, required, busy] using
                GateChange.finished _ phase empty busy permitted rfl
          · simpa [empty] using
              GateChange.refused .finishDrain
                (.entriesRemain host.gate.entries) refusable

theorem destroy_change (host : Attachment) :
    GateChange host .markDestroyed host.destroy.1 host.destroy.2 := by
  unfold Attachment.destroy EntryGate.markDestroyed
  cases phase : host.gate.state with
  | active => exact .refused .markDestroyed (.invalidTransition .active _) trivial
  | draining =>
      exact .refused .markDestroyed (.invalidTransition .draining _) trivial
  | invalid => exact .destroyed phase
  | destroyed => exact .destroyRepeated phase

theorem requestDrain_change (host : Attachment) :
    GateChange host .requestDrain .done
      { host with gate := host.gate.requestDrain } := by
  unfold EntryGate.requestDrain
  by_cases active : host.gate.state = .active
  · simpa [active] using GateChange.drained active
  · simpa [active] using GateChange.drainRepeated active

theorem perform_change {host after : Attachment} {op : GateOp}
    {reply : GateReply}
    (performed : host.perform op = some (reply, after)) :
    GateChange host op reply after := by
  cases op with
  | tryEnter =>
      have changes := enter_change host
      rwa [Option.some.inj performed] at changes
  | dropEntry guard =>
      by_cases live : host.EntryGuardLive guard
      · simp only [Attachment.perform, live, if_true] at performed
        cases performed
        exact .entryDropped guard live
      · simp [Attachment.perform, live] at performed
  | leakEntry guard =>
      by_cases live : host.EntryGuardLive guard
      · simp only [Attachment.perform, live, if_true] at performed
        cases performed
        exact .entryLeaked guard live
      · simp [Attachment.perform, live] at performed
  | requestDrain =>
      cases performed
      exact requestDrain_change host
  | tryBeginCleanup =>
      have changes := beginCleanup_change host
      rwa [Option.some.inj performed] at changes
  | complete guard =>
      by_cases live : host.CleanupGuardLive guard
      · simp only [Attachment.perform, live, if_true] at performed
        cases performed
        exact .cleanupCompleted guard live
      · simp [Attachment.perform, live] at performed
  | dropCleanup guard =>
      by_cases live : host.CleanupGuardLive guard
      · simp only [Attachment.perform, live, if_true] at performed
        cases performed
        exact .cleanupDropped guard live
      · simp [Attachment.perform, live] at performed
  | leakCleanup guard =>
      by_cases live : host.CleanupGuardLive guard
      · simp only [Attachment.perform, live, if_true] at performed
        cases performed
        exact .cleanupLeaked guard live
      · simp [Attachment.perform, live] at performed
  | finishDrain =>
      have changes := finish_change host
      rwa [Option.some.inj performed] at changes
  | markDestroyed =>
      have changes := destroy_change host
      rwa [Option.some.inj performed] at changes

/-! ## The invariant -/

namespace Attachment

/-- Draining has ended: the attachment is invalid or destroyed. -/
def Ended (host : Attachment) : Prop :=
  host.gate.state = .invalid ∨ host.gate.state = .destroyed

/-- How the fields of a gate agree with the guards it granted. -/
structure Sound (host : Attachment) : Prop where
  entriesCounted : host.gate.entries.toNat = host.heldEntries
  withinLimit : host.heldEntries ≤ host.gate.limit.value.toNat
  cleanupCounted : host.heldCleanups = host.gate.cleanup.toNat
  cleanupAdmitted : 0 < host.heldCleanups →
    host.gate.state = .draining ∧ host.gate.entries = 0 ∧
    host.gate.finalEntryPolicy ≠ .unavailable ∧
    host.gate.finalEntry = none
  endedEmpty : host.Ended →
    host.heldEntries = 0 ∧ host.heldCleanups = 0 ∧
    host.gate.finalEntry.isSome
  guaranteedCompleted : host.Ended →
    host.gate.finalEntryPolicy = .guaranteed →
    .completed ∈ host.cleanupGuards
  recorded : host.gate.finalEntry.isSome →
    host.gate.finalEntry = some .completed ∨ host.Ended
  outcomeCompleted : host.gate.finalEntry = some .completed ↔
    .completed ∈ host.cleanupGuards

/-- A cleanup guard is exclusive. -/
theorem Sound.cleanup_exclusive {host : Attachment} (sound : host.Sound) :
    host.heldCleanups ≤ 1 := by
  rw [sound.cleanupCounted]
  exact Bool.toNat_le host.gate.cleanup

theorem Sound.entries_eq_zero {host : Attachment} (sound : host.Sound)
    (empty : host.gate.entries = 0) : host.heldEntries = 0 := by
  rw [← sound.entriesCounted, empty]
  rfl

theorem Sound.cleanups_eq_zero {host : Attachment} (sound : host.Sound)
    (free : host.gate.cleanup = false) : host.heldCleanups = 0 := by
  rw [sound.cleanupCounted, free]
  rfl

theorem heldEntries_dropped {host : Attachment} {guard : Nat}
    (live : host.EntryGuardLive guard) (gate : EntryGate) :
    (host.settleEntry guard gate .dropped).heldEntries + 1 =
      host.heldEntries :=
  countP_set_add EntryGuard.held .dropped live

theorem heldEntries_leaked {host : Attachment} {guard : Nat}
    (live : host.EntryGuardLive guard) (gate : EntryGate) :
    (host.settleEntry guard gate .leaked).heldEntries = host.heldEntries :=
  Nat.add_right_cancel
    (countP_set_add EntryGuard.held EntryGuard.leaked live :
      _ + EntryGuard.live.held.toNat = _ + EntryGuard.live.held.toNat)

theorem heldEntries_pos {host : Attachment} {guard : Nat}
    (live : host.EntryGuardLive guard) : 0 < host.heldEntries :=
  countP_pos_of_present EntryGuard.held live rfl

theorem heldCleanups_released {host : Attachment} {guard : Nat}
    (live : host.CleanupGuardLive guard) (gate : EntryGate)
    (fate : CleanupGuard) (released : fate.held = false) :
    (host.settleCleanup guard gate fate).heldCleanups + 1 =
      host.heldCleanups := by
  have moved := countP_set_add CleanupGuard.held fate live
  rw [released] at moved
  exact moved

theorem heldCleanups_leaked {host : Attachment} {guard : Nat}
    (live : host.CleanupGuardLive guard) (gate : EntryGate) :
    (host.settleCleanup guard gate .leaked).heldCleanups =
      host.heldCleanups :=
  Nat.add_right_cancel
    (countP_set_add CleanupGuard.held CleanupGuard.leaked live :
      _ + CleanupGuard.live.held.toNat = _ + CleanupGuard.live.held.toNat)

theorem heldCleanups_pos {host : Attachment} {guard : Nat}
    (live : host.CleanupGuardLive guard) : 0 < host.heldCleanups :=
  countP_pos_of_present CleanupGuard.held live rfl

/-- Only `complete` adds a completed guard. -/
theorem completed_settleCleanup {host : Attachment} {guard : Nat}
    (live : host.CleanupGuardLive guard) (gate : EntryGate)
    (fate : CleanupGuard) :
    .completed ∈ (host.settleCleanup guard gate fate).cleanupGuards ↔
      .completed ∈ host.cleanupGuards ∨ .completed = fate :=
  mem_set_iff_of_present fate live (by decide)

/-- While a guard is held, the attachment has not ended. -/
theorem Sound.not_ended_of_entry {host : Attachment} (sound : host.Sound)
    (held : 0 < host.heldEntries) : ¬ host.Ended := by
  intro ended
  have empty := (sound.endedEmpty ended).1
  omega

theorem Sound.not_ended_of_cleanup {host : Attachment} (sound : host.Sound)
    (held : 0 < host.heldCleanups) : ¬ host.Ended := by
  intro ended
  have empty := (sound.endedEmpty ended).2.1
  omega

/-- While an entry is held, no cleanup is. -/
theorem Sound.no_cleanup_of_entry {host : Attachment} (sound : host.Sound)
    (held : 0 < host.heldEntries) : host.heldCleanups = 0 := by
  by_contra busy
  have empty :=
    sound.entries_eq_zero
      (sound.cleanupAdmitted (Nat.pos_of_ne_zero busy)).2.1
  omega

theorem Sound.no_cleanup_of_active {host : Attachment} (sound : host.Sound)
    (active : host.gate.state = .active) : host.heldCleanups = 0 := by
  by_contra busy
  have draining :=
    (sound.cleanupAdmitted (Nat.pos_of_ne_zero busy)).1
  rw [active] at draining
  cases draining

theorem Sound.initial (limit : NonZeroU32) (policy : FinalEntryPolicy) :
    Sound ⟨.new limit policy, [], []⟩ where
  entriesCounted := rfl
  withinLimit := Nat.zero_le _
  cleanupCounted := rfl
  cleanupAdmitted := nofun
  endedEmpty := by simp [Ended, EntryGate.new]
  guaranteedCompleted := by simp [Ended, EntryGate.new]
  recorded := nofun
  outcomeCompleted := by simp [EntryGate.new]

theorem Sound.entered {host : Attachment} (sound : host.Sound)
    (active : host.gate.state = .active)
    (room : host.gate.entries < host.gate.limit.value) :
    Sound
      { host with
        gate.entries := host.gate.entries + 1
        entryGuards := host.entryGuards ++ [.live] } := by
  have below : host.heldEntries < host.gate.limit.value.toNat := by
    rw [← sound.entriesCounted]
    exact UInt32.lt_iff_toNat_lt.mp room
  have counted : (host.gate.entries + 1).toNat = host.heldEntries + 1 := by
    have fits := host.gate.limit.value.toNat_lt
    rw [UInt32.toNat_add, sound.entriesCounted]
    exact Nat.mod_eq_of_lt (by simp; omega)
  have held : (host.entryGuards ++ [EntryGuard.live]).countP
      EntryGuard.held = host.heldEntries + 1 :=
    countP_append_single EntryGuard.held host.entryGuards .live
  have idle := sound.no_cleanup_of_active active
  constructor
  · rw [heldEntries, held]
    exact counted
  · rw [heldEntries, held]
    exact below
  · exact sound.cleanupCounted
  · intro busy
    exact absurd idle (Nat.ne_of_gt busy)
  · rintro (invalid | destroyed) <;> simp_all
  · rintro (invalid | destroyed) <;> simp_all
  · intro isRecorded
    exact sound.recorded isRecorded
  · exact sound.outcomeCompleted

theorem Sound.entryDropped {host : Attachment} {guard : Nat}
    (sound : host.Sound) (live : host.EntryGuardLive guard) :
    (host.settleEntry guard host.gate.dropEntry .dropped).Sound := by
  have held := heldEntries_pos live
  have released := heldEntries_dropped live host.gate.dropEntry
  have counted : (host.gate.entries - 1).toNat = host.heldEntries - 1 := by
    rw [UInt32.toNat_sub_of_le, sound.entriesCounted]
    · rfl
    · rw [UInt32.le_iff_toNat_le, sound.entriesCounted]
      exact held
  have idle := sound.no_cleanup_of_entry held
  have running := sound.not_ended_of_entry held
  constructor
  · exact counted.trans (by omega)
  · exact Nat.le_trans (by omega) sound.withinLimit
  · exact sound.cleanupCounted
  · intro busy
    exact absurd idle (Nat.ne_of_gt busy)
  · intro ended
    exact absurd ended running
  · intro ended
    exact absurd ended running
  · exact sound.recorded
  · exact sound.outcomeCompleted

theorem Sound.entryLeaked {host : Attachment} {guard : Nat}
    (sound : host.Sound) (live : host.EntryGuardLive guard) :
    (host.settleEntry guard host.gate .leaked).Sound := by
  have kept := heldEntries_leaked live host.gate
  constructor
  · exact sound.entriesCounted.trans kept.symm
  · exact Nat.le_trans (Nat.le_of_eq kept) sound.withinLimit
  · exact sound.cleanupCounted
  · exact sound.cleanupAdmitted
  · intro ended
    rw [kept]
    exact sound.endedEmpty ended
  · exact sound.guaranteedCompleted
  · exact sound.recorded
  · exact sound.outcomeCompleted

theorem Sound.drained {host : Attachment} (sound : host.Sound)
    (active : host.gate.state = .active) :
    Sound { host with gate.state := .draining } := by
  have idle := sound.no_cleanup_of_active active
  have running : ¬ host.Ended := by simp [Ended, active]
  constructor
  · exact sound.entriesCounted
  · exact sound.withinLimit
  · exact sound.cleanupCounted
  · intro busy
    exact absurd idle (Nat.ne_of_gt busy)
  · rintro (invalid | destroyed) <;> contradiction
  · rintro (invalid | destroyed) <;> contradiction
  · intro isRecorded
    rcases sound.recorded isRecorded with completed | ended
    · exact Or.inl completed
    · exact absurd ended running
  · exact sound.outcomeCompleted

theorem Sound.cleanupBegun {host : Attachment} (sound : host.Sound)
    (draining : host.gate.state = .draining)
    (empty : host.gate.entries = 0)
    (permitted : host.gate.finalEntryPolicy ≠ .unavailable)
    (unrecorded : host.gate.finalEntry = none)
    (free : host.gate.cleanup = false) :
    Sound
      { host with
        gate.cleanup := true
        cleanupGuards := host.cleanupGuards ++ [.live] } := by
  have idle := sound.cleanups_eq_zero free
  have running : ¬ host.Ended := by simp [Ended, draining]
  have held : (host.cleanupGuards ++ [CleanupGuard.live]).countP
      CleanupGuard.held = host.heldCleanups + 1 :=
    countP_append_single CleanupGuard.held host.cleanupGuards .live
  constructor
  · exact sound.entriesCounted
  · exact sound.withinLimit
  · rw [heldCleanups, held, idle]
    rfl
  · intro _
    exact ⟨draining, empty, permitted, unrecorded⟩
  · intro ended
    exact absurd ended running
  · intro ended
    exact absurd ended running
  · exact sound.recorded
  · have completedIff := sound.outcomeCompleted
    simpa using completedIff

theorem Sound.cleanupCompleted {host : Attachment} {guard : Nat}
    (sound : host.Sound) (live : host.CleanupGuardLive guard) :
    (host.settleCleanup guard host.gate.complete .completed).Sound := by
  have held := heldCleanups_pos live
  have released :=
    heldCleanups_released live host.gate.complete .completed rfl
  have exclusive := sound.cleanup_exclusive
  have running := sound.not_ended_of_cleanup held
  have idle :
      (host.settleCleanup guard host.gate.complete
        .completed).heldCleanups = 0 := by
    omega
  constructor
  · exact sound.entriesCounted
  · exact sound.withinLimit
  · exact idle
  · intro busy
    exact absurd idle (Nat.ne_of_gt busy)
  · intro ended
    exact absurd ended running
  · intro ended
    exact absurd ended running
  · intro _
    exact Or.inl rfl
  · have completedIff :=
      completed_settleCleanup live host.gate.complete .completed
    exact ⟨fun _ => completedIff.mpr (Or.inr rfl), fun _ => rfl⟩

theorem Sound.cleanupDropped {host : Attachment} {guard : Nat}
    (sound : host.Sound) (live : host.CleanupGuardLive guard) :
    (host.settleCleanup guard host.gate.dropCleanup .dropped).Sound := by
  have held := heldCleanups_pos live
  have released :=
    heldCleanups_released live host.gate.dropCleanup .dropped rfl
  have exclusive := sound.cleanup_exclusive
  have running := sound.not_ended_of_cleanup held
  have idle :
      (host.settleCleanup guard host.gate.dropCleanup
        .dropped).heldCleanups = 0 := by
    omega
  constructor
  · exact sound.entriesCounted
  · exact sound.withinLimit
  · exact idle
  · intro busy
    exact absurd idle (Nat.ne_of_gt busy)
  · intro ended
    exact absurd ended running
  · intro ended
    exact absurd ended running
  · exact sound.recorded
  · have completedIff :=
      completed_settleCleanup live host.gate.dropCleanup .dropped
    exact sound.outcomeCompleted.trans (completedIff.trans (by simp)).symm

theorem Sound.cleanupLeaked {host : Attachment} {guard : Nat}
    (sound : host.Sound) (live : host.CleanupGuardLive guard) :
    (host.settleCleanup guard host.gate .leaked).Sound := by
  have kept := heldCleanups_leaked live host.gate
  have completedIff := completed_settleCleanup live host.gate .leaked
  constructor
  · exact sound.entriesCounted
  · exact sound.withinLimit
  · exact kept.trans sound.cleanupCounted
  · rw [kept]
    exact sound.cleanupAdmitted
  · rw [kept]
    exact sound.endedEmpty
  · intro ended guaranteed
    exact completedIff.mpr
      (Or.inl (sound.guaranteedCompleted ended guaranteed))
  · exact sound.recorded
  · exact sound.outcomeCompleted.trans (completedIff.trans (by simp)).symm

theorem Sound.finished {host : Attachment} (sound : host.Sound)
    {outcome : FinalEntryOutcome}
    (draining : host.gate.state = .draining)
    (empty : host.gate.entries = 0)
    (free : host.gate.cleanup = false)
    (permitted : host.gate.finalEntryPolicy = .guaranteed →
      host.gate.finalEntry.isSome)
    (outcomeEq : outcome = host.gate.finalEntry.getD .unavailable) :
    Sound
      { host with
        gate.finalEntry := some outcome
        gate.state := .invalid } := by
  have idle := sound.cleanups_eq_zero free
  have running : ¬ host.Ended := by simp [Ended, draining]
  have completedOf : host.gate.finalEntry.isSome →
      host.gate.finalEntry = some .completed := by
    intro isRecorded
    rcases sound.recorded isRecorded with completed | ended
    · exact completed
    · exact absurd ended running
  have completedIff := sound.outcomeCompleted
  constructor
  · exact sound.entriesCounted
  · exact sound.withinLimit
  · exact sound.cleanupCounted
  · intro busy
    exact absurd idle (Nat.ne_of_gt busy)
  · intro _
    exact ⟨sound.entries_eq_zero empty, idle, rfl⟩
  · intro _ guaranteed
    exact completedIff.mp (completedOf (permitted guaranteed))
  · intro _
    exact Or.inr (Or.inl rfl)
  · show some outcome = some .completed ↔
      .completed ∈ host.cleanupGuards
    rw [← completedIff, outcomeEq]
    cases isRecorded : host.gate.finalEntry with
    | none =>
        simp
    | some earlier =>
        simp

theorem Sound.destroyed {host : Attachment} (sound : host.Sound)
    (invalid : host.gate.state = .invalid) :
    Sound { host with gate.state := .destroyed } := by
  have ended : host.Ended := Or.inl invalid
  constructor
  · exact sound.entriesCounted
  · exact sound.withinLimit
  · exact sound.cleanupCounted
  · intro busy
    exact absurd (sound.endedEmpty ended).2.1 (Nat.ne_of_gt busy)
  · intro _
    exact sound.endedEmpty ended
  · intro _
    exact sound.guaranteedCompleted ended
  · intro _
    exact Or.inr (Or.inr rfl)
  · exact sound.outcomeCompleted

theorem Sound.change {before after : Attachment} {op : GateOp}
    {reply : GateReply} (sound : before.Sound)
    (changed : GateChange before op reply after) : after.Sound := by
  cases changed with
  | refused => exact sound
  | drainRepeated => exact sound
  | finishRepeated => exact sound
  | destroyRepeated => exact sound
  | entered active room => exact sound.entered active room
  | entryDropped guard live => exact sound.entryDropped live
  | entryLeaked guard live => exact sound.entryLeaked live
  | drained active => exact sound.drained active
  | cleanupBegun draining empty permitted unrecorded free =>
      exact sound.cleanupBegun draining empty permitted unrecorded free
  | cleanupCompleted guard live => exact sound.cleanupCompleted live
  | cleanupDropped guard live => exact sound.cleanupDropped live
  | cleanupLeaked guard live => exact sound.cleanupLeaked live
  | finished outcome draining empty free permitted outcomeEq =>
      exact sound.finished draining empty free permitted outcomeEq
  | destroyed invalid => exact sound.destroyed invalid

theorem run_sound {limit : NonZeroU32} {policy : FinalEntryPolicy}
    {trace : List (Exchange GateOp GateReply)} {host : Attachment}
    (run : (gateSystem limit policy).Run trace host) : host.Sound := by
  refine System.Run.invariant (fun _ host => host.Sound) ?_ ?_ run
  · rintro _ rfl
    exact Sound.initial limit policy
  · intro _ before label after _ sound performed
    exact sound.change (perform_change performed)

/-! ## What one operation keeps -/

/-- The state moves at most one step towards destruction. -/
def Forward : HostState → HostState → Prop
  | .active, .draining => True
  | .draining, .invalid => True
  | .invalid, .destroyed => True
  | before, after => before = after

theorem Forward.refl (state : HostState) : Forward state state := by
  cases state <;> rfl

/-- What holds of every operation from a reachable state. -/
structure KeepsLifecycle (before after : Attachment)
    (label : Exchange GateOp GateReply) : Prop where
  forward : Forward before.gate.state after.gate.state
  fixed : after.gate.limit = before.gate.limit ∧
    after.gate.finalEntryPolicy = before.gate.finalEntryPolicy
  entryGranted : before.entryGuards.length ≠ after.entryGuards.length →
    label = ⟨.tryEnter, .entered⟩ ∧ before.gate.state = .active
  cleanupGranted :
    before.cleanupGuards.length ≠ after.cleanupGuards.length →
    label = ⟨.tryBeginCleanup, .cleanupBegun⟩ ∧
    before.gate.state = .draining ∧ before.heldEntries = 0 ∧
    before.heldCleanups = 0 ∧
    before.gate.finalEntryPolicy ≠ .unavailable
  noOverflow : label = ⟨.tryEnter, .entered⟩ →
    after.gate.entries.toNat = before.gate.entries.toNat + 1
  noUnderflow : ∀ guard, label.op = .dropEntry guard →
    after.gate.entries.toNat + 1 = before.gate.entries.toNat
  invalidated : before.gate.state ≠ .invalid →
    after.gate.state = .invalid →
    before.gate.finalEntryPolicy = .guaranteed →
    .completed ∈ before.cleanupGuards
  outcomeKept : before.gate.finalEntry.isSome →
    after.gate.finalEntry = before.gate.finalEntry
  outcomeRepeated : before.gate.state = .invalid →
    label.op = .finishDrain →
    ∃ outcome, before.gate.finalEntry = some outcome ∧
      label.reply = .finished outcome
  rejectedUnchanged : ∀ error, label.reply = .rejected error →
    after = before

section KeepsLifecycle

variable {before after : Attachment} {op : GateOp} {reply : GateReply}

theorem change_forward (changed : GateChange before op reply after) :
    Forward before.gate.state after.gate.state := by
  cases changed <;>
    first
      | exact Forward.refl _
      | simp_all [Forward]

theorem change_fixed (changed : GateChange before op reply after) :
    after.gate.limit = before.gate.limit ∧
    after.gate.finalEntryPolicy = before.gate.finalEntryPolicy := by
  cases changed <;> exact ⟨rfl, rfl⟩

theorem change_entryGranted (changed : GateChange before op reply after)
    (granted : before.entryGuards.length ≠ after.entryGuards.length) :
    op = .tryEnter ∧ reply = .entered ∧ before.gate.state = .active := by
  cases changed with
  | entered active room => exact ⟨rfl, rfl, active⟩
  | _ => simp [settleEntry, settleCleanup] at granted

theorem change_cleanupGranted (changed : GateChange before op reply after)
    (granted : before.cleanupGuards.length ≠ after.cleanupGuards.length) :
    op = .tryBeginCleanup ∧ reply = .cleanupBegun ∧
    before.gate.state = .draining ∧ before.gate.entries = 0 ∧
    before.gate.cleanup = false ∧
    before.gate.finalEntryPolicy ≠ .unavailable := by
  cases changed with
  | cleanupBegun draining empty permitted unrecorded free =>
      exact ⟨rfl, rfl, draining, empty, free, permitted⟩
  | _ => simp [settleEntry, settleCleanup] at granted

theorem change_rejected {error : GateError}
    (changed : GateChange before op (.rejected error) after) :
    after = before := by
  cases changed with
  | refused => rfl

theorem change_invalidated (changed : GateChange before op reply after)
    (running : before.gate.state ≠ .invalid)
    (invalid : after.gate.state = .invalid) :
    after.Ended ∧ after.cleanupGuards = before.cleanupGuards ∧
    after.gate.finalEntryPolicy = before.gate.finalEntryPolicy := by
  refine ⟨Or.inl invalid, ?_, (change_fixed changed).2⟩
  cases changed <;> first
    | rfl
    | contradiction

theorem Sound.change_noOverflow (sound : before.Sound)
    (changed : GateChange before op .entered after) :
    after.gate.entries.toNat = before.gate.entries.toNat + 1 := by
  have nextSound := sound.change changed
  cases changed with
  | entered active room =>
      rw [nextSound.entriesCounted, sound.entriesCounted]
      exact countP_append_single EntryGuard.held before.entryGuards .live

theorem Sound.change_noUnderflow (sound : before.Sound) {guard : Nat}
    (changed : GateChange before (.dropEntry guard) reply after) :
    after.gate.entries.toNat + 1 = before.gate.entries.toNat := by
  have nextSound := sound.change changed
  cases changed with
  | refused op error refusable => exact refusable.elim
  | entryDropped guard live =>
      rw [nextSound.entriesCounted, sound.entriesCounted]
      exact heldEntries_dropped live _

theorem Sound.change_outcomeKept (sound : before.Sound)
    (changed : GateChange before op reply after)
    (isRecorded : before.gate.finalEntry.isSome) :
    after.gate.finalEntry = before.gate.finalEntry := by
  cases changed with
  | cleanupCompleted guard live =>
      have admitted := sound.cleanupAdmitted (heldCleanups_pos live)
      rw [admitted.2.2.2] at isRecorded
      cases isRecorded
  | finished outcome draining empty free permitted outcomeEq =>
      obtain ⟨earlier, earlierEq⟩ := Option.isSome_iff_exists.mp isRecorded
      simp [outcomeEq, earlierEq]
  | _ => rfl

theorem Sound.change_outcomeRepeated (sound : before.Sound)
    (changed : GateChange before .finishDrain reply after)
    (invalid : before.gate.state = .invalid) :
    ∃ outcome, before.gate.finalEntry = some outcome ∧
      reply = .finished outcome := by
  have ended := sound.endedEmpty (Or.inl invalid)
  obtain ⟨outcome, outcomeEq⟩ := Option.isSome_iff_exists.mp ended.2.2
  cases changed with
  | refused op error refusable =>
      have idle := ended.2.1
      rw [sound.cleanupCounted] at idle
      rcases refusable with running | busy
      · exact absurd invalid running
      · rw [busy] at idle
        cases idle
  | finishRepeated => exact ⟨outcome, outcomeEq, by rw [outcomeEq]; rfl⟩
  | finished _ draining =>
      rw [invalid] at draining
      cases draining

theorem Sound.keepsLifecycle (sound : before.Sound)
    (changed : GateChange before op reply after) :
    KeepsLifecycle before after ⟨op, reply⟩ where
  forward := change_forward changed
  fixed := change_fixed changed
  entryGranted := by
    intro granted
    obtain ⟨rfl, rfl, active⟩ := change_entryGranted changed granted
    exact ⟨rfl, active⟩
  cleanupGranted := by
    intro granted
    obtain ⟨rfl, rfl, draining, empty, free, permitted⟩ :=
      change_cleanupGranted changed granted
    exact ⟨rfl, draining, sound.entries_eq_zero empty,
      sound.cleanups_eq_zero free, permitted⟩
  noOverflow := by
    rintro ⟨rfl, rfl⟩
    exact sound.change_noOverflow changed
  noUnderflow := by
    rintro guard rfl
    exact sound.change_noUnderflow changed
  invalidated := by
    intro running invalid guaranteed
    obtain ⟨ended, sameGuards, samePolicy⟩ :=
      change_invalidated changed running invalid
    rw [← sameGuards]
    exact (sound.change changed).guaranteedCompleted ended
      (samePolicy.trans guaranteed)
  outcomeKept := sound.change_outcomeKept changed
  outcomeRepeated := by
    rintro invalid rfl
    exact sound.change_outcomeRepeated changed invalid
  rejectedUnchanged := by
    rintro error rfl
    exact change_rejected changed

end KeepsLifecycle

end Attachment

/-- Under every limit, policy and sequence of operations, the fields of the
gate agree with the guards it granted and no operation breaks the order of
teardown. -/
theorem run_keepsLifecycle {limit : NonZeroU32} {policy : FinalEntryPolicy}
    {trace : List (Exchange GateOp GateReply)} {host : Attachment}
    (run : (gateSystem limit policy).Run trace host) :
    host.Sound ∧
    host.heldCleanups ≤ 1 ∧
    (∀ label next, (gateSystem limit policy).step host label next →
      Attachment.KeepsLifecycle host next label) := by
  have sound := Attachment.run_sound run
  refine ⟨sound, sound.cleanup_exclusive, ?_⟩
  intro label next performed
  exact sound.keepsLifecycle (perform_change performed)

/-- Two entries are dropped out of order around a drain that waits for them. -/
def nestedTeardown : List GateOp :=
  [.tryEnter, .tryEnter, .tryEnter, .requestDrain, .dropEntry 0,
    .finishDrain, .dropEntry 1, .tryBeginCleanup, .complete 0, .finishDrain]

theorem nestedTeardown_keepsLifecycle :
    ∃ trace host,
      entryGate.performAll
        ⟨.new ⟨2, by decide⟩ .guaranteed, [], []⟩ nestedTeardown =
        some (trace, host) ∧
      host.Sound ∧
      host.gate.state = .invalid ∧
      host.gate.finalEntry = some .completed ∧
      trace.map Exchange.reply =
        [.entered, .entered, .rejected .depthLimit, .done, .done,
          .rejected (.entriesRemain 1), .done, .cleanupBegun, .done,
          .finished .completed] := by
  obtain ⟨trace, host, performed, run⟩ :=
    entryGate.exists_run_of_performAll
      (fun host => host = ⟨.new ⟨2, by decide⟩ .guaranteed, [], []⟩)
      nestedTeardown rfl (by decide)
  refine ⟨trace, host, performed, (run_keepsLifecycle run).1, ?_⟩
  have evaluated :
      (entryGate.performAll
        ⟨.new ⟨2, by decide⟩ .guaranteed, [], []⟩ nestedTeardown).map
        (fun result =>
          (result.2.gate.state, result.2.gate.finalEntry,
            result.1.map Exchange.reply)) =
      some (.invalid, some .completed,
        [.entered, .entered, .rejected .depthLimit, .done, .done,
          .rejected (.entriesRemain 1), .done, .cleanupBegun, .done,
          .finished .completed]) := by
    decide
  simpa [performed] using evaluated

end RustJsi.Host
