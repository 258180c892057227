import RustJsi.Host.Entry

/-!
# A gate under its teardown

The operations of a teardown, as what they make of the gate.
-/

namespace RustJsi.Host.EntryGate

variable {gate : EntryGate}

/-- No cleanup of the gate was ever begun. -/
structure Unbegun (gate : EntryGate) : Prop where
  state : gate.state = .active ∨ gate.state = .draining
  policy : gate.finalEntryPolicy = .guaranteed
  finalEntry : gate.finalEntry = none
  cleanup : gate.cleanup = false

/-- The gate after a cleanup began. -/
def begun (gate : EntryGate) : EntryGate :=
  { gate with state := .draining, cleanup := true }

/-- The gate after a cleanup was completed and the drain finished. -/
def finished (gate : EntryGate) : EntryGate :=
  { gate with
    state := .invalid
    cleanup := false
    finalEntry := some .completed }

def destroyed (gate : EntryGate) : EntryGate :=
  { gate with state := .destroyed }

theorem tryEnter_cases (gate : EntryGate) :
    (∃ error, gate.tryEnter = (.error error, gate)) ∨
    (gate.state = .active ∧ gate.entries < gate.limit.value ∧
      gate.tryEnter =
        (.ok .live, { gate with entries := gate.entries + 1 })) := by
  unfold tryEnter
  by_cases active : gate.state = .active
  · by_cases full : gate.entries ≥ gate.limit.value
    · exact Or.inl ⟨.depthLimit, by simp [active, full]⟩
    · exact Or.inr ⟨active, UInt32.not_le.mp full, by simp [active, full]⟩
  · exact Or.inl ⟨.notActive gate.state, by simp [active]⟩

theorem requestDrain_cases (gate : EntryGate) :
    (gate.state = .active ∧
      gate.requestDrain = { gate with state := .draining }) ∨
    (gate.state ≠ .active ∧ gate.requestDrain = gate) := by
  unfold requestDrain
  by_cases active : gate.state = .active
  · exact Or.inl ⟨active, if_pos active⟩
  · exact Or.inr ⟨active, if_neg active⟩

theorem requestDrain_begun (gate : EntryGate) :
    gate.requestDrain.begun = gate.begun := by
  obtain ⟨_, drained⟩ | ⟨_, same⟩ := requestDrain_cases gate
  · rw [drained]
    rfl
  · rw [same]

theorem tryBeginCleanup_cases (gate : EntryGate) :
    (∃ error, gate.tryBeginCleanup = (.error error, gate)) ∨
    (gate.state = .draining ∧ gate.entries = 0 ∧
      gate.tryBeginCleanup = (.ok .live, gate.begun)) := by
  unfold tryBeginCleanup begun
  by_cases draining : gate.state = .draining
  · by_cases empty : gate.entries = 0
    · by_cases unavailable : gate.finalEntryPolicy = .unavailable
      · exact Or.inl ⟨.finalEntryUnavailable, by
          simp [draining, empty, unavailable]⟩
      · by_cases complete : gate.finalEntry.isSome
        · exact Or.inl ⟨.finalEntryComplete, by
            simp [draining, empty, unavailable, complete]⟩
        · by_cases cleanup : gate.cleanup
          · exact Or.inl ⟨.cleanupInProgress, by
              simp [draining, empty, unavailable, complete, cleanup]⟩
          · refine Or.inr ⟨draining, empty, ?_⟩
            simp [draining, empty, unavailable, complete, cleanup]
    · exact Or.inl ⟨.entriesRemain gate.entries, by simp [draining, empty]⟩
  · exact Or.inl ⟨.invalidTransition gate.state "begin_cleanup", by
      simp [draining]⟩

/-- A drain request leaves a gate unbegun. -/
theorem Unbegun.requestDrain (unbegun : gate.Unbegun) :
    gate.requestDrain.Unbegun := by
  cases requestDrain_cases gate with
  | inl drained =>
      rw [drained.2]
      exact ⟨Or.inr rfl, unbegun.policy, unbegun.finalEntry, unbegun.cleanup⟩
  | inr same =>
      rw [same.2]
      exact unbegun

/-- The first cleanup of a gate without entries begins. -/
theorem Unbegun.begins (unbegun : gate.Unbegun) (empty : gate.entries = 0) :
    gate.requestDrain.tryBeginCleanup = (.ok .live, gate.begun) := by
  obtain ⟨state, policy, finalEntry, cleanup⟩ := unbegun
  cases state with
  | inl active =>
      simp [EntryGate.requestDrain, tryBeginCleanup, begun, active, policy,
        finalEntry, cleanup, empty]
  | inr draining =>
      simp [EntryGate.requestDrain, tryBeginCleanup, begun, draining, policy,
        finalEntry, cleanup, empty]

/-- The drain of a gate under its cleanup finishes once that is complete. -/
theorem complete_finishDrain (draining : gate.state = .draining)
    (empty : gate.entries = 0) :
    gate.complete.finishDrain = (.ok .completed, gate.finished) := by
  simp [complete, dropCleanup, finishDrain, finished, draining, empty]

theorem markDestroyed_invalid (invalid : gate.state = .invalid) :
    gate.markDestroyed = (.ok (), gate.destroyed) := by
  simp [markDestroyed, destroyed, invalid]

/-- The gate counts the same entries, admits no more than before, and stays
destroyed. -/
structure Kept (before after : EntryGate) : Prop where
  entries : after.entries = before.entries
  closed : after.state = .active → before.state = .active
  destroyed : before.state = .destroyed → after.state = .destroyed

theorem Kept.refl (gate : EntryGate) : Kept gate gate :=
  ⟨rfl, id, id⟩

theorem Kept.trans {first second third : EntryGate}
    (earlier : Kept first second) (later : Kept second third) :
    Kept first third :=
  ⟨later.entries.trans earlier.entries, earlier.closed ∘ later.closed,
    later.destroyed ∘ earlier.destroyed⟩

/-- A gate that is not destroyed may be closed further. -/
theorem Kept.of_closed {before after : EntryGate}
    (entries : after.entries = before.entries)
    (closed : after.state ≠ .active) (alive : before.state ≠ .destroyed) :
    Kept before after :=
  ⟨entries, fun active => absurd active closed,
    fun ended => absurd ended alive⟩

theorem requestDrain_kept (gate : EntryGate) : Kept gate gate.requestDrain := by
  obtain ⟨active, drained⟩ | ⟨_, same⟩ := requestDrain_cases gate
  · rw [drained]
    refine .of_closed rfl (by intro same; cases same) ?_
    rw [active]
    intro same
    cases same
  · rw [same]
    exact Kept.refl gate

theorem tryBeginCleanup_kept (gate : EntryGate) :
    Kept gate gate.tryBeginCleanup.2 := by
  obtain ⟨error, refused⟩ | ⟨draining, _, begins⟩ := tryBeginCleanup_cases gate
  · rw [refused]
    exact Kept.refl gate
  · rw [begins]
    refine .of_closed rfl (by intro same; cases same) ?_
    rw [draining]
    intro same
    cases same

theorem complete_kept (gate : EntryGate) : Kept gate gate.complete :=
  ⟨rfl, id, id⟩

theorem finishDrain_kept (gate : EntryGate) :
    Kept gate gate.finishDrain.2 := by
  unfold finishDrain
  split
  · exact Kept.refl gate
  · split
    · exact Kept.refl gate
    · rename_i draining
      split
      · split
        · exact Kept.refl gate
        · refine .of_closed rfl (by intro same; cases same) ?_
          rw [draining]
          intro same
          cases same
      · exact Kept.refl gate
    · exact Kept.refl gate

theorem markDestroyed_kept (gate : EntryGate) :
    Kept gate gate.markDestroyed.2 := by
  unfold markDestroyed
  split
  · exact Kept.refl gate
  · exact ⟨rfl, fun active => (by cases active), fun _ => rfl⟩
  · exact Kept.refl gate

end RustJsi.Host.EntryGate
