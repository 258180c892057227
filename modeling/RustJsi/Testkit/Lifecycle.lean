import RustJsi.Host.Identity
import Mathlib.Data.List.Induction

/-!
# The lifecycle model

The reference for the lifecycle of one attachment.  Entries are tokens with a
number that is issued once, and every transition leaves an event behind.
-/

namespace RustJsi.Testkit

open RustJsi.Host (AttachmentId)

/-- Monotonic state of a modeled host-owned runtime. -/
inductive RuntimeState where
  | active
  | draining
  | invalid
  | destroyed
  deriving DecidableEq, Repr

/-- One active entry token in the deterministic lifecycle model. -/
structure Entry where
  attachment : AttachmentId
  sequence : UInt64
  deriving DecidableEq, Repr

/-- A transition emitted by `LifecycleModel`. -/
inductive LifecycleEvent where
  | entered (entry : Entry)
  | exited (entry : Entry)
  | drainRequested
  | drainReady
  | invalidated
  | destroyed
  deriving DecidableEq, Repr

/-- A deterministic lifecycle operation failure. -/
inductive LifecycleError where
  | notActive (state : RuntimeState)
  | wrongRuntime
  | staleEntry
  | entrySpaceExhausted
  | entriesRemain (count : UInt32)
  | invalidTransition (state : RuntimeState) (operation : String)
  deriving DecidableEq, Repr

/-- Pure deterministic model of the host-owned runtime lifecycle. -/
structure LifecycleModel where
  attachment : AttachmentId
  state : RuntimeState
  nextEntry : UInt64
  liveEntries : List UInt64
  events : List LifecycleEvent
  deriving DecidableEq, Repr

/-- `u64::checked_add(1)`. -/
def checkedSucc (value : UInt64) : Option UInt64 :=
  if value.toNat + 1 < UInt64.size then some (value + 1) else none

/-- `Vec::swap_remove`: the last element takes the place of the removed one. -/
def swapRemove (values : List UInt64) (index : Nat) : List UInt64 :=
  match values.getLast? with
  | none => values
  | some last => (values.set index last).dropLast

namespace LifecycleModel

/-- An active attachment. -/
def new (attachment : AttachmentId) : LifecycleModel where
  attachment := attachment
  state := .active
  nextEntry := 1
  liveEntries := []
  events := []

/-- `u32::try_from` of the number of live entries. -/
def activeEntries (model : LifecycleModel) : UInt32 :=
  if model.liveEntries.length < UInt32.size then
    UInt32.ofNat model.liveEntries.length
  else
    UInt32.ofNat (UInt32.size - 1)

def enter (model : LifecycleModel) :
    Except LifecycleError Entry × LifecycleModel :=
  if model.state ≠ .active then
    (.error (.notActive model.state), model)
  else
    match checkedSucc model.nextEntry with
    | none => (.error .entrySpaceExhausted, model)
    | some nextEntry =>
        let entry : Entry := ⟨model.attachment, model.nextEntry⟩
        (.ok entry,
          { model with
            nextEntry
            liveEntries := model.liveEntries ++ [entry.sequence]
            events := model.events ++ [.entered entry] })

def exit (model : LifecycleModel) (entry : Entry) :
    Except LifecycleError Unit × LifecycleModel :=
  if entry.attachment ≠ model.attachment then
    (.error .wrongRuntime, model)
  else
    match model.liveEntries.findIdx? (· == entry.sequence) with
    | none => (.error .staleEntry, model)
    | some index =>
        let liveEntries := swapRemove model.liveEntries index
        let events := model.events ++ [.exited entry]
        (.ok (),
          { model with
            liveEntries
            events :=
              if model.state = .draining ∧ liveEntries.isEmpty then
                events ++ [.drainReady]
              else
                events })

def requestInvalidate (model : LifecycleModel) : LifecycleModel :=
  if model.state = .active then
    let events := model.events ++ [.drainRequested]
    { model with
      state := .draining
      events :=
        if model.liveEntries.isEmpty then events ++ [.drainReady]
        else events }
  else
    model

def finishDrain (model : LifecycleModel) :
    Except LifecycleError Unit × LifecycleModel :=
  match model.state with
  | .invalid => (.ok (), model)
  | .draining =>
      if model.liveEntries.isEmpty then
        (.ok (),
          { model with
            state := .invalid
            events := model.events ++ [.invalidated] })
      else
        (.error (.entriesRemain model.activeEntries), model)
  | state => (.error (.invalidTransition state "finish drain"), model)

def destroy (model : LifecycleModel) :
    Except LifecycleError Unit × LifecycleModel :=
  match model.state with
  | .destroyed => (.ok (), model)
  | .invalid =>
      (.ok (),
        { model with
          state := .destroyed
          events := model.events ++ [.destroyed] })
  | state => (.error (.invalidTransition state "destroy"), model)

end LifecycleModel

theorem swapRemove_perm (before after : List UInt64) (value : UInt64) :
    (swapRemove (before ++ value :: after) before.length).Perm
      (before ++ after) := by
  induction after using List.reverseRecOn with
  | nil => simp [swapRemove]
  | append_singleton rest last _ =>
      have whole : before ++ value :: (rest ++ [last]) =
          before ++ value :: rest ++ [last] := by simp
      have removed :
          swapRemove (before ++ value :: (rest ++ [last])) before.length =
            before ++ last :: rest := by
        have ended : (before ++ value :: (rest ++ [last])).getLast? =
            some last := by
          rw [whole, List.getLast?_concat]
        have placed : before ++ last :: (rest ++ [last]) =
            before ++ last :: rest ++ [last] := by simp
        simp only [swapRemove, ended, List.set_append_right, Nat.le_refl,
          Nat.sub_self, List.set_cons_zero]
        rw [placed, List.dropLast_concat]
      rw [removed, ← List.append_assoc]
      exact List.perm_middle.trans
        (List.perm_append_singleton last (before ++ rest)).symm

/-- A live entry is found, and leaves the others live. -/
theorem findIdx_of_mem {values : List UInt64} {value : UInt64}
    (live : value ∈ values) :
    ∃ index, values.findIdx? (· == value) = some index ∧
      values.Perm (value :: swapRemove values index) := by
  cases found : values.findIdx? (· == value) with
  | none =>
      have absent := List.findIdx?_eq_none_iff.mp found value live
      simp at absent
  | some index =>
      obtain ⟨within, same, _⟩ := List.findIdx?_eq_some_iff_getElem.mp found
      have here : values[index] = value := by simpa using same
      have split : values = values.take index ++ value ::
          values.drop (index + 1) := by
        rw [← here, List.getElem_cons_drop, List.take_append_drop]
      have long : (values.take index).length = index := by
        rw [List.length_take]
        omega
      have removed := swapRemove_perm (values.take index)
        (values.drop (index + 1)) value
      rw [← split, long] at removed
      refine ⟨index, rfl, ?_⟩
      calc values
        _ = values.take index ++ value :: values.drop (index + 1) := split
        List.Perm _ (value ::
            (values.take index ++ values.drop (index + 1))) :=
          List.perm_middle
        List.Perm _ (value :: swapRemove values index) :=
          removed.symm.cons value

end RustJsi.Testkit
