import RustJsi.BackendJsc.EntrySound
import RustJsi.Nested.CallStack

/-!
# Entries nest, and deferred teardowns wait for the outermost one

Whatever runs inside an entry, leaving it restores the pair of the thread and
the counts of all gates.  The entry that found no active pair drains the
deferred list before it is left.
-/

namespace RustJsi.BackendJsc

open Interleaving Nested
open RustJsi.Host (EntryGate)

namespace EntryThread

variable {thread next : EntryThread} {shared : Nat} {place : Place}

/-- A step leaves the calls alone, starts one, or goes on with or returns from
the one made last. -/
inductive CallTurn : List EntryCall → List EntryCall → Prop
  | kept (stack : List EntryCall) : CallTurn stack stack
  | called (call : EntryCall) (stack : List EntryCall) :
      CallTurn stack (call :: stack)
  | changed (old new : EntryCall) (rest : List EntryCall) :
      CallTurn (old :: rest) (new :: rest)
  | returned (call : EntryCall) (rest : List EntryCall) :
      CallTurn (call :: rest) rest

theorem CallTurn.turns {before after : List EntryCall}
    (turn : CallTurn before after) : Turns before after := by
  cases turn with
  | kept => exact .kept _
  | called => exact .called _ _
  | changed => exact .changed _ _ _
  | returned => exact .returned _ _

theorem CallTurn.lower {before after : List EntryCall}
    (turn : CallTurn before after) (lower : after.length < before.length) :
    ∃ call, before = call :: after := by
  cases turn with
  | kept => exact absurd lower (Nat.lt_irrefl _)
  | called => exact absurd lower (Nat.not_lt.mpr (Nat.le_succ _))
  | changed => exact absurd lower (Nat.lt_irrefl _)
  | returned call => exact ⟨call, rfl⟩

theorem DetachTurn.calls {before after : List EntryCall}
    (turn : DetachTurn shared before after) : CallTurn before after := by
  cases turn with
  | kept => exact .kept _
  | begun => exact .called _ _
  | turned => exact .changed _ _ _
  | ended => exact .returned _ _

theorem Moves.calls (moves : Moves thread next) :
    CallTurn thread.stack next.stack := by
  cases moves with
  | kept => exact .kept _
  | contextMade => exact .kept _
  | runtimeMade => exact .kept _
  | attachmentMade => exact .kept _
  | entered => exact .called _ _
  | left _ _ _ rest _ top =>
      rw [top]
      exact .returned _ _
  | outermostLeft _ _ _ rest _ top =>
      rw [top]
      exact .changed _ _ _
  | runtimeKept => exact .kept _
  | destroyBegun => exact .called _ _
  | destroyDeferred => exact .kept _
  | drainBegun => exact .called _ _
  | drained rest top =>
      rw [top]
      exact .returned _ _
  | contextReleased _ _ _ _ rest top =>
      rw [top]
      exact .changed _ _ _
  | destroyEnded _ _ _ _ rest top =>
      rw [top]
      exact .returned _ _
  | detached _ _ _ _ _ _ _ _ turn => exact turn.calls

theorem run_calls {trace : List (Exchange Op Reply)}
    {label : Exchange Op Reply} (run : entryThreads.Run trace thread)
    (step : entryThreads.step thread label next) :
    CallTurn thread.stack next.stack :=
  (perform_moves (run_sound run) step).calls

/-- An entry that is admitted puts its frame on the stack. -/
theorem enter_entered {supplied : Option Nat}
    (performed : thread.perform (.enter shared supplied) =
      some (.entered, next)) :
    ∃ context, next.stack = .frame shared context thread.active ::
      thread.stack := by
  unfold perform at performed
  simp only at performed
  split at performed
  · unfold user at performed
    simp only [Op.shared?] at performed
    split at performed
    · cases performed
    · rename_i place found
      split at performed
      · unfold onPlace at performed
        simp only at performed
        split at performed
        · have entered := Option.some.inj performed
          unfold enter at entered
          split at entered
          · cases entered
          · split at entered
            · cases entered
            · rename_i context named
              split at entered
              · cases entered
              · unfold enterFrame at entered
                split at entered
                · cases entered
                · cases entered
                  exact ⟨context, rfl⟩
        · cases performed
      · cases performed
  · cases performed

/-- An entry is admitted, and has not been left yet. -/
def Inside (before middle : EntryThread) : Prop :=
  ∃ shared supplied inside during,
    entryThreads.step before ⟨.enter shared supplied, .entered⟩ inside ∧
    Deeper entryThreads EntryThread.stack before.stack.length inside during
      middle

/-- What happens before the entry is left. -/
def Goes (before middle later : EntryThread) : Prop :=
  ∃ during, Deeper entryThreads EntryThread.stack before.stack.length middle
    during later

/-- The step that leaves the entry, its drain included. -/
def Leaves (before later after : EntryThread) : Prop :=
  ∃ label, entryThreads.step later label after ∧
    after.stack.length = before.stack.length

variable {before middle later after : EntryThread}
  {trace : List (Exchange Op Reply)}

theorem Inside.goes (inside : Inside before middle)
    (goes : Goes before middle later) : Inside before later := by
  obtain ⟨shared, supplied, entered, during, step, deeper⟩ := inside
  obtain ⟨rest, further⟩ := goes
  exact ⟨shared, supplied, entered, during ++ rest, step,
    deeper.append further⟩

/-- The calls that were under way wait below an entry. -/
theorem Inside.above (run : entryThreads.Run trace before)
    (inside : Inside before middle) :
    ∃ further top rest, entryThreads.Run (trace ++ further) middle ∧
      middle.stack = top :: rest ++ before.stack := by
  obtain ⟨shared, supplied, entered, during, step, deeper⟩ := inside
  obtain ⟨context, pushed⟩ := enter_entered step
  have high : before.stack.length < entered.stack.length := by
    rw [pushed]
    exact Nat.lt_succ_self _
  have whole := deeper.cons step high
  have floor := whole.floor run
    (fun _ _ _ _ run step => (run_calls run step).turns)
  cases floor with
  | inl none =>
      obtain ⟨none, _⟩ := none
      cases none
  | inr above =>
      obtain ⟨top, rest, above⟩ := above
      exact ⟨_, top, rest, run.append whole.path, above⟩

/-- An entry that is left gives back the stack it found. -/
theorem Inside.left (run : entryThreads.Run trace before)
    (inside : Inside before later) (leaves : Leaves before later after) :
    ∃ further call label, entryThreads.Run (trace ++ further) later ∧
      entryThreads.step later label after ∧
      later.stack = call :: before.stack ∧ after.stack = before.stack := by
  obtain ⟨label, step, level⟩ := leaves
  obtain ⟨further, top, rest, run, above⟩ := inside.above run
  have turn := run_calls run step
  have last := turn.turns.down above level
  subst last
  have lower : after.stack.length < later.stack.length := by
    rw [level, above]
    exact Nat.lt_succ_self _
  obtain ⟨call, returned⟩ := turn.lower lower
  rw [above] at returned
  obtain ⟨_, same⟩ := List.cons.inj returned
  exact ⟨further, top, label, run, step, above, same.symm⟩

/-- The pair of the thread and the entries that the gates count are those of
an earlier state. -/
structure Restored (before after : EntryThread) : Prop where
  active : after.active = before.active
  entries : ∀ (index : Nat) (place : Place),
    before.places[index]? = some place →
    ∃ later, after.places[index]? = some later ∧
      later.shared.gate.entries = place.shared.gate.entries

/-- Places are only added and changed. -/
theorem Moves.places (moves : Moves thread next) :
    thread.places.length ≤ next.places.length := by
  have extended : ∀ place : Place,
      thread.places.length ≤ (thread.places ++ [place]).length := by
    intro place
    rw [List.length_append]
    exact Nat.le_add_right _ _
  have changed : ∀ (index : Nat) (place : Place),
      thread.places.length ≤ (thread.places.set index place).length := by
    intro index place
    rw [List.length_set]
  cases moves with
  | kept => exact Nat.le_refl _
  | contextMade => exact Nat.le_refl _
  | runtimeMade => exact extended _
  | attachmentMade => exact extended _
  | entered => exact changed _ _
  | left => exact changed _ _
  | outermostLeft => exact changed _ _
  | runtimeKept => exact changed _ _
  | destroyBegun => exact changed _ _
  | destroyDeferred => exact changed _ _
  | drainBegun => exact changed _ _
  | drained => exact Nat.le_refl _
  | contextReleased => exact changed _ _
  | destroyEnded => exact changed _ _
  | detached => exact changed _ _

theorem path_places {during : List (Exchange Op Reply)}
    (run : entryThreads.Run trace before)
    (path : entryThreads.Path before during after) :
    before.places.length ≤ after.places.length := by
  induction path with
  | refl => exact Nat.le_refl _
  | snoc earlier step inductionHypothesis =>
      have moves := perform_moves (run_sound (run.append earlier)) step
      exact Nat.le_trans inductionHypothesis moves.places

/-- The pair and the counts are those of the calls that are under way. -/
theorem Sound.restored (sound : before.Sound) (later : after.Sound)
    (places : before.places.length ≤ after.places.length)
    (active : activePair after.stack = activePair before.stack)
    (entries : ∀ index,
      entriesOf index after.stack = entriesOf index before.stack) :
    Restored before after where
  active := by rw [later.active, active, sound.active]
  entries := by
    intro index place found
    have bound := (List.getElem?_eq_some_iff.mp found).1
    have known : index < after.places.length := Nat.lt_of_lt_of_le bound places
    refine ⟨after.places[index], List.getElem?_eq_getElem known,
      UInt32.toNat_inj.mp ?_⟩
    rw [later.counted index _ (List.getElem?_eq_getElem known),
      sound.counted index place found, entries]

/-- What holds of the entries of a thread. -/
structure NestsFrames (thread : EntryThread) : Prop where
  /-- All live frames name one shared state and one context. -/
  sameEntry : ∀ first ∈ liveFrames thread.stack,
    ∀ second ∈ liveFrames thread.stack, first = second
  /-- An entry made now restores what it found as soon as its frame is
  dropped, before the drain of an outermost entry runs. -/
  restoresFirst : ∀ middle, Inside thread middle →
    middle.stack = .draining :: thread.stack → Restored thread middle
  /-- The same holds once the entry is left. -/
  restores : ∀ later after, Inside thread later →
    Leaves thread later after → Restored thread after

/-- Entry frames nest: in every state of a run the live frames agree, and an
entry restores the pair of the thread and the counts of all gates, whatever
runs inside it. -/
theorem run_nestsFrames {trace : List (Exchange Op Reply)}
    {thread : EntryThread} (run : entryThreads.Run trace thread) :
    thread.NestsFrames where
  sameEntry := by
    intro first liveFirst second liveSecond
    have nests := (run_sound run).nests
    have named := (nests.frames liveFirst).symm.trans (nests.frames liveSecond)
    obtain ⟨shared, context⟩ := first
    obtain ⟨otherShared, otherContext⟩ := second
    cases named
    rfl
  restoresFirst := by
    intro middle inside top
    obtain ⟨further, _, _, reached, _⟩ := inside.above run
    obtain ⟨_, _, entered, during, step, deeper⟩ := inside
    have places := path_places run (System.Path.cons step deeper.path)
    refine (run_sound run).restored (run_sound reached) places ?_ ?_
    · rw [top]
      rfl
    · intro index
      rw [top, entriesOf_draining]
  restores := by
    intro later after inside leaves
    obtain ⟨further, call, label, reached, step, _, same⟩ :=
      inside.left run leaves
    obtain ⟨_, _, entered, during, first, deeper⟩ := inside
    have path := (System.Path.cons first deeper.path).snoc step
    refine (run_sound run).restored (run_sound (reached.snoc step))
      (path_places run path) ?_ ?_
    · rw [same]
    · intro index
      rw [same]

/-- Two entries of one runtime: inside them a runtime of the same group is
dropped and has to wait, one of another group is destroyed at once, and a
destructor of the drain enters the first runtime again. -/
def nestedDrops : List Op :=
  [.newRuntime (some (some 1)), .newRuntime (some (some 1)),
    .newRuntime (some (some 2)), .enter 0 none, .enter 0 none, .drop 1,
    .drop 2, .advance, .advance, .leave false, .leave true, .advance,
    .enter 0 none, .leave false, .advance, .advance, .advance, .advance]

theorem nestedDrops_nestsFrames :
    ∃ trace thread,
      entryThread.performAll (.new 0) nestedDrops = some (trace, thread) ∧
      thread.NestsFrames := by
  obtain ⟨trace, thread, performed, run⟩ :=
    entryThread.exists_run_of_performAll
      (fun thread => ∃ id, thread = .new id) nestedDrops ⟨0, rfl⟩ (by decide)
  exact ⟨trace, thread, performed, run_nestsFrames run⟩

end EntryThread

end RustJsi.BackendJsc
