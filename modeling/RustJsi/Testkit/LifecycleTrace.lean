import RustJsi.Interleaving.Component
import RustJsi.Testkit.Lifecycle
import Mathlib.Data.List.Nodup

/-!
# The events of the lifecycle model

Folding the events of a model gives back its state and its live entries, and
their order is the order of its lifecycle.
-/

namespace RustJsi.Testkit

open Interleaving
open RustJsi.Host (AttachmentId)

namespace LifecycleEvent

def entry : LifecycleEvent → Option Entry
  | .entered entry => some entry
  | _ => none

def exit : LifecycleEvent → Option Entry
  | .exited entry => some entry
  | _ => none

/-- The events that mark the progress of a teardown. -/
def isMilestone : LifecycleEvent → Bool
  | .entered _ | .exited _ => false
  | _ => true

end LifecycleEvent

/-- What can be told from events alone. -/
structure Replayed where
  state : RuntimeState
  live : List Entry
  deriving DecidableEq, Repr

namespace Replayed

def initial : Replayed where
  state := .active
  live := []

def follow (replayed : Replayed) : LifecycleEvent → Replayed
  | .entered entry => { replayed with live := replayed.live ++ [entry] }
  | .exited entry => { replayed with live := replayed.live.erase entry }
  | .drainRequested => { replayed with state := .draining }
  | .drainReady => replayed
  | .invalidated => { replayed with state := .invalid }
  | .destroyed => { replayed with state := .destroyed }

end Replayed

def replay (events : List LifecycleEvent) : Replayed :=
  events.foldl Replayed.follow .initial

inductive LifecycleOp where
  | enter
  | exit (entry : Entry)
  | requestInvalidate
  | finishDrain
  | destroy
  deriving DecidableEq, Repr

/-- The error of an operation, or the token of an entry. -/
abbrev LifecycleReply : Type :=
  Except LifecycleError (Option Entry)

namespace LifecycleModel

def perform (model : LifecycleModel) :
    LifecycleOp → LifecycleReply × LifecycleModel
  | .enter => (model.enter.1.map some, model.enter.2)
  | .exit entry => ((model.exit entry).1.map fun _ => none,
      (model.exit entry).2)
  | .requestInvalidate => (.ok none, model.requestInvalidate)
  | .finishDrain => (model.finishDrain.1.map fun _ => none,
      model.finishDrain.2)
  | .destroy => (model.destroy.1.map fun _ => none, model.destroy.2)

end LifecycleModel

def lifecycle : Component LifecycleModel LifecycleOp LifecycleReply where
  perform := fun model op => some (model.perform op)

/-- Every sequence of operations on a new model. -/
def lifecycleSystem (attachment : AttachmentId) :
    System LifecycleModel (Exchange LifecycleOp LifecycleReply) :=
  lifecycle.system fun model => model = .new attachment

namespace LifecycleModel

/-- The events that mark how far a teardown has come. -/
def milestones (model : LifecycleModel) : List LifecycleEvent :=
  match model.state with
  | .active => []
  | .draining =>
      if model.liveEntries = [] then [.drainRequested, .drainReady]
      else [.drainRequested]
  | .invalid => [.drainRequested, .drainReady, .invalidated]
  | .destroyed => [.drainRequested, .drainReady, .invalidated, .destroyed]

/-- What an operation does to a model. -/
inductive Moves (model : LifecycleModel) :
    LifecycleReply → LifecycleModel → Prop
  | kept (reply : LifecycleReply) : Moves model reply model
  | entered {nextEntry : UInt64} (active : model.state = .active)
      (issuable : checkedSucc model.nextEntry = some nextEntry) :
      Moves model (.ok (some ⟨model.attachment, model.nextEntry⟩))
        { model with
          nextEntry
          liveEntries := model.liveEntries ++ [model.nextEntry]
          events := model.events ++
            [.entered ⟨model.attachment, model.nextEntry⟩] }
  | exited {entry : Entry} {liveEntries : List UInt64}
      (own : entry.attachment = model.attachment)
      (removed : model.liveEntries.Perm (entry.sequence :: liveEntries)) :
      Moves model (.ok none)
        { model with
          liveEntries
          events := model.events ++ ([.exited entry] ++
            if model.state = .draining ∧ liveEntries = [] then [.drainReady]
            else []) }
  | requested (active : model.state = .active) :
      Moves model (.ok none)
        { model with
          state := .draining
          events := model.events ++ ([.drainRequested] ++
            if model.liveEntries = [] then [.drainReady] else []) }
  | invalidated (draining : model.state = .draining)
      (empty : model.liveEntries = []) :
      Moves model (.ok none)
        { model with
          state := .invalid
          events := model.events ++ [.invalidated] }
  | destroyed (invalid : model.state = .invalid) :
      Moves model (.ok none)
        { model with
          state := .destroyed
          events := model.events ++ [.destroyed] }

section Operations

/-- An event, and another one if it is due. -/
theorem append_if {due : Prop} [Decidable due]
    (events : List LifecycleEvent) (first second : LifecycleEvent) :
    events ++ ([first] ++ if due then [second] else []) =
      if due then events ++ [first] ++ [second] else events ++ [first] := by
  split
  · exact (List.append_assoc _ _ _).symm
  · rfl

theorem enter_moves (model : LifecycleModel) :
    model.Moves (model.enter.1.map some) model.enter.2 := by
  unfold enter
  split
  · exact .kept _
  · rename_i active
    split
    · exact .kept _
    · rename_i nextEntry issuable
      exact .entered (not_not.mp active) issuable

theorem exit_moves (model : LifecycleModel) (entry : Entry) :
    model.Moves ((model.exit entry).1.map fun _ => none)
      (model.exit entry).2 := by
  unfold exit
  split
  · exact .kept _
  · rename_i own
    split
    · exact .kept _
    · rename_i index found
      have live : entry.sequence ∈ model.liveEntries := by
        obtain ⟨within, same, _⟩ := List.findIdx?_eq_some_iff_getElem.mp found
        have here : model.liveEntries[index] = entry.sequence := by
          simpa using same
        rw [← here]
        exact List.getElem_mem within
      obtain ⟨other, first, removed⟩ := findIdx_of_mem live
      cases found.symm.trans first
      have moves := Moves.exited (not_not.mp own) removed
      rw [append_if] at moves
      simp only [List.isEmpty_iff]
      exact moves

theorem requestInvalidate_moves (model : LifecycleModel) :
    model.Moves (.ok none) model.requestInvalidate := by
  unfold requestInvalidate
  split
  · rename_i active
    have moves := Moves.requested active
    rw [append_if] at moves
    simp only [List.isEmpty_iff]
    exact moves
  · exact .kept _

theorem finishDrain_moves (model : LifecycleModel) :
    model.Moves (model.finishDrain.1.map fun _ => none)
      model.finishDrain.2 := by
  unfold finishDrain
  split
  · exact .kept _
  · rename_i draining
    split
    · rename_i empty
      exact .invalidated draining (List.isEmpty_iff.mp empty)
    · exact .kept _
  · exact .kept _

theorem destroy_moves (model : LifecycleModel) :
    model.Moves (model.destroy.1.map fun _ => none) model.destroy.2 := by
  unfold destroy
  split
  · exact .kept _
  · rename_i invalid
    exact .destroyed invalid
  · exact .kept _

theorem perform_moves (model : LifecycleModel) (op : LifecycleOp) :
    model.Moves (model.perform op).1 (model.perform op).2 := by
  cases op with
  | enter => exact enter_moves model
  | exit entry => exact exit_moves model entry
  | requestInvalidate => exact requestInvalidate_moves model
  | finishDrain => exact finishDrain_moves model
  | destroy => exact destroy_moves model

end Operations

/-! ## What the events tell -/

/-- The events agree with the model. -/
structure Traced (model : LifecycleModel) : Prop where
  state : (replay model.events).state = model.state
  live : (replay model.events).live.Perm
    (model.liveEntries.map (Entry.mk model.attachment))
  issued : ∀ entry ∈ model.events.filterMap LifecycleEvent.entry,
    entry.attachment = model.attachment ∧
      entry.sequence.toNat < model.nextEntry.toNat
  enteredOnce : (model.events.filterMap LifecycleEvent.entry).Nodup
  balanced : (model.events.filterMap LifecycleEvent.entry).Perm
    (model.events.filterMap LifecycleEvent.exit ++
      model.liveEntries.map (Entry.mk model.attachment))
  ordered : ∀ before entry after,
    model.events = before ++ .exited entry :: after →
      .entered entry ∈ before
  milestones : model.events.filter LifecycleEvent.isMilestone =
    model.milestones
  drained : model.state = .invalid ∨ model.state = .destroyed →
    model.liveEntries = []

theorem new_traced (attachment : AttachmentId) :
    Traced (.new attachment) where
  state := rfl
  live := .refl _
  issued := nofun
  enteredOnce := List.nodup_nil
  balanced := .refl _
  ordered := by
    intro before entry after split
    exact nomatch (List.nil_eq_append_iff.mp split).2
  milestones := rfl
  drained := fun _ => rfl

section Events

variable {model next : LifecycleModel}

theorem replay_append (events later : List LifecycleEvent) :
    replay (events ++ later) =
      later.foldl Replayed.follow (replay events) :=
  List.foldl_append

/-- Milestones leave the entries as they are. -/
theorem live_milestones {later : List LifecycleEvent} :
    ∀ {replayed : Replayed},
      (∀ event ∈ later, event.isMilestone = true) →
      (later.foldl Replayed.follow replayed).live = replayed.live := by
  induction later with
  | nil => exact fun _ => rfl
  | cons event later inductionHypothesis =>
      intro replayed marks
      obtain ⟨mark, marks⟩ := List.forall_mem_cons.mp marks
      rw [List.foldl_cons, inductionHypothesis marks]
      cases event with
      | entered entry => cases mark
      | exited entry => cases mark
      | _ => rfl

theorem replay_milestones {events later : List LifecycleEvent}
    (marks : ∀ event ∈ later, event.isMilestone = true) :
    (replay (events ++ later)).live = (replay events).live := by
  rw [replay_append]
  exact live_milestones marks

theorem split_append {earlier later before after : List LifecycleEvent}
    {entry : Entry}
    (ordered : ∀ before entry after,
      earlier = before ++ .exited entry :: after → .entered entry ∈ before)
    (none : ∀ entry, .exited entry ∉ later)
    (split : earlier ++ later = before ++ .exited entry :: after) :
    .entered entry ∈ before := by
  cases List.append_eq_append_iff.mp split with
  | inl inside =>
      obtain ⟨rest, before, split⟩ := inside
      have member : LifecycleEvent.exited entry ∈ later := by
        rw [split]
        exact List.mem_append_right _ List.mem_cons_self
      exact absurd member (none entry)
  | inr inside =>
      obtain ⟨rest, split, after⟩ := inside
      cases rest with
      | nil =>
          have member : LifecycleEvent.exited entry ∈ later := by
            rw [← List.nil_append later, ← after]
            exact List.mem_cons_self
          exact absurd member (none entry)
      | cons first rest =>
          obtain ⟨same, _⟩ := List.cons.inj after
          subst same
          exact ordered before entry rest split

theorem entries_milestones {later : List LifecycleEvent}
    (marks : ∀ event ∈ later, event.isMilestone = true) :
    later.filterMap LifecycleEvent.entry = [] := by
  apply List.filterMap_eq_nil_iff.mpr
  intro event member
  have mark := marks event member
  cases event with
  | entered entry => cases mark
  | _ => rfl

theorem exits_milestones {later : List LifecycleEvent}
    (marks : ∀ event ∈ later, event.isMilestone = true) :
    later.filterMap LifecycleEvent.exit = [] := by
  apply List.filterMap_eq_nil_iff.mpr
  intro event member
  have mark := marks event member
  cases event with
  | exited entry => cases mark
  | _ => rfl

theorem mem_of_entry {events : List LifecycleEvent} {entry : Entry}
    (member : entry ∈ events.filterMap LifecycleEvent.entry) :
    .entered entry ∈ events := by
  obtain ⟨event, listed, same⟩ := List.mem_filterMap.mp member
  cases event with
  | entered other =>
      cases same
      exact listed
  | _ => cases same

/-- Only milestones were added. -/
theorem Traced.marked (traced : model.Traced) (later : List LifecycleEvent)
    (marks : ∀ event ∈ later, event.isMilestone = true)
    (attachment : next.attachment = model.attachment)
    (nextEntry : next.nextEntry = model.nextEntry)
    (liveEntries : next.liveEntries = model.liveEntries)
    (events : next.events = model.events ++ later)
    (state : (replay next.events).state = next.state)
    (milestones : model.milestones ++ later = next.milestones)
    (drained : next.state = .invalid ∨ next.state = .destroyed →
      next.liveEntries = []) : next.Traced := by
  have entries := entries_milestones marks
  have exits := exits_milestones marks
  refine ⟨state, ?_, ?_, ?_, ?_, ?_, ?_, drained⟩
  · rw [events, replay_milestones marks, attachment, liveEntries]
    exact traced.live
  · rw [events, List.filterMap_append, entries, List.append_nil, attachment,
      nextEntry]
    exact traced.issued
  · rw [events, List.filterMap_append, entries, List.append_nil]
    exact traced.enteredOnce
  · rw [events, List.filterMap_append, List.filterMap_append, entries, exits,
      List.append_nil, List.append_nil, attachment, liveEntries]
    exact traced.balanced
  · intro before entry after split
    rw [events] at split
    apply split_append traced.ordered ?_ split
    intro other member
    exact nomatch marks _ member
  · rw [events, List.filter_append, traced.milestones,
      List.filter_eq_self.mpr marks]
    exact milestones

theorem Traced.entered (traced : model.Traced) {nextEntry : UInt64}
    (active : model.state = .active)
    (issuable : checkedSucc model.nextEntry = some nextEntry) :
    Traced
      { model with
        nextEntry
        liveEntries := model.liveEntries ++ [model.nextEntry]
        events := model.events ++
          [.entered ⟨model.attachment, model.nextEntry⟩] } := by
  have later : nextEntry.toNat = model.nextEntry.toNat + 1 := by
    unfold checkedSucc at issuable
    split at issuable
    · rename_i room
      cases issuable
      rw [UInt64.toNat_add]
      exact Nat.mod_eq_of_lt room
    · cases issuable
  have fresh : (⟨model.attachment, model.nextEntry⟩ : Entry) ∉
      model.events.filterMap LifecycleEvent.entry := by
    intro member
    exact Nat.lt_irrefl _ (traced.issued _ member).2
  have entries : (model.events ++
      [LifecycleEvent.entered ⟨model.attachment, model.nextEntry⟩]).filterMap
        LifecycleEvent.entry =
      model.events.filterMap LifecycleEvent.entry ++
        [⟨model.attachment, model.nextEntry⟩] := List.filterMap_append
  refine ⟨?_, ?_, ?_, ?_, ?_, ?_, ?_, ?_⟩
  · rw [replay_append]
    exact traced.state
  · rw [replay_append, List.map_append]
    exact traced.live.append_right _
  · rw [entries]
    intro entry member
    cases List.mem_append.mp member with
    | inl earlier =>
        obtain ⟨own, below⟩ := traced.issued entry earlier
        exact ⟨own, Nat.lt_of_lt_of_le below (by rw [later]; omega)⟩
    | inr last =>
        rw [List.mem_singleton.mp last]
        exact ⟨rfl, Nat.lt_of_lt_of_eq (Nat.lt_succ_self _) later.symm⟩
  · rw [entries]
    exact List.Nodup.append traced.enteredOnce (List.nodup_singleton _)
      (List.disjoint_singleton.mpr fresh)
  · rw [entries, List.filterMap_append, List.map_append, ← List.append_assoc]
    apply List.Perm.append_right
    rw [List.filterMap_cons_none rfl, List.filterMap_nil, List.append_nil]
    exact traced.balanced
  · intro before entry after split
    exact split_append traced.ordered (by simp) split
  · rw [List.filter_append, traced.milestones, LifecycleModel.milestones,
      LifecycleModel.milestones, active]
    rfl
  · intro past
    rw [active] at past
    exact past.elim nofun nofun

theorem Traced.exited (traced : model.Traced) {entry : Entry}
    {liveEntries : List UInt64} (own : entry.attachment = model.attachment)
    (removed : model.liveEntries.Perm (entry.sequence :: liveEntries))
    {later : List LifecycleEvent}
    (ready : later = [] ∨ later = [.drainReady])
    (milestones : model.milestones ++ later =
      { model with liveEntries := liveEntries }.milestones) :
    Traced
      { model with
        liveEntries
        events := model.events ++ ([.exited entry] ++ later) } := by
  have named : entry = ⟨model.attachment, entry.sequence⟩ := by
    rw [← own]
  have tokens : (model.liveEntries.map (Entry.mk model.attachment)).Perm
      (entry :: liveEntries.map (Entry.mk model.attachment)) := by
    have moved := removed.map (Entry.mk model.attachment)
    rw [List.map_cons, ← named] at moved
    exact moved
  have marks : ∀ event ∈ later, event.isMilestone = true := by
    cases ready with
    | inl none =>
        rw [none]
        nofun
    | inr ready =>
        rw [ready]
        exact List.forall_mem_singleton.mpr rfl
  have entries : (model.events ++
      ([LifecycleEvent.exited entry] ++ later)).filterMap
      LifecycleEvent.entry = model.events.filterMap LifecycleEvent.entry := by
    rw [List.filterMap_append, List.filterMap_append,
      entries_milestones marks]
    exact List.append_nil _
  have exits : (model.events ++
      ([LifecycleEvent.exited entry] ++ later)).filterMap
      LifecycleEvent.exit =
        model.events.filterMap LifecycleEvent.exit ++ [entry] := by
    rw [List.filterMap_append, List.filterMap_append,
      exits_milestones marks]
    rfl
  refine ⟨?_, ?_, ?_, ?_, ?_, ?_, ?_, ?_⟩
  · rw [replay_append]
    cases ready with
    | inl none =>
        rw [none]
        exact traced.state
    | inr ready =>
        rw [ready]
        exact traced.state
  · rw [replay_append, List.foldl_append, live_milestones marks]
    refine ((traced.live.trans tokens).erase entry).trans ?_
    rw [List.erase_cons_head]
  · rw [entries]
    exact traced.issued
  · rw [entries]
    exact traced.enteredOnce
  · rw [entries, exits, List.append_assoc]
    exact traced.balanced.trans (tokens.append_left _)
  · intro before other after split
    rw [← List.append_assoc] at split
    refine split_append ?_ (fun other member => nomatch marks _ member) split
    intro earlier other rest split
    have ended : earlier ++ .exited other :: rest =
      model.events ++ [.exited entry] := split.symm
    induction rest using List.reverseRecOn with
    | nil =>
        obtain ⟨same, last⟩ := List.append_inj' ended rfl
        cases last
        rw [same]
        apply mem_of_entry
        apply traced.balanced.mem_iff.mpr
        apply List.mem_append_right
        exact tokens.mem_iff.mpr List.mem_cons_self
    | append_singleton rest last _ =>
        rw [← List.cons_append, ← List.append_assoc] at ended
        obtain ⟨same, _⟩ := List.append_inj' ended rfl
        exact traced.ordered earlier other rest same.symm
  · rw [List.filter_append, List.filter_append, traced.milestones,
      List.filter_eq_self.mpr marks]
    exact milestones
  · intro past
    have empty := traced.drained past
    rw [empty] at removed
    exact nomatch removed.length_eq

theorem Moves.traced {reply : LifecycleReply}
    (moves : model.Moves reply next) (traced : model.Traced) :
    next.Traced := by
  cases moves with
  | kept => exact traced
  | entered active issuable => exact traced.entered active issuable
  | @exited entry liveEntries own removed =>
      have occupied : model.liveEntries ≠ [] := by
        intro empty
        rw [empty] at removed
        exact nomatch removed.length_eq
      split
      · rename_i ready
        refine traced.exited own removed (Or.inr rfl) ?_
        rw [milestones, milestones, ready.1, ready.2]
        simp only [if_neg occupied]
        rfl
      · rename_i notReady
        refine traced.exited own removed (Or.inl rfl) ?_
        rw [List.append_nil, milestones, milestones]
        cases state : model.state with
        | draining =>
            have more : liveEntries ≠ [] := fun empty =>
              notReady ⟨state, empty⟩
            simp only [if_neg occupied, if_neg more]
        | _ => rfl
  | requested active =>
      refine traced.marked _ ?_ rfl rfl rfl rfl ?_ ?_ ?_
      · split
        · exact List.forall_mem_cons.mpr
            ⟨rfl, List.forall_mem_singleton.mpr rfl⟩
        · exact List.forall_mem_singleton.mpr rfl
      · rw [replay_append]
        split <;> rfl
      · have quiet : model.milestones = [] := by rw [milestones, active]
        rw [quiet, milestones]
        by_cases empty : model.liveEntries = []
        · simp only [if_pos empty]
          rfl
        · simp only [if_neg empty]
          rfl
      · exact fun past => past.elim nofun nofun
  | invalidated draining empty =>
      refine traced.marked [.invalidated] ?_ rfl rfl rfl rfl ?_ ?_ ?_
      · exact List.forall_mem_singleton.mpr rfl
      · rw [replay_append]
        rfl
      · rw [milestones, milestones, draining]
        simp only [if_pos empty]
        rfl
      · exact fun _ => empty
  | destroyed invalid =>
      refine traced.marked [.destroyed] ?_ rfl rfl rfl rfl ?_ ?_ ?_
      · exact List.forall_mem_singleton.mpr rfl
      · rw [replay_append]
        rfl
      · rw [milestones, milestones, invalid]
        rfl
      · exact fun _ => traced.drained (Or.inl invalid)

theorem Moves.attachment {reply : LifecycleReply}
    (moves : model.Moves reply next) :
    next.attachment = model.attachment := by
  cases moves with
  | kept => rfl
  | _ => rfl

/-- Events are only appended. -/
theorem Moves.appends {reply : LifecycleReply}
    (moves : model.Moves reply next) : model.events <+: next.events := by
  cases moves with
  | kept => exact List.prefix_refl _
  | _ => exact List.prefix_append _ _

end Events

/-! ## Runs -/

section Runs

variable {attachment : AttachmentId} {model : LifecycleModel}
  {trace : List (Exchange LifecycleOp LifecycleReply)}

theorem step_moves {exchange : Exchange LifecycleOp LifecycleReply}
    {next : LifecycleModel}
    (step : (lifecycleSystem attachment).step model exchange next) :
    model.Moves exchange.reply next := by
  have moves := perform_moves model exchange.op
  rw [Option.some.inj (step : some (model.perform exchange.op) = _)] at moves
  exact moves

theorem run_traced (run : (lifecycleSystem attachment).Run trace model) :
    model.Traced := by
  refine System.Run.invariant (fun _ model => model.Traced) ?_ ?_ run
  · intro model fresh
    rw [fresh]
    exact new_traced attachment
  · intro trace model exchange next _ traced step
    exact (step_moves step).traced traced

theorem run_attachment (run : (lifecycleSystem attachment).Run trace model) :
    model.attachment = attachment := by
  refine System.Run.invariant (fun _ model => model.attachment = attachment)
    ?_ ?_ run
  · intro model fresh
    rw [fresh]
    rfl
  · intro trace model exchange next _ same step
    exact (step_moves step).attachment.trans same

theorem path_appends {during : List (Exchange LifecycleOp LifecycleReply)}
    {after : LifecycleModel}
    (path : (lifecycleSystem attachment).Path model during after) :
    model.events <+: after.events := by
  induction path with
  | refl => exact List.prefix_refl _
  | snoc _ step inductionHypothesis =>
      exact inductionHypothesis.trans (step_moves step).appends

/-- The milestones of every state are the first ones of a whole teardown. -/
theorem milestones_prefix (model : LifecycleModel) :
    model.milestones <+:
      [.drainRequested, .drainReady, .invalidated, .destroyed] := by
  unfold milestones
  split
  · exact ⟨_, rfl⟩
  · split
    · exact ⟨_, rfl⟩
    · exact ⟨_, rfl⟩
  · exact ⟨_, rfl⟩
  · exact ⟨_, rfl⟩

theorem Traced.ready_iff (traced : model.Traced) :
    .drainReady ∈ model.events ↔
      model.state ≠ .active ∧ model.liveEntries = [] := by
  have listed : .drainReady ∈ model.events ↔
      .drainReady ∈ model.milestones := by
    rw [← traced.milestones, List.mem_filter]
    exact (and_iff_left rfl).symm
  rw [listed, LifecycleModel.milestones]
  cases state : model.state with
  | active => exact iff_of_false nofun fun past => past.1 rfl
  | draining =>
      by_cases empty : model.liveEntries = []
      · simp [empty]
      · simp [empty]
  | invalid => simp [traced.drained (Or.inl state)]
  | destroyed => simp [traced.drained (Or.inr state)]

theorem enter_answered {model next : LifecycleModel} {reply : Option Entry}
    (step : (lifecycleSystem attachment).step model ⟨.enter, .ok reply⟩ next) :
    ∃ entry, reply = some entry ∧
      next.events = model.events ++ [.entered entry] := by
  have performed := Option.some.inj step
  simp only [perform, enter] at performed
  split at performed
  · cases performed
  · split at performed
    · cases performed
    · cases performed
      exact ⟨_, rfl, rfl⟩

theorem exit_answered {model next : LifecycleModel} {entry : Entry}
    {reply : Option Entry}
    (step : (lifecycleSystem attachment).step model
      ⟨.exit entry, .ok reply⟩ next) :
    ∃ ready, next.events = model.events ++ .exited entry :: ready ∧
      ∀ event ∈ ready, event = .drainReady := by
  have performed := Option.some.inj step
  simp only [perform, exit] at performed
  split at performed
  · cases performed
  · split at performed
    · cases performed
    · cases performed
      dsimp only
      split
      · refine ⟨[.drainReady], ?_, fun event => List.mem_singleton.mp⟩
        rw [List.append_assoc]
        rfl
      · exact ⟨[], rfl, fun event member => by cases member⟩

/-- What the events of a model tell of it. -/
structure EventsDetermine (attachment : AttachmentId)
    (model : LifecycleModel) : Prop where
  state : (replay model.events).state = model.state
  live : (replay model.events).live.Perm
    (model.liveEntries.map (Entry.mk attachment))
  liveOnce : model.liveEntries.Nodup
  appended : ∀ during after,
    (lifecycleSystem attachment).Path model during after →
      model.events <+: after.events
  /-- A token is entered at most once, for this attachment, and exited at most
  once after that. -/
  own : ∀ entry, .entered entry ∈ model.events →
    entry.attachment = attachment
  enteredOnce : (model.events.filterMap LifecycleEvent.entry).Nodup
  exitedOnce : (model.events.filterMap LifecycleEvent.exit).Nodup
  exitedAfter : ∀ before entry after,
    model.events = before ++ .exited entry :: after →
      .entered entry ∈ before
  inOrder : model.events.filter LifecycleEvent.isMilestone <+:
    [.drainRequested, .drainReady, .invalidated, .destroyed]
  ready_iff : .drainReady ∈ model.events ↔
    model.state ≠ .active ∧ model.liveEntries = []
  rejected : ∀ op error next,
    (lifecycleSystem attachment).step model ⟨op, .error error⟩ next →
      next = model
  /-- The token that `enter` answers with is the one of the event it emits. -/
  answered : ∀ reply next,
    (lifecycleSystem attachment).step model ⟨.enter, .ok reply⟩ next →
      ∃ entry, reply = some entry ∧ next.events = model.events ++ [.entered entry]
  /-- A token that is exited is the one of the event too. -/
  exited : ∀ entry reply next,
    (lifecycleSystem attachment).step model ⟨.exit entry, .ok reply⟩ next →
      ∃ ready, next.events = model.events ++ .exited entry :: ready ∧
        ∀ event ∈ ready, event = .drainReady

/-- The events of a model determine its state, in every run. -/
theorem run_eventsDetermine
    (run : (lifecycleSystem attachment).Run trace model) :
    EventsDetermine attachment model := by
  have traced := run_traced run
  have own := run_attachment run
  have balanced := traced.balanced.nodup_iff.mp traced.enteredOnce
  obtain ⟨exitedOnce, liveOnce, _⟩ := List.nodup_append.mp balanced
  refine ⟨traced.state, ?_, liveOnce.of_map, fun _ _ => path_appends, ?_,
    traced.enteredOnce, exitedOnce, traced.ordered, ?_, traced.ready_iff, ?_,
    fun _ _ => enter_answered, fun _ _ _ => exit_answered⟩
  · rw [← own]
    exact traced.live
  · intro entry member
    rw [← own]
    apply (traced.issued entry ?_).1
    exact List.mem_filterMap.mpr ⟨_, member, rfl⟩
  · rw [traced.milestones]
    exact milestones_prefix model
  · intro op error next step
    have moves := step_moves step
    cases moves with
    | kept => rfl

/-- Two nested entries left in the order they were entered, a token exited
twice, and a whole teardown. -/
def nestedEntries : List LifecycleOp :=
  let attachment : AttachmentId := ⟨⟨.one⟩, ⟨.one⟩⟩
  [.enter, .enter, .exit ⟨attachment, 1⟩, .requestInvalidate,
    .exit ⟨attachment, 1⟩, .enter, .finishDrain, .exit ⟨attachment, 2⟩,
    .finishDrain, .destroy, .destroy]

theorem nestedEntries_eventsDetermine :
    ∃ trace model,
      lifecycle.performAll (.new ⟨⟨1, by decide⟩, ⟨1, by decide⟩⟩)
        nestedEntries = some (trace, model) ∧
      EventsDetermine ⟨⟨1, by decide⟩, ⟨1, by decide⟩⟩ model := by
  obtain ⟨trace, model, performed, run⟩ :=
    lifecycle.exists_run_of_performAll
      (fun model => model = .new ⟨⟨1, by decide⟩, ⟨1, by decide⟩⟩)
      nestedEntries rfl (by decide)
  exact ⟨trace, model, performed, run_eventsDetermine run⟩

end Runs

end LifecycleModel

end RustJsi.Testkit
