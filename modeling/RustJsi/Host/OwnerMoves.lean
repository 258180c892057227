import RustJsi.Host.WorkOwner

/-!
# What an owner and its users do

Each mailbox has a history of its own, in which the owner and its senders are
callers among others.  The attachments of the mailboxes follow one another, and
the last one is the registered one.
-/

namespace RustJsi.Host

open Interleaving RustJsi.Runtime

namespace Workplace

variable {width : PointerWidth} {T E : Type*}

/-- What one step of an owner and its users can be. -/
inductive Moves (place : Workplace width T E) :
    WorkLabel T E → Workplace width T E → Prop
  | sender (free : place.exclusive = none) :
      Moves place .sender
        { place with senders := place.senders ++ [place.owner.mailbox] }
  | started {caller : Caller T} {index : Nat}
      {mailbox next : BoundMailbox width T E}
      (reached : place.target caller = some index)
      (present : place.mailboxes[index]? = some mailbox)
      (step : mailbox.Step
        (.invoked mailbox.pool.calls.length caller.op) next) :
      Moves place (.started caller index mailbox.pool.calls.length)
        ((place.begin mailbox.pool.calls.length caller).setMailbox index next)
  | stepped {index call : Nat} {mailbox next : BoundMailbox width T E}
      {effect : ScheduledWorkMailbox.Effect T E}
      (present : place.mailboxes[index]? = some mailbox)
      (step : mailbox.Step (.stepped call effect) next) :
      Moves place (.stepped index call effect) (place.setMailbox index next)
  | postDeclined (free : place.exclusive = none)
      (inactive : place.owner.state ≠ .active) :
      Moves place .postDeclined place
  | lent {attachment : AttachmentId} {mailbox : Nat}
      (free : place.exclusive = none)
      (current : place.owner.resolveDrainTask attachment = .current mailbox) :
      Moves place (.resolved attachment (.current mailbox))
        { place with lent := place.lent + 1 }
  | resolved {attachment : AttachmentId}
      {resolution : AttachmentWorkResolution} (free : place.exclusive = none)
      (same : place.owner.resolveDrainTask attachment = resolution)
      (apart : ∀ mailbox, resolution ≠ .current mailbox) :
      Moves place (.resolved attachment resolution) place
  | released (held : 0 < place.lent) :
      Moves place .released { place with lent := place.lent - 1 }
  | closed {call : Nat} {result : IngressClose}
      (busy : place.exclusive = some (.beginClose call))
      (answered : place.callOf call = some (.closeBegun result)) :
      Moves place (.closed result) { place with exclusive := none }
  | replaced {call capacity : Nat} {replacement : AttachmentId}
      {oldState : ClosableMailboxState}
      (busy : place.exclusive = some (.replace call replacement capacity))
      (answered : place.callOf call = some (.observed oldState)) :
      Moves place
        (.replaced replacement
          (place.replace oldState replacement capacity).1)
        (place.replace oldState replacement capacity).2

variable {place next : Workplace width T E} {label : WorkLabel T E}
  {first : AttachmentId} {capacity : Nat}

theorem finish_moves
    (performed : place.finish = some (next, label)) :
    place.Moves label next := by
  unfold finish at performed
  split at performed
  · cases performed
  · rename_i call busy
    split at performed
    · rename_i result answered
      cases performed
      exact .closed busy answered
    · cases performed
  · rename_i call replacement capacity busy
    split at performed
    · rename_i oldState answered
      cases performed
      exact .replaced busy answered
    · cases performed

theorem exec_moves {action : WorkAction T E}
    (performed : place.exec action = some (next, label)) :
    place.Moves label next := by
  cases action with
  | sender =>
      simp only [exec] at performed
      split at performed
      · rename_i free
        cases performed
        exact .sender free
      · cases performed
  | start caller =>
      obtain ⟨index, reached, performed⟩ :=
        Option.bind_eq_some_iff.mp performed
      obtain ⟨mailbox, present, performed⟩ :=
        Option.bind_eq_some_iff.mp performed
      obtain ⟨⟨invoked, told⟩, done, same⟩ :=
        Option.map_eq_some_iff.mp performed
      cases same
      obtain ⟨⟨pool, same⟩, executed, outcome⟩ :=
        Option.map_eq_some_iff.mp done
      cases executed
      cases outcome
      exact .started reached present (BoundMailbox.step_of_exec done)
  | advance index call choice =>
      obtain ⟨mailbox, present, performed⟩ :=
        Option.bind_eq_some_iff.mp performed
      obtain ⟨⟨moved, told⟩, done, performed⟩ :=
        Option.bind_eq_some_iff.mp performed
      obtain ⟨effect, told, same⟩ := Option.map_eq_some_iff.mp performed
      cases same
      have step := BoundMailbox.step_of_exec done
      obtain ⟨⟨pool, label⟩, executed, outcome⟩ :=
        Option.map_eq_some_iff.mp done
      cases outcome
      simp only [Machine.exec] at executed
      split at executed
      · cases executed
      split at executed
      · cases executed
      cases executed
      cases told
      exact .stepped present step
  | declinePost =>
      simp only [exec] at performed
      split at performed
      · rename_i declined
        cases performed
        exact .postDeclined declined.1 declined.2
      · cases performed
  | resolve attachment =>
      simp only [exec] at performed
      split at performed
      · rename_i free
        split at performed
        · rename_i mailbox current
          cases performed
          rw [current]
          exact .lent free current
        · rename_i other
          cases performed
          exact .resolved free rfl other
      · cases performed
  | release =>
      simp only [exec] at performed
      split at performed
      · rename_i held
        cases performed
        exact .released held
      · cases performed
  | finish => exact finish_moves performed

theorem step_moves
    (moved : (system first capacity width T E).step place label next) :
    place.Moves label next := by
  obtain ⟨action, performed⟩ := moved
  exact exec_moves performed

end Workplace

/-- What a label says of one mailbox. -/
def WorkLabel.inMailbox {T E : Type*} (index : Nat) :
    WorkLabel T E → Option (PoolLabel (ScheduledWorkMailbox.Op T)
      (ScheduledWorkMailbox.Effect T E))
  | .started caller mailbox call =>
      if mailbox = index then some (.invoked call caller.op) else none
  | .stepped mailbox call effect =>
      if mailbox = index then some (.stepped call effect) else none
  | _ => none

/-- The history of one mailbox. -/
def mailboxTrace {T E : Type*} (index : Nat) (trace : List (WorkLabel T E)) :
    List (PoolLabel (ScheduledWorkMailbox.Op T)
      (ScheduledWorkMailbox.Effect T E)) :=
  trace.filterMap (WorkLabel.inMailbox index)

namespace Workplace

variable {width : PointerWidth} {T E : Type*}
  {place next : Workplace width T E} {label : WorkLabel T E}
  {first : AttachmentId} {capacity index : Nat}
  {mailbox : BoundMailbox width T E}

/-- A mailbox goes on by a path of its own. -/
def GoesOn (place : Workplace width T E) (index : Nat)
    (mailbox : BoundMailbox width T E)
    (trace : List (PoolLabel (ScheduledWorkMailbox.Op T)
      (ScheduledWorkMailbox.Effect T E))) : Prop :=
  ∃ pool, place.mailboxes[index]? = some { mailbox with pool } ∧
    (ScheduledWorkMailbox.system mailbox.attachment width T E
      mailbox.capacity).Path mailbox.pool trace pool

theorem goesOn_same (present : place.mailboxes[index]? = some mailbox) :
    place.GoesOn index mailbox [] :=
  ⟨mailbox.pool, present, .refl _⟩

theorem goesOn_set {moved : Nat} {before after : BoundMailbox width T E}
    {told : PoolLabel (ScheduledWorkMailbox.Op T)
      (ScheduledWorkMailbox.Effect T E)}
    (step : before.Step told after)
    (was : place.mailboxes[moved]? = some before)
    (present : place.mailboxes[index]? = some mailbox) :
    (place.setMailbox moved after).GoesOn index mailbox
      (if moved = index then some told else none).toList := by
  have bound := (List.getElem?_eq_some_iff.mp was).1
  by_cases own : moved = index
  · subst own
    rw [was] at present
    cases present
    obtain ⟨pool, rfl, step⟩ := step
    rw [if_pos rfl]
    exact ⟨pool, List.getElem?_set_self bound, .single step⟩
  · rw [if_neg own]
    exact goesOn_same ((List.getElem?_set_ne own).trans present)

theorem begin_mailboxes (place : Workplace width T E) (call : Nat)
    (caller : Caller T) :
    (place.begin call caller).mailboxes = place.mailboxes := by
  cases caller with
  | _ => rfl

theorem replace_mailboxes (place : Workplace width T E)
    (oldState : ClosableMailboxState) (replacement : AttachmentId)
    (capacity : Nat) :
    place.mailboxes <+:
      (place.replace oldState replacement capacity).2.mailboxes := by
  unfold replace
  split
  · exact List.prefix_append _ _
  · exact List.prefix_refl _

theorem Moves.goesOn (moves : place.Moves label next)
    (present : place.mailboxes[index]? = some mailbox) :
    next.GoesOn index mailbox (label.inMailbox index).toList := by
  cases moves with
  | @started caller used before after reached was step =>
      have begun := begin_mailboxes place before.pool.calls.length caller
      rw [← begun] at was present
      exact goesOn_set step was present
  | stepped was step => exact goesOn_set step was present
  | replaced busy answered =>
      refine goesOn_same ?_
      obtain ⟨more, grown⟩ := replace_mailboxes place _ _ _
      rw [← grown]
      exact List.getElem?_append_left
        (List.getElem?_eq_some_iff.mp present).1 ▸ present
  | _ => exact goesOn_same present

theorem path_goesOn {after : List (WorkLabel T E)}
    (path : (system first capacity width T E).Path place after next)
    (present : place.mailboxes[index]? = some mailbox) :
    next.GoesOn index mailbox (mailboxTrace index after) := by
  induction path with
  | refl => exact goesOn_same present
  | snoc _ moved inductionHypothesis =>
      obtain ⟨pool, found, earlier⟩ := inductionHypothesis
      obtain ⟨later, still, step⟩ := (step_moves moved).goesOn found
      refine ⟨later, still, ?_⟩
      rw [mailboxTrace, filterMap_snoc]
      exact earlier.append step

/-- What is not there yet is not used, and is new when it comes. -/
theorem Moves.fresh (moves : place.Moves label next)
    (absent : place.mailboxes[index]? = none) :
    label.inMailbox index = none ∧
      ∀ mailbox, next.mailboxes[index]? = some mailbox →
        ∃ replacement capacity, mailbox = .new replacement capacity := by
  have other : ∀ (caller : Caller T) {used : Nat}
      {before after : BoundMailbox width T E} (call : Nat),
      place.mailboxes[used]? = some before → used ≠ index ∧
      ∀ mailbox, ((place.begin call caller).setMailbox used
        after).mailboxes[index]? = some mailbox → False := by
    intro caller used before after call present
    have apart : used ≠ index := by
      intro same
      rw [same, absent] at present
      cases present
    refine ⟨apart, ?_⟩
    intro mailbox found
    have still := List.getElem?_set_ne apart (l := place.mailboxes)
      (a := after)
    rw [setMailbox, begin_mailboxes] at found
    rw [found, absent] at still
    cases still
  cases moves with
  | started reached present step =>
      obtain ⟨apart, nothing⟩ := other _ _ present
      exact ⟨if_neg apart, fun mailbox found => (nothing mailbox found).elim⟩
  | stepped present step =>
      obtain ⟨apart, nothing⟩ := other .postPending 0 present
      exact ⟨if_neg apart, fun mailbox found => (nothing mailbox found).elim⟩
  | replaced busy answered =>
      refine ⟨rfl, ?_⟩
      intro mailbox found
      unfold replace at found
      split at found
      · rw [List.getElem?_append_right
          (List.getElem?_eq_none_iff.mp absent)] at found
        have only := List.mem_of_getElem? found
        exact ⟨_, _, List.mem_singleton.mp only⟩
      · rw [absent] at found
        cases found
  | _ =>
      refine ⟨rfl, ?_⟩
      intro mailbox found
      have gone := absent.symm.trans found
      cases gone

/-- Every mailbox has run by itself, and none was used before it was made. -/
theorem run_mailbox {trace : List (WorkLabel T E)}
    (run : (system first capacity width T E).Run trace place) :
    ∀ index, (place.mailboxes[index]? = none →
        mailboxTrace index trace = []) ∧
      ∀ mailbox, place.mailboxes[index]? = some mailbox →
        (ScheduledWorkMailbox.system mailbox.attachment width T E
          mailbox.capacity).Run (mailboxTrace index trace) mailbox.pool := by
  have started : ∀ (replacement : AttachmentId) (capacity : Nat),
      (ScheduledWorkMailbox.system replacement width T E capacity).Run []
        (BoundMailbox.new replacement capacity :
          BoundMailbox width T E).pool :=
    fun replacement capacity => .nil ⟨rfl, rfl⟩
  refine System.Run.invariant
    (fun trace place => ∀ index, (place.mailboxes[index]? = none →
        mailboxTrace index trace = []) ∧
      ∀ mailbox, place.mailboxes[index]? = some mailbox →
        (ScheduledWorkMailbox.system mailbox.attachment width T E
          mailbox.capacity).Run (mailboxTrace index trace) mailbox.pool)
    ?_ ?_ run
  · intro place starts index
    refine ⟨fun _ => rfl, ?_⟩
    intro mailbox present
    rw [starts] at present
    cases List.mem_singleton.mp (List.mem_of_getElem? present)
    exact started _ _
  · intro trace place label next _ known moved index
    have moves := step_moves moved
    obtain ⟨unused, ran⟩ := known index
    rw [mailboxTrace, filterMap_snoc]
    cases present : place.mailboxes[index]? with
    | none =>
        obtain ⟨untold, new⟩ := moves.fresh present
        have empty : trace.filterMap (WorkLabel.inMailbox index) = [] :=
          unused present
        rw [empty, untold]
        refine ⟨fun _ => rfl, ?_⟩
        intro mailbox found
        obtain ⟨replacement, capacity, rfl⟩ := new mailbox found
        exact started _ _
    | some before =>
        obtain ⟨pool, found, path⟩ := moves.goesOn present
        refine ⟨?_, ?_⟩
        · intro absent
          rw [found] at absent
          cases absent
        · intro mailbox same
          rw [found] at same
          cases same
          exact (ran before present).append path

/-! ## The order of the attachments -/

def attachments (place : Workplace width T E) : List AttachmentId :=
  place.mailboxes.map BoundMailbox.attachment

/-- The current mailbox is the last one and has the registered attachment, the
others have older ones, and nothing is lent that is not active. -/
structure Ordered (place : Workplace width T E) : Prop where
  last : place.owner.mailbox + 1 = place.attachments.length
  attached : place.attachments[place.owner.mailbox]? =
    some place.owner.attachmentId
  older : ∀ (index : Nat) (attachment : AttachmentId),
    place.attachments[index]? = some attachment →
    index ≠ place.owner.mailbox →
    DrainRegistration.Older attachment place.owner.attachmentId
  lending : 0 < place.lent →
    place.exclusive = none ∧ place.owner.state = .active
  issued : ∀ index ∈ place.senders, index ≤ place.owner.mailbox

theorem ordered_new (attachment : AttachmentId) (capacity : Nat) :
    (new attachment capacity : Workplace width T E).Ordered where
  last := rfl
  attached := rfl
  older := by
    intro index other found apart
    cases index with
    | zero => exact absurd rfl apart
    | succ index => cases found
  lending := fun held => absurd held (Nat.lt_irrefl 0)
  issued := List.forall_mem_nil _

theorem setMailbox_attachments {before after : BoundMailbox width T E}
    {told : PoolLabel (ScheduledWorkMailbox.Op T)
      (ScheduledWorkMailbox.Effect T E)}
    (present : place.mailboxes[index]? = some before)
    (step : before.Step told after) :
    (place.setMailbox index after).attachments = place.attachments := by
  obtain ⟨pool, rfl, _⟩ := step
  obtain ⟨bound, same⟩ := List.getElem?_eq_some_iff.mp present
  apply List.ext_getElem?
  intro other
  rw [attachments, attachments, setMailbox, List.getElem?_map,
    List.getElem?_map]
  by_cases own : index = other
  · subst own
    rw [List.getElem?_set_self bound, present]
    rfl
  · rw [List.getElem?_set_ne own]

/-- A step that keeps the owner and the attachments keeps their order. -/
theorem Ordered.kept (ordered : place.Ordered)
    (mailbox : next.owner.mailbox = place.owner.mailbox)
    (attachment : next.owner.attachmentId = place.owner.attachmentId)
    (attachments : next.attachments = place.attachments)
    (lending : 0 < next.lent →
      next.exclusive = none ∧ next.owner.state = .active)
    (senders : next.senders = place.senders) : next.Ordered where
  last := by
    rw [mailbox, attachments]
    exact ordered.last
  attached := by
    rw [mailbox, attachments, attachment]
    exact ordered.attached
  older := by
    rw [mailbox, attachments, attachment]
    exact ordered.older
  lending := lending
  issued := by
    rw [senders, mailbox]
    exact ordered.issued

/-- The owner cannot replace its mailbox while it lends it. -/
theorem Ordered.idle (ordered : place.Ordered)
    (busy : place.exclusive ≠ none) : place.lent = 0 := by
  refine Nat.eq_zero_of_not_pos ?_
  intro held
  exact busy (ordered.lending held).1

theorem resolve_current_iff {owner : AttachmentWorkOwner}
    {attachment : AttachmentId} {mailbox : Nat} :
    owner.resolveDrainTask attachment = .current mailbox ↔
      mailbox = owner.mailbox ∧ attachment = owner.attachmentId ∧
        owner.state = .active := by
  rw [AttachmentWorkOwner.attachmentId, AttachmentWorkOwner.state,
    DrainRegistration.attachmentId, ← DrainRegistration.resolve_eq_current_iff]
  unfold AttachmentWorkOwner.resolveDrainTask
  cases owner.registration.resolve attachment with
  | current =>
      refine ⟨fun same => ?_, fun same => ?_⟩
      · cases same
        exact ⟨rfl, rfl⟩
      · rw [same.1]
  | _ =>
      refine ⟨fun same => ?_, fun same => ?_⟩
      · cases same
      · cases same.2

/-- What a replacement that succeeds has found, and what it does. -/
theorem replace_ok {oldState : ClosableMailboxState}
    {replacement : AttachmentId} {size : Nat}
    (replaced : place.replace oldState replacement size = (.ok (), next)) :
    oldState = .closed ∧ place.owner.state = .closing ∧
      DrainRegistration.Older place.owner.attachmentId replacement ∧
      next = { place with
        owner := ⟨.new replacement, place.mailboxes.length⟩
        mailboxes := place.mailboxes ++ [.new replacement size]
        exclusive := none } := by
  unfold replace at replaced
  split at replaced
  · rename_i owner done
    cases replaced
    unfold AttachmentWorkOwner.replace at done
    split at done
    · cases done
    · rename_i closed
      split at done
      · cases done
      · rename_i registration registered
        cases done
        obtain ⟨closing, older, rfl⟩ :=
          DrainRegistration.replace_eq_ok registered
        exact ⟨not_not.mp closed, closing, older, rfl⟩
  · cases replaced

/-- A replacement that fails changes nothing. -/
theorem replace_error {oldState : ClosableMailboxState}
    {replacement : AttachmentId} {size : Nat}
    {error : AttachmentWorkReplaceError}
    (refused : place.replace oldState replacement size =
      (.error error, next)) :
    next = { place with exclusive := none } := by
  unfold replace at refused
  split at refused
  · cases refused
  · rename_i failure owner done
    cases refused
    have same : owner = place.owner := by
      unfold AttachmentWorkOwner.replace at done
      split at done
      · cases done
        rfl
      · split at done
        · rename_i registration registered
          cases done
          rw [DrainRegistration.replace_eq_error registered]
        · cases done
    rw [same]

theorem Ordered.replace (ordered : place.Ordered)
    (busy : place.exclusive ≠ none) (oldState : ClosableMailboxState)
    (replacement : AttachmentId) (size : Nat) :
    (place.replace oldState replacement size).2.Ordered := by
  have nobody := ordered.idle busy
  cases replaced : place.replace oldState replacement size with
  | mk result next =>
  cases result with
  | error error =>
      rw [replace_error replaced]
      refine ordered.kept rfl rfl rfl ?_ rfl
      exact fun held => absurd held (by
        rw [nobody]
        exact Nat.lt_irrefl 0)
  | ok done =>
      obtain ⟨_, _, older, rfl⟩ := replace_ok replaced
      have grown : (place.mailboxes ++
          [BoundMailbox.new replacement size]).map BoundMailbox.attachment =
            place.attachments ++ [replacement] := List.map_append
      have length : place.attachments.length = place.mailboxes.length :=
        List.length_map _
      refine ⟨?_, ?_, ?_, ?_, ?_⟩
      · rw [attachments, grown, List.length_append, length]
        rfl
      · rw [attachments, grown, ← length]
        exact List.getElem?_concat_length
      · intro index attachment found apart
        rw [attachments, grown] at found
        have bound := (List.getElem?_eq_some_iff.mp found).1
        rw [List.length_append, List.length_singleton, length] at bound
        have before : index < place.attachments.length := by
          rw [length]
          exact Nat.lt_of_le_of_ne (Nat.le_of_lt_succ bound) apart
        rw [List.getElem?_append_left before] at found
        by_cases current : index = place.owner.mailbox
        · rw [current, ordered.attached] at found
          cases found
          exact older
        · exact (ordered.older index attachment found current).trans older
      · intro held
        exact absurd held (by
          rw [nobody]
          exact Nat.lt_irrefl 0)
      · intro index member
        have bound := ordered.issued index member
        have last := ordered.last
        rw [length] at last
        exact Nat.le_trans bound (last ▸ Nat.le_succ _)

theorem Ordered.step (ordered : place.Ordered)
    (moves : place.Moves label next) : next.Ordered := by
  cases moves with
  | sender free =>
      refine ⟨ordered.last, ordered.attached, ordered.older, ordered.lending,
        ?_⟩
      intro index member
      cases List.mem_append.mp member with
      | inl earlier => exact ordered.issued index earlier
      | inr last =>
          rw [List.mem_singleton.mp last]
  | @started caller used before after reached present step =>
      have begun := begin_mailboxes place before.pool.calls.length caller
      rw [← begun] at present
      have same := setMailbox_attachments present step
      rw [attachments, attachments, begun] at same
      cases caller with
      | beginClose =>
          simp only [target] at reached
          split at reached
          · rename_i alone
            refine ordered.kept rfl rfl same ?_ rfl
            intro held
            exact absurd alone.2 (Nat.ne_of_gt held)
          · cases reached
      | replace replacement size =>
          simp only [target] at reached
          split at reached
          · rename_i alone
            refine ordered.kept rfl rfl same ?_ rfl
            intro held
            exact absurd alone.2 (Nat.ne_of_gt held)
          · cases reached
      | _ => exact ordered.kept rfl rfl same ordered.lending rfl
  | stepped present step =>
      exact ordered.kept rfl rfl (setMailbox_attachments present step)
        ordered.lending rfl
  | postDeclined free inactive => exact ordered
  | lent free current =>
      refine ordered.kept rfl rfl rfl ?_ rfl
      exact fun _ => ⟨free, (resolve_current_iff.mp current).2.2⟩
  | resolved free same apart => exact ordered
  | released held =>
      refine ordered.kept rfl rfl rfl ?_ rfl
      exact fun still => ordered.lending (Nat.lt_of_lt_of_le still
        (Nat.sub_le _ _))
  | closed busy answered =>
      have nobody := ordered.idle (by
        rw [busy]
        intro none
        cases none)
      refine ordered.kept rfl rfl rfl ?_ rfl
      intro held
      exact absurd nobody (Nat.ne_of_gt held)
  | replaced busy answered =>
      refine ordered.replace ?_ _ _ _
      rw [busy]
      intro none
      cases none

theorem run_ordered {trace : List (WorkLabel T E)}
    (run : (system first capacity width T E).Run trace place) :
    place.Ordered := by
  refine System.Run.invariant (fun _ place => place.Ordered) ?_ ?_ run
  · intro place starts
    rw [starts]
    exact ordered_new first capacity
  · intro _ place label next _ ordered moved
    exact ordered.step (step_moves moved)

end Workplace

end RustJsi.Host
