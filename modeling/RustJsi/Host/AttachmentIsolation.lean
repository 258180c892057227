import RustJsi.Host.OwnerClose
import RustJsi.Runtime.TerminalExclusion

/-!
# Work stays with its attachment

What is sent for an attachment is popped from its own mailbox, and all of it
before the attachment is replaced.  From then on its tasks resolve as retired,
and its senders get their payloads back.
-/

namespace RustJsi.Host

open Interleaving RustJsi.Runtime
open ClosableMailbox (ConservesPayloads Reached terminalClosed)
open ScheduledWorkMailbox (innerTrace run_inner)

namespace ScheduledWorkMailbox

variable {width : PointerWidth} {T E : Type*} {capacity : Nat}
  {attachment : AttachmentId}
  {trace : List (PoolLabel (Op T) (Effect T E))}
  {pool : Pool (Shared width T capacity) (Call width T E)}

/-- The payload an operation offers. -/
def Op.payload? : Op T → Option T
  | .enqueue payload => some payload
  | .enqueueAndPost payload => some payload
  | _ => none

theorem offers_inner (op : Op T) :
    (inner attachment op).offers? =
      op.payload?.map fun payload => ⟨attachment, payload⟩ := by
  cases op with
  | _ => rfl

theorem invoked_of_inner {index : Nat}
    {op : ClosableMailbox.Op (ScheduledWork T)}
    (invoked : .invoked index op ∈ innerTrace attachment trace) :
    ∃ outer, .invoked index outer ∈ trace ∧ inner attachment outer = op := by
  obtain ⟨label, member, same⟩ := List.mem_map.mp invoked
  cases label with
  | invoked call outer =>
      cases same
      exact ⟨outer, member, rfl⟩
  | stepped call effect => cases same

/-- A record that was pushed is what its call was given, with the attachment
of the mailbox. -/
theorem run_stamped (run : (system attachment width T E capacity).Run trace pool)
    {index : Nat} {work : ScheduledWork T}
    (pushed : (index, work) ∈
      ClosableMailbox.pushes (innerTrace attachment trace)) :
    ∃ op, .invoked index op ∈ trace ∧ op.payload? = some work.payload ∧
      work.attachment = attachment := by
  have inside := run_inner run
  have own : work ∈ ClosableMailbox.pushedBy index
      (innerTrace attachment trace) :=
    List.mem_map.mpr ⟨_, List.mem_filter.mpr ⟨pushed, decide_eq_true rfl⟩, rfl⟩
  have bound : index < pool.calls.length := by
    obtain ⟨label, member, told⟩ := List.mem_filterMap.mp pushed
    cases label with
    | invoked call op => cases told
    | stepped call effect =>
        obtain ⟨value, pushes, same⟩ := Option.map_eq_some_iff.mp told
        cases same
        refine (run_recorded inside).effectBound index ?_
        exact List.ne_nil_of_mem (List.mem_filterMap.mpr
          ⟨_, member, if_pos rfl⟩)
  obtain ⟨innerOp, invoked⟩ := (run_recorded inside).invoked index bound
  obtain ⟨op, member, rfl⟩ := invoked_of_inner invoked
  have conserves := (ClosableMailbox.run_conservesPayloads inside).1
  rcases conserves.offered index _ invoked with nothing | offered
  · rw [nothing] at own
    cases own
  · obtain ⟨value, offers, pushes⟩ := offered
    rw [pushes] at own
    cases List.mem_singleton.mp own
    rw [offers_inner] at offers
    obtain ⟨payload, given, rfl⟩ := Option.map_eq_some_iff.mp offers
    exact ⟨op, member, given, rfl⟩

/-- A record that was popped was pushed. -/
theorem run_popped (run : (system attachment width T E capacity).Run trace pool)
    {popper : Nat} {work : ScheduledWork T}
    (popped : (popper, work) ∈
      ClosableMailbox.pops (innerTrace attachment trace)) :
    ∃ index, (index, work) ∈
      ClosableMailbox.pushes (innerTrace attachment trace) := by
  have fifo := ClosableMailbox.run_fifo (run_inner run)
  have taken : work ∈ (ClosableMailbox.pushes
      (innerTrace attachment trace)).map Prod.snd := by
    rw [fifo]
    exact List.mem_append_left _ (List.mem_map.mpr ⟨_, popped, rfl⟩)
  obtain ⟨⟨index, _⟩, pushed, rfl⟩ := List.mem_map.mp taken
  exact ⟨index, pushed⟩

/-- From a closed mailbox everything was popped. -/
theorem run_emptied (run : (system attachment width T E capacity).Run trace pool)
    (closed : pool.shared.terminalState = terminalClosed) :
    (ClosableMailbox.pushes (innerTrace attachment trace)).map Prod.snd =
        (ClosableMailbox.pops (innerTrace attachment trace)).map Prod.snd ∧
      pool.shared.queue.items = [] := by
  have empty := ClosableMailbox.run_closedEmpty (run_inner run) closed
  have fifo := ClosableMailbox.run_fifo (run_inner run)
  rw [empty, List.append_nil] at fifo
  exact ⟨fifo, empty⟩

/-- Nobody is on the way to push into a closed mailbox. -/
theorem run_unproduced
    (run : (system attachment width T E capacity).Run trace pool)
    (closed : pool.shared.terminalState = terminalClosed) :
    ∀ call ∈ pool.calls, call.produces = false := by
  obtain ⟨ledger, _, sound, relates⟩ := ClosableMailbox.run_ledger
    (run_inner run)
  have last := (ClosableMailbox.closed_iff relates).mp closed
  intro call member
  refine (relates.claimed_alone sound ?_ member).2.1
  rw [MailboxLedger.Claimed, last]
  intro same
  cases same

end ScheduledWorkMailbox

/-- The sender that a call goes through. -/
def Caller.sender? {T : Type*} : Caller T → Option Nat
  | .enqueue sender _ => some sender
  | .enqueueAndPost sender _ => some sender
  | _ => none

namespace Workplace

variable {width : PointerWidth} {T E : Type*}
  {place next middle last : Workplace width T E} {label : WorkLabel T E}
  {first : AttachmentId} {capacity index : Nat}
  {mailbox : BoundMailbox width T E}
  {trace before after : List (WorkLabel T E)}

theorem Ordered.bound (ordered : place.Ordered) :
    place.owner.mailbox + 1 = place.mailboxes.length := by
  have last := ordered.last
  rw [attachments, List.length_map] at last
  exact last

/-- A mailbox that is closed stays closed. -/
theorem GoesOn.closed
    (run : (system first capacity width T E).Run before middle)
    (present : middle.mailboxes[index]? = some mailbox)
    (closed : mailbox.pool.shared.terminalState = terminalClosed)
    {labels : List (PoolLabel (ScheduledWorkMailbox.Op T)
      (ScheduledWorkMailbox.Effect T E))}
    (goesOn : next.GoesOn index mailbox labels) :
    ∃ pool, next.mailboxes[index]? = some { mailbox with pool } ∧
      pool.shared.terminalState = terminalClosed := by
  obtain ⟨pool, found, path⟩ := goesOn
  have inside := run_inner ((run_mailbox run index).2 _ present)
  have conserves := (ClosableMailbox.run_conservesPayloads inside).1
  exact ⟨pool, found, (conserves.closedEmpty closed _ _
    ((ScheduledWorkMailbox.wraps mailbox.attachment).path path)).1⟩

/-- Who installs another mailbox has seen the old one closed. -/
theorem Moves.sawClosed (moves : place.Moves label next)
    (other : next.owner.mailbox ≠ place.owner.mailbox) :
    ∃ call, place.callOf call = some (.observed .closed) := by
  cases moves with
  | @started caller used before after reached present step =>
      cases caller with
      | _ => exact absurd rfl other
  | @replaced call size replacement oldState busy answered =>
      cases replaced : place.replace oldState replacement size with
      | mk result next =>
      cases result with
      | error error =>
          rw [replaced, replace_error replaced] at other
          exact absurd rfl other
      | ok done =>
          obtain ⟨rfl, _⟩ := replace_ok replaced
          exact ⟨call, answered⟩
  | _ => exact absurd rfl other

theorem closed_of_saw
    (run : (system first capacity width T E).Run trace place) {call : Nat}
    (saw : place.callOf call = some (.observed .closed))
    (present : place.mailboxes[place.owner.mailbox]? = some mailbox) :
    mailbox.pool.shared.terminalState = terminalClosed := by
  obtain ⟨same, found, answered⟩ := Option.bind_eq_some_iff.mp saw
  rw [present] at found
  cases found
  have inside := run_inner ((run_mailbox run _).2 _ present)
  exact (ClosableMailbox.run_conservesPayloads inside).1.observedClosed call
    answered

/-- Every mailbox but the current one is closed. -/
theorem run_replacedClosed
    (run : (system first capacity width T E).Run trace place) :
    ∀ index mailbox, place.mailboxes[index]? = some mailbox →
      index ≠ place.owner.mailbox →
      mailbox.pool.shared.terminalState = terminalClosed := by
  refine System.Run.invariant
    (fun _ place => ∀ index mailbox,
      place.mailboxes[index]? = some mailbox → index ≠ place.owner.mailbox →
      mailbox.pool.shared.terminalState = terminalClosed) ?_ ?_ run
  · intro place starts index mailbox present apart
    rw [starts] at present apart
    cases index with
    | zero => exact absurd rfl apart
    | succ index => cases present
  · intro trace place label next earlier known moved index mailbox found apart
    have moves := step_moves moved
    cases present : place.mailboxes[index]? with
    | some before =>
        have closed : before.pool.shared.terminalState = terminalClosed := by
          by_cases current : index = place.owner.mailbox
          · subst current
            obtain ⟨call, saw⟩ := moves.sawClosed apart.symm
            exact closed_of_saw earlier saw present
          · exact known index before present current
        obtain ⟨pool, same, still⟩ :=
          (moves.goesOn present).closed earlier present closed
        rw [found] at same
        cases same
        exact still
    | none =>
        have missing := List.getElem?_eq_none_iff.mp present
        have bound := (List.getElem?_eq_some_iff.mp found).1
        have ordered := (run_ordered earlier).bound
        have later := (run_ordered (earlier.snoc moved)).bound
        rcases moves.closing with kept | replaced
        · have same := kept.1
          omega
        · have same := replaced.1
          omega

theorem Moves.senders (moves : place.Moves label next) :
    place.senders <+: next.senders := by
  cases moves with
  | sender free => exact List.prefix_append _ _
  | @started caller used before after reached present step =>
      cases caller with
      | _ => exact List.prefix_refl _
  | @replaced call size replacement oldState busy answered =>
      cases replaced : place.replace oldState replacement size with
      | mk result next =>
      cases result with
      | error error =>
          obtain rfl := replace_error replaced
          exact List.prefix_refl _
      | ok done =>
          obtain ⟨_, _, _, rfl⟩ := replace_ok replaced
          exact List.prefix_refl _
  | _ => exact List.prefix_refl _

theorem getElem?_of_prefix {Item : Type*} {before after : List Item}
    {item : Item} (grows : before <+: after)
    (present : before[index]? = some item) : after[index]? = some item := by
  obtain ⟨more, rfl⟩ := grows
  rw [List.getElem?_append_left (List.getElem?_eq_some_iff.mp present).1]
  exact present

/-- What goes through a sender goes to the mailbox it was made for. -/
theorem run_sent (run : (system first capacity width T E).Run trace place) :
    ∀ caller index call sender, .started caller index call ∈ trace →
      caller.sender? = some sender → place.senders[sender]? = some index := by
  refine System.Run.invariant
    (fun trace place => ∀ caller index call sender,
      .started caller index call ∈ trace → caller.sender? = some sender →
      place.senders[sender]? = some index) ?_ ?_ run
  · intro place _ caller index call sender member
    cases member
  · intro trace place label next _ known moved caller index call sender member
      sends
    have moves := step_moves moved
    refine getElem?_of_prefix moves.senders ?_
    rcases List.mem_append.mp member with earlier | now
    · exact known caller index call sender earlier sends
    · cases List.mem_singleton.mp now
      cases moves with
      | started reached present step =>
          cases caller with
          | enqueue sender payload =>
              cases sends
              exact reached
          | enqueueAndPost sender payload =>
              cases sends
              exact reached
          | _ => cases sends

/-! ## What holds of every history -/

/-- What the owner, its mailboxes and its senders have done so far. -/
structure IsolatesAttachments (trace : List (WorkLabel T E))
    (place : Workplace width T E) : Prop where
  /-- The current mailbox has the attachment of the registration. -/
  attached : ∃ mailbox, place.current = some mailbox ∧
    mailbox.attachment = place.owner.attachmentId
  /-- A mailbox is lent for the current attachment only, while it is active. -/
  lends : ∀ attachment index,
    place.owner.resolveDrainTask attachment = .current index ↔
      index = place.owner.mailbox ∧
        attachment = place.owner.attachmentId ∧ place.owner.state = .active
  /-- Every other mailbox has an older attachment, which is retired. -/
  retired : ∀ index mailbox, place.mailboxes[index]? = some mailbox →
    index ≠ place.owner.mailbox →
    DrainRegistration.Older mailbox.attachment place.owner.attachmentId ∧
      place.owner.resolveDrainTask mailbox.attachment = .retired
  /-- A sender sends to the mailbox that it was made for. -/
  sent : ∀ caller index call sender, .started caller index call ∈ trace →
    caller.sender? = some sender → place.senders[sender]? = some index
  /-- In each mailbox payloads are accepted, popped and handed back as in a
  mailbox that is alone. -/
  conserves : ∀ index mailbox, place.mailboxes[index]? = some mailbox →
    ConservesPayloads
      (innerTrace mailbox.attachment (mailboxTrace index trace)) mailbox.pool
  /-- What is popped was sent to this mailbox, and carries its attachment. -/
  stamped : ∀ index mailbox, place.mailboxes[index]? = some mailbox →
    ∀ popper work, (popper, work) ∈ ClosableMailbox.pops
        (innerTrace mailbox.attachment (mailboxTrace index trace)) →
      work.attachment = mailbox.attachment ∧
        ∃ caller call, .started caller index call ∈ trace ∧
          caller.op.payload? = some work.payload
  /-- What an older mailbox accepted was popped from it. -/
  settled : ∀ index mailbox, place.mailboxes[index]? = some mailbox →
    index ≠ place.owner.mailbox →
    (ClosableMailbox.pushes (innerTrace mailbox.attachment
        (mailboxTrace index trace))).map Prod.snd =
      (ClosableMailbox.pops (innerTrace mailbox.attachment
        (mailboxTrace index trace))).map Prod.snd ∧
    mailbox.pool.shared.queue.items = []

/-- What a replacement does to the owner. -/
structure Replaces (trace : List (WorkLabel T E))
    (place : Workplace width T E) (replacement : AttachmentId)
    (result : Except AttachmentWorkReplaceError Unit)
    (next : Workplace width T E) : Prop where
  /-- Success: the owner was closing, the new attachment is a later one of the
  same runtime, and every payload of the old one was popped. -/
  succeeds : result = .ok () →
    place.owner.state = .closing ∧
    DrainRegistration.Older place.owner.attachmentId replacement ∧
    (∃ mailbox, place.current = some mailbox ∧
      (ClosableMailbox.pushes (innerTrace mailbox.attachment
          (mailboxTrace place.owner.mailbox trace))).map Prod.snd =
        (ClosableMailbox.pops (innerTrace mailbox.attachment
          (mailboxTrace place.owner.mailbox trace))).map Prod.snd ∧
      mailbox.pool.shared.queue.items = [] ∧
      ∀ call ∈ mailbox.pool.calls, call.produces = false) ∧
    next.owner.attachmentId = replacement ∧ next.owner.state = .active
  /-- Failure changes nothing. -/
  fails : ∀ error, result = .error error →
    next.owner = place.owner ∧ next.mailboxes = place.mailboxes ∧
      next.senders = place.senders ∧ next.lent = place.lent

/-- A call has got its payload back, or has asked for nothing yet. -/
def Refuses (place : Workplace width T E) (index call : Nat) (posts : Bool)
    (work : ScheduledWork T) : Prop :=
  ∃ mailbox, place.mailboxes[index]? = some mailbox ∧
    ∃ standing, mailbox.pool.calls[call]? = some standing ∧
      standing.Refusing posts work

/-- What an attachment that was replaced does from then on. -/
structure StaysRetired (mailbox : BoundMailbox width T E) (index : Nat)
    (after : List (WorkLabel T E)) (last : Workplace width T E) : Prop where
  retired : last.owner.resolveDrainTask mailbox.attachment = .retired
  /-- Whoever offers a payload gets it back. -/
  refuses : ∀ caller call payload,
    .started caller index call ∈ after → caller.op.payload? = some payload →
    ∃ posts, last.Refuses index call posts ⟨mailbox.attachment, payload⟩
  /-- So does whoever was about to. -/
  turnsAway : ∀ call posts work point,
    mailbox.pool.calls[call]? =
      some (.reservingProducer posts work point) →
    last.Refuses index call posts work
  /-- Everybody else has returned. -/
  unproduced : ∀ call ∈ mailbox.pool.calls, call.produces = false

theorem run_isolates
    (run : (system first capacity width T E).Run trace place) :
    IsolatesAttachments trace place := by
  have ordered := run_ordered run
  have bound := ordered.bound
  have older : ∀ (index : Nat) (mailbox : BoundMailbox width T E),
      place.mailboxes[index]? = some mailbox →
      index ≠ place.owner.mailbox →
      DrainRegistration.Older mailbox.attachment
        place.owner.attachmentId := by
    intro index mailbox present apart
    refine ordered.older index _ ?_ apart
    rw [attachments, List.getElem?_map, present]
    rfl
  constructor
  · have present := List.getElem?_eq_getElem
      (show place.owner.mailbox < place.mailboxes.length by omega)
    have same := ordered.attached
    rw [attachments, List.getElem?_map, present] at same
    exact ⟨_, present, Option.some.inj same⟩
  · exact fun _ _ => resolve_current_iff
  · intro index mailbox present apart
    have before := older index mailbox present apart
    refine ⟨before, ?_⟩
    unfold AttachmentWorkOwner.resolveDrainTask
    rw [DrainRegistration.resolve_of_older before]
  · exact run_sent run
  · intro index mailbox present
    exact (ClosableMailbox.run_conservesPayloads
      (run_inner ((run_mailbox run index).2 _ present))).1
  · intro index mailbox present popper work popped
    have own := (run_mailbox run index).2 _ present
    obtain ⟨pusher, pushed⟩ := ScheduledWorkMailbox.run_popped own popped
    obtain ⟨op, invoked, offered, same⟩ :=
      ScheduledWorkMailbox.run_stamped own pushed
    obtain ⟨caller, started, rfl⟩ := started_of_invoked invoked
    exact ⟨same, caller, pusher, started, offered⟩
  · intro index mailbox present apart
    exact ScheduledWorkMailbox.run_emptied
      ((run_mailbox run index).2 _ present)
      (run_replacedClosed run index mailbox present apart)

theorem run_replaces
    (run : (system first capacity width T E).Run trace place)
    {replacement : AttachmentId}
    {result : Except AttachmentWorkReplaceError Unit}
    (moved : (system first capacity width T E).step place
      (.replaced replacement result) next) :
    Replaces trace place replacement result next := by
  have moves := step_moves moved
  generalize told : WorkLabel.replaced replacement result = label at moves
  cases moves with
  | @replaced call size replacement oldState busy answered =>
      cases told
      cases replaced : place.replace oldState replacement size with
      | mk result next =>
      constructor
      · rintro rfl
        obtain ⟨rfl, closing, older, rfl⟩ := replace_ok replaced
        refine ⟨closing, older, ?_, rfl, rfl⟩
        obtain ⟨mailbox, present, _⟩ := Option.bind_eq_some_iff.mp answered
        have closed := closed_of_saw run answered present
        have own := (run_mailbox run _).2 _ present
        obtain ⟨popped, empty⟩ := ScheduledWorkMailbox.run_emptied own closed
        exact ⟨mailbox, present, popped, empty,
          ScheduledWorkMailbox.run_unproduced own closed⟩
      · rintro error rfl
        rw [replace_error replaced]
        exact ⟨rfl, rfl, rfl, rfl⟩
  | _ => cases told

theorem start_payload (width : PointerWidth) (E : Type*)
    {op : ScheduledWorkMailbox.Op T} {payload : T}
    (offered : op.payload? = some payload) (attachment : AttachmentId) :
    ∃ posts, (ClosableMailbox.start
      (ScheduledWorkMailbox.inner attachment op) :
        ScheduledWorkMailbox.Call width T E) =
          .reservingProducer posts ⟨attachment, payload⟩ .load := by
  cases op with
  | enqueue value =>
      cases offered
      exact ⟨false, rfl⟩
  | enqueueAndPost value =>
      cases offered
      exact ⟨true, rfl⟩
  | _ => cases offered

theorem path_staysRetired
    (run : (system first capacity width T E).Run before middle)
    (path : (system first capacity width T E).Path middle after last)
    (present : middle.mailboxes[index]? = some mailbox)
    (apart : index ≠ middle.owner.mailbox) :
    StaysRetired mailbox index after last := by
  have own := (run_mailbox run index).2 _ present
  have closed := run_replacedClosed run index mailbox present apart
  have reached := ClosableMailbox.reached_of_closed (run_inner own) closed
  obtain ⟨pool, found, onward⟩ := path_goesOn path present
  have inside := (ScheduledWorkMailbox.wraps mailbox.attachment).path onward
  have later := run.append path
  constructor
  · have earlier := (run_ordered run).bound
    have bound := (List.getElem?_eq_some_iff.mp present).1
    have current := List.getElem?_eq_getElem
      (show middle.owner.mailbox < middle.mailboxes.length by omega)
    obtain ⟨_, still, _⟩ := path_goesOn path current
    have grown := (List.getElem?_eq_some_iff.mp still).1
    have ordered := (run_ordered later).bound
    exact ((run_isolates later).retired index _ found (by omega)).2
  · intro caller call payload started offered
    obtain ⟨posts, starts⟩ := start_payload width E offered mailbox.attachment
    obtain ⟨standing, listed, refusing⟩ := ClosableMailbox.path_refusing
      (run_inner own) reached inside (Or.inr ⟨_, List.mem_map.mpr
        ⟨_, invoked_of_started started, rfl⟩, starts⟩)
    exact ⟨posts, _, found, standing, listed, refusing⟩
  · intro call posts work point standing
    obtain ⟨later, listed, refusing⟩ := ClosableMailbox.path_refusing
      (run_inner own) reached inside
      (Or.inl ⟨_, standing, Or.inl ⟨point, rfl⟩⟩)
    exact ⟨_, found, later, listed, refusing⟩
  · exact ScheduledWorkMailbox.run_unproduced own closed

/-- In every history of an owner, its senders and the calls they make, work
stays with its attachment, and none is lost when the attachment is replaced. -/
theorem run_isolatesAttachments
    (run : (system first capacity width T E).Run before middle)
    (path : (system first capacity width T E).Path middle after last) :
    IsolatesAttachments (before ++ after) last ∧
      (∀ replacement result next,
        (system first capacity width T E).step last
          (.replaced replacement result) next →
        Replaces (before ++ after) last replacement result next) ∧
      ∀ index mailbox, middle.mailboxes[index]? = some mailbox →
        index ≠ middle.owner.mailbox →
        StaysRetired mailbox index after last := by
  have whole := run.append path
  exact ⟨run_isolates whole, fun _ _ _ => run_replaces whole,
    fun _ _ => path_staysRetired run path⟩

def newAttachment : AttachmentId :=
  ⟨⟨.one⟩, ⟨.two⟩⟩

/-- A payload is accepted, and taken over when the owner closes; then the
attachment is replaced. -/
def replaces : List (WorkAction Nat Unit) :=
  [.sender, .start (.enqueue 0 7)] ++
  List.replicate 6 (.advance 0 0 (.run false)) ++
  [.start .beginClose] ++
  List.replicate 2 (.advance 0 1 (.run false)) ++
  [.finish, .start .tryBeginTerminalDrain] ++
  List.replicate 11 (.advance 0 2 (.run false)) ++
  [.advance 0 2 .pop, .advance 0 2 .finish, .advance 0 2 (.run false),
    .advance 0 2 (.run false), .start (.replace newAttachment 2),
    .advance 0 3 (.run false), .finish]

/-- The old sender sends again, next to a new one. -/
def sendsAgain : List (WorkAction Nat Unit) :=
  [.start (.enqueue 0 9), .advance 0 4 (.run false), .resolve oldAttachment,
    .sender, .start (.enqueueAndPost 1 8), .advance 1 0 (.run false),
    .resolve newAttachment]

theorem sendsAgain_isolatesAttachments :
    ∃ middle before last after,
      execAll exec oldPlace replaces = some (middle, before) ∧
      execAll exec middle sendsAgain = some (last, after) ∧
      last.owner = ⟨.new newAttachment, 1⟩ ∧
      IsolatesAttachments (before ++ after) last ∧
      (∀ replacement result next,
        (system oldAttachment 1 .sixtyFour Nat Unit).step last
          (.replaced replacement result) next →
        Replaces (before ++ after) last replacement result next) ∧
      ∀ index mailbox, middle.mailboxes[index]? = some mailbox →
        index ≠ middle.owner.mailbox →
        StaysRetired mailbox index after last := by
  obtain ⟨middle, before, first, run⟩ := exists_run_of_execAll
    exec (fun place => place = oldPlace) replaces rfl (by decide)
  have evaluated : ((execAll exec oldPlace replaces).bind fun reached =>
      (execAll exec reached.1 sendsAgain).map fun final =>
        final.1.owner) = some ⟨.new newAttachment, 1⟩ := by
    decide
  rw [first] at evaluated
  obtain ⟨⟨last, after⟩, second, owner⟩ := Option.map_eq_some_iff.mp evaluated
  exact ⟨middle, before, last, after, first, second, owner,
    run_isolatesAttachments run (path_of_execAll second)⟩

end Workplace

end RustJsi.Host
