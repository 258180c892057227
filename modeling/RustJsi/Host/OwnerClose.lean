import RustJsi.Host.OwnerMoves
import RustJsi.Runtime.ClosedIngress

/-!
# Registration closes before ingress

An owner stops dispatch before it closes the ingress of its mailbox, and its
borrow keeps it from closing what it lends.  A mailbox that is lent can be
closed by whoever it is lent to, since a shared reference is enough for that.
-/

namespace RustJsi.Host

open Interleaving RustJsi.Runtime

/-- Whoever was lent a mailbox begins to close it. -/
def WorkLabel.closesLent {T E : Type*} : WorkLabel T E → Bool
  | .started (.lent .beginClose) _ _ => true
  | _ => false

namespace Workplace

variable {width : PointerWidth} {T E : Type*}
  {place next : Workplace width T E} {label : WorkLabel T E}
  {first : AttachmentId} {capacity index : Nat}
  {mailbox : BoundMailbox width T E} {trace : List (WorkLabel T E)}

/-- The mailbox that `Arc` of the owner points to. -/
def current (place : Workplace width T E) :
    Option (BoundMailbox width T E) :=
  place.mailboxes[place.owner.mailbox]?

/-- A call is in the history of its mailbox. -/
theorem invoked_of_started {caller : Caller T} {call : Nat}
    (started : .started caller index call ∈ trace) :
    .invoked call caller.op ∈ mailboxTrace index trace :=
  List.mem_filterMap.mpr ⟨_, started, if_pos rfl⟩

theorem started_of_invoked {op : ScheduledWorkMailbox.Op T} {call : Nat}
    (invoked : .invoked call op ∈ mailboxTrace index trace) :
    ∃ caller, .started caller index call ∈ trace ∧ caller.op = op := by
  obtain ⟨label, member, told⟩ := List.mem_filterMap.mp invoked
  cases label with
  | started caller used number =>
      simp only [WorkLabel.inMailbox] at told
      split at told
      · rename_i same
        cases told
        rw [same] at member
        exact ⟨caller, member, rfl⟩
      · cases told
  | stepped used number effect =>
      simp only [WorkLabel.inMailbox] at told
      split at told
      · cases told
      · cases told
  | _ => cases told

/-- Only the owner and whoever it lends its mailbox to can close that. -/
theorem Caller.closes {caller : Caller T}
    (closes : caller.op = .beginClose) :
    caller = .beginClose ∨ caller = .lent .beginClose := by
  cases caller with
  | beginClose => exact Or.inl rfl
  | lent op => exact Or.inr (congrArg _ closes)
  | _ => cases closes

/-- A step that starts no close of the current mailbox keeps its owner
closing, or replaces the mailbox. -/
theorem Moves.closing (moves : place.Moves label next) :
    (next.owner.mailbox = place.owner.mailbox ∧
      (place.owner.state = .closing → next.owner.state = .closing) ∧
      ∀ index call, label = .started .beginClose index call →
        next.owner.state = .closing) ∨
    next.owner.mailbox = place.mailboxes.length ∧
      ∀ caller index call, label ≠ .started caller index call := by
  have kept : ∀ {other : WorkLabel T E},
      (∀ index call, other ≠ .started .beginClose index call) →
      next.owner = place.owner →
      next.owner.mailbox = place.owner.mailbox ∧
        (place.owner.state = .closing → next.owner.state = .closing) ∧
        ∀ index call, other = .started .beginClose index call →
          next.owner.state = .closing := by
    intro other apart same
    rw [same]
    exact ⟨rfl, id, fun index call closes => absurd closes (apart _ _)⟩
  cases moves with
  | started reached present step =>
      refine Or.inl ?_
      rename_i caller used before after
      cases caller with
      | beginClose => exact ⟨rfl, fun _ => rfl, fun _ _ _ => rfl⟩
      | _ => exact kept (by
          intro index call same
          cases same) rfl
  | replaced busy answered =>
      rename_i call size replacement oldState
      cases replaced : place.replace oldState replacement size with
      | mk result next =>
      cases result with
      | error error =>
          rw [replace_error replaced]
          refine Or.inl ⟨rfl, id, ?_⟩
          intro index call same
          cases same
      | ok done =>
          obtain ⟨_, _, _, rfl⟩ := replace_ok replaced
          refine Or.inr ⟨rfl, ?_⟩
          intro caller index call same
          cases same
  | _ => exact Or.inl (kept (by
      intro index call same
      cases same) rfl)

/-- Once the owner has begun to close its mailbox, its registration is
closing. -/
theorem run_closing (run : (system first capacity width T E).Run trace place)
    {call : Nat}
    (closes : .started .beginClose place.owner.mailbox call ∈ trace) :
    place.owner.state = .closing := by
  refine System.Run.invariant
    (fun trace place => ∀ call,
      .started .beginClose place.owner.mailbox call ∈ trace →
      place.owner.state = .closing) ?_ ?_ run call closes
  · intro place _ call member
    cases member
  · intro trace place label next earlier known moved call member
    rcases (step_moves moved).closing with kept | replaced
    · obtain ⟨same, stays, closes⟩ := kept
      rw [same] at member
      rcases List.mem_append.mp member with before | now
      · exact stays (known call before)
      · exact closes _ _ (List.mem_singleton.mp now).symm
    · obtain ⟨fresh, quiet⟩ := replaced
      rw [fresh] at member
      rcases List.mem_append.mp member with before | now
      · have unused := ((run_mailbox earlier) place.mailboxes.length).1
          (List.getElem?_eq_none (Nat.le_refl _))
        have told := invoked_of_started before
        rw [unused] at told
        cases told
      · exact absurd (List.mem_singleton.mp now).symm (quiet _ _ _)

/-- Nobody closes the mailbox that a resolution lends. -/
def Entrusted (trace : List (WorkLabel T E)) : Prop :=
  ∀ label ∈ trace, label.closesLent = false

/-- The ingress of the current mailbox is not open. -/
def Shutting (place : Workplace width T E) : Prop :=
  ∃ mailbox, place.current = some mailbox ∧
    mailbox.pool.shared.lifecycle ≠ some .opened

structure ClosesInOrder (trace : List (WorkLabel T E))
    (place : Workplace width T E) : Prop where
  /-- Registration stops dispatch before ingress closes. -/
  stopsDispatch : place.Shutting → place.owner.state = .closing
  /-- Only `AttachmentWorkOwner::begin_close` closes the current mailbox. -/
  closedByOwner : place.Shutting → ∃ call,
    .started .beginClose place.owner.mailbox call ∈ trace
  /-- What is lent is open. -/
  lentOpen : 0 < place.lent → ¬place.Shutting

/-- A mailbox is open, unless somebody has begun to close it. -/
theorem run_closer (run : (system first capacity width T E).Run trace place)
    (shutting : place.Shutting) :
    ∃ caller call, .started caller place.owner.mailbox call ∈ trace ∧
      caller.op = .beginClose := by
  obtain ⟨mailbox, present, left⟩ := shutting
  have inner := ScheduledWorkMailbox.run_inner
    ((run_mailbox run place.owner.mailbox).2 _ present)
  by_contra nobody
  refine left (ClosableMailbox.run_lifecycle_opened inner ?_)
  intro call member
  obtain ⟨label, told, same⟩ := List.mem_map.mp member
  cases label with
  | stepped call effect => cases same
  | invoked call op =>
      cases op with
      | beginClose =>
          obtain ⟨caller, started, closes⟩ := started_of_invoked told
          exact nobody ⟨caller, _, started, closes⟩
      | _ => cases same

/-- Where nobody closes what is lent, an owner closes in order. -/
theorem run_closesInOrder
    (run : (system first capacity width T E).Run trace place)
    (entrusted : Entrusted trace) : ClosesInOrder trace place := by
  have closedByOwner : place.Shutting → ∃ call,
      .started .beginClose place.owner.mailbox call ∈ trace := by
    intro shutting
    obtain ⟨caller, call, started, closes⟩ := run_closer run shutting
    rcases Caller.closes closes with rfl | rfl
    · exact ⟨call, started⟩
    · cases entrusted _ started
  have stopsDispatch : place.Shutting → place.owner.state = .closing := by
    intro shutting
    obtain ⟨call, started⟩ := closedByOwner shutting
    exact run_closing run started
  refine ⟨stopsDispatch, closedByOwner, ?_⟩
  intro held shutting
  have active := ((run_ordered run).lending held).2
  rw [stopsDispatch shutting] at active
  cases active

def oldAttachment : AttachmentId :=
  ⟨⟨.one⟩, ⟨.one⟩⟩

abbrev oldPlace : Workplace .sixtyFour Nat Unit :=
  new oldAttachment 1

/-- A payload is accepted and a task resolved; then the owner closes. -/
def ownerCloses : List (WorkAction Nat Unit) :=
  [.sender, .start (.enqueue 0 7)] ++
  List.replicate 6 (.advance 0 0 (.run false)) ++
  [.resolve oldAttachment, .start (.lent .state),
    .advance 0 1 (.run false), .advance 0 1 (.run false), .release,
    .start .beginClose, .advance 0 2 (.run false), .advance 0 2 (.run false),
    .finish, .declinePost]

theorem ownerCloses_closesInOrder :
    ∃ place trace, execAll exec oldPlace ownerCloses = some (place, trace) ∧
      Entrusted trace ∧ ClosesInOrder trace place := by
  obtain ⟨place, trace, executed, run⟩ := exists_run_of_execAll
    exec (fun place => place = oldPlace) ownerCloses rfl
    (by decide)
  have evaluated : (execAll exec oldPlace ownerCloses).all
      (fun reached => reached.2.all fun label => !label.closesLent) = true := by
    decide
  have entrusted : Entrusted trace := by
    rw [executed] at evaluated
    intro label member
    have clear := List.all_eq_true.mp evaluated label member
    simpa using clear
  exact ⟨place, trace, executed, entrusted, run_closesInOrder run entrusted⟩

/-- A task closes the mailbox that it was lent. -/
def taskCloses : List (WorkAction Nat Unit) :=
  [.resolve oldAttachment, .start (.lent .beginClose),
    .advance 0 0 (.run false), .advance 0 0 (.run false)]

theorem not_closesInOrder :
    ¬∀ (trace : List (WorkLabel Nat Unit))
      (place : Workplace .sixtyFour Nat Unit),
      (system oldAttachment 1 .sixtyFour Nat Unit).Run trace place →
      ClosesInOrder trace place := by
  intro ordered
  obtain ⟨place, trace, executed, run⟩ := exists_run_of_execAll
    exec (fun place => place = oldPlace) taskCloses rfl
    (by decide)
  have evaluated : (execAll exec oldPlace taskCloses).map (fun reached =>
      (reached.1.owner.state, reached.1.current.map fun mailbox =>
        mailbox.pool.shared.lifecycle)) =
      some (.active, some (some .closing)) := by
    decide
  rw [executed] at evaluated
  obtain ⟨active, closing⟩ := Prod.mk.inj (Option.some.inj evaluated)
  obtain ⟨mailbox, present, left⟩ := Option.map_eq_some_iff.mp closing
  have shutting : place.Shutting := by
    refine ⟨mailbox, present, ?_⟩
    rw [left]
    intro same
    cases same
  have stopped := (ordered trace place run).stopsDispatch shutting
  rw [active] at stopped
  cases stopped

end Workplace

end RustJsi.Host
