import RustJsi.Runtime.MailboxConservation
import RustJsi.Runtime.StateObservations

/-!
# Before a close and after the last one

The ingress of a mailbox stays open until somebody begins to close it.  In a
closed mailbox whoever still wants to produce is turned away.
-/

namespace RustJsi.Runtime

open Interleaving

namespace MailboxLedger

variable {Payload : Type*} {capacity limit : Nat}
  {ledger : MailboxLedger Payload capacity}

theorem run_opened {trace : List (MailboxAction Payload)}
    (run : (system Payload capacity limit).Run trace ledger)
    (unclosed : ∀ result, .producer (.closed result) ∉ trace) :
    ledger.producer.phase = .opened := by
  refine System.Run.invariant
    (fun trace ledger => (∀ result, .producer (.closed result) ∉ trace) →
      ledger.producer.phase = .opened) ?_ ?_ run unclosed
  · rintro ledger rfl _
    rfl
  · intro trace ledger action next _ known step unclosed
    have before : ledger.producer.phase = .opened := by
      refine known ?_
      intro result member
      exact unclosed result (List.mem_append_left _ member)
    cases step with
    | producer allowed step =>
        by_contra left
        rcases GateLedger.step_left_open step left with already | closes
        · exact already before
        · obtain ⟨result, rfl⟩ := closes
          exact unclosed result
            (List.mem_append_right _ (List.mem_singleton.mpr rfl))
    | _ => exact before

end MailboxLedger

namespace ClosableMailbox

open IngressGate (reservationLimit)

variable {width : PointerWidth} {Payload Fault : Type*} {capacity : Nat}
  {trace later : List (PoolLabel (Op Payload) (Effect Payload Fault))}
  {pool last : Pool (Shared width Payload capacity)
    (Call width Payload Fault)}

/-- Only `begin_close` closes the ingress. -/
theorem run_closed_invoked
    (run : (system width Payload Fault capacity).Run trace pool)
    {index : Nat} {result : IngressClose}
    (closed : .stepped index (.acted (.producer (.closed result))) ∈ trace) :
    .invoked index .beginClose ∈ trace := by
  have recorded := run_recorded run
  have spoke : Effect.acted (.producer (.closed result)) ∈
      effectsOf index trace :=
    List.mem_filterMap.mpr ⟨_, closed, by simp [PoolLabel.effectOf?]⟩
  have bound := recorded.effectBound index (List.ne_nil_of_mem spoke)
  obtain ⟨op, invoked⟩ := recorded.invoked index bound
  have history := run_history
    (fun op effects call => op ≠ .beginClose →
      (∀ point, call ≠ .closing point) ∧
      ∀ result, .acted (.producer (.closed result)) ∉ effects)
    (by
      intro op other
      cases op with
      | beginClose => exact absurd rfl other
      | _ =>
          refine ⟨?_, fun _ => List.not_mem_nil⟩
          intro point same
          cases same)
    (by
      intro op effects before shared choice next after effect known accessed
        other
      obtain ⟨elsewhere, silent⟩ := known other
      have moves : Moves before effect after := step_moves accessed
      refine ⟨?_, ?_⟩
      · rintro point rfl
        generalize closing : (Call.closing point : Call width Payload Fault) =
          target at moves
        cases moves with
        | closeAgain point next => exact elsewhere _ rfl
        | settled ending point after => cases ending <;> cases closing
        | observed observer load state => cases observer <;> cases closing
        | _ => cases closing
      · intro result member
        rcases List.mem_append.mp member with earlier | now
        · exact silent result earlier
        · cases List.mem_singleton.mp now
          cases moves with
          | closed point result => exact elsewhere _ rfl)
    run index op _ invoked (List.getElem?_eq_getElem bound)
  by_cases same : op = .beginClose
  · rw [← same]
    exact invoked
  · exact absurd spoke ((history same).2 result)

/-- What `state` returns where nothing comes between its two loads. -/
def Shared.lifecycle (shared : Shared width Payload capacity) :
    Option ClosableMailboxState :=
  match (observe shared .caller .terminal : Call width Payload Unit ×
      Effect Payload Unit).1 with
  | .observing observer load =>
      (observe shared observer load : Call width Payload Unit ×
        Effect Payload Unit).1.saw
  | call => call.saw

theorem lifecycle_eq {shared : Shared width Payload capacity}
    {ledger : MailboxLedger Payload capacity}
    (sound : ledger.Sound (reservationLimit width))
    (cells : shared.Shows ledger) :
    shared.lifecycle = some ledger.cells.state := by
  have terminal := @observe_eq width Payload Unit capacity _ _ sound cells
    .caller .terminal
  have producer := @observe_eq width Payload Unit capacity _ _ sound cells
    .caller .producer
  rw [Shared.lifecycle, terminal]
  by_cases normal : ledger.terminal = .normal
  · simp only [normal, if_true]
    rw [producer, MailboxLedger.cells_state_of_normal normal]
    rfl
  · simp only [normal, if_false]
    rfl

theorem lifecycle_opened_iff {shared : Shared width Payload capacity}
    {ledger : MailboxLedger Payload capacity}
    (sound : ledger.Sound (reservationLimit width))
    (cells : shared.Shows ledger) :
    shared.lifecycle = some .opened ↔ ledger.producer.phase = .opened := by
  rw [lifecycle_eq sound cells, Option.some.injEq]
  by_cases normal : ledger.terminal = .normal
  · rw [MailboxLedger.cells_state_of_normal normal, MailboxLedger.gateState]
    cases ledger.producer.phase with
    | opened => exact iff_of_true rfl rfl
    | _ =>
        refine iff_of_false ?_ ?_
        · intro same
          cases same
        · intro same
          cases same
  · have gate := sound.producer_sealed_of_normal
      (sound.signalAfter (sound.terminalAfter normal))
    rw [gate]
    refine iff_of_false ?_ ?_
    · intro same
      have rank := MailboxLedger.two_le_rank_iff.mpr normal
      rw [MailboxLedger.rank, same] at rank
      cases rank
    · intro same
      cases same

/-- A mailbox that nobody has begun to close is open. -/
theorem run_lifecycle_opened
    (run : (system width Payload Fault capacity).Run trace pool)
    (unclosed : ∀ index, .invoked index .beginClose ∉ trace) :
    pool.shared.lifecycle = some .opened := by
  obtain ⟨ledger, ledgerRun, sound, relates⟩ := run_ledger run
  refine (lifecycle_opened_iff sound relates.cells).mpr
    (MailboxLedger.run_opened ledgerRun ?_)
  intro result member
  obtain ⟨label, told, acted⟩ := List.mem_filterMap.mp member
  cases label with
  | invoked index op => cases acted
  | stepped index effect =>
      cases effect with
      | acted action =>
          cases acted
          exact unclosed index (run_closed_invoked run told)
      | _ => cases acted

/-- A mailbox that is closed has come all the way. -/
theorem reached_of_closed
    (run : (system width Payload Fault capacity).Run trace pool)
    (closed : pool.shared.terminalState = terminalClosed) :
    Reached 3 pool := by
  obtain ⟨ledger, _, sound, relates⟩ := run_ledger run
  refine ⟨ledger, sound, relates, ?_⟩
  have last := (closed_iff relates).mp closed
  simp [MailboxLedger.rank, Cells.state, MailboxLedger.cells, last,
    ClosableMailboxState.rank]

/-- Where a call stands that a closed mailbox hands its payload back. -/
def Call.Refusing (posts : Bool) (value : Payload)
    (call : Call width Payload Fault) : Prop :=
  (∃ point, call = .reservingProducer posts value point) ∨
    call = .enqueued (some (.error (.enqueue (.closed value))))

theorem step_refusing {label : PoolLabel (Op Payload) (Effect Payload Fault)}
    (run : (system width Payload Fault capacity).Run trace pool)
    (reached : Reached 3 pool)
    (moved : (system width Payload Fault capacity).step pool label last)
    {index : Nat} {posts : Bool} {value : Payload}
    {before call : Call width Payload Fault}
    (present : pool.calls[index]? = some before)
    (refusing : before.Refusing posts value)
    (found : last.calls[index]? = some call) :
    call.Refusing posts value := by
  have calm := run_not_panicked (run.snoc moved) index call found
  obtain ⟨ledger, sound, relates, far⟩ := reached
  have closed := MailboxLedger.closed_of_rank far
  have answered := shows_step sound relates moved
  cases Machine.step_cases moved with
  | invoked op =>
      have bound := (List.getElem?_eq_some_iff.mp present).1
      rw [List.getElem?_append_left bound, present] at found
      cases found
      exact refusing
  | stepped stepping choice own shared after effect was accessed =>
      by_cases same : stepping = index
      · subst same
        have bound := (List.getElem?_eq_some_iff.mp was).1
        rw [List.getElem?_set_self bound] at found
        rw [was] at present
        cases found
        cases present
        rcases refusing with ⟨point, rfl⟩ | rfl
        · have moves : Moves (.reservingProducer posts value point) effect
              call := step_moves accessed
          cases moves with
          | reserveAgain posts value point next => exact Or.inl ⟨_, rfl⟩
          | rejected posts value point error => exact Or.inr rfl
          | panicked => exact absurd rfl calm
          | reserved posts value point =>
              obtain ⟨next, step, _⟩ := answered
              have left : ledger.terminal ≠ .normal := by
                rw [closed]
                intro same
                cases same
              have gate := sound.producer_sealed_of_normal
                (sound.signalAfter (sound.terminalAfter left))
              cases step with
              | producer allowed step =>
                  cases step with
                  | reserve granted =>
                      have opened := (GateLedger.reserve_ok granted).1
                      rw [gate] at opened
                      cases opened
        · cases choice with
          | _ => cases accessed
      · rw [List.getElem?_set_ne same, present] at found
        cases found
        exact refusing

/-- A closed mailbox hands back what it is offered, to whoever was about to
offer it and to whoever comes later. -/
theorem path_refusing
    (run : (system width Payload Fault capacity).Run trace pool)
    (reached : Reached 3 pool)
    (path : (system width Payload Fault capacity).Path pool later last)
    {index : Nat} {posts : Bool} {value : Payload}
    (offers : (∃ before, pool.calls[index]? = some before ∧
        before.Refusing posts value) ∨
      ∃ op, .invoked index op ∈ later ∧
        (start op : Call width Payload Fault) =
          .reservingProducer posts value .load) :
    ∃ call, last.calls[index]? = some call ∧ call.Refusing posts value := by
  induction path with
  | refl =>
      rcases offers with earlier | now
      · exact earlier
      · obtain ⟨op, member, _⟩ := now
        cases member
  | @snoc middle last labels label before moved inductionHypothesis =>
      have middleRun := run.append before
      have goesOn : (∃ call, middle.calls[index]? = some call ∧
          call.Refusing posts value) →
          ∃ call, last.calls[index]? = some call ∧
            call.Refusing posts value := by
        rintro ⟨call, present, refusing⟩
        have bound := (List.getElem?_eq_some_iff.mp present).1
        have longer : index < last.calls.length := by
          cases Machine.step_cases moved with
          | invoked op =>
              rw [List.length_append]
              exact Nat.lt_add_right 1 bound
          | stepped _ _ _ _ _ _ _ _ =>
              rw [List.length_set]
              exact bound
        exact ⟨_, List.getElem?_eq_getElem longer,
          step_refusing middleRun (reached.path before) moved present
            refusing (List.getElem?_eq_getElem longer)⟩
      rcases offers with earlier | now
      · exact goesOn (inductionHypothesis (Or.inl earlier))
      · obtain ⟨op, member, starts⟩ := now
        rcases List.mem_append.mp member with old | new
        · exact goesOn (inductionHypothesis (Or.inr ⟨op, old, starts⟩))
        · cases List.mem_singleton.mp new
          cases Machine.step_cases moved with
          | invoked op =>
              refine ⟨_, List.getElem?_concat_length, Or.inl ⟨.load, ?_⟩⟩
              exact starts

end ClosableMailbox

end RustJsi.Runtime
