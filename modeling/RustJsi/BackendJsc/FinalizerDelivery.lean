import RustJsi.BackendJsc.FinalizerOwnership

/-!
# Finalizer signals are delivered once

Whatever the interleaving, a token that was published is in one list that was
detached, or linked still, and a token whose push met a closed queue was freed
by that push.
-/

namespace RustJsi.BackendJsc

open Interleaving Linked

namespace FinalizerQueue

variable {Id : Type*}

/-- The tokens of the queue and of its calls are the tokens in memory, each
once, and `pending` counts those that were handed over and not settled. -/
structure Owned (shared : Shared Id) (linked : List Nat)
    (owners : List (Call Id × List Nat)) : Prop where
  stacked : Stacked shared linked
  holds : ∀ owner ∈ owners, Holds shared.heap owner.1 owner.2
  apart : (linked ++ owners.flatMap Prod.snd).Nodup
  live : ∀ address, tokenAt shared.heap address ≠ none ↔
    address ∈ linked ++ owners.flatMap Prod.snd
  pending : shared.pending = linked.length + total counted owners

section Owners

variable {shared next : Shared Id} {linked linkedNext : List Nat}
  {owners : List (Call Id × List Nat)} {owner ownerNext : Call Id × List Nat}
  {effect : Effect Id} {index : Nat}

theorem Owned.linked_of_closed (owned : Owned shared linked owners)
    (isClosed : shared.head = .closedSentinel) : linked = [] := by
  cases owned.stacked with
  | inl empty => exact empty.2
  | inr leads =>
      rw [isClosed] at leads
      exact absurd leads not_leads_closedSentinel

theorem Owned.standing (owned : Owned shared linked owners)
    (present : owners[index]? = some owner) :
    Standing shared linked owner := by
  obtain ⟨rest, split, _⟩ := exists_flatMap_perm Prod.snd present
  have whole := split.append_left linked
  have counts := le_total_of_present counted present
  have pending := owned.pending
  have nodup := whole.nodup_iff.mp owned.apart
  rw [← List.append_assoc] at nodup
  refine ⟨owned.stacked, owned.holds owner (List.mem_of_getElem? present),
    (List.nodup_append.mp nodup).1, ?_, by omega⟩
  intro address member
  rw [owned.live, whole.mem_iff, ← List.append_assoc]
  exact List.mem_append_left rest member

/-- An access of one call keeps every token owned. -/
theorem Owned.advance (owned : Owned shared linked owners)
    (present : owners[index]? = some owner)
    (advances : Advances shared linked owner next linkedNext ownerNext
      effect) :
    Owned next linkedNext (owners.set index ownerNext) := by
  obtain ⟨rest, split, moved, others⟩ := exists_flatMap_perm Prod.snd present
  have whole := split.append_left linked
  have wholeNext := (moved ownerNext).append_left linkedNext
  rw [← List.append_assoc] at whole wholeNext
  have nodup := whole.nodup_iff.mp owned.apart
  obtain ⟨_, restNodup, disjoint⟩ := List.nodup_append.mp nodup
  have restLive : ∀ address ∈ rest, tokenAt shared.heap address ≠ none := by
    intro address member
    rw [owned.live, whole.mem_iff]
    exact List.mem_append_right _ member
  refine ⟨advances.stacked, ?_, ?_, ?_, ?_⟩
  · intro other member
    obtain ⟨place, found⟩ := List.mem_iff_getElem?.mp member
    by_cases own : place = index
    · subst own
      obtain ⟨bound, _⟩ := List.getElem?_eq_some_iff.mp present
      rw [List.getElem?_set_self bound] at found
      cases found
      exact advances.holds
    · rw [List.getElem?_set_ne (Ne.symm own)] at found
      apply (owned.holds other (List.mem_of_getElem? found)).congr
      intro address held
      have inRest := others place other own found held
      apply advances.elsewhere address _ (restLive address inRest)
      intro notOthers
      exact disjoint address (List.mem_append_right _ notOthers) address
        inRest rfl
  · apply wholeNext.nodup_iff.mpr
    refine List.nodup_append.mpr ⟨advances.apart, restNodup, ?_⟩
    intro address member other inRest same
    subst same
    cases advances.fresh address member with
    | inl before => exact disjoint address before address inRest rfl
    | inr vacant => exact restLive address inRest vacant
  · intro address
    have before := owned.live address
    rw [whole.mem_iff] at before
    rw [advances.live, wholeNext.mem_iff, before]
    constructor
    · intro owner
      apply List.mem_append.mpr
      cases owner with
      | inl here => exact Or.inl here
      | inr elsewhere =>
          exact Or.inr
            ((List.mem_append.mp elsewhere.2).resolve_left elsewhere.1)
    · intro owner
      cases List.mem_append.mp owner with
      | inl here => exact Or.inl here
      | inr inRest =>
          refine Or.inr ⟨?_, List.mem_append_right _ inRest⟩
          intro held
          exact disjoint address held address inRest rfl
  · have moves := total_set_add counted ownerNext present
    have pending := advances.pending
    have before := owned.pending
    omega

/-- A call that begins holds nothing. -/
theorem Owned.begin (owned : Owned shared linked owners) {call : Call Id}
    (holds : Holds shared.heap call []) (uncounted : counted (call, []) = 0) :
    Owned shared linked (owners ++ [(call, [])]) := by
  have same : (owners ++ [(call, [])]).flatMap Prod.snd =
      owners.flatMap Prod.snd := by
    rw [List.flatMap_append, List.flatMap_singleton, List.append_nil]
  refine ⟨owned.stacked, ?_, ?_, ?_, ?_⟩
  · intro owner member
    cases List.mem_append.mp member with
    | inl before => exact owned.holds owner before
    | inr last =>
        cases List.mem_singleton.mp last
        exact holds
  · rw [same]
    exact owned.apart
  · rw [same]
    exact owned.live
  · rw [total_append_single, uncounted]
    exact owned.pending

end Owners

/-! ## Every run -/

abbrev Label (Id : Type*) : Type _ :=
  PoolLabel (Op Id) (Effect Id)

def effectsIn (trace : List (Label Id)) : List (Effect Id) :=
  trace.filterMap PoolLabel.effect?

/-- The identities of the tokens that were published. -/
def publishedIn (trace : List (Label Id)) : List Id :=
  (effectsIn trace).flatMap Effect.published?

/-- The identities in the lists that were detached. -/
def returnedIn (trace : List (Label Id)) : List Id :=
  (effectsIn trace).flatMap Effect.returned?

/-- The effect is that of a `close`. -/
def Effect.closes : Effect Id → Bool
  | .closed _ _ => true
  | _ => false

/-- The effect detached nothing. -/
def Effect.Silent : Effect Id → Prop
  | .took list tokens => list = .null ∧ tokens = some []
  | .closed list tokens => list = .null ∧ tokens = some []
  | _ => True

/-- A push that is giving up its token, or has given it up. -/
def Call.discards : Call Id → Bool
  | .discarding _ _ => true
  | .uncounting _ _ => true
  | .discarded _ => true
  | _ => false

theorem effectsIn_snoc (trace : List (Label Id)) (label : Label Id) :
    effectsIn (trace ++ [label]) =
      effectsIn trace ++ label.effect?.toList :=
  filterMap_snoc _ _ _

theorem publishedIn_stepped (trace : List (Label Id)) (index : Nat)
    (effect : Effect Id) :
    publishedIn (trace ++ [.stepped index effect]) =
      publishedIn trace ++ effect.published? := by
  rw [publishedIn, effectsIn_snoc, List.flatMap_append]
  exact congrArg _ (List.flatMap_singleton ..)

theorem returnedIn_stepped (trace : List (Label Id)) (index : Nat)
    (effect : Effect Id) :
    returnedIn (trace ++ [.stepped index effect]) =
      returnedIn trace ++ effect.returned? := by
  rw [returnedIn, effectsIn_snoc, List.flatMap_append]
  exact congrArg _ (List.flatMap_singleton ..)

section Steps

variable {shared next : Shared Id} {linked linkedNext list : List Nat}
  {call after : Call Id} {effect : Effect Id} {choice : Choice}

/-- A push gives up its token only where it found the queue closed. -/
theorem step_discards
    (accessed : step shared choice call = some (next, after, effect))
    (discards : after.discards = true) :
    call.discards = true ∨ shared.head = .closedSentinel := by
  unfold step at accessed
  split at accessed
  · split at accessed <;> cases accessed
    cases discards
  · cases accessed
    cases discards
  · split at accessed
    · rename_i isClosed
      exact Or.inr isClosed
    · cases accessed
      cases discards
  · exact Or.inl rfl
  · exact Or.inl rfl
  · split at accessed <;> cases accessed
    cases discards
  · split at accessed <;> cases accessed <;> cases discards
  · split at accessed <;> cases accessed <;> cases discards
  · split at accessed <;> cases accessed <;> cases discards
  · split at accessed <;> cases accessed <;> cases discards
  · cases accessed
    cases discards
  · split at accessed <;> cases accessed
    cases discards
  · generalize settlePending _ shared.pending _ = settled at accessed
    obtain ⟨pending, outcome⟩ := settled
    cases outcome <;> cases accessed <;> cases discards
  · split at accessed <;> cases accessed
    cases discards
  · cases accessed

/-- How an access changes whether the queue is closed, and what it detaches
from a queue that is. -/
structure ClosedBy (shared next : Shared Id) (effect : Effect Id) : Prop where
  head : next.head = .closedSentinel ↔
    shared.head = .closedSentinel ∨ effect.closes = true
  silent : shared.head = .closedSentinel → effect.Silent

theorem closedBy_still (same : next.head = shared.head)
    (leaves : effect.closes = false) (silent : effect.Silent) :
    ClosedBy shared next effect := by
  refine ⟨?_, fun _ => silent⟩
  rw [same, leaves]
  simp

theorem Standing.closedBy
    (standing : Standing shared linked (call, list))
    (accessed : FinalizerQueue.step shared choice call =
      some (next, after, effect)) :
    ClosedBy shared next effect := by
  have holds := standing.holds
  unfold FinalizerQueue.step at accessed
  split at accessed
  · split at accessed <;> cases accessed
    exact closedBy_still rfl rfl trivial
  · cases accessed
    exact closedBy_still rfl rfl trivial
  · split at accessed <;> cases accessed <;>
      exact closedBy_still rfl rfl trivial
  · split at accessed <;> cases accessed
    exact closedBy_still rfl rfl trivial
  · generalize settlePending _ shared.pending _ = settled at accessed
    obtain ⟨pending, outcome⟩ := settled
    cases outcome <;> cases accessed <;> exact closedBy_still rfl rfl trivial
  · split at accessed <;> cases accessed
    exact closedBy_still rfl rfl trivial
  · obtain ⟨_, isOpen, _⟩ := holds
    split at accessed
    · rename_i found
      cases accessed
      have stays : shared.head ≠ .closedSentinel := by
        rw [found.1]
        exact isOpen
      refine ⟨?_, fun isClosed => absurd isClosed stays⟩
      simp [stays, Effect.closes]
    · cases accessed
      exact closedBy_still rfl rfl trivial
  · split at accessed <;> cases accessed
    · exact closedBy_still rfl rfl ⟨rfl, rfl⟩
    · exact closedBy_still rfl rfl trivial
  · obtain ⟨_, isOpen⟩ := holds
    split at accessed
    · rename_i found
      cases accessed
      have stays : shared.head ≠ .closedSentinel := by
        rw [found.1]
        exact isOpen
      refine ⟨?_, fun isClosed => absurd isClosed stays⟩
      simp [stays, Effect.closes]
    · cases accessed
      exact closedBy_still rfl rfl trivial
  · split at accessed
    · cases accessed
      exact ⟨iff_of_true rfl (Or.inr rfl), fun _ => ⟨rfl, rfl⟩⟩
    · rename_i isOpen
      cases accessed
      exact ⟨iff_of_true rfl (Or.inr rfl), fun isClosed =>
        absurd isClosed isOpen⟩
  · cases accessed
    exact closedBy_still rfl rfl trivial
  · split at accessed <;> cases accessed
    exact closedBy_still rfl rfl trivial
  · generalize settlePending _ shared.pending _ = settled at accessed
    obtain ⟨pending, outcome⟩ := settled
    cases outcome <;> cases accessed <;> exact closedBy_still rfl rfl trivial
  · split at accessed <;> cases accessed
    exact closedBy_still rfl rfl trivial
  · cases accessed

/-- The identity a push was called with. -/
def Call.pushOf : Call Id → Option Id
  | .creating id => some id
  | .counting id _ => some id
  | .loading id _ => some id
  | .linking id _ _ => some id
  | .publishing id _ _ => some id
  | .discarding id _ => some id
  | .uncounting id _ => some id
  | .pushed id => some id
  | .discarded id => some id
  | _ => none

def Effect.discarded? : Effect Id → List Id
  | .discarded id => [id]
  | _ => []

/-- The token a call has published, and the one it has discarded. -/
def Call.published : Call Id → List Id
  | .pushed id => [id]
  | _ => []

def Call.discardedToken : Call Id → List Id
  | .uncounting id _ => [id]
  | .discarded id => [id]
  | _ => []

/-- What an access of a push adds to what the push has done. -/
theorem step_outcome
    (accessed : step shared choice call = some (next, after, effect)) :
    after.pushOf = call.pushOf ∧
      after.published = call.published ++ effect.published? ∧
      after.discardedToken = call.discardedToken ++ effect.discarded? := by
  unfold step at accessed
  split at accessed
  · split at accessed <;> cases accessed
    exact ⟨rfl, rfl, rfl⟩
  · cases accessed
    exact ⟨rfl, rfl, rfl⟩
  · split at accessed <;> cases accessed <;> exact ⟨rfl, rfl, rfl⟩
  · split at accessed <;> cases accessed
    exact ⟨rfl, rfl, rfl⟩
  · generalize settlePending _ shared.pending _ = settled at accessed
    obtain ⟨pending, outcome⟩ := settled
    cases outcome <;> cases accessed <;> exact ⟨rfl, rfl, rfl⟩
  · split at accessed <;> cases accessed
    exact ⟨rfl, rfl, rfl⟩
  · split at accessed <;> cases accessed <;> exact ⟨rfl, rfl, rfl⟩
  · split at accessed <;> cases accessed <;> exact ⟨rfl, rfl, rfl⟩
  · split at accessed <;> cases accessed <;> exact ⟨rfl, rfl, rfl⟩
  · split at accessed <;> cases accessed <;> exact ⟨rfl, rfl, rfl⟩
  · cases accessed
    exact ⟨rfl, rfl, rfl⟩
  · split at accessed <;> cases accessed
    exact ⟨rfl, rfl, rfl⟩
  · generalize settlePending _ shared.pending _ = settled at accessed
    obtain ⟨pending, outcome⟩ := settled
    cases outcome <;> cases accessed <;> exact ⟨rfl, rfl, rfl⟩
  · split at accessed <;> cases accessed
    exact ⟨rfl, rfl, rfl⟩
  · cases accessed

theorem step_discarded {id : Id}
    (accessed : step shared choice call = some (next, after, .discarded id)) :
    after.discards = true := by
  have outcome := (step_outcome accessed).2.2
  cases after with
  | discarding id token => rfl
  | uncounting id point => rfl
  | discarded id => rfl
  | _ => exact absurd outcome.symm (List.append_ne_nil_of_right_ne_nil _ nofun)

/-- The call has returned. -/
def Call.ended : Call Id → Bool
  | .pushed _ => true
  | .discarded _ => true
  | .reclaimed => true
  | _ => false

/-- No call is stopped by a token that is not where it should be. -/
theorem Standing.goesOn (standing : Standing shared linked (call, list))
    (unfinished : call.ended = false) :
    ∃ choice, (FinalizerQueue.step shared choice call).isSome = true := by
  have holds := standing.holds
  cases call with
  | creating id =>
      refine ⟨.allocate shared.heap.length, ?_⟩
      simp [FinalizerQueue.step, allocate]
  | counting id token => exact ⟨.run false, rfl⟩
  | loading id token =>
      refine ⟨.run false, ?_⟩
      rw [FinalizerQueue.step]
      split <;> rfl
  | linking id token head =>
      obtain ⟨stored, present, _⟩ := Option.map_eq_some_iff.mp holds.2.1
      refine ⟨.run false, ?_⟩
      simp [FinalizerQueue.step, present]
  | publishing id token head =>
      refine ⟨.run false, ?_⟩
      rw [FinalizerQueue.step]
      split <;> rfl
  | discarding id token =>
      obtain ⟨stored, present, _⟩ := Option.map_eq_some_iff.mp holds.2
      refine ⟨.run false, ?_⟩
      simp [FinalizerQueue.step, free, present]
  | uncounting id point => exact ⟨.run false, rfl⟩
  | taking point =>
      refine ⟨.run false, ?_⟩
      cases point with
      | none =>
          rw [FinalizerQueue.step]
          split <;> rfl
      | some head =>
          rw [FinalizerQueue.step]
          split <;> rfl
  | closing =>
      refine ⟨.run false, ?_⟩
      rw [FinalizerQueue.step]
      split <;> rfl
  | detached pointer =>
      refine ⟨.run false, ?_⟩
      cases pointer with
      | null => rfl
      | closedSentinel => exact absurd holds not_leads_closedSentinel
      | token address =>
          obtain ⟨stored, _, _, present, _⟩ := leads_token.mp holds
          simp [FinalizerQueue.step, present]
  | settling token follower point => exact ⟨.run false, rfl⟩
  | freeing token follower =>
      obtain ⟨_, _, live, _⟩ := holds
      obtain ⟨stored, present⟩ := Option.ne_none_iff_exists'.mp live
      refine ⟨.run false, ?_⟩
      simp [FinalizerQueue.step, free, present]
  | pushed id => cases unfinished
  | discarded id => cases unfinished
  | reclaimed => cases unfinished

end Steps

section Runs

variable {trace : List (Label Id)} {pool next : Pool (Shared Id) (Call Id)}

/-- Every token is owned, and the lists account for those published. -/
def Delivering (trace : List (Label Id)) (pool : Pool (Shared Id) (Call Id))
    (linked : List Nat) (owners : List (Call Id × List Nat)) : Prop :=
  owners.map Prod.fst = pool.calls ∧ Owned pool.shared linked owners ∧
    (publishedIn trace).Perm
      (returnedIn trace ++ ids pool.shared.heap linked) ∧
    ∀ effect ∈ effectsIn trace, effect.Proper

theorem owner_present {owners : List (Call Id × List Nat)}
    {calls : List (Call Id)} (same : owners.map Prod.fst = calls)
    {index : Nat} {call : Call Id} (present : calls[index]? = some call) :
    ∃ list, owners[index]? = some (call, list) := by
  rw [← same, List.getElem?_map] at present
  obtain ⟨owner, found, rfl⟩ := Option.map_eq_some_iff.mp present
  exact ⟨owner.2, found⟩

theorem Delivering.step {linked : List Nat}
    {owners : List (Call Id × List Nat)}
    (delivering : Delivering trace pool linked owners) {label : Label Id}
    (moved : (system Id).step pool label next) :
    ∃ linkedNext ownersNext,
      Delivering (trace ++ [label]) next linkedNext ownersNext := by
  obtain ⟨same, owned, accounts, proper⟩ := delivering
  cases Machine.step_cases moved with
  | invoked op =>
      refine ⟨linked, owners ++ [((machine Id).start op, [])], ?_, ?_, ?_, ?_⟩
      · rw [List.map_append, same]
        rfl
      · cases op with
        | push id => exact owned.begin rfl rfl
        | take => exact owned.begin rfl rfl
        | close => exact owned.begin rfl rfl
      · simp only [publishedIn, returnedIn, effectsIn_snoc] at accounts ⊢
        simpa using accounts
      · rw [effectsIn_snoc]
        simpa using proper
  | stepped index choice call shared after effect present accessed =>
      obtain ⟨list, found⟩ := owner_present same present
      obtain ⟨linkedNext, listNext, advances⟩ :=
        (owned.standing found).step accessed
      refine ⟨linkedNext, owners.set index (after, listNext), ?_,
        owned.advance found advances, ?_, ?_⟩
      · rw [List.map_set, same]
      · rw [publishedIn_stepped, returnedIn_stepped]
        calc
          (publishedIn trace ++ effect.published?).Perm
              ((returnedIn trace ++ ids pool.shared.heap linked) ++
                effect.published?) := accounts.append_right _
          _ = returnedIn trace ++
              (ids pool.shared.heap linked ++ effect.published?) :=
            List.append_assoc ..
          List.Perm _ (returnedIn trace ++
              (effect.published? ++ ids pool.shared.heap linked)) :=
            List.perm_append_comm.append_left _
          List.Perm _ (returnedIn trace ++
              (effect.returned? ++ ids shared.heap linkedNext)) :=
            advances.accounts.append_left _
          _ = (returnedIn trace ++ effect.returned?) ++
              ids shared.heap linkedNext := (List.append_assoc ..).symm
      · intro tested member
        rw [effectsIn_snoc] at member
        cases List.mem_append.mp member with
        | inl before => exact proper tested before
        | inr last =>
            cases List.mem_singleton.mp last
            exact advances.proper

theorem run_delivering (run : (system Id).Run trace pool) :
    ∃ linked owners, Delivering trace pool linked owners := by
  apply run.invariant (fun trace pool =>
    ∃ linked owners, Delivering trace pool linked owners)
  · intro pool starts
    obtain ⟨shared, calls⟩ := pool
    obtain ⟨isNew, isEmpty⟩ := starts
    simp only at isNew isEmpty
    rw [isNew, isEmpty]
    refine ⟨[], [], rfl, ⟨Or.inr (leads_null.mpr rfl), ?_, List.nodup_nil, ?_,
      rfl⟩, .refl _, ?_⟩
    · intro owner member
      cases member
    · intro address
      exact iff_of_false (fun live => live rfl) List.not_mem_nil
    · intro effect member
      cases member
  · intro trace pool label next _ delivering moved
    obtain ⟨linked, owners, delivering⟩ := delivering
    exact delivering.step moved

theorem run_standing (run : (system Id).Run trace pool) {index : Nat}
    {call : Call Id} (present : pool.calls[index]? = some call) :
    ∃ linked list, Standing pool.shared linked (call, list) := by
  obtain ⟨linked, owners, same, owned, _⟩ := run_delivering run
  obtain ⟨list, found⟩ := owner_present same present
  exact ⟨linked, list, owned.standing found⟩

/-- The queue is closed when a `close` was made, and a push gives its token up
in a closed queue only. -/
theorem run_closed (run : (system Id).Run trace pool) :
    (pool.shared.head = .closedSentinel ↔
      ∃ effect ∈ effectsIn trace, effect.closes = true) ∧
    ∀ call ∈ pool.calls, call.discards = true →
      pool.shared.head = .closedSentinel := by
  apply run.invariant (fun trace pool =>
    (pool.shared.head = .closedSentinel ↔
      ∃ effect ∈ effectsIn trace, effect.closes = true) ∧
    ∀ call ∈ pool.calls, call.discards = true →
      pool.shared.head = .closedSentinel)
  · intro pool starts
    obtain ⟨shared, calls⟩ := pool
    obtain ⟨isNew, isEmpty⟩ := starts
    simp only at isNew isEmpty
    rw [isNew, isEmpty]
    refine ⟨iff_of_false nofun ?_, ?_⟩
    · intro found
      obtain ⟨effect, member, _⟩ := found
      cases member
    · intro call member
      cases member
  · intro trace pool label next earlier known moved
    obtain ⟨closedIff, discardClosed⟩ := known
    cases Machine.step_cases moved with
    | invoked op =>
        refine ⟨?_, ?_⟩
        · rw [effectsIn_snoc]
          simpa using closedIff
        · intro call member discards
          cases List.mem_append.mp member with
          | inl before => exact discardClosed call before discards
          | inr last =>
              cases List.mem_singleton.mp last
              cases op <;> cases discards
    | stepped index choice call shared after effect present accessed =>
        obtain ⟨linked, list, standing⟩ := run_standing earlier present
        have closedBy := standing.closedBy accessed
        refine ⟨?_, ?_⟩
        · rw [effectsIn_snoc]
          simp only [closedBy.head, closedIff, PoolLabel.effect?_stepped,
            Option.toList_some, List.mem_append, List.mem_singleton]
          constructor
          · intro closes
            cases closes with
            | inl before =>
                obtain ⟨tested, member, closes⟩ := before
                exact ⟨tested, Or.inl member, closes⟩
            | inr now => exact ⟨effect, Or.inr rfl, now⟩
          · intro closes
            obtain ⟨tested, member, closes⟩ := closes
            cases member with
            | inl before => exact Or.inl ⟨tested, before, closes⟩
            | inr now =>
                rw [now] at closes
                exact Or.inr closes
        · intro tested member discards
          apply closedBy.head.mpr
          apply Or.inl
          cases List.mem_or_eq_of_mem_set member with
          | inl before => exact discardClosed tested before discards
          | inr now =>
              rw [now] at discards
              cases step_discards accessed discards with
              | inl before =>
                  exact discardClosed call (List.mem_of_getElem? present)
                    before
              | inr isClosed => exact isClosed

/-- What a push has published, and what it has discarded. -/
theorem run_outcome (run : (system Id).Run trace pool) :
    ∀ index op call, .invoked index op ∈ trace →
      pool.calls[index]? = some call →
      call.pushOf = ((machine Id).start op).pushOf ∧
        (effectsOf index trace).flatMap Effect.published? = call.published ∧
        (effectsOf index trace).flatMap Effect.discarded? =
          call.discardedToken := by
  apply run_history
    (fun op effects call =>
      call.pushOf = ((machine Id).start op).pushOf ∧
        effects.flatMap Effect.published? = call.published ∧
        effects.flatMap Effect.discarded? = call.discardedToken) ?_ ?_ run
  · intro op
    cases op <;> exact ⟨rfl, rfl, rfl⟩
  · intro op effects before shared choice next after effect history accessed
    obtain ⟨pushes, published, discarded⟩ := history
    obtain ⟨samePush, publishes, discards⟩ := step_outcome accessed
    refine ⟨samePush.trans pushes, ?_, ?_⟩
    · rw [List.flatMap_append, published, publishes,
        List.flatMap_singleton]
    · rw [List.flatMap_append, discarded, discards, List.flatMap_singleton]

/-- Finalizer signals, whatever the interleaving. -/
structure DeliveredOnce (trace : List (Label Id))
    (pool : Pool (Shared Id) (Call Id)) : Prop where
  /-- A token that was published is in one detached list, or linked still; the
  tokens of the queue, of the lists and of the pushes are all different. -/
  accounts : ∃ linked owners, owners.map Prod.fst = pool.calls ∧
    Owned pool.shared linked owners ∧
    (publishedIn trace).Perm
      (returnedIn trace ++ ids pool.shared.heap linked) ∧
    pool.shared.pending = pool.calls.countP Call.inFlight + linked.length +
      total unsettled owners
  /-- A push publishes its token, or discards it, and not both. -/
  outcome : ∀ index id call, .invoked index (.push id) ∈ trace →
    pool.calls[index]? = some call →
    call.pushOf = some id ∧
      (effectsOf index trace).flatMap Effect.published? = call.published ∧
      (effectsOf index trace).flatMap Effect.discarded? =
        call.discardedToken
  discardsAfterClose : ∀ before index id after,
    trace = before ++ .stepped index (.discarded id) :: after →
    ∃ effect ∈ effectsIn before, effect.closes = true
  /-- Detached lists end, and `settle_pending` never meets zero. -/
  proper : ∀ effect ∈ effectsIn trace, effect.Proper
  closedForGood : ∀ before index effect after,
    trace = before ++ .stepped index effect :: after →
    (∃ earlier ∈ effectsIn before, earlier.closes = true) → effect.Silent
  /-- Once the queue is closed nothing is linked: every token that was
  published is in a detached list. -/
  closedDelivers : (∃ effect ∈ effectsIn trace, effect.closes = true) →
    (publishedIn trace).Perm (returnedIn trace)
  neverDangles : ∀ call ∈ pool.calls, call.ended = false →
    ∃ choice, (step pool.shared choice call).isSome = true

theorem run_deliveredOnce (run : (system Id).Run trace pool) :
    DeliveredOnce trace pool := by
  obtain ⟨linked, owners, same, owned, accounts, proper⟩ :=
    run_delivering run
  refine ⟨⟨linked, owners, same, owned, accounts, ?_⟩, ?_, ?_, proper, ?_, ?_,
    ?_⟩
  · have pending := owned.pending
    have split := total_add (fun owner : Call Id × List Nat =>
      owner.1.inFlight.toNat) unsettled owners
    have flights := total_toNat
      (fun owner : Call Id × List Nat => owner.1.inFlight) owners
    have counts : pool.calls.countP Call.inFlight =
        owners.countP fun owner => owner.1.inFlight := by
      rw [← same, List.countP_map]
      rfl
    have whole : total counted owners = _ := split
    omega
  · intro index id call invoked present
    exact run_outcome run index (.push id) call invoked present
  · intro before index id after traceEq
    rw [traceEq] at run
    obtain ⟨source, target, earlier, moved, _⟩ := run.split_at
    cases Machine.step_cases moved with
    | stepped index choice call shared after effect present accessed =>
        have isClosed : source.shared.head = .closedSentinel := by
          cases step_discards accessed (step_discarded accessed) with
          | inl discards =>
              exact (run_closed earlier).2 call
                (List.mem_of_getElem? present) discards
          | inr isClosed => exact isClosed
        exact (run_closed earlier).1.mp isClosed
  · intro before index effect after traceEq closes
    rw [traceEq] at run
    obtain ⟨source, target, earlier, moved, _⟩ := run.split_at
    cases Machine.step_cases moved with
    | stepped index choice call shared after effect present accessed =>
        obtain ⟨_, _, standing⟩ := run_standing earlier present
        exact (standing.closedBy accessed).silent
          ((run_closed earlier).1.mpr closes)
  · intro closes
    have isClosed := (run_closed run).1.mpr closes
    rw [owned.linked_of_closed isClosed] at accounts
    exact accounts.trans (.of_eq (List.append_nil _))
  · intro call member unfinished
    obtain ⟨index, present⟩ := List.mem_iff_getElem?.mp member
    obtain ⟨_, _, standing⟩ := run_standing run present
    exact standing.goesOn unfinished

/-- The queue is closed between the load and the exchange of a push, whose
token is in the cell that the token before it left. -/
def closeUnderPush : List (PoolAction (Op Nat) Choice) :=
  [.invoke (.push 7), .advance 0 (.allocate 0), .advance 0 (.run false),
    .advance 0 (.run false), .advance 0 (.run false), .advance 0 (.run false),
    .invoke .take, .advance 1 (.run false), .advance 1 (.run false),
    .advance 1 (.run false), .advance 1 (.run false), .advance 1 (.run false),
    .advance 1 (.run false), .invoke (.push 8), .advance 2 (.allocate 0),
    .advance 2 (.run false), .advance 2 (.run false), .advance 2 (.run false),
    .invoke .close, .advance 3 (.run false), .advance 2 (.run false),
    .advance 2 (.run false), .advance 2 (.run false)]

theorem closeUnderPush_deliveredOnce :
    ∃ pool trace,
      (machine Nat).execAll ⟨new, []⟩ closeUnderPush = some (pool, trace) ∧
      DeliveredOnce trace pool := by
  obtain ⟨pool, trace, executed, run⟩ :=
    (machine Nat).exists_run_of_execAll (fun shared => shared = new)
      closeUnderPush rfl (by decide)
  exact ⟨pool, trace, executed, run_deliveredOnce run⟩

end Runs

end FinalizerQueue

end RustJsi.BackendJsc
