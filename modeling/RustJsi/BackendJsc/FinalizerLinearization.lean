import RustJsi.BackendJsc.FinalizerDelivery
import RustJsi.BackendJsc.Shared
import RustJsi.Interleaving.Linearizable

/-!
# The queue of finalizer tokens is a sequential list

Finalizers on any threads and the owners that drain the queue see it as if its
operations were performed one at a time: it is the list of signals the owner
of an attachment works with.  A push takes effect where it links its token, or
where it gives it up; `take` and `close` where they exchange the pointer.  The
list a drain gets is walked in memory later, and it is the list of its answer.
-/

namespace RustJsi.BackendJsc

open Interleaving Linked

namespace FinalizerQueue

/-- What an operation tells its caller. -/
inductive Answer (Id : Type*) where
  | linked
  | dropped
  | detached (tokens : List Id)
  deriving DecidableEq

variable {Id : Type*}

/-- The operation an access of the queue completes, and its answer. -/
def Effect.committed? : Effect Id → Option (Op Id × Answer Id)
  | .published id => some (.push id, .linked)
  | .discarded id => some (.push id, .dropped)
  | .took _ tokens => some (.take, .detached (tokens.getD []))
  | .closed _ tokens => some (.close, .detached (tokens.getD []))
  | _ => none

/-- A `take` or a `close` that has exchanged the pointer. -/
def Call.drains : Call Id → Bool
  | .detached _ => true
  | .settling _ _ _ => true
  | .freeing _ _ => true
  | .reclaimed => true
  | _ => false

/-- The operation a call is one of, as long as its code tells. -/
def Call.operation : Call Id → Option (Op Id)
  | .taking _ => some .take
  | .closing => some .close
  | call => call.pushOf.map .push

/-- What a push has done. -/
def Call.committed : Call Id → List (Op Id × Answer Id)
  | .pushed id => [(.push id, .linked)]
  | .uncounting id _ => [(.push id, .dropped)]
  | .discarded id => [(.push id, .dropped)]
  | _ => []

/-- What a call has done by the point where its code stands. -/
structure Answers (op : Op Id) (call : Call Id)
    (done : List (Op Id × Answer Id)) : Prop where
  begun : ∀ started, call.operation = some started → started = op
  waits : call.drains = false → done = call.committed
  drained : call.drains = true → ∃ tokens, done = [(op, .detached tokens)]

section Steps

variable {shared next : Shared Id} {linked list : List Nat}
  {call after : Call Id} {effect : Effect Id} {choice : Choice}

/-- What an access does to the pointer of the queue. -/
inductive Turn (shared : Shared Id) (call : Call Id) (next : Shared Id) :
    Call Id → Effect Id → Prop
  | still {after : Call Id} {effect : Effect Id}
      (head : next.head = shared.head) (nothing : effect.committed? = none)
      (operation : after.operation = call.operation)
      (drains : after.drains = call.drains)
      (committed : after.committed = call.committed) :
      Turn shared call next after effect
  | discarded {id : Id} {token : Nat} (head : next.head = shared.head)
      (discarding : call = .discarding id token) :
      Turn shared call next (.uncounting id .load) (.discarded id)
  | published {id : Id} {token : Nat} {head : Pointer}
      (publishing : call = .publishing id token head)
      (found : shared.head = head)
      (moved : next = { shared with head := .token token }) :
      Turn shared call next (.pushed id) (.published id)
  | tookNothing (taking : call = .taking none)
      (isClosed : shared.head = .closedSentinel) (same : next = shared) :
      Turn shared call next (.detached .null) (.took .null (some []))
  | took (taking : call = .taking (some shared.head))
      (moved : next = { shared with head := .null }) :
      Turn shared call next (.detached shared.head)
        (.took shared.head (tokensFrom shared.heap shared.head))
  | closedAgain (closing : call = .closing)
      (isClosed : shared.head = .closedSentinel) (same : next = shared) :
      Turn shared call next (.detached .null) (.closed .null (some []))
  | closed (closing : call = .closing)
      (isOpen : shared.head ≠ .closedSentinel)
      (moved : next = { shared with head := .closedSentinel }) :
      Turn shared call next (.detached shared.head)
        (.closed shared.head (tokensFrom shared.heap shared.head))

theorem step_turn
    (accessed : step shared choice call = some (next, after, effect)) :
    Turn shared call next after effect := by
  unfold step at accessed
  split at accessed
  · split at accessed <;> cases accessed
    exact .still rfl rfl rfl rfl rfl
  · cases accessed
    exact .still rfl rfl rfl rfl rfl
  · split at accessed <;> cases accessed <;> exact .still rfl rfl rfl rfl rfl
  · split at accessed <;> cases accessed
    exact .discarded rfl rfl
  · generalize settlePending _ shared.pending _ = settled at accessed
    obtain ⟨pending, outcome⟩ := settled
    cases outcome <;> cases accessed <;> exact .still rfl rfl rfl rfl rfl
  · split at accessed <;> cases accessed
    exact .still rfl rfl rfl rfl rfl
  · split at accessed
    · rename_i found
      cases accessed
      exact .published rfl found.1 rfl
    · cases accessed
      exact .still rfl rfl rfl rfl rfl
  · split at accessed
    · rename_i isClosed
      cases accessed
      exact .tookNothing rfl isClosed rfl
    · cases accessed
      exact .still rfl rfl rfl rfl rfl
  · split at accessed
    · rename_i found
      obtain ⟨rfl, _⟩ := found
      cases accessed
      exact .took rfl rfl
    · cases accessed
      exact .still rfl rfl rfl rfl rfl
  · split at accessed
    · rename_i isClosed
      have same : { shared with head := .closedSentinel } = shared := by
        rw [← isClosed]
      rw [same] at accessed
      cases accessed
      exact .closedAgain rfl isClosed rfl
    · rename_i isOpen
      cases accessed
      exact .closed rfl isOpen rfl
  · cases accessed
    exact .still rfl rfl rfl rfl rfl
  · split at accessed <;> cases accessed
    exact .still rfl rfl rfl rfl rfl
  · generalize settlePending _ shared.pending _ = settled at accessed
    obtain ⟨pending, outcome⟩ := settled
    cases outcome <;> cases accessed <;> exact .still rfl rfl rfl rfl rfl
  · split at accessed <;> cases accessed
    exact .still rfl rfl rfl rfl rfl
  · cases accessed

theorem answers_detached (op : Op Id) (list : Pointer) (tokens : List Id) :
    Answers op (.detached list) [(op, .detached tokens)] := by
  refine ⟨?_, ?_, fun _ => ⟨tokens, rfl⟩⟩
  · intro started begun
    cases begun
  · intro waits
    cases waits

/-- An access adds what it completes to what its call has done. -/
theorem Answers.step {op : Op Id} {done : List (Op Id × Answer Id)}
    (answers : Answers op call done)
    (accessed : step shared choice call = some (next, after, effect)) :
    Answers op after (done ++ effect.committed?.toList) := by
  cases step_turn accessed with
  | still head nothing operation drains committed =>
      rw [nothing, Option.toList_none, List.append_nil]
      refine ⟨?_, ?_, ?_⟩
      · rw [operation]
        exact answers.begun
      · rw [drains, committed]
        exact answers.waits
      · rw [drains]
        exact answers.drained
  | discarded head discarding =>
      subst discarding
      obtain rfl := answers.begun _ rfl
      rw [answers.waits rfl]
      refine ⟨answers.begun, fun _ => rfl, ?_⟩
      intro drains
      cases drains
  | published publishing found moved =>
      subst publishing
      obtain rfl := answers.begun _ rfl
      rw [answers.waits rfl]
      refine ⟨answers.begun, fun _ => rfl, ?_⟩
      intro drains
      cases drains
  | tookNothing taking isClosed same =>
      subst taking
      obtain rfl := answers.begun _ rfl
      rw [answers.waits rfl]
      exact answers_detached _ _ _
  | took taking moved =>
      subst taking
      obtain rfl := answers.begun _ rfl
      rw [answers.waits rfl]
      exact answers_detached _ _ _
  | closedAgain closing isClosed same =>
      subst closing
      obtain rfl := answers.begun _ rfl
      rw [answers.waits rfl]
      exact answers_detached _ _ _
  | closed closing isOpen moved =>
      subst closing
      obtain rfl := answers.begun _ rfl
      rw [answers.waits rfl]
      exact answers_detached _ _ _

end Steps

theorem Leads.unique {heap : Heap Id} {pointer : Pointer}
    {list other : List Nat} (leads : Leads heap pointer list)
    (again : Leads heap pointer other) : list = other := by
  obtain ⟨start, begins, chain⟩ := leads
  obtain ⟨start', begins', chain'⟩ := again
  rw [begins] at begins'
  cases begins'
  exact chain.unique chain'

theorem Stacked.unique {shared : Shared Id} {linked other : List Nat}
    (stacked : Stacked shared linked) (again : Stacked shared other) :
    linked = other := by
  cases stacked with
  | inl isClosed =>
      cases again with
      | inl same => rw [isClosed.2, same.2]
      | inr leads =>
          rw [isClosed.1] at leads
          exact absurd leads not_leads_closedSentinel
  | inr leads =>
      cases again with
      | inl isClosed =>
          rw [isClosed.1] at leads
          exact absurd leads not_leads_closedSentinel
      | inr same => exact leads.unique same

end FinalizerQueue

/-! ## The operations one at a time -/

namespace FinalizerSignals

/-- One operation on the signals. -/
def perform (signals : FinalizerSignals) :
    FinalizerQueue.Op NativeId →
      FinalizerSignals × FinalizerQueue.Answer NativeId
  | .push token =>
      (signals.push token, if signals.closed then .dropped else .linked)
  | .take => (signals.take.1, .detached signals.take.2)
  | .close => (signals.close.1, .detached signals.close.2)

/-- The signals under one operation at a time. -/
def sequential : System FinalizerSignals
    (FinalizerQueue.Op NativeId × FinalizerQueue.Answer NativeId) :=
  serial perform new

end FinalizerSignals

namespace FinalizerQueue

/-- The queue in memory stands for these signals. -/
structure Stands (shared : Shared NativeId) (signals : FinalizerSignals) :
    Prop where
  closed : shared.head = .closedSentinel ↔ signals.closed = true
  tokens : ∃ linked, Stacked shared linked ∧
    signals.tokens = ids shared.heap linked

section Signals

variable {shared next : Shared NativeId} {linked list : List Nat}
  {call after : Call NativeId} {effect : Effect NativeId} {choice : Choice}
  {signals : FinalizerSignals}

theorem Stands.isClosed (stands : Stands shared signals)
    (found : shared.head = .closedSentinel) :
    signals.closed = true ∧ signals.tokens = [] := by
  obtain ⟨linked, stacked, tokens⟩ := stands.tokens
  refine ⟨stands.closed.mp found, ?_⟩
  have empty : Stacked shared [] := Or.inl ⟨found, rfl⟩
  rw [tokens, stacked.unique empty]
  rfl

theorem Stands.isOpen (stands : Stands shared signals)
    (found : shared.head ≠ .closedSentinel) : signals.closed = false := by
  cases isClosed : signals.closed with
  | false => rfl
  | true => exact absurd (stands.closed.mpr isClosed) found

/-- The tokens of an open queue are those its pointer leads to. -/
theorem Stands.walked (stands : Stands shared signals)
    (found : shared.head ≠ .closedSentinel) :
    ∃ linked, Leads shared.heap shared.head linked ∧
      signals.tokens = ids shared.heap linked ∧
      tokensFrom shared.heap shared.head = some signals.tokens := by
  obtain ⟨linked, stacked, tokens⟩ := stands.tokens
  cases stacked with
  | inl isClosed => exact absurd isClosed.1 found
  | inr leads =>
      refine ⟨linked, leads, tokens, ?_⟩
      rw [tokens]
      exact leads.tokensFrom

/-- Where the pointer stays, the linked tokens stay. -/
theorem Stands.still (stands : Stands shared signals)
    (standing : Standing shared linked (call, list))
    (accessed : step shared choice call = some (next, after, effect))
    (head : next.head = shared.head) : Stands next signals := by
  obtain ⟨linkedNext, listNext, advances⟩ := standing.step accessed
  obtain ⟨others, stacked, tokens⟩ := stands.tokens
  obtain rfl := stacked.unique standing.stacked
  have same : ∀ address ∈ others,
      tokenAt next.heap address = tokenAt shared.heap address := by
    intro address member
    apply advances.elsewhere
    · intro held
      exact (List.nodup_append.mp standing.apart).2.2 address member address
        held rfl
    · exact standing.live address (List.mem_append_left _ member)
  refine ⟨?_, others, ?_, ?_⟩
  · rw [head]
    exact stands.closed
  · cases stacked with
    | inl isClosed => exact Or.inl ⟨head.trans isClosed.1, isClosed.2⟩
    | inr leads =>
        refine Or.inr ?_
        rw [head]
        exact leads.congr same
  · rw [tokens, ids_congr same]

/-- An access is invisible in the signals, or performs its operation. -/
theorem Stands.step (stands : Stands shared signals)
    (standing : Standing shared linked (call, list))
    (discards : call.discards = true → shared.head = .closedSentinel)
    (accessed : FinalizerQueue.step shared choice call =
      some (next, after, effect)) :
    FinalizerSignals.sequential.Answers signals (Stands next)
      effect.committed? := by
  cases step_turn accessed with
  | still head nothing operation drains committed =>
      rw [nothing]
      exact stands.still standing accessed head
  | discarded head discarding =>
      subst discarding
      have isClosed := (stands.isClosed (discards rfl)).1
      refine ⟨signals, ?_, stands.still standing accessed head⟩
      simp [FinalizerSignals.sequential, serial, FinalizerSignals.perform,
        FinalizerSignals.push, isClosed]
  | published publishing found moved =>
      rename_i id token head
      subst publishing
      obtain ⟨_, openHead, stored⟩ := standing.holds
      have isOpen : shared.head ≠ .closedSentinel := by
        rw [found]
        exact openHead
      obtain ⟨others, leads, tokens, _⟩ := stands.walked isOpen
      have notClosed := stands.isOpen isOpen
      refine ⟨{ signals with tokens := id :: signals.tokens }, ?_, ?_⟩
      · simp [FinalizerSignals.sequential, serial, FinalizerSignals.perform,
          FinalizerSignals.push, notClosed]
      · subst moved
        refine ⟨?_, token :: others, ?_, ?_⟩
        · simp [notClosed]
        · refine Or.inr (leads_token.mpr ⟨_, _, rfl, stored, ?_⟩)
          rw [← found]
          exact leads
        · simp [ids, idAt, stored, tokens]
  | tookNothing taking isClosed same =>
      subst same
      obtain ⟨closed, empty⟩ := stands.isClosed isClosed
      refine ⟨signals, ?_, stands⟩
      simp [FinalizerSignals.sequential, serial, FinalizerSignals.perform,
        FinalizerSignals.take, closed]
  | took taking moved =>
      subst taking
      have isOpen := standing.holds.2
      obtain ⟨others, leads, tokens, walked⟩ := stands.walked isOpen
      have notClosed := stands.isOpen isOpen
      rw [walked]
      refine ⟨{ signals with tokens := [] }, ?_, ?_⟩
      · simp [FinalizerSignals.sequential, serial, FinalizerSignals.perform,
          FinalizerSignals.take, notClosed]
      · subst moved
        exact ⟨by simp [notClosed], [], Or.inr (leads_null.mpr rfl), rfl⟩
  | closedAgain closing isClosed same =>
      subst same
      obtain ⟨closed, empty⟩ := stands.isClosed isClosed
      refine ⟨signals, ?_, stands⟩
      simp [FinalizerSignals.sequential, serial, FinalizerSignals.perform,
        FinalizerSignals.close, closed]
  | closed closing isOpen moved =>
      obtain ⟨others, leads, tokens, walked⟩ := stands.walked isOpen
      have notClosed := stands.isOpen isOpen
      rw [walked]
      refine ⟨{ tokens := [], closed := true }, ?_, ?_⟩
      · simp [FinalizerSignals.sequential, serial, FinalizerSignals.perform,
          FinalizerSignals.close, notClosed]
      · subst moved
        exact ⟨by simp, [], Or.inl ⟨rfl, rfl⟩, rfl⟩

end Signals

/-- The queue is simulated by the signals of its owner. -/
def simulation : Simulation (system NativeId) FinalizerSignals.sequential
    (PoolLabel.action? Effect.committed?) where
  related := fun pool signals => Stands pool.shared signals
  start := by
    rintro ⟨shared, calls⟩ ⟨isNew, isEmpty⟩
    simp only at isNew isEmpty
    subst isNew
    refine ⟨.new, rfl, ?_, [], Or.inr (leads_null.mpr rfl), rfl⟩
    simp [new, FinalizerSignals.new]
  advance := by
    intro trace pool signals label next run _ stands moved
    cases Machine.step_cases moved with
    | invoked op => exact stands
    | stepped index choice call shared after effect present accessed =>
        obtain ⟨linked, list, standing⟩ := run_standing run present
        exact stands.step standing
          ((run_closed run).2 call (List.mem_of_getElem? present)) accessed

/-! ## The list a drain walks -/

section Walks

variable {Id : Type*}

/-- The tokens an answer hands over. -/
def Answer.tokens : Answer Id → List Id
  | .detached tokens => tokens
  | _ => []

def Effect.settles : Effect Id → Bool
  | .settled => true
  | _ => false

/-- The token has been settled and is not freed yet. -/
def Call.frees : Call Id → Bool
  | .freeing _ _ => true
  | _ => false

/-- The tokens a call was handed. -/
def handed (index : Nat) (trace : List (Label Id)) : List Id :=
  (commitsOf Effect.committed? index trace).flatMap fun done => done.2.tokens

/-- How many of its tokens a call has settled. -/
def settledBy (index : Nat) (trace : List (Label Id)) : Nat :=
  (effectsOf index trace).countP Effect.settles

variable {shared next : Shared Id} {linked list listNext : List Nat}
  {call after : Call Id} {effect : Effect Id} {choice : Choice}

/-- A draining call holds one list. -/
theorem Holds.unique {heap : Heap Id} {other : List Nat}
    (holds : Holds heap call list) (again : Holds heap call other)
    (drains : call.drains = true) : list = other := by
  cases call with
  | detached pointer => exact Leads.unique holds again
  | settling token follower point =>
      obtain ⟨rest, rfl, _, leads⟩ := holds
      obtain ⟨rest', rfl, _, leads'⟩ := again
      rw [leads.unique leads']
  | freeing token follower =>
      obtain ⟨rest, rfl, _, leads⟩ := holds
      obtain ⟨rest', rfl, _, leads'⟩ := again
      rw [leads.unique leads']
  | reclaimed => exact Eq.trans holds (Eq.symm again)
  | _ => cases drains

/-- A call that has its list goes on with it. -/
theorem step_drains
    (accessed : step shared choice call = some (next, after, effect))
    (drains : call.drains = true) :
    after.drains = true ∧ effect.committed? = none := by
  cases step_turn accessed with
  | still head nothing operation same committed =>
      exact ⟨same.trans drains, nothing⟩
  | discarded head discarding =>
      rw [discarding] at drains
      cases drains
  | published publishing found moved =>
      rw [publishing] at drains
      cases drains
  | tookNothing taking isClosed same =>
      rw [taking] at drains
      cases drains
  | took taking moved =>
      rw [taking] at drains
      cases drains
  | closedAgain closing isClosed same =>
      rw [closing] at drains
      cases drains
  | closed closing isOpen moved =>
      rw [closing] at drains
      cases drains

/-- A drain gets its list at once, and it is the list it answers with. -/
theorem Standing.handed (standing : Standing shared linked (call, list))
    (accessed : FinalizerQueue.step shared choice call =
      some (next, after, effect))
    (waits : call.drains = false) (drains : after.drains = true)
    (holds : Holds next.heap after listNext) :
    call.pushOf = none ∧ effect.settles = false ∧ after.frees = false ∧
      effect.committed?.toList.flatMap (fun done => done.2.tokens) =
        ids next.heap listNext := by
  cases step_turn accessed with
  | still head nothing operation same committed =>
      rw [waits, drains] at same
      cases same
  | discarded head discarding => cases drains
  | published publishing found moved => cases drains
  | tookNothing taking isClosed same =>
      subst taking
      cases leads_null.mp holds
      exact ⟨rfl, rfl, rfl, rfl⟩
  | took taking moved =>
      rw [moved] at holds ⊢
      subst taking
      refine ⟨rfl, rfl, rfl, ?_⟩
      simp [Effect.committed?, Leads.tokensFrom holds, Answer.tokens]
  | closedAgain closing isClosed same =>
      subst closing
      cases leads_null.mp holds
      exact ⟨rfl, rfl, rfl, rfl⟩
  | closed closing isOpen moved =>
      rw [moved] at holds ⊢
      subst closing
      refine ⟨rfl, rfl, rfl, ?_⟩
      simp [Effect.committed?, Leads.tokensFrom holds, Answer.tokens]

/-- Only a push and a drain settle. -/
theorem step_settles
    (accessed : step shared choice call = some (next, after, effect))
    (waits : call.drains = false) (pulls : call.pushOf = none) :
    effect.settles = false := by
  unfold step at accessed
  split at accessed
  case h_8 | h_9 | h_10 => split at accessed <;> cases accessed <;> rfl
  case h_15 => cases accessed
  case h_11 | h_12 | h_13 | h_14 => cases waits
  all_goals cases pulls

/-- A draining call takes the token it has freed off its list. -/
theorem Standing.walks (standing : Standing shared linked (call, list))
    (drains : call.drains = true)
    (accessed : FinalizerQueue.step shared choice call =
      some (next, after, effect))
    (holds : Holds next.heap after listNext) :
    effect.settles = after.frees ∧
      ids next.heap listNext =
        (ids shared.heap list).drop call.frees.toNat := by
  have proper : effect.Proper := by
    obtain ⟨_, _, advances⟩ := standing.step accessed
    exact advances.proper
  have held := standing.holds
  unfold FinalizerQueue.step at accessed
  split at accessed
  case h_11 =>
    cases accessed
    cases leads_null.mp held
    cases (show listNext = [] from holds)
    exact ⟨rfl, rfl⟩
  case h_12 =>
    split at accessed
    · cases accessed
    · rename_i token present
      cases accessed
      obtain ⟨rest, rfl, _, leads⟩ := holds
      obtain rfl := Leads.unique held
        (leads_token.mpr ⟨_, _, rfl, present, leads⟩)
      exact ⟨rfl, rfl⟩
  case h_13 =>
    generalize settlePending _ shared.pending _ = settled at accessed
    obtain ⟨pending, outcome⟩ := settled
    cases outcome with
    | again point =>
        cases accessed
        rw [Holds.unique holds held rfl]
        exact ⟨rfl, rfl⟩
    | settled =>
        cases accessed
        rw [Holds.unique holds held rfl]
        exact ⟨rfl, rfl⟩
    | metZero =>
        cases accessed
        exact proper.elim
  case h_14 =>
    split at accessed
    · cases accessed
    · rename_i token follower _ heap freed
      cases accessed
      obtain ⟨rest, rfl, live, leads⟩ := held
      have notInRest : token ∉ rest :=
        (List.nodup_cons.mp (List.nodup_append.mp standing.apart).2.1).1
      have same : ∀ address ∈ rest,
          tokenAt heap address = tokenAt shared.heap address := by
        intro address member
        apply (free_eq_some freed).2
        intro here
        rw [here] at member
        exact notInRest member
      have remains := Leads.unique holds (leads.congr same)
      obtain ⟨stored, present⟩ := Option.ne_none_iff_exists'.mp live
      subst remains
      refine ⟨rfl, ?_⟩
      rw [ids_congr same]
      simp [ids, idAt, present, Call.frees]
  case h_15 => cases accessed
  all_goals cases drains

/-- An access of one call leaves the tokens of the others as they are. -/
theorem Owned.others {owners : List (Call Id × List Nat)}
    {owner ownerNext other : Call Id × List Nat} {linkedNext : List Nat}
    {index place : Nat} (owned : Owned shared linked owners)
    (present : owners[index]? = some owner)
    (advances : Advances shared linked owner next linkedNext ownerNext effect)
    (apart : place ≠ index) (found : owners[place]? = some other) :
    ∀ address ∈ other.2,
      tokenAt next.heap address = tokenAt shared.heap address := by
  intro address held
  obtain ⟨rest, split, _, others⟩ := exists_flatMap_perm Prod.snd present
  have inRest := others place other apart found held
  have nodup := owned.apart
  rw [(split.append_left linked).nodup_iff, ← List.append_assoc] at nodup
  apply advances.elsewhere
  · intro own
    exact (List.nodup_append.mp nodup).2.2 address
      (List.mem_append_right _ own) address inRest rfl
  · rw [owned.live, (split.append_left linked).mem_iff, ← List.append_assoc]
    exact List.mem_append_right _ inRest

variable {trace : List (Label Id)} {pool : Pool (Shared Id) (Call Id)}

theorem handed_own (index : Nat) (trace : List (Label Id))
    (effect : Effect Id) :
    handed index (trace ++ [.stepped index effect]) =
      handed index trace ++
        effect.committed?.toList.flatMap fun done => done.2.tokens := by
  rw [handed, commitsOf_own, List.flatMap_append]
  rfl

theorem handed_other {index stepping : Nat} (other : stepping ≠ index)
    (trace : List (Label Id)) (effect : Effect Id) :
    handed index (trace ++ [.stepped stepping effect]) =
      handed index trace := by
  rw [handed, commitsOf_other other]
  rfl

theorem settledBy_own (index : Nat) (trace : List (Label Id))
    (effect : Effect Id) :
    settledBy index (trace ++ [.stepped index effect]) =
      settledBy index trace + effect.settles.toNat := by
  rw [settledBy, effectsOf_append, effectsOf_own, List.countP_append]
  cases settles : effect.settles <;> simp [settledBy, settles]

theorem settledBy_other {index stepping : Nat} (other : stepping ≠ index)
    (trace : List (Label Id)) (effect : Effect Id) :
    settledBy index (trace ++ [.stepped stepping effect]) =
      settledBy index trace := by
  rw [settledBy, effectsOf_append, effectsOf_other other, List.append_nil]
  rfl

theorem answers_start (op : Op Id) :
    Answers op ((machine Id).start op) [] := by
  have waits : ((machine Id).start op).drains = false := by
    cases op <;> rfl
  refine ⟨?_, ?_, ?_⟩
  · intro started begun
    cases op <;> cases begun <;> rfl
  · intro _
    cases op <;> rfl
  · intro drains
    rw [waits] at drains
    cases drains

/-- A drain that still waits for its list has done nothing. -/
theorem run_waits (run : (system Id).Run trace pool) {index : Nat}
    {call : Call Id} (present : pool.calls[index]? = some call)
    (waits : call.drains = false) (pulls : call.pushOf = none) :
    settledBy index trace = 0 ∧ handed index trace = [] := by
  have bound := (List.getElem?_eq_some_iff.mp present).1
  obtain ⟨op, invoked⟩ := (run_recorded run).invoked index bound
  have history := run_history
    (fun op effects call => Answers op call
        (effects.filterMap Effect.committed?) ∧
      (call.drains = false → call.pushOf = none →
        effects.countP Effect.settles = 0)) ?_ ?_ run index op call invoked
    present
  · refine ⟨history.2 waits pulls, ?_⟩
    rw [handed, commitsOf, history.1.waits waits]
    cases call with
    | pushed id => cases pulls
    | uncounting id point => cases pulls
    | discarded id => cases pulls
    | _ => rfl
  · intro op
    exact ⟨answers_start op, fun _ _ => rfl⟩
  · intro op effects before shared choice next after effect history accessed
    rw [filterMap_snoc]
    refine ⟨history.1.step accessed, ?_⟩
    intro waits pulls
    have samePush := (step_outcome accessed).1
    rw [pulls] at samePush
    cases drains : before.drains with
    | false =>
        have silent := step_settles accessed drains samePush.symm
        rw [List.countP_append, history.2 drains samePush.symm]
        simp [silent]
    | true =>
        rw [(step_drains accessed drains).1] at waits
        cases waits

/-- A drain goes through the tokens it was handed, in their order. -/
theorem run_walks (run : (system Id).Run trace pool) :
    ∀ index call list, pool.calls[index]? = some call →
      call.drains = true → Holds pool.shared.heap call list →
      call.frees.toNat ≤ settledBy index trace ∧
        ids pool.shared.heap list = (handed index trace).drop
          (settledBy index trace - call.frees.toNat) := by
  apply run.invariant (fun trace pool => ∀ index call list,
    pool.calls[index]? = some call → call.drains = true →
      Holds pool.shared.heap call list →
      call.frees.toNat ≤ settledBy index trace ∧
        ids pool.shared.heap list = (handed index trace).drop
          (settledBy index trace - call.frees.toNat))
  · rintro ⟨shared, calls⟩ ⟨_, rfl⟩ index call list present
    cases present
  · intro trace pool label next run walks moved index call list present drains
      holds
    cases Machine.step_cases moved with
    | invoked op =>
        have old : pool.calls[index]? = some call := by
          by_cases bound : index < pool.calls.length
          · rw [List.getElem?_append_left bound] at present
            exact present
          · rw [List.getElem?_append_right (Nat.le_of_not_lt bound),
              List.getElem?_singleton] at present
            split at present
            · cases present
              cases op <;> cases drains
            · cases present
        have walked := walks index call list old drains holds
        rw [handed, commitsOf_invoked, settledBy, effectsOf_append,
          effectsOf_invoked, List.append_nil]
        exact walked
    | stepped stepping choice before shared after effect found accessed =>
        obtain ⟨linked, owners, same, owned, _⟩ := run_delivering run
        obtain ⟨held, owner⟩ := owner_present same found
        have standing := owned.standing owner
        by_cases own : stepping = index
        · subst own
          have bound := (List.getElem?_eq_some_iff.mp found).1
          rw [List.getElem?_set_self bound] at present
          cases present
          rw [settledBy_own, handed_own]
          cases drained : before.drains with
          | true =>
              obtain ⟨settles, remaining⟩ :=
                standing.walks drained accessed holds
              obtain ⟨enough, walked⟩ :=
                walks stepping before held found drained standing.holds
              rw [(step_drains accessed drained).2, settles, remaining,
                walked, List.drop_drop]
              refine ⟨by omega, ?_⟩
              rw [Option.toList_none, List.flatMap_nil, List.append_nil]
              congr 1
              omega
          | false =>
              obtain ⟨pulls, silent, keeps, tokens⟩ :=
                standing.handed accessed drained drains holds
              obtain ⟨unsettled, nothing⟩ := run_waits run found drained pulls
              rw [unsettled, nothing, silent, keeps, tokens]
              exact ⟨Nat.le_refl _, rfl⟩
        · rw [List.getElem?_set_ne own] at present
          rw [settledBy_other own, handed_other own]
          obtain ⟨linkedNext, listNext, advances⟩ := standing.step accessed
          obtain ⟨others, place⟩ := owner_present same present
          have kept := owned.others owner advances (Ne.symm own) place
          have holdsBefore := owned.holds _ (List.mem_of_getElem? place)
          obtain rfl := Holds.unique holds (holdsBefore.congr kept) drains
          rw [ids_congr kept]
          exact walks index call _ present drains holdsBefore

end Walks

/-- The operations on the queue act at once, on the signals of its owner. -/
structure ActsAtOnce (trace : List (Label NativeId))
    (pool : Pool (Shared NativeId) (Call NativeId)) : Prop where
  linearizable : Linearizable (machine NativeId) (fun shared => shared = new)
    FinalizerSignals.sequential Effect.committed?
    (fun pool signals => Stands pool.shared signals) Answers trace pool
  /-- Performed in this order, the operations get the answers they gave. -/
  performs : ∃ signals, Stands pool.shared signals ∧
    performAll FinalizerSignals.perform .new
        ((commits Effect.committed? trace).map fun commit => commit.2.1) =
      (signals, (commits Effect.committed? trace).map fun commit =>
        commit.2.2)
  /-- A drain walks through the tokens of its answer, in their order. -/
  walks : ∀ index call, pool.calls[index]? = some call →
    call.drains = true →
    ∃ op tokens list,
      commitsOf Effect.committed? index trace = [(op, .detached tokens)] ∧
        Holds pool.shared.heap call list ∧
        ids pool.shared.heap list =
          tokens.drop (settledBy index trace - call.frees.toNat)

theorem run_actsAtOnce {trace : List (Label NativeId)}
    {pool : Pool (Shared NativeId) (Call NativeId)}
    (run : (system NativeId).Run trace pool) : ActsAtOnce trace pool := by
  have linearizable := run_linearizable simulation Answers answers_start
    (fun _ _ _ _ _ _ _ _ answers accessed => answers.step accessed) run
  refine ⟨linearizable, ?_, ?_⟩
  · obtain ⟨signals, sequential, stands⟩ := linearizable.sequential
    have performed := performAll_of_run sequential
    rw [List.map_map, List.map_map] at performed
    exact ⟨signals, stands, performed⟩
  · intro index call present drains
    have bound := (List.getElem?_eq_some_iff.mp present).1
    obtain ⟨op, invoked⟩ := (run_recorded run).invoked index bound
    obtain ⟨tokens, answered⟩ :=
      (linearizable.answers index op call invoked present).drained drains
    obtain ⟨linked, list, standing⟩ := run_standing run present
    have walked := (run_walks run index call list present drains
      standing.holds).2
    refine ⟨op, tokens, list, answered, standing.holds, ?_⟩
    rw [walked, handed, answered]
    simp [Answer.tokens]

/-- A push fails its exchange and goes round, a drain has settled one of its
two tokens when the queue is closed, and a push comes too late. -/
def closeUnderDrain : List (PoolAction (Op NativeId) Choice) :=
  [.invoke (.push ⟨0, 0⟩), .advance 0 (.allocate 0), .advance 0 (.run false),
    .advance 0 (.run false), .advance 0 (.run false),
    .invoke (.push ⟨1, 0⟩), .advance 1 (.allocate 1), .advance 1 (.run false),
    .advance 1 (.run false), .advance 1 (.run false), .advance 1 (.run false),
    .advance 0 (.run false), .advance 0 (.run false), .advance 0 (.run false),
    .advance 0 (.run false),
    .invoke .take, .advance 2 (.run false), .advance 2 (.run false),
    .advance 2 (.run false), .advance 2 (.run false), .advance 2 (.run false),
    .invoke .close, .advance 3 (.run false),
    .invoke (.push ⟨0, 1⟩), .advance 4 (.allocate 2), .advance 4 (.run false),
    .advance 4 (.run false), .advance 4 (.run false)]

theorem closeUnderDrain_actsAtOnce :
    ∃ pool trace,
      (machine NativeId).execAll ⟨new, []⟩ closeUnderDrain =
        some (pool, trace) ∧
      commits Effect.committed? trace =
        [(1, .push ⟨1, 0⟩, .linked), (0, .push ⟨0, 0⟩, .linked),
          (2, .take, .detached [⟨0, 0⟩, ⟨1, 0⟩]),
          (3, .close, .detached []), (4, .push ⟨0, 1⟩, .dropped)] ∧
      ActsAtOnce trace pool := by
  obtain ⟨pool, trace, executed, run⟩ :=
    (machine NativeId).exists_run_of_execAll (fun shared => shared = new)
      closeUnderDrain rfl (by decide)
  refine ⟨pool, trace, executed, ?_, run_actsAtOnce run⟩
  have evaluated :
      ((machine NativeId).execAll ⟨new, []⟩ closeUnderDrain).map
        (fun result => commits Effect.committed? result.2) = some
        [(1, .push ⟨1, 0⟩, .linked), (0, .push ⟨0, 0⟩, .linked),
          (2, .take, .detached [⟨0, 0⟩, ⟨1, 0⟩]),
          (3, .close, .detached []), (4, .push ⟨0, 1⟩, .dropped)] := by
    decide
  simpa [executed] using evaluated

end FinalizerQueue

end RustJsi.BackendJsc
