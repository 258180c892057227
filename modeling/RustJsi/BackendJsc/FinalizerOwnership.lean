import Mathlib.Data.List.Perm.Subperm
import RustJsi.BackendJsc.FinalizerQueue

/-!
# Who owns a finalizer token

Every token in memory is linked into the queue or held by one call: the push
that has still to publish it, or the owner of the list it was detached with.
An access moves tokens between its own call and the queue and leaves those of
the other calls alone.
-/

namespace RustJsi.BackendJsc

open Interleaving Linked

namespace FinalizerQueue

variable {Id : Type*}

section Memory

variable {heap : Heap Id} {address : Nat}

theorem tokenAt_eq_some_iff {token : Token Id} :
    tokenAt heap address = some token ↔ heap[address]? = some (some token) :=
  Option.join_eq_some_iff

theorem lt_length_of_tokenAt {token : Token Id}
    (present : tokenAt heap address = some token) : address < heap.length :=
  (List.getElem?_eq_some_iff.mp (tokenAt_eq_some_iff.mp present)).1

theorem tokenAt_set_self {cell : Option (Token Id)}
    (bound : address < heap.length) :
    tokenAt (heap.set address cell) address = cell := by
  rw [tokenAt, List.getElem?_set_self bound]
  rfl

theorem tokenAt_set_ne {cell : Option (Token Id)} {other : Nat}
    (apart : other ≠ address) :
    tokenAt (heap.set address cell) other = tokenAt heap other := by
  rw [tokenAt, List.getElem?_set_ne (Ne.symm apart), tokenAt]

/-- What the allocator does. -/
theorem allocate_eq_some {token : Token Id} {after : Heap Id}
    (allocated : allocate heap address token = some after) :
    tokenAt heap address = none ∧ tokenAt after address = some token ∧
      ∀ other, other ≠ address →
        tokenAt after other = tokenAt heap other := by
  unfold allocate at allocated
  split at allocated
  · rename_i last
    subst last
    cases allocated
    refine ⟨?_, ?_, ?_⟩
    · rw [tokenAt, List.getElem?_eq_none (Nat.le_refl _)]
      rfl
    · rw [tokenAt, List.getElem?_concat_length]
      rfl
    · intro other apart
      by_cases below : other < heap.length
      · rw [tokenAt, List.getElem?_append_left below, tokenAt]
      · have beyond : (heap ++ [some token]).length ≤ other := by
          rw [List.length_append, List.length_singleton]
          omega
        rw [tokenAt, List.getElem?_eq_none beyond, tokenAt,
          List.getElem?_eq_none (Nat.le_of_not_lt below)]
  · split at allocated
    · rename_i vacant
      cases allocated
      obtain ⟨bound, _⟩ := List.getElem?_eq_some_iff.mp vacant
      refine ⟨?_, tokenAt_set_self bound, fun other => tokenAt_set_ne⟩
      rw [tokenAt, vacant]
      rfl
    · cases allocated

theorem free_eq_some {after : Heap Id} (freed : free heap address = some after) :
    tokenAt after address = none ∧
      ∀ other, other ≠ address →
        tokenAt after other = tokenAt heap other := by
  unfold free at freed
  obtain ⟨token, present, rfl⟩ := Option.map_eq_some_iff.mp freed
  exact ⟨tokenAt_set_self (lt_length_of_tokenAt present),
    fun other => tokenAt_set_ne⟩

end Memory

/-! ## Lists in memory -/

/-- Where a pointer of a list leads; the sentinel is in no list. -/
def Pointer.link : Pointer → Option (Option Nat)
  | .null => some none
  | .closedSentinel => none
  | .token address => some (some address)

def links (heap : Heap Id) (address : Nat) : Option (Option Nat) :=
  (tokenAt heap address).bind fun token => token.next.link

/-- The pointer leads through these tokens to null. -/
def Leads (heap : Heap Id) (pointer : Pointer) (list : List Nat) : Prop :=
  ∃ start, pointer.link = some start ∧ Chain (links heap) start list

/-- The tokens linked into the queue. -/
def Stacked (shared : Shared Id) (linked : List Nat) : Prop :=
  (shared.head = .closedSentinel ∧ linked = []) ∨
    Leads shared.heap shared.head linked

def idAt (heap : Heap Id) (address : Nat) : Option Id :=
  (tokenAt heap address).map Token.id

/-- The identities in the tokens at these addresses. -/
def ids (heap : Heap Id) (list : List Nat) : List Id :=
  list.filterMap (idAt heap)

section Lists

variable {heap other : Heap Id} {pointer : Pointer} {list : List Nat}

theorem Leads.congr (leads : Leads heap pointer list)
    (same : ∀ address ∈ list, tokenAt other address = tokenAt heap address) :
    Leads other pointer list := by
  obtain ⟨start, begins, chain⟩ := leads
  refine ⟨start, begins, chain.congr ?_⟩
  intro address member
  rw [links, links, same address member]

theorem ids_congr
    (same : ∀ address ∈ list, tokenAt other address = tokenAt heap address) :
    ids other list = ids heap list := by
  apply List.filterMap_congr
  intro address member
  rw [idAt, idAt, same address member]

theorem leads_null : Leads heap .null list ↔ list = [] := by
  constructor
  · intro leads
    obtain ⟨start, begins, chain⟩ := leads
    cases begins
    exact Chain.nil_iff.mp chain
  · intro empty
    exact ⟨none, rfl, Chain.nil_iff.mpr empty⟩

theorem leads_token {address : Nat} :
    Leads heap (.token address) list ↔
      ∃ token rest, list = address :: rest ∧
        tokenAt heap address = some token ∧ Leads heap token.next rest := by
  constructor
  · intro leads
    obtain ⟨start, begins, chain⟩ := leads
    cases begins
    obtain ⟨next, rest, listEq, linked, later⟩ := Chain.some_iff.mp chain
    obtain ⟨token, present, link⟩ := Option.bind_eq_some_iff.mp linked
    exact ⟨token, rest, listEq, present, next, link, later⟩
  · intro found
    obtain ⟨token, rest, listEq, present, next, link, later⟩ := found
    refine ⟨some address, rfl, ?_⟩
    rw [listEq]
    refine .cons ?_ later
    rw [links, present]
    exact link

theorem not_leads_closedSentinel : ¬Leads heap .closedSentinel list := by
  intro leads
  obtain ⟨start, begins, _⟩ := leads
  cases begins

theorem walk_null (fuel : Nat) : walk heap fuel .null = some [] := by
  cases fuel <;> rfl

/-- A list that ends can be walked to its end. -/
theorem Leads.walk (leads : Leads heap pointer list) :
    ∀ fuel, list.length ≤ fuel →
      walk heap fuel pointer = some (ids heap list) := by
  induction list generalizing pointer with
  | nil =>
      intro fuel _
      cases pointer with
      | null => exact walk_null fuel
      | closedSentinel => exact absurd leads not_leads_closedSentinel
      | token address =>
          obtain ⟨_, _, listEq, _⟩ := leads_token.mp leads
          cases listEq
  | cons address rest inductionHypothesis =>
      intro fuel enough
      cases pointer with
      | null => cases leads_null.mp leads
      | closedSentinel => exact absurd leads not_leads_closedSentinel
      | token first =>
          obtain ⟨token, others, listEq, present, later⟩ :=
            leads_token.mp leads
          cases listEq
          cases fuel with
          | zero => exact absurd enough (Nat.not_succ_le_zero _)
          | succ fuel =>
              have walked := inductionHypothesis later fuel
                (Nat.le_of_succ_le_succ enough)
              have here : idAt heap address = some token.id := by
                rw [idAt, present]
                rfl
              simp only [FinalizerQueue.walk, present, walked, ids,
                List.filterMap_cons, here, Option.map_some]

/-- A list without repetition fits in memory. -/
theorem Leads.tokensFrom (leads : Leads heap pointer list) :
    tokensFrom heap pointer = some (ids heap list) := by
  obtain ⟨start, begins, chain⟩ := leads
  apply Leads.walk ⟨start, begins, chain⟩
  have below : ∀ address ∈ list, address < heap.length := by
    intro address member
    obtain ⟨next, linked⟩ := chain.linked address member
    obtain ⟨token, present, _⟩ := Option.bind_eq_some_iff.mp linked
    exact lt_length_of_tokenAt present
  have subset : list ⊆ List.range heap.length := by
    intro address member
    exact List.mem_range.mpr (below address member)
  calc
    list.length ≤ (List.range heap.length).length :=
      (List.subperm_of_subset chain.nodup subset).length_le
    _ = heap.length := List.length_range

end Lists

/-- The tokens a call holds, and what it knows of them. -/
def Holds (heap : Heap Id) : Call Id → List Nat → Prop
  | .counting id token, list => list = [token] ∧ idAt heap token = some id
  | .loading id token, list => list = [token] ∧ idAt heap token = some id
  | .linking id token head, list =>
      list = [token] ∧ idAt heap token = some id ∧ head ≠ .closedSentinel
  | .publishing id token head, list =>
      list = [token] ∧ head ≠ .closedSentinel ∧
        tokenAt heap token = some ⟨id, head⟩
  | .discarding id token, list => list = [token] ∧ idAt heap token = some id
  | .taking (some head), list => list = [] ∧ head ≠ .closedSentinel
  | .detached pointer, list => Leads heap pointer list
  | .settling token next _, list => ∃ rest, list = token :: rest ∧
      tokenAt heap token ≠ none ∧ Leads heap next rest
  | .freeing token next, list => ∃ rest, list = token :: rest ∧
      tokenAt heap token ≠ none ∧ Leads heap next rest
  | _, list => list = []

/-- A push that `pending` counts, and that still has its token. -/
def Call.inFlight : Call Id → Bool
  | .loading _ _ => true
  | .linking _ _ _ => true
  | .publishing _ _ _ => true
  | .discarding _ _ => true
  | .uncounting _ _ => true
  | _ => false

/-- The tokens of a detached list that `pending` counts still. -/
def unsettled : Call Id × List Nat → Nat
  | (.detached _, list) => list.length
  | (.settling _ _ _, list) => list.length
  | (.freeing _ _, list) => list.length - 1
  | _ => 0

/-- What `pending` counts on behalf of a call. -/
def counted (owner : Call Id × List Nat) : Nat :=
  owner.1.inFlight.toNat + unsettled owner

theorem idAt_congr {heap other : Heap Id} {address : Nat}
    (same : tokenAt other address = tokenAt heap address) :
    idAt other address = idAt heap address :=
  congrArg (Option.map Token.id) same

/-- What a call knows of its tokens stays true while they do. -/
theorem Holds.congr {heap other : Heap Id} {call : Call Id} {list : List Nat}
    (holds : Holds heap call list)
    (same : ∀ address ∈ list,
      tokenAt other address = tokenAt heap address) :
    Holds other call list := by
  cases call with
  | counting id token =>
      obtain ⟨rfl, named⟩ := holds
      exact ⟨rfl, (idAt_congr (same _ List.mem_cons_self)).trans named⟩
  | loading id token =>
      obtain ⟨rfl, named⟩ := holds
      exact ⟨rfl, (idAt_congr (same _ List.mem_cons_self)).trans named⟩
  | linking id token head =>
      obtain ⟨rfl, named, isOpen⟩ := holds
      exact ⟨rfl, (idAt_congr (same _ List.mem_cons_self)).trans named,
        isOpen⟩
  | publishing id token head =>
      obtain ⟨rfl, isOpen, stored⟩ := holds
      exact ⟨rfl, isOpen, (same _ List.mem_cons_self).trans stored⟩
  | discarding id token =>
      obtain ⟨rfl, named⟩ := holds
      exact ⟨rfl, (idAt_congr (same _ List.mem_cons_self)).trans named⟩
  | taking point =>
      cases point with
      | none => exact holds
      | some head => exact holds
  | detached pointer => exact Leads.congr holds same
  | settling token next point =>
      obtain ⟨rest, rfl, live, leads⟩ := holds
      refine ⟨rest, rfl, ?_, leads.congr ?_⟩
      · rw [same _ List.mem_cons_self]
        exact live
      · intro address member
        exact same address (List.mem_cons_of_mem _ member)
  | freeing token next =>
      obtain ⟨rest, rfl, live, leads⟩ := holds
      refine ⟨rest, rfl, ?_, leads.congr ?_⟩
      · rw [same _ List.mem_cons_self]
        exact live
      · intro address member
        exact same address (List.mem_cons_of_mem _ member)
  | _ => exact holds

/-! ## One access -/

/-- The identities an effect put into the queue, and took out of it. -/
def Effect.published? : Effect Id → List Id
  | .published id => [id]
  | _ => []

def Effect.returned? : Effect Id → List Id
  | .took _ tokens => tokens.getD []
  | .closed _ tokens => tokens.getD []
  | _ => []

/-- A list that was detached ends, and the counter was not zero. -/
def Effect.Proper : Effect Id → Prop
  | .took _ tokens => tokens.isSome
  | .closed _ tokens => tokens.isSome
  | .metZero => False
  | _ => True

/-- What an access of a call does to the tokens it holds and to those in the
queue.  Those of the other calls stay as they are. -/
structure Advances (shared : Shared Id) (linked : List Nat)
    (owner : Call Id × List Nat) (next : Shared Id) (linkedNext : List Nat)
    (ownerNext : Call Id × List Nat) (effect : Effect Id) : Prop where
  stacked : Stacked next linkedNext
  holds : Holds next.heap ownerNext.1 ownerNext.2
  apart : (linkedNext ++ ownerNext.2).Nodup
  /-- No token of another call is taken, and none of the own is lost. -/
  live : ∀ address, tokenAt next.heap address ≠ none ↔
    address ∈ linkedNext ++ ownerNext.2 ∨
      (address ∉ linked ++ owner.2 ∧ tokenAt shared.heap address ≠ none)
  fresh : ∀ address ∈ linkedNext ++ ownerNext.2,
    address ∈ linked ++ owner.2 ∨ tokenAt shared.heap address = none
  elsewhere : ∀ address, address ∉ owner.2 →
    tokenAt shared.heap address ≠ none →
    tokenAt next.heap address = tokenAt shared.heap address
  pending : next.pending + linked.length + counted owner =
    shared.pending + linkedNext.length + counted ownerNext
  accounts : (effect.published? ++ ids shared.heap linked).Perm
    (effect.returned? ++ ids next.heap linkedNext)
  proper : effect.Proper

/-- What a call and the queue are before an access of the call. -/
structure Standing (shared : Shared Id) (linked : List Nat)
    (owner : Call Id × List Nat) : Prop where
  stacked : Stacked shared linked
  holds : Holds shared.heap owner.1 owner.2
  apart : (linked ++ owner.2).Nodup
  live : ∀ address ∈ linked ++ owner.2, tokenAt shared.heap address ≠ none
  pending : linked.length + counted owner ≤ shared.pending

section Access

variable {shared next : Shared Id} {linked list : List Nat}
  {call after : Call Id} {effect : Effect Id} {id : Id} {token : Nat}

/-- An access that moves no token and writes none. -/
theorem Standing.quiet (standing : Standing shared linked (call, list))
    {pending : Nat} (holds : Holds shared.heap after list)
    (counts : pending + counted (call, list) =
      shared.pending + counted (after, list))
    (publishes : effect.published? = []) (returns : effect.returned? = [])
    (proper : effect.Proper) :
    Advances shared linked (call, list) { shared with pending } linked
      (after, list) effect where
  stacked := standing.stacked
  holds := holds
  apart := standing.apart
  live := by
    intro address
    constructor
    · intro present
      by_cases own : address ∈ linked ++ list
      · exact Or.inl own
      · exact Or.inr ⟨own, present⟩
    · intro owned
      cases owned with
      | inl own => exact standing.live address own
      | inr others => exact others.2
  fresh := fun _ member => Or.inl member
  elsewhere := fun _ _ _ => rfl
  pending := by
    simp only
    omega
  accounts := by
    rw [publishes, returns]
  proper := proper

theorem Standing.still (standing : Standing shared linked (call, list))
    (holds : Holds shared.heap after list)
    (counts : counted (after, list) = counted (call, list))
    (publishes : effect.published? = []) (returns : effect.returned? = [])
    (proper : effect.Proper) :
    Advances shared linked (call, list) shared linked (after, list) effect :=
  standing.quiet holds (by rw [counts]) publishes returns proper

/-- The queue after memory changed at an address that is not linked. -/
theorem Stacked.congr (stacked : Stacked shared linked)
    {heap : Heap Id} (pending : Nat)
    (same : ∀ address ∈ linked,
      tokenAt heap address = tokenAt shared.heap address) :
    Stacked { shared with heap, pending } linked := by
  cases stacked with
  | inl isClosed => exact Or.inl isClosed
  | inr leads => exact Or.inr (leads.congr same)

theorem Standing.create (standing : Standing shared linked (.creating id, []))
    {heap : Heap Id}
    (allocated : allocate shared.heap token ⟨id, .null⟩ = some heap) :
    Advances shared linked (.creating id, []) { shared with heap } linked
      (.counting id token, [token]) .quiet := by
  obtain ⟨vacant, filled, elsewhere⟩ := allocate_eq_some allocated
  have unlinked : token ∉ linked := by
    intro member
    exact standing.live token (List.mem_append_left _ member) vacant
  have apart : ∀ address ∈ linked, address ≠ token := by
    intro address member same
    exact unlinked (same ▸ member)
  have same : ∀ address ∈ linked,
      tokenAt heap address = tokenAt shared.heap address := by
    intro address member
    exact elsewhere address (apart address member)
  refine ⟨standing.stacked.congr _ same, ⟨rfl, ?_⟩, ?_, ?_, ?_, ?_, rfl, ?_,
    trivial⟩
  · rw [idAt, filled]
    rfl
  · rw [List.nodup_append]
    have linkedNodup := standing.apart
    rw [List.append_nil] at linkedNodup
    refine ⟨linkedNodup, List.nodup_singleton _, ?_⟩
    intro address member other isToken
    rw [List.mem_singleton.mp isToken]
    exact apart address member
  · intro address
    by_cases here : address = token
    · subst here
      simp [filled]
    · have live := standing.live address
      rw [elsewhere address here]
      simp only [List.append_nil] at live ⊢
      simp only [List.mem_append, List.mem_singleton, here, or_false]
      tauto
  · intro address member
    cases List.mem_append.mp member with
    | inl isLinked => exact Or.inl (List.mem_append_left _ isLinked)
    | inr isToken =>
        rw [List.mem_singleton.mp isToken]
        exact Or.inr vacant
  · intro address _ live
    apply elsewhere
    intro here
    rw [here] at live
    exact live vacant
  · rw [ids_congr same]
    exact .refl _

/-- The call frees the first of its tokens. -/
theorem Standing.release
    (standing : Standing shared linked (call, token :: list))
    {heap : Heap Id} (freed : free shared.heap token = some heap)
    (holds : Holds heap after list)
    (counts : counted (call, token :: list) = counted (after, list))
    (publishes : effect.published? = []) (returns : effect.returned? = [])
    (proper : effect.Proper) :
    Advances shared linked (call, token :: list) { shared with heap } linked
      (after, list) effect := by
  obtain ⟨vacant, elsewhere⟩ := free_eq_some freed
  have nodup := standing.apart
  rw [List.nodup_append] at nodup
  obtain ⟨linkedNodup, ownNodup, disjoint⟩ := nodup
  obtain ⟨notInRest, restNodup⟩ := List.nodup_cons.mp ownNodup
  have apart : ∀ address ∈ linked, address ≠ token := by
    intro address member
    exact disjoint address member token List.mem_cons_self
  have same : ∀ address ∈ linked,
      tokenAt heap address = tokenAt shared.heap address := by
    intro address member
    exact elsewhere address (apart address member)
  refine ⟨standing.stacked.congr _ same, holds, ?_, ?_, ?_, ?_, ?_, ?_,
    proper⟩
  · rw [List.nodup_append]
    refine ⟨linkedNodup, restNodup, ?_⟩
    intro address member other inRest
    exact disjoint address member other (List.mem_cons_of_mem _ inRest)
  · intro address
    by_cases here : address = token
    · subst here
      have unlinked : address ∉ linked := fun member =>
        apart address member rfl
      simp [vacant, unlinked, notInRest]
    · have live := standing.live address
      rw [elsewhere address here]
      simp only [List.mem_append, List.mem_cons, here, false_or] at live ⊢
      tauto
  · intro address member
    apply Or.inl
    cases List.mem_append.mp member with
    | inl isLinked => exact List.mem_append_left _ isLinked
    | inr inRest =>
        exact List.mem_append_right _ (List.mem_cons_of_mem _ inRest)
  · intro address notOwn _
    apply elsewhere
    intro here
    rw [here] at notOwn
    exact notOwn List.mem_cons_self
  · simp only [counts]
  · rw [publishes, returns, ids_congr same]

/-- The push links its token to the head it has read. -/
theorem Standing.link {head : Pointer}
    (standing : Standing shared linked (.linking id token head, list))
    {stored : Token Id} (present : tokenAt shared.heap token = some stored) :
    Advances shared linked (.linking id token head, list)
      { shared with
        heap := shared.heap.set token (some { stored with next := head }) }
      linked (.publishing id token head, list) .quiet := by
  obtain ⟨rfl, named, isOpen⟩ := standing.holds
  have nodup := standing.apart
  rw [List.nodup_append] at nodup
  have apart : ∀ address ∈ linked, address ≠ token := by
    intro address member
    exact nodup.2.2 address member token List.mem_cons_self
  have same : ∀ address ∈ linked,
      tokenAt (shared.heap.set token (some { stored with next := head }))
        address = tokenAt shared.heap address := by
    intro address member
    exact tokenAt_set_ne (apart address member)
  have written :
      tokenAt (shared.heap.set token (some { stored with next := head }))
        token = some { stored with next := head } :=
    tokenAt_set_self (lt_length_of_tokenAt present)
  have isNamed : stored.id = id := by
    rw [idAt, present] at named
    exact Option.some.inj named
  refine ⟨standing.stacked.congr _ same, ⟨rfl, isOpen, ?_⟩, standing.apart,
    ?_, fun _ member => Or.inl member, ?_, rfl, ?_, trivial⟩
  · rw [written, isNamed]
  · intro address
    by_cases here : address = token
    · subst here
      simp [written]
    · have live := standing.live address
      rw [tokenAt_set_ne here]
      tauto
  · intro address notOwn _
    apply tokenAt_set_ne
    intro here
    rw [here] at notOwn
    exact notOwn List.mem_cons_self
  · rw [ids_congr same]
    exact .refl _

/-- The push publishes its token on top of the head it found again. -/
theorem Standing.publish {head : Pointer}
    (standing : Standing shared linked (.publishing id token head, list))
    (found : shared.head = head) :
    Advances shared linked (.publishing id token head, list)
      { shared with head := .token token } (token :: linked)
      (.pushed id, []) (.published id) := by
  obtain ⟨rfl, isOpen, stored⟩ := standing.holds
  have leads : Leads shared.heap head linked := by
    cases standing.stacked with
    | inl isClosed => exact absurd (found.symm.trans isClosed.1) isOpen
    | inr leads =>
        rw [← found]
        exact leads
  have moved : (linked ++ [token]).Perm (token :: linked) :=
    List.perm_append_singleton ..
  refine ⟨Or.inr (leads_token.mpr ⟨_, _, rfl, stored, leads⟩), rfl, ?_, ?_,
    ?_, fun _ _ _ => rfl, ?_, ?_, trivial⟩
  · rw [List.append_nil]
    exact moved.nodup_iff.mp standing.apart
  · intro address
    have live := standing.live address
    simp only [List.append_nil, ← moved.mem_iff]
    tauto
  · intro address member
    rw [List.append_nil] at member
    exact Or.inl (moved.mem_iff.mpr member)
  · simp [counted, Call.inFlight, unsettled]
    omega
  · simp [Effect.published?, Effect.returned?, ids, idAt, stored]

/-- The whole queue is detached for the call. -/
theorem Standing.detach (standing : Standing shared linked (call, []))
    {head : Pointer} (holdsNothing : counted (call, []) = 0)
    (isOpen : shared.head ≠ .closedSentinel)
    (emptied : Stacked { shared with head } [])
    (publishes : effect.published? = [])
    (returns : effect.returned? =
      (tokensFrom shared.heap shared.head).getD [])
    (proper : (tokensFrom shared.heap shared.head).isSome → effect.Proper) :
    Advances shared linked (call, []) { shared with head } []
      (.detached shared.head, linked) effect := by
  have leads : Leads shared.heap shared.head linked := by
    cases standing.stacked with
    | inl isClosed => exact absurd isClosed.1 isOpen
    | inr leads => exact leads
  have walked := leads.tokensFrom
  have nodup := standing.apart
  rw [List.append_nil] at nodup
  refine ⟨emptied, leads, nodup, ?_, ?_, fun _ _ _ => rfl, ?_, ?_, ?_⟩
  · intro address
    have live := standing.live address
    simp only [List.append_nil, List.nil_append] at live ⊢
    tauto
  · intro address member
    exact Or.inl (List.mem_append_left _ member)
  · simp only [holdsNothing]
    simp [counted, Call.inFlight, unsettled]
  · rw [publishes, returns, walked]
    simp [ids]
  · apply proper
    rw [walked]
    rfl

/-- Where the counter is positive an access of `settle_pending` goes on, or
takes one away. -/
theorem settlePending_cases (spurious : Bool) (point : SettlePoint)
    {pending : Nat} (positive : 0 < pending) :
    (∃ onward, settlePending spurious pending point =
      (pending, .again onward)) ∨
    settlePending spurious pending point = (pending - 1, .settled) := by
  have goesOn : observe pending = .again (.exchange pending) := by
    cases pending with
    | zero => exact absurd positive (Nat.lt_irrefl _)
    | succ rest => rfl
  cases point with
  | load => exact Or.inl ⟨_, congrArg (Prod.mk pending) goesOn⟩
  | exchange observed =>
      rw [settlePending]
      split
      · rename_i found
        rw [found.1]
        exact Or.inr rfl
      · exact Or.inl ⟨_, congrArg (Prod.mk pending) goesOn⟩

/-- An access of `settle_pending`, made on behalf of a push or of the owner of
a list. -/
theorem Standing.settle (standing : Standing shared linked (call, list))
    {spurious : Bool} {point : SettlePoint}
    {again : SettlePoint → Call Id} {finished : Call Id}
    (counts : counted (call, list) = counted (finished, list) + 1)
    (goesOn : ∀ onward, Holds shared.heap (again onward) list ∧
      counted (again onward, list) = counted (call, list))
    (holds : Holds shared.heap finished list) :
    ∃ linkedNext listNext,
      Advances shared linked (call, list)
        { shared with
          pending := (settlePending spurious shared.pending point).1 }
        linkedNext
        ((afterSettle again finished
          (settlePending spurious shared.pending point).2).1, listNext)
        (afterSettle again finished
          (settlePending spurious shared.pending point).2).2 := by
  have covered := standing.pending
  have positive : 0 < shared.pending := by omega
  refine ⟨linked, list, ?_⟩
  cases settlePending_cases spurious point positive with
  | inl again =>
      obtain ⟨onward, again⟩ := again
      rw [again]
      obtain ⟨held, same⟩ := goesOn onward
      exact standing.still held same rfl rfl trivial
  | inr settled =>
      rw [settled]
      have less : shared.pending - 1 + counted (call, list) =
          shared.pending + counted (finished, list) := by
        omega
      exact standing.quiet holds less rfl rfl trivial

/-- One access of a call, whichever it is. -/
theorem Standing.step (standing : Standing shared linked (call, list))
    {choice : Choice}
    (accessed : step shared choice call = some (next, after, effect)) :
    ∃ linkedNext listNext,
      Advances shared linked (call, list) next linkedNext (after, listNext)
        effect := by
  have holds := standing.holds
  unfold FinalizerQueue.step at accessed
  split at accessed
  · split at accessed
    · cases accessed
    · rename_i heap allocated
      cases accessed
      cases (show list = [] from holds)
      exact ⟨_, _, standing.create allocated⟩
  · cases accessed
    refine ⟨_, _, standing.quiet holds ?_ rfl rfl trivial⟩
    simp [counted, Call.inFlight, unsettled]
  · split at accessed
    · cases accessed
      exact ⟨_, _, standing.still holds rfl rfl rfl trivial⟩
    · rename_i isOpen
      cases accessed
      exact ⟨_, _, standing.still ⟨holds.1, holds.2, isOpen⟩ rfl rfl rfl
        trivial⟩
  · split at accessed
    · cases accessed
    · rename_i heap freed
      cases accessed
      cases holds.1
      exact ⟨_, _, standing.release freed rfl rfl rfl rfl trivial⟩
  · obtain ⟨rfl, moved⟩ := Prod.mk.inj (Option.some.inj accessed)
    obtain ⟨rfl, rfl⟩ := Prod.mk.inj moved
    exact standing.settle rfl (fun _ => ⟨holds, rfl⟩) holds
  · split at accessed
    · cases accessed
    · rename_i stored present
      cases accessed
      exact ⟨_, _, standing.link present⟩
  · split at accessed
    · rename_i found
      cases accessed
      exact ⟨_, _, standing.publish found.1⟩
    · cases accessed
      obtain ⟨same, _, stored⟩ := holds
      refine ⟨_, _, standing.still ⟨same, ?_⟩ rfl rfl rfl trivial⟩
      rw [idAt, stored]
      rfl
  · cases (show list = [] from holds)
    split at accessed
    · cases accessed
      exact ⟨_, _, standing.still (leads_null.mpr rfl) rfl rfl rfl rfl⟩
    · rename_i isOpen
      cases accessed
      exact ⟨_, _, standing.still ⟨rfl, isOpen⟩ rfl rfl rfl trivial⟩
  · obtain ⟨rfl, isOpen⟩ := holds
    split at accessed
    · rename_i found
      obtain ⟨rfl, _⟩ := found
      cases accessed
      have emptied : Stacked { shared with head := .null } [] :=
        Or.inr (leads_null.mpr rfl)
      exact ⟨_, _, standing.detach rfl isOpen emptied rfl rfl id⟩
    · cases accessed
      exact ⟨_, _, standing.still rfl rfl rfl rfl trivial⟩
  · cases (show list = [] from holds)
    split at accessed
    · rename_i isClosed
      cases accessed
      have same : { shared with head := .closedSentinel } = shared := by
        rw [← isClosed]
      rw [same]
      exact ⟨_, _, standing.still (leads_null.mpr rfl) rfl rfl rfl rfl⟩
    · rename_i isOpen
      cases accessed
      exact ⟨_, _, standing.detach rfl isOpen (Or.inl ⟨rfl, rfl⟩) rfl rfl id⟩
  · cases accessed
    cases leads_null.mp holds
    exact ⟨_, _, standing.still rfl rfl rfl rfl trivial⟩
  · split at accessed
    · cases accessed
    · rename_i token present
      cases accessed
      obtain ⟨stored, rest, listEq, same, leads⟩ := leads_token.mp holds
      rw [present] at same
      cases same
      refine ⟨_, _, standing.still ⟨rest, listEq, ?_, leads⟩ rfl rfl rfl
        trivial⟩
      rw [present]
      exact nofun
  · obtain ⟨rfl, moved⟩ := Prod.mk.inj (Option.some.inj accessed)
    obtain ⟨rfl, rfl⟩ := Prod.mk.inj moved
    obtain ⟨rest, listEq, _⟩ := id holds
    refine standing.settle ?_ (fun _ => ⟨holds, rfl⟩) holds
    cases listEq
    rfl
  · split at accessed
    · cases accessed
    · rename_i token next' _ heap freed
      cases accessed
      obtain ⟨rest, rfl, _, leads⟩ := holds
      have nodup := standing.apart
      have notInRest : token ∉ rest :=
        (List.nodup_cons.mp (List.nodup_append.mp nodup).2.1).1
      refine ⟨_, _, standing.release freed (leads.congr ?_) rfl rfl rfl
        trivial⟩
      intro address member
      apply (free_eq_some freed).2
      intro here
      rw [here] at member
      exact notInRest member
  · cases accessed

end Access

end FinalizerQueue

end RustJsi.BackendJsc
