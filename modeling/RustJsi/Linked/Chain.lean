import Mathlib.Data.List.Basic
import Mathlib.Data.List.Nodup
import Mathlib.Logic.Function.Basic
import Mathlib.Tactic.Common

/-!
# Lists threaded through cells

A linked list is a head and, for every node that is linked, the node that
follows.  A chain says which nodes the head leads to before the list ends: it
is determined by the links, so a list that ends visits no node twice.
-/

namespace Linked

variable {Node : Type*}

/-- The head leads through exactly these nodes to the end of the list.  A node
without a link has no entry. -/
inductive Chain (links : Node → Option (Option Node)) :
    Option Node → List Node → Prop
  | nil : Chain links none []
  | cons {node : Node} {next : Option Node} {rest : List Node}
      (linked : links node = some next) (later : Chain links next rest) :
      Chain links (some node) (node :: rest)

namespace Chain

variable {links links' : Node → Option (Option Node)} {head : Option Node}
  {nodes : List Node}

theorem nil_iff : Chain links none nodes ↔ nodes = [] := by
  constructor
  · intro chain
    cases chain
    rfl
  · intro empty
    subst empty
    exact .nil

theorem some_iff {node : Node} :
    Chain links (some node) nodes ↔
      ∃ next rest, nodes = node :: rest ∧ links node = some next ∧
        Chain links next rest := by
  constructor
  · intro chain
    cases chain with
    | cons linked later => exact ⟨_, _, rfl, linked, later⟩
  · intro leads
    obtain ⟨next, rest, nodesEq, linked, later⟩ := leads
    subst nodesEq
    exact .cons linked later

/-- The links determine where the head leads. -/
theorem unique {others : List Node} (chain : Chain links head nodes)
    (other : Chain links head others) : nodes = others := by
  induction chain generalizing others with
  | nil => exact (nil_iff.mp other).symm
  | cons linked later inductionHypothesis =>
      obtain ⟨next, rest, othersEq, same, tail⟩ := some_iff.mp other
      rw [linked] at same
      cases same
      rw [othersEq, inductionHypothesis tail]

theorem linked (chain : Chain links head nodes) :
    ∀ node ∈ nodes, ∃ next, links node = some next := by
  induction chain with
  | nil =>
      intro node member
      cases member
  | cons linked later inductionHypothesis =>
      intro node member
      cases member with
      | head => exact ⟨_, linked⟩
      | tail _ later => exact inductionHypothesis node later

/-- Every node of a chain begins a chain of its own, its suffix. -/
theorem suffix (chain : Chain links head nodes) {node : Node}
    (member : node ∈ nodes) :
    ∃ before after, nodes = before ++ node :: after ∧
      Chain links (some node) (node :: after) := by
  induction chain with
  | nil => cases member
  | cons linked later inductionHypothesis =>
      cases member with
      | head => exact ⟨[], _, rfl, .cons linked later⟩
      | tail _ inRest =>
          obtain ⟨before, after, restEq, tail⟩ := inductionHypothesis inRest
          exact ⟨_ :: before, after, by rw [restEq, List.cons_append], tail⟩

/-- A list that ends has no cycle. -/
theorem nodup (chain : Chain links head nodes) : nodes.Nodup := by
  induction chain with
  | nil => exact List.nodup_nil
  | @cons node next rest linked later inductionHypothesis =>
      refine List.nodup_cons.mpr ⟨?_, inductionHypothesis⟩
      intro again
      obtain ⟨before, after, restEq, tail⟩ := later.suffix again
      have same := unique (.cons linked later) tail
      have lengths := congrArg List.length same
      rw [restEq] at lengths
      simp at lengths
      omega

/-- Links elsewhere do not matter. -/
theorem congr (chain : Chain links head nodes)
    (same : ∀ node ∈ nodes, links' node = links node) :
    Chain links' head nodes := by
  induction chain with
  | nil => exact .nil
  | cons linked later inductionHypothesis =>
      refine .cons ?_ (inductionHypothesis ?_)
      · rw [same _ List.mem_cons_self, linked]
      · intro node member
        exact same node (List.mem_cons_of_mem _ member)

section Updates

variable [DecidableEq Node]

/-- A node that is not linked yet becomes the head. -/
theorem push {node : Node} (chain : Chain links head nodes)
    (unlinked : links node = none) :
    Chain (Function.update links node (some head)) (some node)
      (node :: nodes) := by
  refine .cons (Function.update_self ..) (chain.congr ?_)
  intro other member
  apply Function.update_of_ne
  intro same
  obtain ⟨next, linked⟩ := chain.linked other member
  rw [same, unlinked] at linked
  cases linked

/-- The head is taken off the list, which begins after it. -/
theorem pop {node : Node} {next : Option Node}
    (chain : Chain links (some node) nodes)
    (linked : links node = some next) :
    ∃ rest, nodes = node :: rest ∧
      Chain (Function.update links node none) next rest := by
  obtain ⟨follower, rest, nodesEq, same, later⟩ := some_iff.mp chain
  rw [linked] at same
  cases same
  have apart := chain.nodup
  rw [nodesEq] at apart
  refine ⟨rest, nodesEq, later.congr ?_⟩
  intro other member
  apply Function.update_of_ne
  intro same
  subst same
  exact (List.nodup_cons.mp apart).1 member

end Updates

end Chain

end Linked
