import Mathlib.Algebra.GroupWithZero.Nat
import Mathlib.Data.List.Basic
import Mathlib.Data.List.Count
import Mathlib.Tactic.Common

/-!
# Counts and facts over a list of calls

A step of a pool replaces one call or appends one.  These lemmas say what that
does to the number of calls of a kind and to a fact about each of them.
-/

namespace Interleaving

section Projecting

theorem filterMap_single {Label Item : Type*} (project : Label → Option Item)
    (label : Label) :
    [label].filterMap project = (project label).toList := by
  cases seen : project label <;> simp [seen]

/-- A projection of a history grows by the projection of its last label. -/
theorem filterMap_snoc {Label Item : Type*} (project : Label → Option Item)
    (labels : List Label) (label : Label) :
    (labels ++ [label]).filterMap project =
      labels.filterMap project ++ (project label).toList := by
  rw [List.filterMap_append, filterMap_single]

theorem filterMap_toList {Label Item : Type*} (project : Label → Option Item)
    (labels : List Label) (label : Option Label) :
    (labels ++ label.toList).filterMap project =
      labels.filterMap project ++ (label.bind project).toList := by
  cases label with
  | none => simp
  | some label => exact filterMap_snoc project labels label

end Projecting

section Counting

variable {Call : Type*}

theorem countP_append_single (counted : Call → Bool)
    (calls : List Call) (call : Call) :
    (calls ++ [call]).countP counted =
      calls.countP counted + (counted call).toNat := by
  cases seen : counted call <;> simp [List.countP_append, seen]

/-- Replacing one call moves the count by what the two calls contribute. -/
theorem countP_set_add (counted : Call → Bool) {calls : List Call}
    {index : Nat} {old : Call} (new : Call)
    (present : calls[index]? = some old) :
    (calls.set index new).countP counted + (counted old).toNat =
      calls.countP counted + (counted new).toNat := by
  obtain ⟨bound, oldEq⟩ := List.getElem?_eq_some_iff.mp present
  subst oldEq
  rw [List.countP_set bound]
  have counts : (if counted calls[index] then 1 else 0) ≤
      calls.countP counted := List.boole_getElem_le_countP bound
  cases seenOld : counted calls[index] with
  | false =>
      cases seenNew : counted new <;> simp
  | true =>
      simp only [seenOld, if_true] at counts
      cases seenNew : counted new <;> simp <;> omega

section Replaced

variable {counted : Call → Bool} {calls : List Call} {index : Nat}
  {old new : Call}

theorem countP_set_rise (present : calls[index]? = some old)
    (before : counted old = false) (after : counted new = true) :
    (calls.set index new).countP counted = calls.countP counted + 1 := by
  have added := countP_set_add counted new present
  rw [before, after] at added
  exact added

theorem countP_set_fall (present : calls[index]? = some old)
    (before : counted old = true) (after : counted new = false) :
    (calls.set index new).countP counted + 1 = calls.countP counted := by
  have added := countP_set_add counted new present
  rw [before, after] at added
  exact added

theorem countP_set_stay (present : calls[index]? = some old)
    (same : counted new = counted old) :
    (calls.set index new).countP counted = calls.countP counted := by
  have added := countP_set_add counted new present
  rw [same] at added
  exact Nat.add_right_cancel added

end Replaced

/-- What the calls weigh together. -/
def total (weight : Call → Nat) (calls : List Call) : Nat :=
  (calls.map weight).sum

theorem total_cons (weight : Call → Nat) (call : Call) (calls : List Call) :
    total weight (call :: calls) = weight call + total weight calls :=
  List.sum_cons

theorem total_append_single (weight : Call → Nat) (calls : List Call)
    (call : Call) :
    total weight (calls ++ [call]) = total weight calls + weight call := by
  simp [total]

theorem total_perm (weight : Call → Nat) {first second : List Call}
    (same : first.Perm second) : total weight first = total weight second :=
  (same.map weight).sum_nat

/-- Replacing one call moves the total by what the two calls weigh. -/
theorem total_set_add (weight : Call → Nat) {calls : List Call}
    {index : Nat} {old : Call} (new : Call)
    (present : calls[index]? = some old) :
    total weight (calls.set index new) + weight old =
      total weight calls + weight new := by
  induction calls generalizing index with
  | nil => simp at present
  | cons head tail inductionHypothesis =>
      cases index with
      | zero =>
          cases present
          simp only [total, List.set_cons_zero, List.map_cons, List.sum_cons]
          omega
      | succ index =>
          have rest := inductionHypothesis
            (List.getElem?_cons_succ.symm.trans present)
          simp only [total, List.set_cons_succ, List.map_cons,
            List.sum_cons] at rest ⊢
          omega

theorem total_add (first second : Call → Nat) (calls : List Call) :
    total (fun call => first call + second call) calls =
      total first calls + total second calls := by
  induction calls with
  | nil => rfl
  | cons head tail inductionHypothesis =>
      simp only [total, List.map_cons, List.sum_cons] at inductionHypothesis ⊢
      omega

theorem total_toNat (counted : Call → Bool) (calls : List Call) :
    total (fun call => (counted call).toNat) calls = calls.countP counted := by
  induction calls with
  | nil => rfl
  | cons head tail inductionHypothesis =>
      rw [List.countP_cons, ← inductionHypothesis]
      simp only [total, List.map_cons, List.sum_cons]
      cases counted head <;> simp [Nat.add_comm]

/-- What one call contributes to a list, set apart from the rest. -/
theorem exists_flatMap_perm {Item : Type*} (items : Call → List Item)
    {calls : List Call} {index : Nat} {old : Call}
    (present : calls[index]? = some old) :
    ∃ rest, (calls.flatMap items).Perm (items old ++ rest) ∧
      (∀ new, ((calls.set index new).flatMap items).Perm
        (items new ++ rest)) ∧
      ∀ other call, other ≠ index → calls[other]? = some call →
        items call ⊆ rest := by
  induction calls generalizing index with
  | nil => cases present
  | cons head tail inductionHypothesis =>
      cases index with
      | zero =>
          cases present
          refine ⟨tail.flatMap items, .refl _, fun new => .refl _, ?_⟩
          intro other call apart found
          cases other with
          | zero => exact absurd rfl apart
          | succ other =>
              intro item member
              exact List.mem_flatMap.mpr
                ⟨call, List.mem_of_getElem? found, member⟩
      | succ index =>
          obtain ⟨rest, before, after, others⟩ :=
            inductionHypothesis (List.getElem?_cons_succ.symm.trans present)
          have swap : ∀ middle, (items head ++ (middle ++ rest)).Perm
              (middle ++ (items head ++ rest)) := by
            intro middle
            rw [← List.append_assoc, ← List.append_assoc]
            exact List.perm_append_comm.append_right rest
          refine ⟨items head ++ rest, ?_, ?_, ?_⟩
          · rw [List.flatMap_cons]
            exact (before.append_left _).trans (swap _)
          · intro new
            rw [List.set_cons_succ, List.flatMap_cons]
            exact ((after new).append_left _).trans (swap _)
          · intro other call apart found item member
            cases other with
            | zero =>
                cases found
                exact List.mem_append_left _ member
            | succ other =>
                have differs : other ≠ index := fun same =>
                  apart (congrArg (· + 1) same)
                exact List.mem_append_right _
                  (others other call differs found member)

theorem le_total_of_present (weight : Call → Nat) {calls : List Call}
    {index : Nat} {call : Call} (present : calls[index]? = some call) :
    weight call ≤ total weight calls := by
  obtain ⟨before, after, split⟩ :=
    List.append_of_mem (List.mem_of_getElem? present)
  rw [split, total, List.map_append, List.map_cons, List.sum_append,
    List.sum_cons]
  omega

theorem countP_pos_of_present (counted : Call → Bool) {calls : List Call}
    {index : Nat} {call : Call}
    (present : calls[index]? = some call) (seen : counted call = true) :
    0 < calls.countP counted :=
  List.countP_pos_iff.mpr ⟨call, List.mem_of_getElem? present, seen⟩

theorem mem_set_iff_of_present {calls : List Call} {index : Nat}
    {old : Call} (new : Call) {tested : Call}
    (present : calls[index]? = some old) (different : tested ≠ old) :
    tested ∈ calls.set index new ↔ tested ∈ calls ∨ tested = new := by
  obtain ⟨bound, oldEq⟩ := List.getElem?_eq_some_iff.mp present
  constructor
  · exact List.mem_or_eq_of_mem_set
  · rintro (member | rfl)
    · obtain ⟨other, otherBound, otherEq⟩ := List.mem_iff_getElem.mp member
      have apart : index ≠ other := by
        rintro rfl
        exact different (otherEq.symm.trans oldEq)
      rw [← otherEq, ← List.getElem_set_ne apart (a := new)
        (by simpa using otherBound)]
      exact List.getElem_mem _
    · exact List.mem_set bound _

/-- A kind of call is rarer than a wider kind that has a call outside it. -/
theorem countP_lt_of_present {narrow wide : Call → Bool}
    (narrower : ∀ call, narrow call = true → wide call = true)
    {calls : List Call} {index : Nat} {call : Call}
    (present : calls[index]? = some call) (seen : wide call = true)
    (unseen : narrow call = false) :
    calls.countP narrow < calls.countP wide := by
  induction calls generalizing index with
  | nil => simp at present
  | cons head tail inductionHypothesis =>
      have tailLe : tail.countP narrow ≤ tail.countP wide :=
        List.countP_mono_left fun other _ => narrower other
      rw [List.countP_cons, List.countP_cons]
      cases index with
      | zero =>
          rw [List.getElem?_cons_zero, Option.some.injEq] at present
          subst present
          simp only [seen, unseen, if_true]
          simp
          omega
      | succ index =>
          rw [List.getElem?_cons_succ] at present
          have tailLt := inductionHypothesis present
          by_cases headNarrow : narrow head = true
          · simp only [headNarrow, narrower head headNarrow, if_true]
            omega
          · simp only [headNarrow]
            simp
            omega

end Counting

section EachCall

variable {Call : Type*}

/-- A fact about a list of calls survives a step of one of them when the others
keep it and the new call has it. -/
theorem forall_set {holds : Nat → Call → Prop} {calls : List Call}
    {index : Nat} {new : Call}
    (others : ∀ other call, other ≠ index → calls[other]? = some call →
      holds other call)
    (own : holds index new) :
    ∀ other call, (calls.set index new)[other]? = some call →
      holds other call := by
  intro other call present
  by_cases same : other = index
  · subst same
    have bound : other < calls.length := by
      have := (List.getElem?_eq_some_iff.mp present).1
      simpa using this
    rw [List.getElem?_set_self bound] at present
    cases present
    exact own
  · rw [List.getElem?_set_ne (Ne.symm same)] at present
    exact others other call same present

theorem forall_append_single {holds : Nat → Call → Prop}
    {calls : List Call} {new : Call}
    (others : ∀ other call, calls[other]? = some call → holds other call)
    (own : holds calls.length new) :
    ∀ other call, (calls ++ [new])[other]? = some call →
      holds other call := by
  intro other call present
  rcases Nat.lt_trichotomy other calls.length with before | same | after
  · rw [List.getElem?_append_left before] at present
    exact others other call present
  · subst same
    rw [List.getElem?_concat_length] at present
    cases present
    exact own
  · rw [List.getElem?_eq_none (by simp; omega)] at present
    cases present

end EachCall

end Interleaving
