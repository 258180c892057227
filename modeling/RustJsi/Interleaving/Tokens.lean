import Mathlib.Data.List.Nodup
import Mathlib.Tactic.Common

/-!
# Tokens that are issued once and spent once

A history lists the tokens it issued and the ones it spent, and a state knows
which tokens are live.
-/

namespace Interleaving

/-- The live tokens are the issued ones that were not spent. -/
structure Tokens {Token : Type*} (issued spent : List Token)
    (live : Token → Prop) : Prop where
  issuedOnce : issued.Nodup
  spentOnce : spent.Nodup
  known : ∀ token ∈ spent, token ∈ issued
  live_iff : ∀ token, live token ↔ token ∈ issued ∧ token ∉ spent

namespace Tokens

variable {Token : Type*} {issued spent : List Token} {live next : Token → Prop}

theorem empty (none : ∀ token, ¬live token) : Tokens [] [] live where
  issuedOnce := List.nodup_nil
  spentOnce := List.nodup_nil
  known := nofun
  live_iff := fun token => iff_of_false (none token) (List.not_mem_nil ·.1)

theorem congr (tokens : Tokens issued spent live)
    (same : ∀ token, next token ↔ live token) : Tokens issued spent next :=
  { tokens with
    live_iff := fun token => (same token).trans (tokens.live_iff token) }

theorem issue (tokens : Tokens issued spent live)
    (next : Token → Prop) {token : Token}
    (fresh : token ∉ issued)
    (now : ∀ other, next other ↔ other = token ∨ live other) :
    Tokens (issued ++ [token]) spent next := by
  refine ⟨?_, tokens.spentOnce, ?_, ?_⟩
  · rw [← List.concat_eq_append]
    exact tokens.issuedOnce.concat fresh
  · intro other member
    exact List.mem_append_left _ (tokens.known other member)
  · intro other
    rw [now, tokens.live_iff, List.mem_append, List.mem_singleton]
    constructor
    · intro held
      cases held with
      | inl same =>
          subst same
          exact ⟨Or.inr rfl, fun member => fresh (tokens.known other member)⟩
      | inr held => exact ⟨Or.inl held.1, held.2⟩
    · intro held
      cases held.1 with
      | inl member => exact Or.inr ⟨member, held.2⟩
      | inr same => exact Or.inl same

theorem spend (tokens : Tokens issued spent live)
    (next : Token → Prop) {token : Token}
    (held : live token)
    (now : ∀ other, next other ↔ other ≠ token ∧ live other) :
    Tokens issued (spent ++ [token]) next := by
  have was := (tokens.live_iff token).mp held
  refine ⟨tokens.issuedOnce, ?_, ?_, ?_⟩
  · rw [← List.concat_eq_append]
    exact tokens.spentOnce.concat was.2
  · intro other member
    cases List.mem_append.mp member with
    | inl member => exact tokens.known other member
    | inr member =>
        rw [List.mem_singleton.mp member]
        exact was.1
  · intro other
    rw [now, tokens.live_iff, List.mem_append, List.mem_singleton, not_or]
    constructor
    · intro kept
      exact ⟨kept.2.1, kept.2.2, kept.1⟩
    · intro kept
      exact ⟨kept.2.2, kept.1, kept.2.1⟩

end Tokens

end Interleaving
