import Mathlib.Logic.Function.Basic
import Mathlib.Logic.Relation

/-!
# Forests of parents

A forest given by the parent of each node, if it has one.  A rank that goes down from every node
to its parent rules out cycles and bounds the way to a root, and a new leaf can always be ranked.
-/

namespace AgentGovernance.Lib.ParentForest

variable {α : Type*}

/-- The ancestor a number of steps up, if there is one. -/
def climb (parent : α → Option α) : Nat → α → Option α
  | 0, a => some a
  | n + 1, a => (parent a).bind (climb parent n)

/-- Ranks that are smaller for parents. -/
def Ranked (parent : α → Option α) (rank : α → Nat) : Prop :=
  ∀ a p, parent a = some p → rank p < rank a

/-- A node is an ancestor of another one. -/
def Ancestor (parent : α → Option α) : α → α → Prop :=
  Relation.TransGen fun p a => parent a = some p

variable {parent : α → Option α} {rank : α → Nat}

/-- The way up ends after as many steps as the rank says. -/
theorem Ranked.climb_eq_none (h : Ranked parent rank) {n : Nat} {a : α} (hn : rank a < n) :
    climb parent n a = none := by
  induction n generalizing a with
  | zero => exact absurd hn (Nat.not_lt_zero _)
  | succ n ih =>
    rw [climb]
    cases hparent : parent a with
    | none => rfl
    | some p =>
      -- the rank grows on the way up, so the bound goes down with it
      apply ih
      have hlt := h a p hparent
      omega

theorem Ranked.rank_lt_of_ancestor (h : Ranked parent rank) {p a : α}
    (hancestor : Ancestor parent p a) : rank p < rank a := by
  induction hancestor with
  | single hparent => exact h _ _ hparent
  | tail _ hparent ih => exact Nat.lt_trans ih (h _ _ hparent)

/-- Nothing is its own ancestor. -/
theorem Ranked.not_ancestor_self (h : Ranked parent rank) (a : α) : ¬ Ancestor parent a a :=
  fun hancestor => Nat.lt_irrefl _ (h.rank_lt_of_ancestor hancestor)

/-- **A new leaf**: a node that is no parent so far gets a parent of lower rank than its own. -/
theorem Ranked.graft [DecidableEq α] (h : Ranked parent rank) {a : α} {o : Option α} {r : Nat}
    (hleaf : ∀ b, parent b ≠ some a) (ho : ∀ p, o = some p → p ≠ a ∧ rank p < r) :
    Ranked (Function.update parent a o) (Function.update rank a r) := by
  intro b p hparent
  by_cases hb : b = a
  · subst hb
    rw [Function.update_self] at hparent
    obtain ⟨hne, hlt⟩ := ho p hparent
    rwa [Function.update_of_ne hne, Function.update_self]
  · rw [Function.update_of_ne hb] at hparent
    -- the new leaf is not the parent of an old node
    have hne : p ≠ a := by
      rintro rfl
      exact hleaf b hparent
    rw [Function.update_of_ne hne, Function.update_of_ne hb]
    exact h b p hparent

end AgentGovernance.Lib.ParentForest
