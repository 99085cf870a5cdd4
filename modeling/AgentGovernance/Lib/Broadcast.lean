import Mathlib.Data.List.Basic

/-!
# Broadcast channels

A channel with any number of receivers that retains the last values only.  The channel is the
list of the values sent so far, and a receiver is the position of the value that it takes
next.  A receiver that fell behind gets one error and goes on at the oldest retained value.

Over any type of values and any capacity.
-/

namespace AgentGovernance.Lib.Broadcast

variable {α : Type*}

inductive Received (α : Type*) where
  | empty
  | lagged
  | value (a : α)

/-- The number of values that a receiver has not taken yet. -/
def unread (sent : List α) (next : Nat) : Nat :=
  sent.length - next

/-- Receiving without waiting, with the position afterwards. -/
def recv (capacity : Nat) (sent : List α) (next : Nat) : Received α × Nat :=
  match sent[next]? with
  | none => (.empty, next)
  | some a =>
    if capacity < unread sent next then (.lagged, sent.length - capacity) else (.value a, next + 1)

variable {capacity : Nat} {sent : List α} {next : Nat}

/-- The value at the position is the first of those that are not taken. -/
theorem drop_eq_cons {a : α} (h : sent[next]? = some a) :
    sent.drop next = a :: sent.drop (next + 1) := by
  obtain ⟨hlt, rfl⟩ := List.getElem?_eq_some_iff.mp h
  exact List.drop_eq_getElem_cons hlt

/-- **Receiving**: there is nothing to take, or the receiver fell behind, or it takes the next
    value. -/
theorem recv_cases (capacity : Nat) (sent : List α) (next : Nat) :
    (sent.length ≤ next ∧ recv capacity sent next = (.empty, next)) ∨
    (capacity < unread sent next ∧
      recv capacity sent next = (.lagged, sent.length - capacity)) ∨
    (∃ a, sent[next]? = some a ∧ unread sent next ≤ capacity ∧
      recv capacity sent next = (.value a, next + 1)) := by
  cases ha : sent[next]? with
  | none =>
    left
    refine ⟨List.getElem?_eq_none_iff.mp ha, ?_⟩
    simp only [recv, ha]
  | some a =>
    right
    -- a receiver that fell behind is told so before it gets a value, also one that still exists
    by_cases hlag : capacity < unread sent next
    · left
      refine ⟨hlag, ?_⟩
      simp only [recv, ha, if_pos hlag]
    · right
      refine ⟨a, rfl, Nat.not_lt.mp hlag, ?_⟩
      simp only [recv, ha, if_neg hlag]

end AgentGovernance.Lib.Broadcast
