import Mathlib.Data.List.Induction
import Mathlib.Data.List.Perm.Basic

/-!
# The last match in a list

A loop that keeps the last element with a property finds an element that depends on the order of
the list, as soon as there are two.  Two properties have the same last match in every order exactly
when they hold of the same elements.
-/

namespace AgentGovernance.Lib

variable {α : Type*}

/-- The last element with the property. -/
def lastMatch (p : α → Bool) (l : List α) : Option α :=
  l.foldl (fun found a => if p a then some a else found) none

variable {p q : α → Bool} {l : List α} {a : α}

theorem lastMatch_concat : lastMatch p (l ++ [a]) = if p a then some a else lastMatch p l := by
  rw [lastMatch, List.foldl_append]
  rfl

/-- The last match is the first one from the end. -/
theorem lastMatch_eq_find? : lastMatch p l = l.reverse.find? p := by
  induction l using List.reverseRecOn with
  | nil => rfl
  | append_singleton l a ih =>
    rw [lastMatch_concat, ih, List.reverse_append, List.reverse_singleton, List.singleton_append,
      List.find?_cons]
    cases p a with
    | true => rfl
    | false => rfl

theorem mem_of_lastMatch (h : lastMatch p l = some a) : a ∈ l ∧ p a = true := by
  rw [lastMatch_eq_find?] at h
  exact ⟨List.mem_reverse.mp (List.mem_of_find?_eq_some h), List.find?_some h⟩

theorem lastMatch_eq_none_iff : lastMatch p l = none ↔ ∀ a ∈ l, p a = false := by
  rw [lastMatch_eq_find?, List.find?_eq_none]
  simp

/-- The last match is a match that no other follows. -/
theorem lastMatch_eq_some_iff :
    lastMatch p l = some a ↔
      p a = true ∧ ∃ pre post, l = pre ++ a :: post ∧ ∀ b ∈ post, p b = false := by
  rw [lastMatch_eq_find?, List.find?_eq_some_iff_append]
  refine and_congr_right ?_
  intro ha
  constructor
  · -- the last match is the first one of the reversed list, so the two sides are reversed
    rintro ⟨as, bs, hsplit, has⟩
    refine ⟨bs.reverse, as.reverse, ?_, by simpa using has⟩
    rw [← List.reverse_reverse l, hsplit]
    simp
  · rintro ⟨pre, post, rfl, hpost⟩
    exact ⟨post.reverse, pre.reverse, by simp, by simpa using hpost⟩

/-- Properties of the same elements have the same last match. -/
theorem lastMatch_congr (h : ∀ a ∈ l, p a = q a) : lastMatch p l = lastMatch q l := by
  induction l using List.reverseRecOn with
  | nil => rfl
  | append_singleton l b ih =>
    rw [List.forall_mem_append, List.forall_mem_singleton] at h
    rw [lastMatch_concat, lastMatch_concat, ih h.1, h.2]

/-- Every element is the last one in some order. -/
theorem exists_perm_concat (ha : a ∈ l) : ∃ l', (l' ++ [a]).Perm l := by
  obtain ⟨s, t, rfl⟩ := List.append_of_mem ha
  refine ⟨s ++ t, ?_⟩
  rw [List.append_assoc]
  apply List.Perm.append_left
  exact List.perm_append_singleton a t

/-- In some order an element with one property only is last, and then the last matches differ. -/
theorem exists_perm_lastMatch_ne (ha : a ∈ l) (hp : p a = true) (hq : q a = false) :
    ∃ l', l'.Perm l ∧ lastMatch p l' ≠ lastMatch q l' := by
  obtain ⟨l', hperm⟩ := exists_perm_concat ha
  refine ⟨l' ++ [a], hperm, ?_⟩
  rw [lastMatch_concat, if_pos hp]
  intro hsame
  have hmatch := (mem_of_lastMatch hsame.symm).2
  rw [hq] at hmatch
  cases hmatch

/-- **One last match in every order**, exactly for properties of the same elements. -/
theorem forall_perm_lastMatch_eq_iff :
    (∀ l', l'.Perm l → lastMatch p l' = lastMatch q l') ↔ ∀ a ∈ l, p a = q a := by
  constructor
  · intro h a ha
    -- where `p` and `q` differ at `a`, moving `a` to the end tells them apart
    cases hp : p a with
    | true =>
      by_contra hq
      obtain ⟨l', hperm, hne⟩ := exists_perm_lastMatch_ne ha hp (by simpa using Ne.symm hq)
      exact hne (h l' hperm)
    | false =>
      by_contra hq
      obtain ⟨l', hperm, hne⟩ := exists_perm_lastMatch_ne ha (by simpa using Ne.symm hq) hp
      exact hne (h l' hperm).symm
  · intro h l' hperm
    apply lastMatch_congr
    intro a ha
    exact h a (hperm.mem_iff.mp ha)

end AgentGovernance.Lib
