import Mathlib.Logic.Basic

/-!
# Texts with a separator in them

Two texts joined by a separator that either of them may contain.  Equal joins have equal parts as
soon as the cut between them is known: because the first parts have one length, because no first
part or no second part contains the separator, or because the text is cut at every separator.
-/

namespace AgentGovernance.Lib

variable {α : Type*} {c : α} {s t x y : List α}

/-! ## One separator -/

/-- **Equal joins**: the parts are equal, or one first part is the other with a separator and
    more behind it, and then that is what the other second part begins with. -/
theorem append_separator_eq_iff :
    s ++ c :: x = t ++ c :: y ↔
      (s = t ∧ x = y) ∨ (∃ u, t = s ++ c :: u ∧ x = u ++ c :: y) ∨
        ∃ u, s = t ++ c :: u ∧ y = u ++ c :: x := by
  rw [List.append_eq_append_iff]
  constructor
  · -- what one first part has over the other is empty or begins with the separator
    rintro (⟨u, rfl, hu⟩ | ⟨u, rfl, hu⟩)
    · cases u with
      | nil => exact .inl ⟨by simp, (List.cons.inj hu).2⟩
      | cons d u =>
        obtain ⟨rfl, rfl⟩ := List.cons.inj hu
        exact .inr (.inl ⟨u, rfl, rfl⟩)
    · cases u with
      | nil => exact .inl ⟨by simp, (List.cons.inj hu).2.symm⟩
      | cons d u =>
        obtain ⟨rfl, rfl⟩ := List.cons.inj hu
        exact .inr (.inr ⟨u, rfl, rfl⟩)
  · -- the three cases say how far the first parts reach
    rintro (⟨rfl, rfl⟩ | ⟨u, rfl, rfl⟩ | ⟨u, rfl, rfl⟩)
    · exact .inl ⟨[], by simp⟩
    · exact .inl ⟨c :: u, by simp⟩
    · exact .inr ⟨c :: u, by simp⟩

/-- A second part without the separator is what follows the last separator. -/
theorem append_separator_inj_right (hx : c ∉ x) (hy : c ∉ y) :
    s ++ c :: x = t ++ c :: y ↔ s = t ∧ x = y := by
  rw [append_separator_eq_iff]
  refine ⟨?_, .inl⟩
  rintro (h | ⟨u, -, rfl⟩ | ⟨u, -, rfl⟩)
  · exact h
  · exact absurd (by simp) hx
  · exact absurd (by simp) hy

/-- First parts of one length end at the same separator. -/
theorem append_separator_inj_of_length (h : s.length = t.length) :
    s ++ c :: x = t ++ c :: y ↔ s = t ∧ x = y := by
  refine ⟨fun heq => ?_, fun ⟨hst, hxy⟩ => by rw [hst, hxy]⟩
  obtain ⟨hst, htail⟩ := List.append_inj heq h
  exact ⟨hst, (List.cons.inj htail).2⟩

/-! ## Cutting at every separator -/

variable [BEq α] [LawfulBEq α]

/-- No part of a cut text contains the separator. -/
theorem not_mem_of_mem_splitOn {l p : List α} (hp : p ∈ l.splitOn c) : c ∉ p := by
  induction l generalizing p with
  | nil =>
    rw [List.splitOn_nil, List.mem_singleton] at hp
    simp [hp]
  | cons a l ih =>
    rw [List.splitOn_cons_eq_if_modifyHead] at hp
    -- a separator begins a new part, and another element makes the first part longer
    split at hp
    · rcases List.mem_cons.mp hp with rfl | hp
      · exact List.not_mem_nil
      · exact ih hp
    · rename_i hne
      cases hparts : l.splitOn c with
      | nil => exact absurd hparts (List.splitOn_ne_nil _ _)
      | cons q qs =>
        rw [hparts, List.modifyHead_cons] at hp
        rcases List.mem_cons.mp hp with rfl | hp
        · -- the first part is longer by an element that is no separator
          have hq : c ∉ q := ih (by simp [hparts])
          have ha : c ≠ a := fun h => hne (by simp [h])
          simp [hq, ha]
        · exact ih (by simp [hparts, hp])

/-- **Cutting and joining**: the parts of a text are the one list without a separator in it that
    joins to the text. -/
theorem splitOn_eq_iff {l : List α} {parts : List (List α)} :
    l.splitOn c = parts ↔
      parts ≠ [] ∧ (∀ p ∈ parts, c ∉ p) ∧ [c].intercalate parts = l := by
  constructor
  · rintro rfl
    exact ⟨List.splitOn_ne_nil _ _, fun _ hp => not_mem_of_mem_splitOn hp,
      List.intercalate_splitOn c⟩
  · rintro ⟨hne, hparts, rfl⟩
    exact List.splitOn_intercalate c hparts hne

end AgentGovernance.Lib
