import Mathlib.Data.List.Basic
import Mathlib.Order.Basic
import Mathlib.Order.Nat

/-!
# Selecting by position

`select f p xs` keeps the values that `f` finds at the positions given by `p`, in their order.

Over any types; a position is counted from the front of the list.
-/

namespace AgentGovernance.Lib

variable {α β : Type*} (f : α → Option β)

/-- The values that `f` finds at the selected positions. -/
def select (p : Nat → Bool) : List α → List β
  | [] => []
  | x :: xs => (if p 0 then (f x).toList else []) ++ select (fun i => p (i + 1)) xs

variable {f} {p q : Nat → Bool}

/-- Positions where nothing is found do not matter. -/
theorem select_congr {xs : List α}
    (h : ∀ i x, xs[i]? = some x → f x ≠ none → p i = q i) : select f p xs = select f q xs := by
  induction xs generalizing p q with
  | nil => rfl
  | cons x xs ih =>
    have htail : select f (fun i => p (i + 1)) xs = select f (fun i => q (i + 1)) xs :=
      ih fun i y hy hf => h (i + 1) y hy hf
    simp only [select, htail]
    cases hx : f x with
    | none => simp
    | some b => rw [h 0 x rfl (by simp [hx])]

theorem select_append (xs ys : List α) :
    select f p (xs ++ ys) = select f p xs ++ select f (fun i => p (xs.length + i)) ys := by
  induction xs generalizing p with
  | nil => simp [select]
  | cons x xs ih =>
    simp only [List.cons_append, select, ih, List.append_assoc, List.length_cons]
    simp only [Nat.add_right_comm _ 1]

/-- No selected position. -/
theorem select_false (xs : List α) : select f (fun _ => false) xs = [] := by
  induction xs with
  | nil => rfl
  | cons x xs ih => simpa [select] using ih

/-- Every position. -/
theorem select_true (xs : List α) : select f (fun _ => true) xs = xs.filterMap f := by
  induction xs with
  | nil => rfl
  | cons x xs ih => cases hx : f x <;> simp [select, ih, hx]

/-- Nothing is selected behind the list. -/
theorem select_append_of_lt {xs : List α} (ys : List α) (h : ∀ i, p i = true → i < xs.length) :
    select f p (xs ++ ys) = select f p xs := by
  have hnone : select f (fun i => p (xs.length + i)) ys = [] := by
    rw [← select_false (f := f) ys]
    apply select_congr
    intro i y _ _
    cases hi : p (xs.length + i) with
    | false => rfl
    | true => exact absurd (h _ hi) (by omega)
  rw [select_append, hnone, List.append_nil]

/-- From a position on everything is selected. -/
theorem select_split (xs : List α) {k : Nat} (h : ∀ i, k ≤ i → p i = true) :
    select f p xs = select f p (xs.take k) ++ (xs.drop k).filterMap f := by
  by_cases hk : k ≤ xs.length
  · -- behind the first `k` everything is selected
    have hdrop : select f (fun i => p ((xs.take k).length + i)) (xs.drop k) =
        (xs.drop k).filterMap f := by
      rw [← select_true]
      apply select_congr
      intro i y _ _
      rw [List.length_take, Nat.min_eq_left hk]
      exact h _ (Nat.le_add_right k i)
    conv_lhs => rw [← List.take_append_drop k xs]
    rw [select_append, hdrop]
  · rw [List.take_of_length_le (by omega), List.drop_eq_nil_of_le (by omega)]
    simp

/-- Selecting one more position, behind the others. -/
theorem select_insert {xs : List α} {k : Nat} {x : α} (hx : xs[k]? = some x)
    (h : ∀ i, p i = true → i < k) :
    select f (fun i => p i || decide (i = k)) xs = select f p xs ++ (f x).toList := by
  obtain ⟨hlt, rfl⟩ := List.getElem?_eq_some_iff.mp hx
  have hlength : (xs.take k).length = k := by
    rw [List.length_take, Nat.min_eq_left hlt.le]
  -- the list before `k`, at `k` and behind it
  have hsplit : xs = xs.take k ++ xs[k] :: xs.drop (k + 1) := by
    rw [← List.drop_eq_getElem_cons hlt, List.take_append_drop]
  have hlast : p k = false := by
    cases hk : p k with
    | false => rfl
    | true => exact absurd (h k hk) (Nat.lt_irrefl k)
  -- below `k` and above it the new predicate selects what the old one does
  have hbelow : select f (fun i => p i || decide (i = k)) (xs.take k) = select f p (xs.take k) := by
    apply select_congr
    intro i y hy _
    have hi : i < k := by
      have hi := (List.getElem?_eq_some_iff.mp hy).1
      rwa [hlength] at hi
    simp [hi.ne]
  have habove : select f (fun i => p (k + (i + 1)) || decide (k + (i + 1) = k)) (xs.drop (k + 1)) =
      [] := by
    rw [← select_false (f := f) (xs.drop (k + 1))]
    apply select_congr
    intro i y _ _
    cases hi : p (k + (i + 1)) with
    | false => simp
    | true => exact absurd (h _ hi) (by omega)
  -- the old selection does not reach `k`
  have hselect : select f p xs = select f p (xs.take k) := by
    conv_lhs => rw [← List.take_append_drop k xs]
    apply select_append_of_lt
    rw [hlength]
    exact h
  rw [hselect]
  conv_lhs => rw [hsplit]
  rw [select_append, hbelow, select, hlength, habove]
  simp

/-- A smaller selection finds no more. -/
theorem length_select_le (xs : List α) (h : ∀ i, p i = true → q i = true) :
    (select f p xs).length ≤ (select f q xs).length := by
  induction xs generalizing p q with
  | nil => exact le_rfl
  | cons x xs ih =>
    have htail := ih (p := fun i => p (i + 1)) (q := fun i => q (i + 1)) fun i => h (i + 1)
    simp only [select, List.length_append]
    cases hp : p 0 with
    | false => simpa using htail.trans (Nat.le_add_left _ _)
    | true => simpa [h 0 hp] using htail

/-- **Selections**: a smaller selection finds the same exactly when it misses no position where
    something is found. -/
theorem select_eq_iff {xs : List α} (h : ∀ i, p i = true → q i = true) :
    select f p xs = select f q xs ↔
      ∀ i x, xs[i]? = some x → f x ≠ none → q i = true → p i = true := by
  constructor
  · intro heq
    induction xs generalizing p q with
    | nil => simp
    | cons x xs ih =>
      have hmono : ∀ i, p (i + 1) = true → q (i + 1) = true := fun i => h (i + 1)
      have htail := length_select_le (f := f) xs hmono
      -- a miss at the front would make the smaller selection shorter
      have hhead : f x ≠ none → q 0 = true → p 0 = true := by
        intro hx hq
        by_contra hp
        obtain ⟨b, hb⟩ := Option.ne_none_iff_exists'.mp hx
        have hlength := congrArg List.length heq
        simp only [select, hp, hq, hb, if_true, List.length_append] at hlength
        simp at hlength
        omega
      -- the fronts agree, so the rests do
      have hsame : select f (fun i => p (i + 1)) xs = select f (fun i => q (i + 1)) xs := by
        simp only [select] at heq
        cases hx : f x with
        | none => simpa [hx] using heq
        | some b =>
          cases hq : q 0 with
          | true =>
            have hp : p 0 = true := hhead (by simp [hx]) hq
            simpa [hp, hq, hx] using heq
          | false =>
            have hp : p 0 = false := by
              cases hp : p 0 with
              | false => rfl
              | true => exact absurd (h 0 hp) (by simp [hq])
            simpa [hp, hq] using heq
      intro i y hy hf hq
      cases i with
      | zero =>
        obtain rfl : x = y := Option.some.inj hy
        exact hhead hf hq
      | succ i => exact ih hmono hsame i y hy hf hq
  · -- where nothing is missed, the two predicates agree on all that `f` keeps
    intro hmiss
    apply select_congr
    intro i x hx hf
    exact Bool.eq_iff_iff.mpr ⟨h i, hmiss i x hx hf⟩

end AgentGovernance.Lib
