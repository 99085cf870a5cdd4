import Mathlib.Algebra.Order.Ring.Int
import Mathlib.Data.List.Chain
import Mathlib.Data.List.Range
import Mathlib.Tactic.Linarith

/-!
# Limiting a rate by spacing

A limiter that remembers the time of the last call it admitted and admits the next one when a
fixed interval has passed.  Spacing bounds the number of calls in a window only through the
product of bound and interval: `bounded_iff`.
-/

namespace AgentGovernance.Lib.Spacing

variable (interval : Int)

/-! ## The limiter -/

/-- The interval has passed since the last admitted call, if there was one. -/
def admits (last : Option Int) (now : Int) : Bool :=
  match last with
  | none => true
  | some t => interval ≤ now - t

/-- The times of the admitted calls. -/
def admitted : Option Int → List Int → List Int
  | _, [] => []
  | last, now :: later =>
    if admits interval last now then now :: admitted (some now) later else admitted last later

/-- The times in a half-open window. -/
def inWindow (start size : Int) (times : List Int) : List Int :=
  times.filter fun t => start ≤ t ∧ t < start + size

/-- No window of the given size has more than `n` admitted calls, however the calls arrive. -/
def Bounded (size : Int) (n : Nat) : Prop :=
  ∀ arrivals : List Int, arrivals.Pairwise (· ≤ ·) → ∀ start,
    (inWindow start size (admitted interval none arrivals)).length ≤ n

variable {interval}

/-! ## Spaced times -/

/-- Admitted calls are an interval apart, also from the last one before. -/
theorem spaced_admitted (hinterval : 0 ≤ interval) (last : Option Int) (arrivals : List Int) :
    (admitted interval last arrivals).Pairwise (fun s t => interval ≤ t - s) ∧
      ∀ s ∈ last, ∀ t ∈ admitted interval last arrivals, interval ≤ t - s := by
  induction arrivals generalizing last with
  | nil => simp [admitted]
  | cons now later ih =>
    rw [admitted]
    split
    next hadmits =>
      -- an admitted arrival is the last one for all later arrivals
      obtain ⟨hspaced, hfirst⟩ := ih (some now)
      refine ⟨List.pairwise_cons.mpr ⟨hfirst now rfl, hspaced⟩, ?_⟩
      rintro s rfl t ht
      have hnow : interval ≤ now - s := by simpa [admits] using hadmits
      rcases List.mem_cons.mp ht with rfl | ht
      · exact hnow
      · -- later arrivals are spaced from `now`, which is later than `s`
        have hlater := hfirst now rfl t ht
        linarith
    next => exact ih last

/-- Times that are an interval apart fill up a window. -/
theorem length_mul_lt_of_spaced {l : List Int} {start bound : Int}
    (hspaced : l.Pairwise fun s t => interval ≤ t - s) (hl : ∀ t ∈ l, start ≤ t ∧ t < bound)
    (hbound : start < bound + interval) :
    (l.length : Int) * interval < bound - start + interval := by
  induction l generalizing start with
  | nil =>
    rw [List.length_nil, Nat.cast_zero, zero_mul]
    linarith
  | cons a l ih =>
    obtain ⟨hfirst, hrest⟩ := List.pairwise_cons.mp hspaced
    obtain ⟨hstart, hend⟩ := hl a List.mem_cons_self
    -- the others are in the window that begins an interval after the first
    have htail : (l.length : Int) * interval < bound - (a + interval) + interval := by
      refine ih hrest ?_ (by linarith)
      intro t ht
      have hlater := hfirst t ht
      exact ⟨by linarith, (hl t (List.mem_cons_of_mem _ ht)).2⟩
    rw [List.length_cons, Nat.cast_succ, add_mul, one_mul]
    linarith

/-- Calls that arrive an interval apart are all admitted. -/
theorem admitted_of_isChain {last : Option Int} {arrivals : List Int}
    (hchain : arrivals.IsChain fun s t => interval ≤ t - s)
    (hfirst : ∀ s ∈ last, ∀ t ∈ arrivals.head?, interval ≤ t - s) :
    admitted interval last arrivals = arrivals := by
  induction arrivals generalizing last with
  | nil => rfl
  | cons now later ih =>
    -- the first arrival is far enough behind the last one, and it is the last one for the rest
    have hadmits : admits interval last now = true := by
      cases last with
      | none => rfl
      | some s => simpa [admits] using hfirst s rfl now rfl
    rw [admitted, if_pos hadmits, ih hchain.tail]
    intro s hs t ht
    obtain rfl : now = s := Option.some.inj hs
    cases later with
    | nil => cases ht
    | cons next later =>
      obtain rfl : next = t := Option.some.inj ht
      exact (List.isChain_cons_cons.mp hchain).1

/-! ## Windows -/

/-- A burst: one call more than `n`, each an interval after the one before. -/
def burst (interval : Int) (n : Nat) : List Int :=
  (List.range (n + 1)).map fun i : Nat => (i : Int) * max interval 0

theorem length_burst (n : Nat) : (burst interval n).length = n + 1 := by
  rw [burst, List.length_map, List.length_range]

theorem pairwise_burst (n : Nat) : (burst interval n).Pairwise (· ≤ ·) := by
  refine List.Pairwise.map _ ?_ (List.pairwise_lt_range)
  intro i j hij
  exact mul_le_mul_of_nonneg_right (by exact_mod_cast hij.le) (le_max_right _ _)

/-- A burst is admitted as a whole. -/
theorem admitted_burst (n : Nat) : admitted interval none (burst interval n) = burst interval n := by
  apply admitted_of_isChain
  · rw [burst, List.isChain_map, List.isChain_range]
    intro m _
    have hstep : interval ≤ max interval 0 := le_max_left _ _
    push_cast
    linarith
  · intro s hs
    cases hs

/-- A burst fits in a window of more than `n` intervals. -/
theorem inWindow_burst {size : Int} (hsize : 0 < size) {n : Nat} (hlt : n * interval < size) :
    inWindow 0 size (burst interval n) = burst interval n := by
  have hfits : (n : Int) * max interval 0 < size := by
    rcases le_total interval 0 with hneg | hpos
    · simpa [max_eq_right hneg] using hsize
    · simpa [max_eq_left hpos] using hlt
  have hgap : 0 ≤ max interval 0 := le_max_right _ _
  apply List.filter_eq_self.mpr
  intro t ht
  obtain ⟨i, hi, rfl⟩ := List.mem_map.mp ht
  have hin : (i : Int) ≤ n := by exact_mod_cast Nat.lt_succ_iff.mp (List.mem_range.mp hi)
  -- the last call of the burst is the latest
  have hlate : (i : Int) * max interval 0 ≤ n * max interval 0 :=
    mul_le_mul_of_nonneg_right hin hgap
  apply decide_eq_true
  exact ⟨by simpa using mul_nonneg (Int.natCast_nonneg i) hgap, by linarith⟩

/-- A bound needs as many intervals as make up the window: otherwise a burst exceeds it. -/
theorem le_of_bounded {size : Int} (hsize : 0 < size) {n : Nat} (h : Bounded interval size n) :
    size ≤ n * interval := by
  by_contra hlt
  rw [not_le] at hlt
  have hcount := h (burst interval n) (pairwise_burst n) 0
  rw [admitted_burst, inWindow_burst hsize hlt, length_burst] at hcount
  omega

/-- `n` intervals that make up the window are enough, since the admitted calls are spaced. -/
theorem bounded_of_le {size : Int} (hsize : 0 < size) {n : Nat} (hle : size ≤ n * interval) :
    Bounded interval size n := by
  intro arrivals _ start
  -- a window of positive size has a positive number of intervals at most
  have hpos : 0 < interval := by
    by_contra hneg
    have hnonpos : (n : Int) * interval ≤ 0 :=
      mul_nonpos_of_nonneg_of_nonpos (Int.natCast_nonneg n) (not_lt.mp hneg)
    linarith
  have hspaced := (spaced_admitted hpos.le none arrivals).1
  have hlength : ((inWindow start size (admitted interval none arrivals)).length : Int) *
      interval < start + size - start + interval := by
    apply length_mul_lt_of_spaced (hspaced.filter _)
    · intro t ht
      exact of_decide_eq_true (List.mem_filter.mp ht).2
    · linarith
  -- fewer than `n + 1` intervals fit
  have hlt : ((inWindow start size (admitted interval none arrivals)).length : Int) * interval <
      (n + 1) * interval := by
    have hsum : start + size - start + interval ≤ (n + 1) * interval := by linarith
    exact lt_of_lt_of_le hlength hsum
  have hcount := lt_of_mul_lt_mul_right hlt hpos.le
  omega

/-- **Spacing** bounds the calls in every window of a size by `n` exactly when `n` intervals make
    up the size. -/
theorem bounded_iff {size : Int} (hsize : 0 < size) (n : Nat) :
    Bounded interval size n ↔ size ≤ n * interval :=
  ⟨le_of_bounded hsize, bounded_of_le hsize⟩

end AgentGovernance.Lib.Spacing
