import AgentGovernance.Sre.CircuitBreaker
import Mathlib.Tactic.NormNum

/-!
# The counter of the circuit breaker

`record_failure` counts in a `u32` that only a success sets back, also while the breaker is open.
At the `2^32`-th failure without a success a build with overflow checks panics, and in a release
build the counter starts again at zero, below the threshold that the failure of a half-open
breaker is compared with.

`recordFailure_counts_iff`: nothing else goes wrong.
-/

namespace AgentGovernance.Sre

open AgentGovernance.Lib

namespace CircuitBreaker

/-! ## Counting -/

/-- `failure_count += 1` exceeds the largest `u32`. -/
def Overflows (b : CircuitBreaker) : Prop :=
  2 ^ 32 ≤ b.inner.failureCount.toNat + 1

instance (b : CircuitBreaker) : Decidable b.Overflows :=
  inferInstanceAs (Decidable (_ ≤ _))

/-- The breaker is open, and its last failure was at this time. -/
def OpenSince (b : CircuitBreaker) (now : Instant) : Prop :=
  b.inner.state = .open ∧ b.inner.lastFailureTime = some now

/-- A failure can be counted. -/
def HasRoom (b : CircuitBreaker) : BreakerCall → Prop
  | .recordFailure _ => ¬ b.Overflows
  | _ => True

/-- A failure is counted, and opens a half-open breaker. -/
def Counts (b : CircuitBreaker) : BreakerCall → Prop
  | .recordFailure now =>
    ¬ b.Overflows ∧ (b.inner.state = .halfOpen → (b.recordFailure now).OpenSince now)
  | _ => True

/-- A call in a build with overflow checks, where `none` is a lock that a panic has poisoned. -/
def stepChecked : Option CircuitBreaker → BreakerCall → Option CircuitBreaker
  | none, _ => none
  | some b, .recordFailure now => if b.Overflows then none else some (b.recordFailure now)
  | some b, call => some (b.step call)

end CircuitBreaker

open CircuitBreaker

/-! ## Builds with overflow checks -/

theorem runFrom_stepChecked_none (calls : List BreakerCall) :
    runFrom stepChecked none calls = none := by
  induction calls with
  | nil => rfl
  | cons call calls ih => exact ih

/-- **Step.** A call panics where there is no room, and does otherwise what it does in a release
    build. -/
theorem stepChecked_cases (b : CircuitBreaker) (call : BreakerCall) :
    (b.HasRoom call ∧ stepChecked (some b) call = some (b.step call)) ∨
      (¬ b.HasRoom call ∧ stepChecked (some b) call = none) := by
  cases call with
  | isAllowed now => exact .inl ⟨trivial, rfl⟩
  | recordSuccess => exact .inl ⟨trivial, rfl⟩
  | recordFailure now =>
    by_cases hover : b.Overflows
    · exact .inr ⟨not_not_intro hover, if_pos hover⟩
    · exact .inl ⟨hover, if_neg hover⟩

/-- **Run.** -/
theorem runFrom_stepChecked (b : CircuitBreaker) (calls : List BreakerCall) :
    runFrom stepChecked (some b) calls = some (runFrom CircuitBreaker.step b calls) ↔
      AllSteps CircuitBreaker.step HasRoom b calls := by
  induction calls generalizing b with
  | nil => exact iff_of_true rfl trivial
  | cons call calls ih =>
    rw [runFrom_cons, runFrom_cons, AllSteps]
    rcases stepChecked_cases b call with ⟨hroom, hstep⟩ | ⟨hfull, hstep⟩
    · rw [hstep, ih, and_iff_right hroom]
    · rw [hstep, runFrom_stepChecked_none]
      exact iff_of_false (fun h => by cases h) (fun h => hfull h.1)

/-! ## Histories -/

variable {calls : List BreakerCall} {b : CircuitBreaker}

/-- There is room for a call as long as the failures without a success fit. -/
theorem Tracks.hasRoom_iff (h : Tracks calls b) (hbound : failures calls < 2 ^ 32)
    (call : BreakerCall) : b.HasRoom call ↔ failures (calls ++ [call]) < 2 ^ 32 := by
  cases call with
  | isAllowed now =>
    rw [failures_isAllowed]
    exact iff_of_true trivial hbound
  | recordSuccess =>
    rw [failures_recordSuccess]
    exact iff_of_true trivial (by decide)
  | recordFailure now =>
    -- only a failure needs room for one more
    rw [failures_recordFailure]
    simp only [HasRoom, Overflows, h.count]
    exact not_le

/-- With room for it, a failure opens a breaker that is not closed: it was past its threshold. -/
theorem Tracks.openSince (h : Tracks calls b) {now : Instant} (hroom : ¬ b.Overflows)
    (hstate : b.inner.state ≠ .closed) : (b.recordFailure now).OpenSince now := by
  have hmany : max b.failureThreshold.toNat 1 ≤ failures calls :=
    not_lt.mp fun hfew => hstate (h.closed_iff.mpr hfew)
  -- the counter has room, so it counts this failure too
  have hcount : (b.inner.failureCount + 1).toNat = failures calls + 1 := by
    rw [UInt32.toNat_add, h.count]
    apply Nat.mod_eq_of_lt
    rw [← h.count]
    exact not_le.mp hroom
  have hopen : b.failureThreshold ≤ b.inner.failureCount + 1 := by
    rw [UInt32.le_iff_toNat_le, hcount]
    omega
  unfold CircuitBreaker.recordFailure
  rw [if_pos hopen]
  exact ⟨rfl, rfl⟩

theorem Tracks.counts_iff (h : Tracks calls b) (call : BreakerCall) :
    b.Counts call ↔ b.HasRoom call := by
  cases call with
  | isAllowed now => exact Iff.rfl
  | recordSuccess => exact Iff.rfl
  | recordFailure now =>
    refine and_iff_left_of_imp ?_
    intro hroom hhalf
    apply h.openSince hroom
    rw [hhalf]
    simp

/-- Where the counting of a call is a matter of the room for it, that of a run is one of the
    failures without a success. -/
theorem allSteps_iff_failures (failureThreshold : UInt32) (resetTimeout : Duration)
    {P : CircuitBreaker → BreakerCall → Prop}
    (hP : ∀ past b call, Tracks past b → (P b call ↔ b.HasRoom call))
    (calls : List BreakerCall) :
    AllSteps CircuitBreaker.step P (.new failureThreshold resetTimeout) calls ↔
      ∀ pre, pre <+: calls → failures pre < 2 ^ 32 := by
  apply allSteps_iff_forall_prefix (by decide)
  intro past call hbound
  have htracks := (tracks_run failureThreshold resetTimeout past).2.2 hbound
  rw [hP past _ call htracks, htracks.hasRoom_iff hbound]

/-- **Counting**: in a run of calls every failure is counted and opens a half-open breaker exactly
    when there are never `2^32` failures without a success, and exactly then a build with overflow
    checks does not panic. -/
theorem recordFailure_counts_iff (failureThreshold : UInt32) (resetTimeout : Duration)
    (calls : List BreakerCall) :
    (AllSteps CircuitBreaker.step Counts (.new failureThreshold resetTimeout) calls ↔
      ∀ pre, pre <+: calls → failures pre < 2 ^ 32) ∧
    (runFrom stepChecked (some (.new failureThreshold resetTimeout)) calls =
        some (runFrom CircuitBreaker.step (.new failureThreshold resetTimeout) calls) ↔
      ∀ pre, pre <+: calls → failures pre < 2 ^ 32) := by
  refine ⟨?_, ?_⟩
  · -- while no failure is lost, the counter is the number of failures
    apply allSteps_iff_failures
    exact fun past b call h => h.counts_iff call
  · rw [runFrom_stepChecked]
    apply allSteps_iff_failures
    exact fun past b call _ => Iff.rfl

/-! ## One failure too many -/

theorem failures_replicate (n : Nat) (now : Instant) :
    failures (List.replicate n (.recordFailure now)) = n := by
  induction n with
  | zero => rfl
  | succ n ih => rw [List.replicate_succ', failures_recordFailure, ih]

/-- With no room left, a failure leaves a half-open breaker half open. -/
theorem recordFailure_of_overflows (hfull : b.Overflows) (hthreshold : 0 < b.failureThreshold)
    (now : Instant) : (b.recordFailure now).inner.state = b.inner.state := by
  have hzero : b.inner.failureCount + 1 = 0 := by
    have hlt := b.inner.failureCount.toNat_lt
    apply UInt32.toNat_inj.mp
    rw [UInt32.toNat_add]
    simp only [Overflows] at hfull
    simp only [UInt32.toNat_one, UInt32.toNat_zero]
    omega
  unfold CircuitBreaker.recordFailure
  rw [hzero, if_neg (UInt32.not_le.mpr hthreshold)]

/-- Asked when the timeout is over, a breaker behind failures only is half open. -/
theorem halfOpen_of_failures {n : Nat} (hpos : 0 < n) (hn : n < 2 ^ 32) :
    let b := runFrom CircuitBreaker.step (.new 1 0)
      (List.replicate n (.recordFailure 0) ++ [.isAllowed 0])
    b.inner.state = .halfOpen ∧ b.inner.failureCount.toNat = n ∧ b.failureThreshold = 1 := by
  have hfailures : failures (List.replicate n (.recordFailure 0)) = n := failures_replicate n 0
  obtain ⟨hthreshold, htimeout, htracks⟩ := tracks_run 1 0 (List.replicate n (.recordFailure 0))
  have h := htracks (by rw [hfailures]; exact hn)
  dsimp only
  rw [runFrom_append, runFrom_cons, runFrom_nil]
  generalize runFrom CircuitBreaker.step (.new 1 0) (List.replicate n (.recordFailure 0)) = b at *
  -- all failures are counted, so the breaker has opened
  have hcount : b.inner.failureCount.toNat = n := by rw [h.count, hfailures]
  have hclosed : b.inner.state ≠ .closed := by
    rw [ne_eq, h.closed_iff, hfailures, hthreshold]
    simp only [UInt32.toNat_one, max_self]
    omega
  show (b.isAllowed 0).1.inner.state = _ ∧ (b.isAllowed 0).1.inner.failureCount.toNat = _ ∧
    (b.isAllowed 0).1.failureThreshold = 1
  by_cases hopen : b.inner.state = .open
  · -- with no timeout the first question makes it half open
    obtain ⟨last, -, htime⟩ := h.time hclosed
    rw [isAllowed_open hopen htime, if_pos (by rw [htimeout]; exact Nat.zero_le _)]
    exact ⟨rfl, hcount, hthreshold⟩
  · rw [isAllowed_of_ne_open 0 hopen]
    refine ⟨?_, hcount, hthreshold⟩
    cases hstate : b.inner.state with
    | closed => exact absurd hstate hclosed
    | «open» => exact absurd hstate hopen
    | halfOpen => rfl

/-- The next failure is not counted. -/
theorem not_counts_of_failures {n : Nat} (hpos : 0 < n) (hn : n + 1 = 2 ^ 32) :
    let calls := List.replicate n (.recordFailure 0) ++ [.isAllowed 0]
    let b := runFrom CircuitBreaker.step (.new 1 0) calls
    b.inner.state = .halfOpen ∧ ¬ b.Counts (.recordFailure 1) ∧
      stepChecked (some b) (.recordFailure 1) = none ∧
      (b.recordFailure 1).inner.state = .halfOpen := by
  intro calls b
  obtain ⟨hhalf, hcount, hthreshold⟩ := halfOpen_of_failures hpos (by omega)
  -- the counter is at its end, and the next failure makes it zero
  have hfull : b.Overflows := by
    rw [Overflows, hcount, hn]
  refine ⟨hhalf, fun h => h.1 hfull, if_pos hfull, ?_⟩
  rw [recordFailure_of_overflows hfull (by rw [hthreshold]; decide), hhalf]

/-- **The counter wraps** when a half-open breaker with the largest count fails: it panics, or it
    stays half open and lets every call through. -/
theorem recordFailure_wraps :
    let calls := List.replicate (2 ^ 32 - 1) (.recordFailure 0) ++ [.isAllowed 0]
    let b := runFrom CircuitBreaker.step (.new 1 0) calls
    b.inner.state = .halfOpen ∧ ¬ b.Counts (.recordFailure 1) ∧
      stepChecked (some b) (.recordFailure 1) = none ∧
      (b.recordFailure 1).inner.state = .halfOpen :=
  not_counts_of_failures (by norm_num) (by norm_num)

end AgentGovernance.Sre
