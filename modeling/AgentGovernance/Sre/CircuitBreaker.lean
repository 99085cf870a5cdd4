import AgentGovernance.Lib.Runs
import Mathlib.Algebra.Group.Nat.Defs
import Mathlib.Data.List.DropRight
import Mathlib.Order.Lattice
import Mathlib.Order.Defs.LinearOrder

/-!
# The circuit breaker

`crates/core/sre/src/circuit_breaker.rs`.  The breaker keeps one of three states, a counter and
the time of a failure; whether it lets a call through is a law on the history of its calls.
-/

namespace AgentGovernance.Sre

open AgentGovernance.Lib

/-! ## The breaker -/

/-- `std::time::Instant`, in nanoseconds since a fixed moment. -/
abbrev Instant := Nat

/-- `std::time::Duration`, in nanoseconds. -/
abbrev Duration := Nat

/-- `Instant::elapsed` with the clock at `now`, zero for an instant that lies ahead. -/
def Instant.elapsed (time now : Instant) : Duration :=
  now - time

inductive CircuitState where
  | closed
  | open
  | halfOpen
  deriving DecidableEq, Repr

structure InnerState where
  state : CircuitState
  failureCount : UInt32
  lastFailureTime : Option Instant

/-- `CircuitBreaker`.  Every method holds the lock of `inner` from its first line to its last. -/
structure CircuitBreaker where
  inner : InnerState
  failureThreshold : UInt32
  resetTimeout : Duration

namespace CircuitBreaker

def new (failureThreshold : UInt32) (resetTimeout : Duration) : CircuitBreaker where
  inner := { state := .closed, failureCount := 0, lastFailureTime := none }
  failureThreshold := failureThreshold
  resetTimeout := resetTimeout

def isAllowed (b : CircuitBreaker) (now : Instant) : CircuitBreaker × Bool :=
  match b.inner.state with
  | .closed => (b, true)
  | .open =>
    match b.inner.lastFailureTime with
    | some time =>
      if b.resetTimeout ≤ Instant.elapsed time now then
        ({ b with inner := { b.inner with state := .halfOpen } }, true)
      else (b, false)
    | none => (b, false)
  | .halfOpen => (b, true)

def recordSuccess (b : CircuitBreaker) : CircuitBreaker :=
  { b with inner := { b.inner with state := .closed, failureCount := 0 } }

/-- `record_failure`.  The counter wraps, as in a release build; a build with overflow checks
    panics there. -/
def recordFailure (b : CircuitBreaker) (now : Instant) : CircuitBreaker :=
  let failureCount := b.inner.failureCount + 1
  if b.failureThreshold ≤ failureCount then
    { b with
      inner := { state := .open, failureCount := failureCount, lastFailureTime := some now } }
  else { b with inner := { b.inner with failureCount := failureCount } }

end CircuitBreaker

/-! ## Histories of calls -/

/-- A call with the clock when it is made; `record_success` does not look at the clock. -/
inductive BreakerCall where
  | isAllowed (now : Instant)
  | recordSuccess
  | recordFailure (now : Instant)
  deriving DecidableEq, Repr

def BreakerCall.reading : BreakerCall → Option Instant
  | .isAllowed now => some now
  | .recordSuccess => none
  | .recordFailure now => some now

def BreakerCall.failureTime : BreakerCall → Option Instant
  | .recordFailure now => some now
  | _ => none

def CircuitBreaker.step (b : CircuitBreaker) : BreakerCall → CircuitBreaker
  | .isAllowed now => (b.isAllowed now).1
  | .recordSuccess => b.recordSuccess
  | .recordFailure now => b.recordFailure now

/-- The clock readings of a history, in order. -/
def readings (calls : List BreakerCall) : List Instant :=
  calls.filterMap BreakerCall.reading

/-- The number of failures since the last success, or since the start. -/
def failures (calls : List BreakerCall) : Nat :=
  (calls.rtakeWhile (· ≠ .recordSuccess)).countP (·.failureTime.isSome)

def lastFailure (calls : List BreakerCall) : Option Instant :=
  (calls.filterMap BreakerCall.failureTime).getLast?

@[simp] theorem failures_isAllowed (calls : List BreakerCall) (now : Instant) :
    failures (calls ++ [.isAllowed now]) = failures calls := by
  simp [failures, BreakerCall.failureTime]

@[simp] theorem failures_recordSuccess (calls : List BreakerCall) :
    failures (calls ++ [.recordSuccess]) = 0 := by
  simp [failures]

@[simp] theorem failures_recordFailure (calls : List BreakerCall) (now : Instant) :
    failures (calls ++ [.recordFailure now]) = failures calls + 1 := by
  simp [failures, BreakerCall.failureTime]

@[simp] theorem lastFailure_isAllowed (calls : List BreakerCall) (now : Instant) :
    lastFailure (calls ++ [.isAllowed now]) = lastFailure calls := by
  simp [lastFailure, BreakerCall.failureTime]

@[simp] theorem lastFailure_recordFailure (calls : List BreakerCall) (now : Instant) :
    lastFailure (calls ++ [.recordFailure now]) = some now := by
  simp [lastFailure, BreakerCall.failureTime]

/-! ## The law -/

/-- The history keeps a call back at time `now`: there were enough failures since the last
    success, and the last one is not yet `resetTimeout` ago. -/
def Blocked (failureThreshold : UInt32) (resetTimeout : Duration) (calls : List BreakerCall)
    (now : Instant) : Prop :=
  max failureThreshold.toNat 1 ≤ failures calls ∧
    ∃ last, lastFailure calls = some last ∧ now - last < resetTimeout

/-- The breaker's state, as far as it matters, is read off the history. -/
structure Tracks (calls : List BreakerCall) (b : CircuitBreaker) : Prop where
  count : b.inner.failureCount.toNat = failures calls
  closed_iff : b.inner.state = .closed ↔ failures calls < max b.failureThreshold.toNat 1
  time : b.inner.state ≠ .closed →
    ∃ last, lastFailure calls = some last ∧ b.inner.lastFailureTime = some last
  /-- A half-open breaker was asked once the timeout was over. -/
  asked : b.inner.state = .halfOpen →
    ∃ last, lastFailure calls = some last ∧ ∃ now ∈ readings calls, b.resetTimeout ≤ now - last

variable {calls : List BreakerCall} {b : CircuitBreaker}

theorem tracks_new (failureThreshold : UInt32) (resetTimeout : Duration) :
    Tracks [] (.new failureThreshold resetTimeout) where
  count := rfl
  closed_iff := by simp [CircuitBreaker.new, failures]
  time h := absurd rfl h
  asked h := by cases h

/-- After a success only the success matters. -/
theorem tracks_recordSuccess : Tracks (calls ++ [.recordSuccess]) b.recordSuccess where
  count := by simp [CircuitBreaker.recordSuccess]
  closed_iff := by simp [CircuitBreaker.recordSuccess]
  time h := absurd rfl h
  asked h := by cases h

theorem Tracks.recordFailure (h : Tracks calls b) (now : Instant)
    (hbound : failures calls + 1 < 2 ^ 32) :
    Tracks (calls ++ [.recordFailure now]) (b.recordFailure now) := by
  have hcount : (b.inner.failureCount + 1).toNat = failures calls + 1 := by
    rw [UInt32.toNat_add, h.count]
    exact Nat.mod_eq_of_lt hbound
  unfold CircuitBreaker.recordFailure
  by_cases hopen : b.failureThreshold ≤ b.inner.failureCount + 1
  · rw [if_pos hopen]
    have henough : b.failureThreshold.toNat ≤ failures calls + 1 := by
      rw [← hcount]
      exact UInt32.le_iff_toNat_le.mp hopen
    -- this failure is the last one, and its time is the one that is kept
    refine ⟨by simp [hcount], ?_, fun _ => ⟨now, by simp, rfl⟩, fun h => by cases h⟩
    simp only [failures_recordFailure, reduceCtorEq, false_iff]
    omega
  · rw [if_neg hopen]
    have hfew : failures calls + 1 < b.failureThreshold.toNat := by
      rw [← hcount]
      exact UInt32.lt_iff_toNat_lt.mp (UInt32.not_le.mp hopen)
    -- below the threshold the breaker was closed before and stays so
    have hclosed : b.inner.state = .closed := h.closed_iff.mpr (by omega)
    refine ⟨by simp [hcount], ?_, fun h => absurd hclosed h, fun h => ?_⟩
    · simp only [failures_recordFailure, hclosed, true_iff]
      omega
    · rw [hclosed] at h
      cases h

/-- What `is_allowed` does to an open breaker. -/
theorem isAllowed_open {last now : Instant} (hstate : b.inner.state = .open)
    (htime : b.inner.lastFailureTime = some last) :
    b.isAllowed now =
      if b.resetTimeout ≤ now - last then
        ({ b with inner := { b.inner with state := .halfOpen } }, true)
      else (b, false) := by
  simp [CircuitBreaker.isAllowed, hstate, htime, Instant.elapsed]

theorem isAllowed_of_ne_open (now : Instant) (hstate : b.inner.state ≠ .open) :
    b.isAllowed now = (b, true) := by
  unfold CircuitBreaker.isAllowed
  cases h : b.inner.state with
  | closed => rfl
  | «open» => exact absurd h hstate
  | halfOpen => rfl

/-- Asking changes nothing in the history that the state is about. -/
theorem Tracks.asked_again (h : Tracks calls b) (now : Instant) :
    Tracks (calls ++ [.isAllowed now]) b := by
  refine ⟨by simpa using h.count, by simpa using h.closed_iff, by simpa using h.time, ?_⟩
  intro hhalf
  obtain ⟨last, hlast, t, ht, hover⟩ := h.asked hhalf
  refine ⟨last, by simpa using hlast, t, ?_, hover⟩
  rw [readings, List.filterMap_append]
  exact List.mem_append_left _ ht

theorem Tracks.isAllowed (h : Tracks calls b) (now : Instant) :
    Tracks (calls ++ [.isAllowed now]) (b.isAllowed now).1 := by
  by_cases hopen : b.inner.state = .open
  · obtain ⟨last, hlast, htime⟩ := h.time (by simp [hopen])
    rw [isAllowed_open hopen htime]
    by_cases hover : b.resetTimeout ≤ now - last
    · rw [if_pos hover]
      -- the breaker is half open now, and this call is the one that found the timeout over
      have hmany : ¬ failures calls < max b.failureThreshold.toNat 1 := by
        rw [← h.closed_iff, hopen]
        simp
      refine ⟨by simpa using h.count, by simpa using hmany, fun _ => ⟨last, by simpa, htime⟩, ?_⟩
      intro _
      exact ⟨last, by simpa, now, by simp [readings, BreakerCall.reading], hover⟩
    · rw [if_neg hover]
      exact h.asked_again now
  · rw [isAllowed_of_ne_open now hopen]
    exact h.asked_again now

theorem Tracks.step (call : BreakerCall) (h : failures calls < 2 ^ 32 → Tracks calls b)
    (hbound : failures (calls ++ [call]) < 2 ^ 32) : Tracks (calls ++ [call]) (b.step call) := by
  cases call with
  | isAllowed now => exact (h (by simpa using hbound)).isAllowed now
  | recordSuccess => exact tracks_recordSuccess
  | recordFailure now =>
    rw [failures_recordFailure] at hbound
    exact (h (by omega)).recordFailure now hbound

@[simp] theorem step_config (b : CircuitBreaker) (call : BreakerCall) :
    (b.step call).failureThreshold = b.failureThreshold ∧
      (b.step call).resetTimeout = b.resetTimeout := by
  cases call with
  | isAllowed now =>
    -- in each branch only the state or the counter changes
    simp only [CircuitBreaker.step, CircuitBreaker.isAllowed]
    split
    · exact ⟨rfl, rfl⟩
    · split
      · split <;> exact ⟨rfl, rfl⟩
      · exact ⟨rfl, rfl⟩
    · exact ⟨rfl, rfl⟩
  | recordSuccess => exact ⟨rfl, rfl⟩
  | recordFailure now =>
    simp only [CircuitBreaker.step, CircuitBreaker.recordFailure]
    split <;> exact ⟨rfl, rfl⟩

/-- The answer of a breaker that tracks the history, when the clock has not gone back. -/
theorem Tracks.blocked_iff (h : Tracks calls b) {now : Instant}
    (hclock : ∀ t ∈ readings calls, t ≤ now) :
    (b.isAllowed now).2 = false ↔ Blocked b.failureThreshold b.resetTimeout calls now := by
  unfold Blocked
  cases hstate : b.inner.state with
  | closed =>
    rw [isAllowed_of_ne_open now (by simp [hstate])]
    -- a closed breaker lets everything through, and there were too few failures
    have hfew := h.closed_iff.mp hstate
    simp only [Bool.true_eq_false, false_iff, not_and]
    omega
  | «open» =>
    obtain ⟨last, hlast, htime⟩ := h.time (by simp [hstate])
    have hmany : max b.failureThreshold.toNat 1 ≤ failures calls := by
      rw [← not_lt, ← h.closed_iff, hstate]
      simp
    rw [isAllowed_open hstate htime]
    by_cases hover : b.resetTimeout ≤ now - last
    · simp [hover, hlast]
    · simp [hover, hlast, hmany, not_le.mp hover]
  | halfOpen =>
    rw [isAllowed_of_ne_open now (by simp [hstate])]
    -- the timeout was over at an earlier call, so it is over now
    obtain ⟨last, hlast, t, ht, hover⟩ := h.asked hstate
    have hlater : t ≤ now := hclock t ht
    have hstill : b.resetTimeout ≤ now - last := le_trans hover (Nat.sub_le_sub_right hlater last)
    simp [hlast, hstill]

/-- **Run.** The breaker keeps its configuration and tracks the history. -/
theorem tracks_run (failureThreshold : UInt32) (resetTimeout : Duration)
    (calls : List BreakerCall) :
    (runFrom CircuitBreaker.step (.new failureThreshold resetTimeout) calls).failureThreshold =
        failureThreshold ∧
      (runFrom CircuitBreaker.step (.new failureThreshold resetTimeout) calls).resetTimeout =
        resetTimeout ∧
      (failures calls < 2 ^ 32 →
        Tracks calls (runFrom CircuitBreaker.step (.new failureThreshold resetTimeout) calls)) :=
  runFrom_tracks
    (T := fun past b => b.failureThreshold = failureThreshold ∧ b.resetTimeout = resetTimeout ∧
      (failures past < 2 ^ 32 → Tracks past b))
    ⟨rfl, rfl, fun _ => tracks_new failureThreshold resetTimeout⟩
    (fun past call b h => ⟨by simp [h.1], by simp [h.2.1], Tracks.step call h.2.2⟩)

/-- **A call is kept back exactly when the history says so**, for every threshold and timeout and
    every history with a clock that does not go back. -/
theorem isAllowed_eq_false_iff (failureThreshold : UInt32) (resetTimeout : Duration)
    (calls : List BreakerCall) (now : Instant)
    (hclock : (readings (calls ++ [.isAllowed now])).Pairwise (· ≤ ·))
    (hbound : failures calls < 2 ^ 32) :
    ((runFrom CircuitBreaker.step (.new failureThreshold resetTimeout) calls).isAllowed now).2 =
        false ↔
      Blocked failureThreshold resetTimeout calls now := by
  obtain ⟨hthreshold, htimeout, h⟩ := tracks_run failureThreshold resetTimeout calls
  -- no failure was recorded later than now
  have hlatest : ∀ t ∈ readings calls, t ≤ now := by
    intro t ht
    rw [readings, List.filterMap_append, List.pairwise_append] at hclock
    exact hclock.2.2 t ht now (by simp [BreakerCall.reading])
  rw [(h hbound).blocked_iff hlatest, hthreshold, htimeout]

/-- The second of two failures opens the breaker for 100 nanoseconds. -/
theorem isAllowed_two_failures :
    ((runFrom CircuitBreaker.step (.new 2 100)
        [.isAllowed 0, .recordFailure 1, .isAllowed 2, .recordFailure 3]).isAllowed 50).2 = false :=
  (isAllowed_eq_false_iff 2 100 _ 50 (by decide) (by decide)).mpr ⟨by decide, 3, rfl, by decide⟩

end AgentGovernance.Sre
