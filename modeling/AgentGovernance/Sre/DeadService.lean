import AgentGovernance.Sre.FailureCount
import Mathlib.Data.Fintype.Card
import Mathlib.Order.Bounds.Basic

/-!
# What a breaker spares a dead service

Any number of callers share one `CircuitBreaker` of `crates/core/sre/src/circuit_breaker.rs`.  A
caller asks `is_allowed`, calls the service when it may, and later does `record_failure`: the
service answers no call.  The calls of different callers overlap in any order.

`isGreatest_received` is the largest number of calls that such a service still receives within a
span of time: the failures up to the threshold, and from then on one call of each caller for each
timeout that fits into the span.
-/

namespace AgentGovernance.Sre

open AgentGovernance.Lib

/-! ## Callers around a breaker -/

variable {κ : Type*}

/-- A caller asks, or its call has failed. -/
inductive CallerEvent (κ : Type*) where
  | ask (caller : κ) (now : Instant)
  | fail (caller : κ) (now : Instant)

def CallerEvent.now : CallerEvent κ → Instant
  | .ask _ now => now
  | .fail _ now => now

/-- The breaker, the callers that wait for the service, and the number of calls that the service
    has received. -/
structure DeadService (κ : Type*) where
  breaker : CircuitBreaker
  waiting : Finset κ
  received : Nat

namespace DeadService

/-- Nobody has called yet. -/
def start (failureThreshold : UInt32) (resetTimeout : Duration) : DeadService κ where
  breaker := .new failureThreshold resetTimeout
  waiting := ∅
  received := 0

/-- A caller whose call is let through waits until it fails. -/
def step [DecidableEq κ] (s : DeadService κ) : CallerEvent κ → DeadService κ
  | .ask caller now =>
    if (s.breaker.isAllowed now).2 then
      { breaker := (s.breaker.isAllowed now).1
        waiting := insert caller s.waiting
        received := s.received + 1 }
    else { s with breaker := (s.breaker.isAllowed now).1 }
  | .fail caller now =>
    { s with breaker := s.breaker.recordFailure now, waiting := s.waiting.erase caller }

/-- Only a caller that does not wait asks, and only a waiting one fails. -/
def Possible (s : DeadService κ) : CallerEvent κ → Prop
  | .ask caller _ => caller ∉ s.waiting
  | .fail caller _ => caller ∈ s.waiting

/-- A run of the callers between two moments, on a clock that does not go back. -/
structure Within [DecidableEq κ] (failureThreshold : UInt32) (resetTimeout : Duration) (first last : Instant)
    (run : List (CallerEvent κ)) : Prop where
  possible : AllSteps step Possible (start failureThreshold resetTimeout) run
  sorted : run.Pairwise (·.now ≤ ·.now)
  between : ∀ e ∈ run, first ≤ e.now ∧ e.now ≤ last

/-- The number of calls that the service receives in a run. -/
def receivedIn [DecidableEq κ] (failureThreshold : UInt32) (resetTimeout : Duration)
    (run : List (CallerEvent κ)) : Nat :=
  (runFrom step (start failureThreshold resetTimeout) run).received

/-! ## The bound -/

/-- The calls that `callers` callers get through while the timeout passes `periods` times. -/
def allowance (failureThreshold : UInt32) (callers periods : Nat) : Nat :=
  max failureThreshold.toNat 1 - 1 + callers + callers * periods

theorem allowance_succ (failureThreshold : UInt32) (callers periods : Nat) :
    allowance failureThreshold callers (periods + 1) =
      allowance failureThreshold callers periods + callers := by
  rw [allowance, allowance, Nat.mul_succ, ← Nat.add_assoc]

theorem allowance_mono (failureThreshold : UInt32) (callers : Nat) {m n : Nat} (h : m ≤ n) :
    allowance failureThreshold callers m ≤ allowance failureThreshold callers n :=
  Nat.add_le_add_left (Nat.mul_le_mul_left callers h) _

variable [Fintype κ] {failureThreshold : UInt32} {resetTimeout : Duration} {first : Instant}

/-- What is known of the calls so far, by the state of the breaker.  The counter counts the calls
    that have failed. -/
def Sparing (failureThreshold : UInt32) (resetTimeout : Duration) (first now : Instant)
    (s : DeadService κ) : Prop :=
  match s.breaker.inner.state with
  | .closed => s.breaker.inner.failureCount.toNat < max failureThreshold.toNat 1
  | .open => ∃ failure, s.breaker.inner.lastFailureTime = some failure ∧ failure ≤ now ∧
      ∃ periods : Nat, first + periods * resetTimeout ≤ failure ∧
        s.received ≤ allowance failureThreshold (Fintype.card κ) periods
  | .halfOpen => ∃ periods : Nat, first + (periods + 1) * resetTimeout ≤ now ∧
      s.breaker.inner.failureCount.toNat ≤
        allowance failureThreshold (Fintype.card κ) periods

/-- The invariant of a run. -/
structure Spared (failureThreshold : UInt32) (resetTimeout : Duration) (first now : Instant)
    (s : DeadService κ) : Prop where
  threshold : s.breaker.failureThreshold = failureThreshold
  timeout : s.breaker.resetTimeout = resetTimeout
  count : s.breaker.inner.failureCount.toNat + s.waiting.card = s.received
  sparing : Sparing failureThreshold resetTimeout first now s

theorem spared_start (first : Instant) :
    Spared failureThreshold resetTimeout first first (start (κ := κ) failureThreshold resetTimeout)
      where
  threshold := rfl
  timeout := rfl
  count := rfl
  sparing := by
    change 0 < max failureThreshold.toNat 1
    omega

variable {now t last : Instant} {s : DeadService κ}

/-- The moment only bounds the clock from above. -/
theorem Spared.later (h : Spared failureThreshold resetTimeout first now s) (hnow : now ≤ t) :
    Spared failureThreshold resetTimeout first t s := by
  refine ⟨h.threshold, h.timeout, h.count, ?_⟩
  have hsparing := h.sparing
  unfold Sparing at hsparing ⊢
  -- the periods that have passed by `now` have also passed by `t`
  cases hstate : s.breaker.inner.state with
  | closed => simpa only [hstate] using hsparing
  | «open» =>
    simp only [hstate] at hsparing ⊢
    obtain ⟨failure, htime, hpast, hperiods⟩ := hsparing
    exact ⟨failure, htime, hpast.trans hnow, hperiods⟩
  | halfOpen =>
    simp only [hstate] at hsparing ⊢
    obtain ⟨periods, hover, hfailed⟩ := hsparing
    exact ⟨periods, hover.trans hnow, hfailed⟩

/-- **The bound** of a moment: every period of the breaker is a timeout long. -/
theorem Spared.received_le (h : Spared failureThreshold resetTimeout first now s)
    (hnow : now ≤ last) (htimeout : 0 < resetTimeout) :
    s.received ≤
      allowance failureThreshold (Fintype.card κ) ((last - first) / resetTimeout) := by
  have hcount := h.count
  have hcallers : s.waiting.card ≤ Fintype.card κ := s.waiting.card_le_univ
  -- as many periods as fit into the span
  have hfits : ∀ {periods}, first + periods * resetTimeout ≤ now →
      s.received ≤ allowance failureThreshold (Fintype.card κ) periods →
      s.received ≤
        allowance failureThreshold (Fintype.card κ) ((last - first) / resetTimeout) := by
    intro periods hover hle
    apply hle.trans (allowance_mono _ _ _)
    rw [Nat.le_div_iff_mul_le htimeout]
    exact Nat.le_sub_of_add_le' (hover.trans hnow)
  have hsparing := h.sparing
  unfold Sparing at hsparing
  cases hstate : s.breaker.inner.state with
  | closed =>
    -- before the first opening the callers are below the threshold and those that wait
    simp only [hstate] at hsparing
    apply le_trans _ (allowance_mono _ _ (Nat.zero_le _))
    rw [allowance]
    omega
  | «open» =>
    simp only [hstate] at hsparing
    obtain ⟨failure, -, hpast, periods, hover, hle⟩ := hsparing
    exact hfits (hover.trans hpast) hle
  | halfOpen =>
    -- half open, one more period has begun, and those that wait belong to it
    simp only [hstate] at hsparing
    obtain ⟨periods, hover, hfailed⟩ := hsparing
    apply hfits hover
    rw [allowance_succ]
    omega

variable [DecidableEq κ]

/-- **Asking** costs a call unless the breaker is open; the first one let through after the timeout
    begins a period. -/
theorem Spared.ask (h : Spared failureThreshold resetTimeout first now s) (hnow : now ≤ t)
    {caller : κ} (hidle : caller ∉ s.waiting) :
    Spared failureThreshold resetTimeout first t (s.step (.ask caller t)) := by
  have hcount : s.breaker.inner.failureCount.toNat + (insert caller s.waiting).card =
      s.received + 1 := by
    rw [Finset.card_insert_of_notMem hidle, ← Nat.add_assoc, h.count]
  have hsparing := (h.later hnow).sparing
  unfold Sparing at hsparing
  cases hstate : s.breaker.inner.state with
  | closed =>
    -- a breaker that is closed or half open lets the caller through
    rw [step, isAllowed_of_ne_open t (by simp [hstate]), if_pos rfl]
    refine ⟨h.threshold, h.timeout, hcount, ?_⟩
    simpa only [Sparing, hstate] using hsparing
  | «open» =>
    simp only [hstate] at hsparing
    obtain ⟨failure, htime, hpast, periods, hover, hle⟩ := hsparing
    rw [step, isAllowed_open hstate htime]
    by_cases hready : s.breaker.resetTimeout ≤ t - failure
    · rw [if_pos hready, if_pos rfl]
      refine ⟨h.threshold, h.timeout, hcount, periods, ?_, ?_⟩
      -- the timeout has passed since the failure that ended the period before
      · rw [h.timeout] at hready
        rw [Nat.add_mul, Nat.one_mul, ← Nat.add_assoc]
        exact (Nat.add_le_add_right hover _).trans (Nat.add_le_of_le_sub' hpast hready)
      · exact (Nat.le_of_add_right_le h.count.le).trans hle
    · -- the timeout is not over, so the caller is turned away
      rw [if_neg hready, if_neg Bool.false_ne_true]
      exact h.later hnow
  | halfOpen =>
    rw [step, isAllowed_of_ne_open t (by simp [hstate]), if_pos rfl]
    refine ⟨h.threshold, h.timeout, hcount, ?_⟩
    simpa only [Sparing, hstate] using hsparing

/-- **Failing** costs nothing.  It ends a period, or makes the breaker open for longer. -/
theorem Spared.fail (h : Spared failureThreshold resetTimeout first now s) (hfirst : first ≤ now)
    (hnow : now ≤ t) {caller : κ} (hwaits : caller ∈ s.waiting) (hroom : s.received < 2 ^ 32) :
    Spared failureThreshold resetTimeout first t (s.step (.fail caller t)) := by
  have hcount := h.count
  have hcallers : s.waiting.card ≤ Fintype.card κ := s.waiting.card_le_univ
  have hone : 0 < s.waiting.card := Finset.card_pos.mpr ⟨caller, hwaits⟩
  have herase : (s.waiting.erase caller).card = s.waiting.card - 1 := Finset.card_erase_of_mem hwaits
  -- the caller is one of those that have not failed yet, so that the counter has room
  have hnext : (s.breaker.inner.failureCount + 1).toNat =
      s.breaker.inner.failureCount.toNat + 1 := by
    rw [UInt32.toNat_add]
    apply Nat.mod_eq_of_lt
    change s.breaker.inner.failureCount.toNat + 1 < 2 ^ 32
    omega
  have hrest : (s.breaker.inner.failureCount + 1).toNat + (s.waiting.erase caller).card =
      s.received := by
    omega
  -- the failure opens the breaker or is still below the threshold
  have hsparing := (h.later hnow).sparing
  unfold Sparing at hsparing
  rw [step, CircuitBreaker.recordFailure]
  by_cases hopen : s.breaker.failureThreshold ≤ s.breaker.inner.failureCount + 1
  · -- it opens now: the calls so far are those of the periods that are over
    rw [if_pos hopen]
    refine ⟨h.threshold, h.timeout, hrest, t, rfl, le_rfl, ?_⟩
    dsimp only
    cases hstate : s.breaker.inner.state with
    | closed =>
      simp only [hstate] at hsparing
      refine ⟨0, by simpa using hfirst.trans hnow, ?_⟩
      rw [allowance]
      omega
    | «open» =>
      simp only [hstate] at hsparing
      obtain ⟨failure, -, hpast, periods, hover, hle⟩ := hsparing
      exact ⟨periods, hover.trans hpast, hle⟩
    | halfOpen =>
      simp only [hstate] at hsparing
      obtain ⟨periods, hover, hfailed⟩ := hsparing
      refine ⟨periods + 1, hover, ?_⟩
      rw [allowance_succ]
      omega
  · rw [if_neg hopen]
    -- below the threshold the breaker stays as it is
    have hfew : s.breaker.inner.failureCount.toNat + 1 < failureThreshold.toNat := by
      rw [← hnext, ← h.threshold]
      exact UInt32.lt_iff_toNat_lt.mp (UInt32.not_le.mp hopen)
    refine ⟨h.threshold, h.timeout, hrest, ?_⟩
    unfold Sparing
    dsimp only
    cases hstate : s.breaker.inner.state with
    | closed =>
      dsimp only
      omega
    | «open» =>
      simp only [hstate] at hsparing
      exact hsparing
    | halfOpen =>
      simp only [hstate] at hsparing
      obtain ⟨periods, hover, -⟩ := hsparing
      refine ⟨periods, hover, ?_⟩
      rw [hnext, allowance]
      omega

/-- **Step.** -/
theorem Spared.step (h : Spared failureThreshold resetTimeout first now s) (hfirst : first ≤ now)
    {e : CallerEvent κ} (hpossible : s.Possible e) (hnow : now ≤ e.now)
    (hroom : s.received < 2 ^ 32) :
    Spared failureThreshold resetTimeout first e.now (s.step e) := by
  cases e with
  | ask caller t => exact h.ask hnow hpossible
  | fail caller t => exact h.fail hfirst hnow hpossible hroom

/-- **Run.** -/
theorem Spared.run {run : List (CallerEvent κ)}
    (h : Spared failureThreshold resetTimeout first now s) (hfirst : first ≤ now)
    (hlast : now ≤ last) (htimeout : 0 < resetTimeout)
    (hroom : allowance failureThreshold (Fintype.card κ) ((last - first) / resetTimeout) < 2 ^ 32)
    (hpossible : AllSteps DeadService.step Possible s run) (hsorted : run.Pairwise (·.now ≤ ·.now))
    (hbetween : ∀ e ∈ run, now ≤ e.now ∧ e.now ≤ last) :
    ∃ t ≤ last, Spared failureThreshold resetTimeout first t (runFrom DeadService.step s run) := by
  induction run generalizing s now with
  | nil => exact ⟨now, hlast, h⟩
  | cons e run ih =>
    obtain ⟨hnow, hend⟩ := hbetween e List.mem_cons_self
    obtain ⟨hlater, hrest⟩ := List.pairwise_cons.mp hsorted
    -- the bound itself keeps the counter from overflowing
    have hsmall : s.received < 2 ^ 32 := lt_of_le_of_lt (h.received_le hlast htimeout) hroom
    have hstep := h.step hfirst hpossible.1 hnow hsmall
    apply ih hstep (hfirst.trans hnow) hend hpossible.2 hrest
    intro d hd
    exact ⟨hlater d hd, (hbetween d (List.mem_cons_of_mem _ hd)).2⟩

theorem Within.receivedIn_le {run : List (CallerEvent κ)}
    (h : Within failureThreshold resetTimeout first last run) (hspan : first ≤ last)
    (htimeout : 0 < resetTimeout)
    (hroom : allowance failureThreshold (Fintype.card κ) ((last - first) / resetTimeout) <
      2 ^ 32) :
    receivedIn failureThreshold resetTimeout run ≤
      allowance failureThreshold (Fintype.card κ) ((last - first) / resetTimeout) := by
  obtain ⟨t, hlast, hspared⟩ := (spared_start first).run le_rfl hspan htimeout hroom h.possible
    h.sorted h.between
  exact hspared.received_le hlast htimeout

/-! ## The bound is reached -/

omit [Fintype κ]

/-- Callers ask at one moment, one after the other. -/
def asks (callers : List κ) (t : Instant) : List (CallerEvent κ) :=
  callers.map (.ask · t)

/-- Calls fail at one moment, one after the other. -/
def fails (callers : List κ) (t : Instant) : List (CallerEvent κ) :=
  callers.map (.fail · t)

/-- All callers call at once, and all fail. -/
def round (callers : List κ) (t : Instant) : List (CallerEvent κ) :=
  asks callers t ++ fails callers t

/-- A single caller fails again and again. -/
def warmUp (caller : κ) (t : Instant) : Nat → List (CallerEvent κ)
  | 0 => []
  | n + 1 => warmUp caller t n ++ [.ask caller t, .fail caller t]

/-- The breaker is brought to its last failure before it opens, and from then on all callers call
    as often as it lets them. -/
def worst (failureThreshold : UInt32) (resetTimeout : Duration) (first : Instant) (caller : κ)
    (callers : List κ) : Nat → List (CallerEvent κ)
  | 0 => warmUp caller first (max failureThreshold.toNat 1 - 1) ++ round callers first
  | periods + 1 =>
    worst failureThreshold resetTimeout first caller callers periods ++
      round callers (first + (periods + 1) * resetTimeout)

/-- Nobody waits, and all calls so far have failed. -/
structure Idle (failureThreshold : UInt32) (resetTimeout : Duration) (n : Nat)
    (s : DeadService κ) : Prop where
  threshold : s.breaker.failureThreshold = failureThreshold
  timeout : s.breaker.resetTimeout = resetTimeout
  waiting : s.waiting = ∅
  received : s.received = n
  count : s.breaker.inner.failureCount.toNat = n

variable {n : Nat} {caller : κ} {callers : List κ}

/-- What `is_allowed` leaves of a breaker that lets a call through. -/
theorem isAllowed_of_allowed {b : CircuitBreaker} (h : (b.isAllowed t).2 = true) :
    (b.isAllowed t).1.inner.state ≠ .open ∧
      (b.isAllowed t).1.inner.failureCount = b.inner.failureCount ∧
      (b.isAllowed t).1.failureThreshold = b.failureThreshold ∧
      (b.isAllowed t).1.resetTimeout = b.resetTimeout := by
  rw [CircuitBreaker.isAllowed] at h ⊢
  cases hstate : b.inner.state with
  | closed => simp [hstate]
  | halfOpen => simp [hstate]
  | «open» =>
    -- an open breaker allows the call when the timeout is over, and is half open then
    simp only [hstate] at h ⊢
    cases htime : b.inner.lastFailureTime with
    | none => simp [htime] at h
    | some failure =>
      by_cases hready : b.resetTimeout ≤ Instant.elapsed failure t
      · simp [hready]
      · simp [htime, hready] at h

/-- Asking a breaker that is not open lets all callers through. -/
theorem run_asks (hstate : s.breaker.inner.state ≠ .open) (hnodup : callers.Nodup)
    (hidle : ∀ c ∈ callers, c ∉ s.waiting) :
    AllSteps step Possible s (asks callers t) ∧
      runFrom step s (asks callers t) =
        { s with
          waiting := s.waiting ∪ callers.toFinset, received := s.received + callers.length } := by
  induction callers generalizing s with
  | nil => exact ⟨trivial, by simp [asks]⟩
  | cons c callers ih =>
    obtain ⟨hfresh, hrest⟩ := List.nodup_cons.mp hnodup
    have hstep : s.step (.ask c t) =
        { s with waiting := insert c s.waiting, received := s.received + 1 } := by
      rw [step, isAllowed_of_ne_open t hstate, if_pos rfl]
    -- the callers are different, so none of the others waits yet
    have hothers : ∀ d ∈ callers, d ∉ insert c s.waiting := by
      intro d hd hin
      rcases Finset.mem_insert.mp hin with rfl | hin
      · exact hfresh hd
      · exact hidle d (List.mem_cons_of_mem c hd) hin
    obtain ⟨hpossible, hrun⟩ := ih (s := s.step (.ask c t)) (by rwa [hstep]) hrest
      (by rwa [hstep])
    refine ⟨⟨hidle c List.mem_cons_self, hpossible⟩, ?_⟩
    change runFrom step (s.step (.ask c t)) (asks callers t) = _
    rw [hrun, hstep]
    simp only [List.toFinset_cons, List.length_cons, Finset.insert_union, Finset.union_insert,
      Nat.add_right_comm, Nat.add_assoc]

/-- A failure that reaches the threshold opens the breaker. -/
theorem recordFailure_opens {b : CircuitBreaker}
    (hmany : b.failureThreshold.toNat ≤ b.inner.failureCount.toNat + 1)
    (hroom : b.inner.failureCount.toNat + 1 < 2 ^ 32) :
    (b.inner.failureCount + 1).toNat = b.inner.failureCount.toNat + 1 ∧
      b.recordFailure t =
        { b with
          inner :=
            { state := .open, failureCount := b.inner.failureCount + 1,
              lastFailureTime := some t } } := by
  have hnext : (b.inner.failureCount + 1).toNat = b.inner.failureCount.toNat + 1 := by
    rw [UInt32.toNat_add]
    exact Nat.mod_eq_of_lt hroom
  refine ⟨hnext, ?_⟩
  -- the counter has room, so it is not below the threshold
  rw [CircuitBreaker.recordFailure, if_pos]
  rw [UInt32.le_iff_toNat_le, hnext]
  exact hmany

/-- When the next failure opens the breaker, all the failures count and the last one is the time
    that it keeps. -/
theorem run_fails
    (hmany : s.breaker.failureThreshold.toNat ≤ s.breaker.inner.failureCount.toNat + 1)
    (hroom : s.breaker.inner.failureCount.toNat + callers.length < 2 ^ 32)
    (hne : callers ≠ []) (hnodup : callers.Nodup) (hwait : ∀ c ∈ callers, c ∈ s.waiting) :
    AllSteps step Possible s (fails callers t) ∧
      ∃ count : UInt32, count.toNat = s.breaker.inner.failureCount.toNat + callers.length ∧
        runFrom step s (fails callers t) =
          { s with
            breaker :=
              { s.breaker with
                inner := { state := .open, failureCount := count, lastFailureTime := some t } }
            waiting := s.waiting \ callers.toFinset } := by
  induction callers generalizing s with
  | nil => exact absurd rfl hne
  | cons c callers ih =>
    rw [List.length_cons] at hroom
    obtain ⟨hnext, hopens⟩ := recordFailure_opens (t := t) hmany (by omega)
    have hstep : s.step (.fail c t) =
        { s with
          breaker :=
            { s.breaker with
              inner :=
                { state := .open, failureCount := s.breaker.inner.failureCount + 1,
                  lastFailureTime := some t } }
          waiting := s.waiting.erase c } := by
      rw [step, hopens]
    obtain ⟨hfresh, hrest⟩ := List.nodup_cons.mp hnodup
    change (_ ∧ AllSteps step Possible (s.step (.fail c t)) (fails callers t)) ∧
      ∃ count : UInt32, _ ∧ runFrom step (s.step (.fail c t)) (fails callers t) = _
    -- the last caller, or more callers whose failures find the breaker open
    rcases eq_or_ne callers [] with rfl | hmore
    · refine ⟨⟨hwait c List.mem_cons_self, trivial⟩, s.breaker.inner.failureCount + 1, hnext, ?_⟩
      rw [hstep]
      simp [fails, Finset.sdiff_singleton_eq_erase]
    · have hothers : ∀ d ∈ callers, d ∈ s.waiting.erase c := by
        intro d hd
        apply Finset.mem_erase.mpr
        exact ⟨fun heq => hfresh (heq ▸ hd), hwait d (List.mem_cons_of_mem c hd)⟩
      obtain ⟨hpossible, count, hcount, hrun⟩ := ih (s := s.step (.fail c t))
        (by rw [hstep, hnext]; exact hmany.trans (Nat.le_succ _))
        (by rw [hstep, hnext]; omega) hmore hrest (by rwa [hstep])
      rw [hstep, hnext] at hcount
      refine ⟨⟨hwait c List.mem_cons_self, hpossible⟩, count, ?_, ?_⟩
      · rw [hcount, List.length_cons]
        omega
      · rw [hrun, hstep, List.toFinset_cons, Finset.sdiff_insert, ← Finset.erase_sdiff_comm]

/-- The first of the callers that ask may find the breaker open and past its timeout. -/
theorem run_asks_of_allowed (hallowed : (s.breaker.isAllowed t).2 = true) (hidle : s.waiting = ∅)
    (hne : callers ≠ []) (hnodup : callers.Nodup) :
    AllSteps step Possible s (asks callers t) ∧
      runFrom step s (asks callers t) =
        { breaker := (s.breaker.isAllowed t).1
          waiting := callers.toFinset
          received := s.received + callers.length } := by
  cases callers with
  | nil => exact absurd rfl hne
  | cons c callers =>
    -- the first caller makes the breaker half open, and the others find it so
    have hopen := (isAllowed_of_allowed hallowed).1
    have hstep : s.step (.ask c t) =
        { breaker := (s.breaker.isAllowed t).1, waiting := {c}, received := s.received + 1 } := by
      rw [step, if_pos hallowed, hidle]
      rfl
    obtain ⟨hfresh, hrest⟩ := List.nodup_cons.mp hnodup
    obtain ⟨hpossible, hrun⟩ := run_asks (s := s.step (.ask c t)) (t := t) (by rwa [hstep]) hrest
      (by
        rw [hstep]
        intro d hd hin
        exact hfresh (Finset.mem_singleton.mp hin ▸ hd))
    refine ⟨⟨by simp [Possible, hidle], hpossible⟩, ?_⟩
    change runFrom step (s.step (.ask c t)) (asks callers t) = _
    rw [hrun, hstep]
    simp only [List.toFinset_cons, Finset.insert_eq, List.length_cons, Nat.add_right_comm,
      Nat.add_assoc]

/-- **A round**: where asking is allowed and the next failure opens the breaker, all callers get
    through, and the breaker is open from that moment. -/
theorem Idle.round (h : Idle failureThreshold resetTimeout n s)
    (hmany : failureThreshold.toNat ≤ n + 1) (hroom : n + callers.length < 2 ^ 32)
    (hne : callers ≠ []) (hnodup : callers.Nodup) (hallowed : (s.breaker.isAllowed t).2 = true) :
    AllSteps step Possible s (round callers t) ∧
      Idle failureThreshold resetTimeout (n + callers.length)
        (runFrom step s (DeadService.round callers t)) ∧
      (runFrom step s (DeadService.round callers t)).breaker.OpenSince t := by
  obtain ⟨-, hcount, hthreshold, htimeout⟩ := isAllowed_of_allowed hallowed
  obtain ⟨hasks, hasked⟩ := run_asks_of_allowed hallowed h.waiting hne hnodup
  -- all callers wait, and none of their failures is counted yet
  obtain ⟨hfails, count, hfailed, hrun⟩ := run_fails
    (s := runFrom step s (asks callers t)) (t := t)
    (by rw [hasked, hthreshold, hcount, h.threshold, h.count]; exact hmany)
    (by rw [hasked, hcount, h.count]; exact hroom) hne hnodup
    (by rw [hasked]; exact fun c hc => List.mem_toFinset.mpr hc)
  -- after the failures nobody waits and the breaker is open since `t`
  rw [hasked, hcount, h.count] at hfailed
  rw [hasked] at hfails
  rw [DeadService.round, allSteps_append, runFrom_append, hrun, hasked]
  refine ⟨⟨hasks, hfails⟩, ⟨?_, ?_, ?_, ?_, hfailed⟩, rfl, rfl⟩
  · exact hthreshold.trans h.threshold
  · exact htimeout.trans h.timeout
  · exact Finset.sdiff_self _
  · exact congrArg (· + callers.length) h.received

/-- Below the threshold a caller that fails leaves the breaker closed. -/
theorem run_warmUp (failureThreshold : UInt32) (resetTimeout : Duration) (caller : κ)
    (hfew : n < max failureThreshold.toNat 1) :
    AllSteps step Possible (start failureThreshold resetTimeout) (warmUp caller t n) ∧
      Idle failureThreshold resetTimeout n
        (runFrom step (start failureThreshold resetTimeout) (warmUp caller t n)) ∧
      (runFrom step (start failureThreshold resetTimeout)
        (warmUp caller t n)).breaker.inner.state = .closed := by
  induction n with
  | zero => exact ⟨trivial, ⟨rfl, rfl, rfl, rfl, rfl⟩, rfl⟩
  | succ n ih =>
    obtain ⟨hpossible, hidle, hclosed⟩ := ih (by omega)
    rw [warmUp, allSteps_append, runFrom_append]
    generalize runFrom step (start failureThreshold resetTimeout) (warmUp caller t n) = s at *
    -- one caller asks and fails, while the counter stays below the threshold
    have hask : s.step (.ask caller t) =
        { s with waiting := {caller}, received := s.received + 1 } := by
      rw [step, isAllowed_of_ne_open t (by simp [hclosed]), if_pos rfl, hidle.waiting]
      rfl
    -- the threshold is a `u32`, so the counter has room
    have hnext : (s.breaker.inner.failureCount + 1).toNat = n + 1 := by
      rw [UInt32.toNat_add, hidle.count]
      apply Nat.mod_eq_of_lt
      have hbound := failureThreshold.toNat_lt
      change n + 1 < 2 ^ 32
      omega
    have hbelow : ¬ s.breaker.failureThreshold ≤ s.breaker.inner.failureCount + 1 := by
      rw [UInt32.le_iff_toNat_le, hnext, hidle.threshold]
      omega
    have hfail : (s.step (.ask caller t)).step (.fail caller t) =
        { breaker :=
            { s.breaker with
              inner := { s.breaker.inner with failureCount := s.breaker.inner.failureCount + 1 } }
          waiting := ∅
          received := s.received + 1 } := by
      rw [hask, step, CircuitBreaker.recordFailure, if_neg hbelow]
      simp
    refine ⟨⟨hpossible, by simp [Possible, hidle.waiting], by simp [hask, Possible], trivial⟩, ?_⟩
    rw [runFrom_cons, runFrom_cons, runFrom_nil, hfail]
    refine ⟨⟨hidle.threshold, hidle.timeout, rfl, ?_, hnext⟩, hclosed⟩
    exact congrArg (· + 1) hidle.received

/-- **Run.** The worst run ends with an open breaker, and the service has received as much as is
    allowed. -/
theorem run_worst (failureThreshold : UInt32) (resetTimeout : Duration) (first : Instant)
    (caller : κ) (hne : callers ≠ []) (hnodup : callers.Nodup) (periods : Nat)
    (hroom : allowance failureThreshold callers.length periods < 2 ^ 32) :
    AllSteps step Possible (start failureThreshold resetTimeout)
        (worst failureThreshold resetTimeout first caller callers periods) ∧
      Idle failureThreshold resetTimeout (allowance failureThreshold callers.length periods)
        (runFrom step (start failureThreshold resetTimeout)
          (worst failureThreshold resetTimeout first caller callers periods)) ∧
      (runFrom step (start failureThreshold resetTimeout)
        (worst failureThreshold resetTimeout first caller callers periods)).breaker.OpenSince
          (first + periods * resetTimeout) := by
  induction periods with
  | zero =>
    -- after the warm-up all callers ask at once, and the last failures open the breaker
    obtain ⟨hpossible, hidle, hclosed⟩ := run_warmUp failureThreshold resetTimeout
      (t := first) caller (n := max failureThreshold.toNat 1 - 1) (by omega)
    have hround := hidle.round (t := first) (by omega) hroom hne hnodup
      (by rw [isAllowed_of_ne_open first (by simp [hclosed])])
    rw [worst, allSteps_append, runFrom_append, Nat.zero_mul]
    exact ⟨⟨hpossible, hround.1⟩, hround.2⟩
  | succ periods ih =>
    rw [allowance_succ] at hroom ⊢
    obtain ⟨hpossible, hidle, hstate, htime⟩ := ih (by omega)
    have hround := hidle.round (t := first + (periods + 1) * resetTimeout)
      (by rw [allowance]; omega) hroom hne hnodup
      -- the timeout is over at this very moment
      (by
        rw [isAllowed_open hstate htime, hidle.timeout, if_pos]
        rw [Nat.add_mul, Nat.one_mul, ← Nat.add_assoc, Nat.add_sub_cancel_left])
    rw [worst, allSteps_append, runFrom_append]
    exact ⟨⟨hpossible, hround.1⟩, hround.2⟩

omit [DecidableEq κ] in
theorem now_warmUp (caller : κ) : ∀ e ∈ warmUp caller t n, e.now = t := by
  induction n with
  | zero => simp [warmUp]
  | succ n ih =>
    intro e he
    rcases List.mem_append.mp he with he | he
    · exact ih e he
    · simp only [List.mem_cons, List.not_mem_nil, or_false] at he
      rcases he with rfl | rfl <;> rfl

omit [DecidableEq κ] in
theorem now_round : ∀ e ∈ round callers t, e.now = t := by
  intro e he
  rcases List.mem_append.mp he with he | he
  · obtain ⟨c, -, rfl⟩ := List.mem_map.mp he
    rfl
  · obtain ⟨c, -, rfl⟩ := List.mem_map.mp he
    rfl

omit [DecidableEq κ] in
/-- Events of one moment may follow events of earlier ones. -/
theorem sorted_append {run more : List (CallerEvent κ)} (hrun : run.Pairwise (·.now ≤ ·.now))
    (hpast : ∀ e ∈ run, e.now ≤ t) (hmore : ∀ e ∈ more, e.now = t) :
    (run ++ more).Pairwise (·.now ≤ ·.now) := by
  refine List.pairwise_append.mpr ⟨hrun, ?_, ?_⟩
  · apply List.pairwise_of_forall_mem_list
    intro d hd e he
    rw [hmore d hd, hmore e he]
  · intro d hd e he
    rw [hmore e he]
    exact hpast d hd

omit [DecidableEq κ] in
/-- The events of the worst run come in order, and the last ones when its last period ends. -/
theorem now_worst (failureThreshold : UInt32) (resetTimeout : Duration) (first : Instant)
    (caller : κ) (callers : List κ) (periods : Nat) :
    (worst failureThreshold resetTimeout first caller callers periods).Pairwise
        (·.now ≤ ·.now) ∧
      ∀ e ∈ worst failureThreshold resetTimeout first caller callers periods,
        first ≤ e.now ∧ e.now ≤ first + periods * resetTimeout := by
  induction periods with
  | zero =>
    have hwarm := now_warmUp (t := first) (n := max failureThreshold.toNat 1 - 1) caller
    refine ⟨sorted_append ?_ (fun e he => (hwarm e he).le) now_round, ?_⟩
    · apply List.pairwise_of_forall_mem_list
      intro d hd e he
      rw [hwarm d hd, hwarm e he]
    · intro e he
      have hnow : e.now = first := (List.mem_append.mp he).elim (hwarm e) (now_round e)
      simp [hnow]
  | succ periods ih =>
    -- the next round is a whole timeout after the one before
    obtain ⟨hsorted, hbetween⟩ := ih
    have hlater : first + periods * resetTimeout ≤ first + (periods + 1) * resetTimeout :=
      Nat.add_le_add_left (Nat.mul_le_mul_right _ (Nat.le_succ _)) _
    refine ⟨sorted_append hsorted (fun e he => (hbetween e he).2.trans hlater) now_round, ?_⟩
    intro e he
    rcases List.mem_append.mp he with he | he
    · exact ⟨(hbetween e he).1, (hbetween e he).2.trans hlater⟩
    · rw [now_round e he]
      exact ⟨Nat.le_add_right _ _, le_rfl⟩

/-- **What a dead service receives** while its callers share a breaker, at most: the failures up to
    the threshold with the calls that overlap the last of them, and one more call of each caller
    for every timeout that fits into the span. -/
theorem isGreatest_received [Fintype κ] [Nonempty κ] (failureThreshold : UInt32)
    (resetTimeout : Duration) (first last : Instant) (htimeout : 0 < resetTimeout)
    (hspan : first ≤ last)
    (hroom : max failureThreshold.toNat 1 - 1 + Fintype.card κ +
      Fintype.card κ * ((last - first) / resetTimeout) < 2 ^ 32) :
    IsGreatest
      {received | ∃ run : List (CallerEvent κ),
        Within failureThreshold resetTimeout first last run ∧
          receivedIn failureThreshold resetTimeout run = received}
      (max failureThreshold.toNat 1 - 1 + Fintype.card κ +
        Fintype.card κ * ((last - first) / resetTimeout)) := by
  refine ⟨?_, ?_⟩
  · obtain ⟨caller⟩ := ‹Nonempty κ›
    -- all callers take part in the worst run
    have hne : (Finset.univ : Finset κ).toList ≠ [] := by
      rw [Ne, Finset.toList_eq_nil]
      exact Finset.ne_empty_of_mem (Finset.mem_univ caller)
    have hcard : (Finset.univ : Finset κ).toList.length = Fintype.card κ := Finset.length_toList _
    obtain ⟨hpossible, hidle, -⟩ := run_worst failureThreshold resetTimeout first caller
      hne (Finset.nodup_toList _)
      ((last - first) / resetTimeout) (by rw [allowance, hcard]; exact hroom)
    obtain ⟨hsorted, hbetween⟩ := now_worst failureThreshold resetTimeout first caller
      Finset.univ.toList ((last - first) / resetTimeout)
    -- the periods of the worst run fit into the span
    have hend : first + (last - first) / resetTimeout * resetTimeout ≤ last :=
      Nat.add_le_of_le_sub' hspan (Nat.div_mul_le_self _ _)
    refine ⟨_, ⟨hpossible, hsorted, ?_⟩, ?_⟩
    · intro e he
      exact ⟨(hbetween e he).1, (hbetween e he).2.trans hend⟩
    · rw [receivedIn, hidle.received, allowance, hcard]
  · -- no other run exceeds it
    rintro received ⟨run, hwithin, rfl⟩
    exact hwithin.receivedIn_le hspan htimeout hroom

/-- Three callers, two failures and a tenth of a second: within a second the service receives at
    most 34 calls, and may receive as many. -/
theorem isGreatest_received_three :
    IsGreatest
      {received | ∃ run : List (CallerEvent (Fin 3)),
        Within 2 100000000 0 1000000000 run ∧ receivedIn 2 100000000 run = received} 34 :=
  isGreatest_received (κ := Fin 3) 2 100000000 0 1000000000 (by decide) (by decide) (by decide)

end DeadService

end AgentGovernance.Sre
