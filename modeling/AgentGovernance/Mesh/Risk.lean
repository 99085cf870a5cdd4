import AgentGovernance.Lib.Runs
import AgentGovernance.Mesh.Basic
import Mathlib.Algebra.BigOperators.Group.List.Basic
import Mathlib.Algebra.GroupWithZero.Nat
import Mathlib.Data.Finmap

/-!
# Risk scores

`RiskScorer` in `crates/core/mesh/src/identity/risk.rs`.  The score of an agent has four components
that begin at a base value, and every signal of the last day takes its reduction from the
components whose name its type begins with.

The reduction of a signal, a product of floats that is cast to a `u32`, is any function of the
signal here.  `scoreLaws` says what the scores are for all of them.
-/

namespace AgentGovernance.Mesh

open AgentGovernance.Lib

/-! ## Signals and scores -/

inductive RiskSeverity where
  | critical
  | high
  | medium
  | low
  | info
  deriving DecidableEq, Repr

/-- `RiskSignal`, as far as it is read; its value is opaque. -/
structure RiskSignal (ν : Type) where
  signalType : String
  severity : RiskSeverity
  value : ν
  timestamp : DateTime

structure RiskScore where
  agentDid : String
  totalScore : UInt32
  identityScore : UInt32
  behaviorScore : UInt32
  networkScore : UInt32
  complianceScore : UInt32
  activeSignals : UInt32
  criticalSignals : UInt32
  deriving DecidableEq, Repr

inductive RiskComponent where
  | identity
  | behavior
  | network
  | compliance
  deriving DecidableEq, Repr

namespace RiskComponent

/-- The beginning of the signal types that count for the component. -/
def signalPrefix : RiskComponent → String
  | .identity => "identity."
  | .behavior => "behavior."
  | .network => "network."
  | .compliance => "compliance."

/-- The value without signals. -/
def base : RiskComponent → UInt32
  | .identity => 80
  | .behavior => 70
  | .network => 75
  | .compliance => 85

end RiskComponent

def RiskScore.component (score : RiskScore) : RiskComponent → UInt32
  | .identity => score.identityScore
  | .behavior => score.behaviorScore
  | .network => score.networkScore
  | .compliance => score.complianceScore

def saturatingSub (a b : UInt32) : UInt32 :=
  if b ≤ a then a - b else 0

structure RiskState (ν : Type) where
  scores : Finmap (fun _ : String => RiskScore)
  signals : Finmap (fun _ : String => List (RiskSignal ν))

variable {ν : Type}

/-- `signal_type.starts_with(..)`. -/
def RiskSignal.counts (signal : RiskSignal ν) (k : RiskComponent) : Bool :=
  k.signalPrefix.toList.isPrefixOf signal.signalType.toList

/-- The signals of the last 24 hours. -/
def recentSignals (now : DateTime) (signals : List (RiskSignal ν)) : List (RiskSignal ν) :=
  signals.filter fun s => s.timestamp > now - 86400000000000

section
variable (reduction : RiskSignal ν → UInt32)

/-- One round of the loop over the recent signals. -/
def reduceBy (counters : RiskComponent → UInt32) (signal : RiskSignal ν) : RiskComponent → UInt32 :=
  fun k => if signal.counts k then saturatingSub (counters k) (reduction signal) else counters k

/-- The components after the loop. -/
def countersOf (recent : List (RiskSignal ν)) : RiskComponent → UInt32 :=
  recent.foldl (reduceBy reduction) RiskComponent.base

/-- The weighted mean of the components. -/
def totalOf (counters : RiskComponent → UInt32) : UInt32 :=
  (counters .identity * 2 + counters .behavior * 3 + counters .network * 2 +
    counters .compliance * 3) / 10

/-- The score for the signals of an agent. -/
def scoreOf (agentDid : String) (signals : List (RiskSignal ν)) (now : DateTime) : RiskScore :=
  let recent := recentSignals now signals
  let counters := countersOf reduction recent
  { agentDid := agentDid
    totalScore := min (totalOf counters) 1000
    identityScore := min (counters .identity) 100
    behaviorScore := min (counters .behavior) 100
    networkScore := min (counters .network) 100
    complianceScore := min (counters .compliance) 100
    activeSignals := UInt32.ofNat recent.length
    criticalSignals := UInt32.ofNat (recent.countP (·.severity = .critical)) }

def calculateScore (agentDid : String) (signalsMap : Finmap fun _ : String => List (RiskSignal ν))
    (now : DateTime) : RiskScore :=
  scoreOf reduction agentDid ((signalsMap.lookup agentDid).getD []) now

namespace RiskState

def new : RiskState ν where
  scores := ∅
  signals := ∅

def getScore (state : RiskState ν) (agentDid : String) : Option RiskScore :=
  state.scores.lookup agentDid

def addSignal (state : RiskState ν) (agentDid : String) (signal : RiskSignal ν) (now : DateTime) :
    RiskState ν :=
  let signals := state.signals.insert agentDid
    ((state.signals.lookup agentDid).getD [] ++ [signal])
  { signals := signals
    scores := state.scores.insert agentDid (calculateScore reduction agentDid signals now) }

def recalculate (state : RiskState ν) (agentDid : String) (now : DateTime) :
    RiskState ν × RiskScore :=
  let score := calculateScore reduction agentDid state.signals now
  ({ state with scores := state.scores.insert agentDid score }, score)

end RiskState

/-! ## Runs -/

/-- A call of the scorer, with the clock. -/
inductive RiskCall (ν : Type) where
  | addSignal (agentDid : String) (signal : RiskSignal ν) (now : DateTime)
  | recalculate (agentDid : String) (now : DateTime)

namespace RiskCall

/-- The clock of a call. -/
def reading : RiskCall ν → DateTime
  | .addSignal _ _ now => now
  | .recalculate _ now => now

def agent : RiskCall ν → String
  | .addSignal agentDid _ _ => agentDid
  | .recalculate agentDid _ => agentDid

/-- The signal that is added for an agent. -/
def signalFor (agentDid : String) : RiskCall ν → Option (RiskSignal ν)
  | .addSignal did signal _ => if did = agentDid then some signal else none
  | .recalculate _ _ => none

end RiskCall

def RiskState.step (state : RiskState ν) : RiskCall ν → RiskState ν
  | .addSignal agentDid signal now => state.addSignal reduction agentDid signal now
  | .recalculate agentDid now => (state.recalculate reduction agentDid now).1

end

/-- The signals that a run adds for an agent. -/
def signalsOf (calls : List (RiskCall ν)) (agentDid : String) : List (RiskSignal ν) :=
  calls.filterMap (RiskCall.signalFor agentDid)

/-! ## The loop -/

theorem toNat_saturatingSub (a b : UInt32) : (saturatingSub a b).toNat = a.toNat - b.toNat := by
  unfold saturatingSub
  split
  next hle => exact UInt32.toNat_sub_of_le _ _ hle
  next hlt =>
    rw [UInt32.le_iff_toNat_le, not_le] at hlt
    rw [UInt32.toNat_zero]
    omega

variable {reduction : RiskSignal ν → UInt32}

/-- **The components**: the base less the reductions, but not below zero. -/
theorem toNat_foldl_reduceBy (counters : RiskComponent → UInt32) (signals : List (RiskSignal ν))
    (k : RiskComponent) :
    (signals.foldl (reduceBy reduction) counters k).toNat =
      (counters k).toNat -
        ((signals.filter (·.counts k)).map fun s => (reduction s).toNat).sum := by
  -- by induction on the signals: truncated subtractions add up
  induction signals generalizing counters with
  | nil => simp
  | cons signal signals ih =>
    rw [List.foldl_cons, ih, reduceBy]
    by_cases hcounts : signal.counts k = true
    · rw [if_pos hcounts, toNat_saturatingSub, List.filter_cons, if_pos hcounts, List.map_cons,
        List.sum_cons, Nat.sub_sub]
    · -- the signal does not count for this component
      rw [if_neg hcounts, List.filter_cons, if_neg hcounts]

theorem toNat_countersOf (signals : List (RiskSignal ν)) (k : RiskComponent) :
    (countersOf reduction signals k).toNat =
      k.base.toNat - ((signals.filter (·.counts k)).map fun s => (reduction s).toNat).sum :=
  toNat_foldl_reduceBy _ signals k

theorem countersOf_le_base (signals : List (RiskSignal ν)) (k : RiskComponent) :
    (countersOf reduction signals k).toNat ≤ k.base.toNat := by
  rw [toNat_countersOf]
  exact Nat.sub_le _ _

/-- The order of the signals does not matter. -/
theorem countersOf_perm {signals signals' : List (RiskSignal ν)} (h : signals.Perm signals') :
    countersOf reduction signals = countersOf reduction signals' := by
  funext k
  apply UInt32.toNat_inj.mp
  rw [toNat_countersOf, toNat_countersOf, ((h.filter _).map _).sum_eq]

/-- More signals do not raise a component. -/
theorem countersOf_append_le (signals more : List (RiskSignal ν)) (k : RiskComponent) :
    (countersOf reduction (signals ++ more) k).toNat ≤ (countersOf reduction signals k).toNat := by
  rw [toNat_countersOf, toNat_countersOf, List.filter_append, List.map_append, List.sum_append]
  omega

/-! ## One score -/

/-- The weighted sum of the components is far below the largest `u32`. -/
theorem toNat_totalOf {counters : RiskComponent → UInt32}
    (h : ∀ k, (counters k).toNat ≤ k.base.toNat) :
    let sum := (counters .identity).toNat * 2 + (counters .behavior).toNat * 3 +
      (counters .network).toNat * 2 + (counters .compliance).toNat * 3
    sum ≤ 775 ∧ (totalOf counters).toNat = sum / 10 := by
  have hidentity : (counters .identity).toNat ≤ 80 := h .identity
  have hbehavior : (counters .behavior).toNat ≤ 70 := h .behavior
  have hnetwork : (counters .network).toNat ≤ 75 := h .network
  have hcompliance : (counters .compliance).toNat ≤ 85 := h .compliance
  refine ⟨by omega, ?_⟩
  -- the sums stay far below 2^32, so the machine arithmetic is exact
  simp only [totalOf, UInt32.toNat_div, UInt32.toNat_add, UInt32.toNat_mul, UInt32.reduceToNat]
  omega

theorem base_le (k : RiskComponent) : k.base.toNat ≤ 85 := by
  cases k <;> decide

/-- The bounds of the score, 100 and 1000, are never reached. -/
theorem min_eq_of_toNat_le {a b : UInt32} (h : a.toNat ≤ b.toNat) : min a b = a :=
  if_pos (UInt32.le_iff_toNat_le.mpr h)

/-- The components of a score are those of the loop. -/
theorem component_scoreOf (agentDid : String) (signals : List (RiskSignal ν)) (now : DateTime)
    (k : RiskComponent) :
    (scoreOf reduction agentDid signals now).component k =
      countersOf reduction (recentSignals now signals) k := by
  have hsmall : countersOf reduction (recentSignals now signals) k ≤ 100 := by
    rw [UInt32.le_iff_toNat_le]
    exact le_trans (countersOf_le_base _ k) (le_trans (base_le k) (by decide))
  have hmin : min (countersOf reduction (recentSignals now signals) k) 100 =
      countersOf reduction (recentSignals now signals) k := if_pos hsmall
  cases k <;> exact hmin

/-- The total of a score is the weighted mean of its components. -/
theorem toNat_totalScore (agentDid : String) (signals : List (RiskSignal ν)) (now : DateTime) :
    let score := scoreOf reduction agentDid signals now
    let sum := (score.component .identity).toNat * 2 + (score.component .behavior).toNat * 3 +
      (score.component .network).toNat * 2 + (score.component .compliance).toNat * 3
    sum ≤ 775 ∧ score.totalScore.toNat = sum / 10 := by
  simp only [component_scoreOf]
  have hbase : ∀ k, (countersOf reduction (recentSignals now signals) k).toNat ≤ k.base.toNat :=
    countersOf_le_base _
  obtain ⟨hsum, htotal⟩ := toNat_totalOf hbase
  refine ⟨hsum, ?_⟩
  rw [← htotal]
  -- the cap at 1000 is never reached
  show (min (totalOf _) 1000).toNat = _
  rw [min_eq_of_toNat_le]
  rw [htotal]
  show _ ≤ 1000
  omega

theorem scoreOf_perm {signals signals' : List (RiskSignal ν)} (h : signals.Perm signals')
    (agentDid : String) (now : DateTime) :
    scoreOf reduction agentDid signals now = scoreOf reduction agentDid signals' now := by
  have hrecent : (recentSignals now signals).Perm (recentSignals now signals') := h.filter _
  simp only [scoreOf, countersOf_perm hrecent, hrecent.length_eq, hrecent.countP_eq]

/-- A further signal raises no component, and so does not raise the total. -/
theorem scoreOf_append_le (agentDid : String) (signals more : List (RiskSignal ν))
    (now : DateTime) :
    (∀ k, (scoreOf reduction agentDid (signals ++ more) now).component k ≤
      (scoreOf reduction agentDid signals now).component k) ∧
    (scoreOf reduction agentDid (signals ++ more) now).totalScore ≤
      (scoreOf reduction agentDid signals now).totalScore := by
  have hcomponent : ∀ k, (scoreOf reduction agentDid (signals ++ more) now).component k ≤
      (scoreOf reduction agentDid signals now).component k := by
    intro k
    rw [component_scoreOf, component_scoreOf, UInt32.le_iff_toNat_le, recentSignals,
      List.filter_append]
    exact countersOf_append_le _ _ k
  refine ⟨hcomponent, ?_⟩
  -- the total is monotone in the four components
  rw [UInt32.le_iff_toNat_le, (toNat_totalScore agentDid (signals ++ more) now).2,
    (toNat_totalScore agentDid signals now).2]
  have hidentity := UInt32.le_iff_toNat_le.mp (hcomponent .identity)
  have hbehavior := UInt32.le_iff_toNat_le.mp (hcomponent .behavior)
  have hnetwork := UInt32.le_iff_toNat_le.mp (hcomponent .network)
  have hcompliance := UInt32.le_iff_toNat_le.mp (hcomponent .compliance)
  omega

/-! ## States and signals -/

theorem signalsOf_concat (calls : List (RiskCall ν)) (call : RiskCall ν) (agentDid : String) :
    signalsOf (calls ++ [call]) agentDid =
      signalsOf calls agentDid ++ (call.signalFor agentDid).toList := by
  rw [signalsOf, List.filterMap_append, ← signalsOf]
  cases hsignal : call.signalFor agentDid with
  | none => simp [hsignal]
  | some signal => simp [hsignal]

/-- A call for another agent adds no signal. -/
theorem signalFor_of_ne {call : RiskCall ν} {agentDid : String} (h : call.agent ≠ agentDid) :
    call.signalFor agentDid = none := by
  cases call with
  | addSignal did signal now => exact if_neg h
  | recalculate did now => rfl

/-- A call for another agent leaves signals and score alone. -/
theorem step_of_ne (state : RiskState ν) {call : RiskCall ν} {agentDid : String}
    (h : call.agent ≠ agentDid) :
    (state.step reduction call).signals.lookup agentDid = state.signals.lookup agentDid ∧
      (state.step reduction call).scores.lookup agentDid = state.scores.lookup agentDid := by
  cases call with
  | addSignal did signal now =>
    exact ⟨Finmap.lookup_insert_of_ne _ (Ne.symm h), Finmap.lookup_insert_of_ne _ (Ne.symm h)⟩
  | recalculate did now => exact ⟨rfl, Finmap.lookup_insert_of_ne _ (Ne.symm h)⟩

/-- The state has the signals of the run in their order. -/
theorem signals_run (calls : List (RiskCall ν)) (agentDid : String) :
    ((runFrom (RiskState.step reduction) .new calls).signals.lookup agentDid).getD [] =
      signalsOf calls agentDid := by
  apply runFrom_tracks (T := fun past (state : RiskState ν) =>
    (state.signals.lookup agentDid).getD [] = signalsOf past agentDid)
  · rfl
  · intro past call state h
    rw [signalsOf_concat, ← h]
    by_cases hagent : call.agent = agentDid
    · subst hagent
      cases call with
      | addSignal did signal now =>
        simp [RiskState.step, RiskState.addSignal, RiskCall.signalFor, RiskCall.agent]
      | recalculate did now =>
        simp [RiskState.step, RiskState.recalculate, RiskCall.signalFor]
    · -- a call for another agent leaves the signals alone
      rw [signalFor_of_ne hagent, Option.toList_none, List.append_nil,
        (step_of_ne state hagent).1]

/-- What `recalculate` returns after a run. -/
theorem recalculate_run (calls : List (RiskCall ν)) (agentDid : String) (now : DateTime) :
    ((runFrom (RiskState.step reduction) .new calls).recalculate reduction agentDid now).2 =
      scoreOf reduction agentDid (signalsOf calls agentDid) now := by
  rw [← signals_run]
  rfl

/-- The clock at the last call for an agent. -/
def lastReading (calls : List (RiskCall ν)) (agentDid : String) : Option DateTime :=
  ((calls.filter (·.agent = agentDid)).getLast?).map RiskCall.reading

theorem lastReading_concat (calls : List (RiskCall ν)) (call : RiskCall ν) (agentDid : String) :
    lastReading (calls ++ [call]) agentDid =
      if call.agent = agentDid then some call.reading else lastReading calls agentDid := by
  rw [lastReading, List.filter_append]
  by_cases hagent : call.agent = agentDid
  · simp [hagent]
  · simp [hagent, lastReading]

/-- The stored score is that for the signals so far at the last call for the agent. -/
theorem getScore_run (calls : List (RiskCall ν)) (agentDid : String) :
    (runFrom (RiskState.step reduction) .new calls).getScore agentDid =
      (lastReading calls agentDid).map (scoreOf reduction agentDid (signalsOf calls agentDid)) := by
  induction calls using List.reverseRecOn with
  | nil => rfl
  | append_singleton past call ih =>
    have hsignals : ((runFrom (RiskState.step reduction) .new (past ++ [call])).signals.lookup
        agentDid).getD [] = signalsOf (past ++ [call]) agentDid := signals_run _ _
    rw [runFrom_append, runFrom_cons, runFrom_nil] at hsignals ⊢
    rw [lastReading_concat, ← hsignals]
    generalize runFrom (RiskState.step reduction) .new past = state at *
    by_cases hagent : call.agent = agentDid
    · -- the call computes the score
      subst hagent
      rw [if_pos rfl]
      cases call with
      | addSignal did signal now => exact Finmap.lookup_insert _
      | recalculate did now => exact Finmap.lookup_insert _
    · -- the score and the signals of the agent stay
      rw [if_neg hagent, hsignals, signalsOf_concat, signalFor_of_ne hagent, Option.toList_none,
        List.append_nil, ← ih]
      exact (step_of_ne state hagent).2

/-- At a fixed clock reading the last call for an agent was at this time, if there was one. -/
theorem lastReading_eq {calls : List (RiskCall ν)} {now : DateTime}
    (h : ∀ c ∈ calls, c.reading = now) (agentDid : String) :
    lastReading calls agentDid =
      if ∃ c ∈ calls, c.agent = agentDid then some now else none := by
  -- by induction from the end, since the last call decides
  induction calls using List.reverseRecOn with
  | nil => simp [lastReading]
  | append_singleton past call ih =>
    rw [List.forall_mem_append, List.forall_mem_singleton] at h
    rw [lastReading_concat, ih h.1, h.2]
    by_cases hagent : call.agent = agentDid
    · simp [hagent]
    · simp [hagent]

/-! ## Laws -/

def RiskState.after (reduction : RiskSignal ν → UInt32) (calls : List (RiskCall ν)) : RiskState ν :=
  runFrom (RiskState.step reduction) .new calls

theorem addSignal_after (reduction : RiskSignal ν → UInt32) (calls : List (RiskCall ν))
    (agentDid : String) (signal : RiskSignal ν) (now : DateTime) :
    (RiskState.after reduction calls).addSignal reduction agentDid signal now =
      RiskState.after reduction (calls ++ [.addSignal agentDid signal now]) := by
  rw [RiskState.after, RiskState.after, runFrom_append]
  rfl

/-- What holds of the scores after a run, at a clock reading. -/
structure ScoreLaws (reduction : RiskSignal ν → UInt32) (calls : List (RiskCall ν))
    (now : DateTime) : Prop where
  /-- The scores do not depend on the order of the calls; those that are stored do not either, when
      the clock has the same reading at all calls. -/
  order : ∀ calls', calls.Perm calls' → ∀ agentDid,
    ((RiskState.after reduction calls).recalculate reduction agentDid now).2 =
        ((RiskState.after reduction calls').recalculate reduction agentDid now).2 ∧
      ((∀ c ∈ calls, c.reading = now) →
        (RiskState.after reduction calls).getScore agentDid =
          (RiskState.after reduction calls').getScore agentDid)
  /-- At a fixed clock reading a stored score is the one that a recalculation gives. -/
  stored : (∀ c ∈ calls, c.reading = now) → ∀ agentDid score,
    (RiskState.after reduction calls).getScore agentDid = some score →
      score = ((RiskState.after reduction calls).recalculate reduction agentDid now).2
  /-- A component is its base less the reductions of the recent signals that count for it. -/
  component : ∀ agentDid k,
    (((RiskState.after reduction calls).recalculate reduction agentDid now).2.component k).toNat =
      k.base.toNat - (((recentSignals now (signalsOf calls agentDid)).filter (·.counts k)).map
        fun s => (reduction s).toNat).sum
  /-- The total is the weighted mean, and its sum is far below the largest `u32`. -/
  total : ∀ agentDid,
    let score := ((RiskState.after reduction calls).recalculate reduction agentDid now).2
    let sum := (score.component .identity).toNat * 2 + (score.component .behavior).toNat * 3 +
      (score.component .network).toNat * 2 + (score.component .compliance).toNat * 3
    sum ≤ 775 ∧ score.totalScore.toNat = sum / 10
  /-- A further signal raises no component and not the total. -/
  added : ∀ agentDid signal,
    let before := ((RiskState.after reduction calls).recalculate reduction agentDid now).2
    ∃ score, ((RiskState.after reduction calls).addSignal reduction agentDid signal now).getScore
        agentDid = some score ∧
      (∀ k, score.component k ≤ before.component k) ∧ score.totalScore ≤ before.totalScore
  /-- A signal of another agent changes nothing, at any clock reading. -/
  others : ∀ agentDid other signal t, other ≠ agentDid →
    let state := (RiskState.after reduction calls).addSignal reduction other signal t
    state.getScore agentDid = (RiskState.after reduction calls).getScore agentDid ∧
      (state.recalculate reduction agentDid now).2 =
        ((RiskState.after reduction calls).recalculate reduction agentDid now).2

/-- **Risk scores**, for any reductions, after any calls and at any time. -/
theorem scoreLaws (reduction : RiskSignal ν → UInt32) (calls : List (RiskCall ν))
    (now : DateTime) : ScoreLaws reduction calls now where
  order calls' hperm agentDid := by
    -- the order of the calls only permutes the signals of the agent
    have hsignals : (signalsOf calls agentDid).Perm (signalsOf calls' agentDid) :=
      hperm.filterMap _
    refine ⟨?_, ?_⟩
    · rw [RiskState.after, RiskState.after, recalculate_run, recalculate_run]
      exact scoreOf_perm hsignals agentDid now
    · intro hnow
      -- the last reading is the common one in either order
      have hnow' : ∀ c ∈ calls', c.reading = now := fun c hc => hnow c (hperm.mem_iff.mpr hc)
      rw [RiskState.after, RiskState.after, getScore_run, getScore_run, lastReading_eq hnow,
        lastReading_eq hnow', funext (scoreOf_perm hsignals agentDid)]
      simp only [hperm.mem_iff]
  stored hnow agentDid score hscore := by
    rw [RiskState.after, recalculate_run]
    rw [RiskState.after, getScore_run, lastReading_eq hnow] at hscore
    split at hscore
    · exact (Option.some.inj hscore).symm
    · cases hscore
  component agentDid k := by
    -- each component is its base less the reductions, down to zero
    rw [RiskState.after, recalculate_run, component_scoreOf, toNat_countersOf]
  total agentDid := by
    rw [RiskState.after, recalculate_run]
    exact toNat_totalScore agentDid _ now
  added agentDid signal := by
    simp only [addSignal_after]
    rw [RiskState.after, RiskState.after, getScore_run, lastReading_concat, signalsOf_concat,
      recalculate_run]
    simp only [RiskCall.agent, RiskCall.reading, if_true, Option.map_some]
    exact ⟨_, rfl, scoreOf_append_le agentDid _ _ now⟩
  others agentDid other signal t hother := by
    have hagent : (RiskCall.addSignal other signal t).agent ≠ agentDid := hother
    simp only [addSignal_after]
    -- the call is for another agent, so neither its signals nor its last reading change
    rw [RiskState.after, RiskState.after, getScore_run, getScore_run, recalculate_run,
      recalculate_run, lastReading_concat, signalsOf_concat, if_neg hagent, signalFor_of_ne hagent]
    simp only [Option.toList_none, List.append_nil, and_self]

end AgentGovernance.Mesh
