import AgentGovernance.Daemon.AuditIsolation

/-!
# Two evaluations of one action

`execute_action` evaluates the rules twice: `evaluate` gives the results that the caller sees, and
`is_compliant` decides.  The SOX rule reads the clock each time, so a write that leaves its window
in between is a violation in the results of a permitted action.

`executeAction_tells_iff`: response, record and results tell the same exactly when both rounds
find a violation or neither does, which for the rules of the repository fails only at the edge of
a window.
-/

namespace AgentGovernance.Compliance

open AgentGovernance.Mesh

/-! ## Violations of a round -/

def NoViolation (results : List ComplianceResult) : Prop :=
  ∀ r ∈ results, r.isViolation = false

/-- Some rule finds a violation at its reading of the clock. -/
def ComplianceVerifier.Finds (v : ComplianceVerifier) (now : Nat → DateTime)
    (input : ComplianceInput) : Prop :=
  ∃ (i : Nat) (rule : ComplianceRule), v.rules[i]? = some rule ∧
    (rule.evaluate (now i) input).isViolation = true

def ComplianceRule.Stock (rule : ComplianceRule) : Prop :=
  rule = gdprDataExportRule ∨ ∃ window, rule = soxAuditImmutabilityRule window

/-- An audit read with a write inside a window in the first round, and no write inside any window
    in the second. -/
structure EdgePassed (v : ComplianceVerifier) (first second : Nat → DateTime)
    (input : ComplianceInput) : Prop where
  auditRead : IsAuditRead input.resourceCategory input.action
  inside : ∃ i window, v.rules[i]? = some (soxAuditImmutabilityRule window) ∧
    ∃ r ∈ input.actionHistory, first i - window < r.timestamp ∧
      IsLedgerWrite r.resourceCategory r.action
  outside : ∀ i window, v.rules[i]? = some (soxAuditImmutabilityRule window) →
    ∀ r ∈ input.actionHistory, IsLedgerWrite r.resourceCategory r.action →
      r.timestamp ≤ second i - window

namespace ComplianceVerifier

variable {v : ComplianceVerifier} {now first second : Nat → DateTime} {input : ComplianceInput}

/-- The results of a round have no violation when no rule finds one. -/
theorem noViolation_evaluate_iff :
    NoViolation (v.evaluate now input) ↔ ¬ v.Finds now input := by
  unfold NoViolation Finds evaluate
  constructor
  · -- a rule that finds something gives a result that says so
    rintro hnone ⟨i, rule, hrule, hviolation⟩
    obtain ⟨hi, rfl⟩ := List.getElem?_eq_some_iff.mp hrule
    rw [hnone _ (List.mem_mapIdx.mpr ⟨i, hi, rfl⟩)] at hviolation
    exact Bool.false_ne_true hviolation
  · intro hfinds r hr
    -- each result comes from a rule
    obtain ⟨i, hi, rfl⟩ := List.mem_mapIdx.mp hr
    rw [← Bool.not_eq_true]
    intro hviolation
    exact hfinds ⟨i, _, List.getElem?_eq_getElem hi, hviolation⟩

theorem isCompliant_eq_true_iff : v.isCompliant now input = true ↔ ¬ v.Finds now input := by
  rw [← noViolation_evaluate_iff]
  simp [isCompliant, NoViolation]

/-- A later reading finds no violation that an earlier one does not find. -/
theorem Stock.isViolation_mono {rule : ComplianceRule} (hrule : rule.Stock) {now now' : DateTime}
    (hle : now ≤ now') (h : (rule.evaluate now' input).isViolation = true) :
    (rule.evaluate now input).isViolation = true := by
  rcases hrule with rfl | ⟨window, rfl⟩
  · exact h
  · rw [sox_isViolation_iff] at h ⊢
    obtain ⟨hread, r, hr, hlt, hwrite⟩ := h
    exact ⟨hread, r, hr, lt_of_le_of_lt (sub_le_sub_right hle _) hlt, hwrite⟩

/-- **The edge**: with the rules of the repository the second round misses a violation of the
    first exactly when the write left its window in between. -/
theorem finds_and_not_finds_iff (hstock : ∀ rule ∈ v.rules, rule.Stock) :
    (v.Finds first input ∧ ¬ v.Finds second input) ↔ EdgePassed v first second input := by
  constructor
  · rintro ⟨⟨i, rule, hrule, hviolation⟩, hnone⟩
    rcases hstock rule (List.mem_of_getElem? hrule) with rfl | ⟨window, rfl⟩
    · -- the GDPR rule does not read the clock
      exact absurd ⟨i, _, hrule, hviolation⟩ hnone
    · rw [sox_isViolation_iff] at hviolation
      refine ⟨hviolation.1, ⟨i, window, hrule, hviolation.2⟩, ?_⟩
      -- a write outside the first window only would have been found by the second round
      intro j window' hrule' r hr hwrite
      by_contra hlate
      refine hnone ⟨j, _, hrule', ?_⟩
      rw [sox_isViolation_iff]
      exact ⟨hviolation.1, r, hr, not_le.mp hlate, hwrite⟩
  · rintro ⟨hread, ⟨i, window, hrule, hinside⟩, houtside⟩
    refine ⟨⟨i, _, hrule, (sox_isViolation_iff _ _ _).mpr ⟨hread, hinside⟩⟩, ?_⟩
    rintro ⟨j, rule, hrule', hviolation⟩
    rcases hstock rule (List.mem_of_getElem? hrule') with rfl | ⟨window', rfl⟩
    · -- the GDPR rule is not about audit reads
      rw [gdpr_isViolation_of_ne _ (by rw [hread.1]; decide)] at hviolation
      exact Bool.false_ne_true hviolation
    · rw [sox_isViolation_iff] at hviolation
      obtain ⟨-, r, hr, hlt, hwrite⟩ := hviolation
      exact absurd (houtside j window' hrule' r hr hwrite) (not_le.mpr hlt)

/-- Both rounds agree except at the edge of a window. -/
theorem finds_iff_finds_iff (hstock : ∀ rule ∈ v.rules, rule.Stock)
    (hle : ∀ i, first i ≤ second i) :
    (v.Finds first input ↔ v.Finds second input) ↔ ¬ EdgePassed v first second input := by
  rw [← finds_and_not_finds_iff hstock]
  have hmono : v.Finds second input → v.Finds first input := by
    rintro ⟨i, rule, hrule, hviolation⟩
    exact ⟨i, rule, hrule,
      Stock.isViolation_mono (hstock rule (List.mem_of_getElem? hrule)) (hle i) hviolation⟩
  tauto

end ComplianceVerifier

end AgentGovernance.Compliance

namespace AgentGovernance.Daemon

open AgentGovernance.Lib AgentGovernance.Mesh AgentGovernance.Compliance
open FileActionLog (ActionRecord Stored)

/-! ## The verdict of a call -/

/-- Success and outcome follow the results: permitted without a violation, and otherwise denied
    with the first one. -/
structure Evaluation.Tells (e : Evaluation) : Prop where
  success : e.response.success = true ↔ NoViolation e.response.results
  permitted : e.record.outcome = .permitted ↔ NoViolation e.response.results
  denied : ∀ rule reason, e.response.results.find? (·.isViolation) = some (.violation rule reason) →
    e.record.outcome = .denied rule reason

/-- The response has the results of `evaluate`. -/
@[simp] theorem Evaluation.response_results (e : Evaluation) : e.response.results = e.results := by
  unfold Evaluation.response
  split <;> rfl

/-- The first violation is the first result that is one. -/
theorem firstViolation_of_find {results : List ComplianceResult} {rule reason : String}
    (h : results.find? (·.isViolation) = some (.violation rule reason)) :
    firstViolation results = (rule, reason) := by
  induction results with
  | nil => cases h
  | cons r results ih =>
    cases r with
    | violation rule' reason' =>
      obtain ⟨rfl, rfl⟩ : rule' = rule ∧ reason' = reason := by
        simpa [ComplianceResult.isViolation] using h
      rfl
    | compliant =>
      -- results without a violation are passed over
      exact ih h
    | notApplicable => exact ih h

namespace ExecuteCall

variable (call : ExecuteCall) (v : ComplianceVerifier) (did : String) (ring : PrivilegeRing)
  (history : List ActionRecord)

/-- The readings of `is_compliant`. -/
def secondRound : Nat → DateTime :=
  fun i => call.now (v.rules.length + i)

/-- Both rounds of the call find a violation, or neither does. -/
def RoundsAgree : Prop :=
  v.Finds call.now (call.complianceInput did ring history) ↔
    v.Finds (call.secondRound v) (call.complianceInput did ring history)

/-- The evaluation tells the truth exactly when the rounds agree. -/
theorem evaluation_tells_iff :
    (call.evaluation v did ring history).Tells ↔ call.RoundsAgree v did ring history := by
  -- the answer lists the results of the first round
  have hresults : NoViolation (call.evaluation v did ring history).response.results ↔
      ¬ v.Finds call.now (call.complianceInput did ring history) := by
    rw [Evaluation.response_results]
    exact ComplianceVerifier.noViolation_evaluate_iff
  -- and its outcome comes from the second
  have hcompliant : (call.evaluation v did ring history).isCompliant = true ↔
      ¬ v.Finds (call.secondRound v) (call.complianceInput did ring history) :=
    ComplianceVerifier.isCompliant_eq_true_iff
  constructor
  · intro htells
    have hsuccess := htells.success
    rw [evaluation_success, hcompliant, hresults] at hsuccess
    exact (not_iff_not.mp hsuccess).symm
  · intro hagree
    -- when the rounds agree, so do the outcome and the results
    have hnone := (hcompliant.trans (not_congr hagree).symm).trans hresults.symm
    refine ⟨?_, ?_, ?_⟩
    · rw [evaluation_success, hnone]
    · rw [evaluation_permitted_iff, hnone]
    · intro rule reason hfind
      have hviolation : (call.evaluation v did ring history).isCompliant = false := by
        rw [← Bool.not_eq_true, hnone]
        intro hno
        have hmem := hno _ (List.mem_of_find?_eq_some hfind)
        exact Bool.false_ne_true hmem.symm
      rw [Evaluation.response_results] at hfind
      have hfirst := firstViolation_of_find hfind
      simp only [evaluation] at hviolation hfirst ⊢
      rw [if_neg (by rw [hviolation]; exact Bool.false_ne_true), hfirst]

/-- A clock that does not go back leads to the edge condition. -/
theorem roundsAgree_iff_of_stock (hstock : ∀ rule ∈ v.rules, rule.Stock)
    (hclock : NonDecreasing call.now) :
    call.RoundsAgree v did ring history ↔
      ¬ EdgePassed v call.now (call.secondRound v) (call.complianceInput did ring history) :=
  ComplianceVerifier.finds_iff_finds_iff hstock fun i => hclock i _ (Nat.le_add_left i _)

end ExecuteCall

variable {E : LogEnv} {v : ComplianceVerifier} (hasExporter : Bool)

/-- An admitted call on a readable log whose record is appended is answered with its evaluation. -/
theorem executeAction_answered {log : FileActionLog} {call : ExecuteCall} {did : String}
    {ring : PrivilegeRing} {history : List ActionRecord}
    (hcaller : callerOf call.registry call.header = .ok (did, ring))
    (hhistory : FileActionLog.loadHistory E log.disk.log did = .ok history)
    (happend : (log.append E (call.evaluation v did ring history).record call.io).2 = .ok ()) :
    executeAction E v hasExporter log call =
      { log := (log.append E (call.evaluation v did ring history).record call.io).1
        exported :=
          if hasExporter then some (call.evaluation v did ring history).record else none
        response := .ok (call.evaluation v did ring history).response } := by
  -- the record is appended, and the answer goes out
  have hpair : log.append E (call.evaluation v did ring history).record call.io =
      ((log.append E (call.evaluation v did ring history).record call.io).1, .ok ()) := by
    rw [← happend]
  simp only [executeAction, hcaller, hhistory]
  rw [hpair]

/-- **Verdicts**: the answer, the record and the results of a call tell the same exactly when
    both rounds of rules find a violation or neither does; with the rules of the repository,
    unless the request is an audit read and the last write leaves its window in between. -/
theorem executeAction_tells_iff {log : FileActionLog} {call : ExecuteCall} {did : String}
    {ring : PrivilegeRing} {history : List ActionRecord}
    (hcaller : callerOf call.registry call.header = .ok (did, ring))
    (hhistory : FileActionLog.loadHistory E log.disk.log did = .ok history)
    (hclock : NonDecreasing call.now)
    (happend : (log.append E (call.evaluation v did ring history).record call.io).2 = .ok ()) :
    executeAction E v hasExporter log call =
      { log := (log.append E (call.evaluation v did ring history).record call.io).1
        exported :=
          if hasExporter then some (call.evaluation v did ring history).record else none
        response := .ok (call.evaluation v did ring history).response } ∧
    ((call.evaluation v did ring history).Tells ↔ call.RoundsAgree v did ring history) ∧
    ((∀ rule ∈ v.rules, rule.Stock) →
      ((call.evaluation v did ring history).Tells ↔
        ¬ EdgePassed v call.now (call.secondRound v) (call.complianceInput did ring history))) := by
  have htells := call.evaluation_tells_iff v did ring history
  refine ⟨executeAction_answered hasExporter hcaller hhistory happend, htells, ?_⟩
  intro hstock
  rw [htells, call.roundsAgree_iff_of_stock v did ring history hstock hclock]

/-! ## A write that leaves its window -/

/-- A permitted write at the epoch. -/
def ledgerWrite : ActionLogRecord where
  recordId := .fill 1
  agentDid := "agent-1"
  action := "write_entry"
  resourceCategory := .financialRecord
  timestamp := 0
  outcome := .permitted
  prevHash := ""

noncomputable def ledgerLog : FileActionLog :=
  ((FileActionLog.open sampleEnv .blank).append sampleEnv ledgerWrite .ok).1

def ledgerHistory : List ActionRecord :=
  [{ action := "write_entry", timestamp := 0, resourceCategory := .financialRecord }]

/-- An audit read whose two rounds are evaluated at two times. -/
def twoRounds (first second : DateTime) : ExecuteCall :=
  { sampleCall 2 "read" .auditLog 0 with now := fun i => if i < 2 then first else second }

theorem nonDecreasing_twoRounds {first second : DateTime} (h : first ≤ second) :
    NonDecreasing (twoRounds first second).now := by
  intro i j hij
  simp only [twoRounds]
  split <;> split
  · exact le_rfl
  · exact h
  · omega
  · exact le_rfl

theorem loadHistory_ledgerLog :
    FileActionLog.loadHistory sampleEnv ledgerLog.disk.log "agent-1" = .ok ledgerHistory :=
  ((FileActionLog.stored_open .blank rfl).append ledgerWrite).loadHistory "agent-1"

/-- The rules of the default policy. -/
theorem stock_defaultPolicy : ∀ rule ∈ ComplianceVerifier.defaultPolicy.rules, rule.Stock := by
  intro rule hrule
  rcases List.mem_cons.mp hrule with rfl | hrule
  · exact .inl rfl
  · exact .inr ⟨hours 24, List.mem_singleton.mp hrule⟩

/-- An hour after the write both rounds find it. -/
theorem executeAction_tells_iff_sample :
    ((twoRounds (hours 1) (hours 2)).evaluation .defaultPolicy "agent-1" .standard
      ledgerHistory).Tells := by
  have happend : (ledgerLog.append sampleEnv ((twoRounds (hours 1) (hours 2)).evaluation
      .defaultPolicy "agent-1" .standard ledgerHistory).record .ok).2 = .ok () := by
    rw [FileActionLog.append_ok]
  refine ((executeAction_tells_iff false (rfl : callerOf _ _ = .ok ("agent-1", .standard))
    loadHistory_ledgerLog (nonDecreasing_twoRounds (by decide)) happend).2.2
      stock_defaultPolicy).mpr ?_
  intro hedge
  have hlate := hedge.outside 1 (hours 24) rfl _ List.mem_cons_self ⟨.inl rfl, .inl (by decide)⟩
  exact absurd hlate (by decide)

/-- At the end of the window the results have a violation, and the read is permitted. -/
theorem executeAction_not_telling :
    ¬ ∀ (E : LogEnv) (v : ComplianceVerifier) (log : FileActionLog) (call : ExecuteCall)
      (did : String) (ring : PrivilegeRing) (history : List ActionRecord),
      callerOf call.registry call.header = .ok (did, ring) →
      FileActionLog.loadHistory E log.disk.log did = .ok history → NonDecreasing call.now →
      (call.evaluation v did ring history).Tells := by
  intro h
  have htells := h sampleEnv .defaultPolicy ledgerLog (twoRounds (hours 24 - 1) (hours 24))
    "agent-1" .standard ledgerHistory rfl loadHistory_ledgerLog
    (nonDecreasing_twoRounds (by decide))
  have hagree := (ExecuteCall.evaluation_tells_iff _ _ _ _ _).mp htells
  -- the first reading of the SOX rule is inside the window, and the second is at its end
  have hfirst : ComplianceVerifier.defaultPolicy.Finds
      (twoRounds (hours 24 - 1) (hours 24)).now
      ((twoRounds (hours 24 - 1) (hours 24)).complianceInput "agent-1" .standard
        ledgerHistory) := by
    refine ⟨1, soxAuditImmutabilityRule (hours 24), rfl, ?_⟩
    rw [sox_isViolation_iff]
    exact ⟨⟨rfl, .inl rfl⟩, _, List.mem_cons_self, by decide, .inl rfl, .inl (by decide)⟩
  -- the second round finds nothing, since the write is a whole day old by then
  refine ComplianceVerifier.isCompliant_eq_true_iff.mp ?_ (hagree.mp hfirst)
  rw [ComplianceVerifier.isCompliant_auditRead _ ⟨rfl, .inl rfl⟩]
  intro r hr _
  obtain rfl := List.mem_singleton.mp hr
  decide

end AgentGovernance.Daemon
