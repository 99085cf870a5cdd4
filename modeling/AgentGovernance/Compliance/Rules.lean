import AgentGovernance.Compliance.ActionLog
import AgentGovernance.Mesh.AgentId

/-!
# Compliance rules

The rules of `crates/ext/compliance/src/lib.rs` and the verifier that runs them.  A rule
that looks at the clock does so each time it is evaluated, so a verifier takes a sequence
of clock readings, one for each of its rules.

`IsAuditRead` and `IsLedgerWrite` are the two kinds of action that the SOX rule keeps
apart; under the default policy they decide every request of the first kind.
-/

namespace AgentGovernance.Compliance

open AgentGovernance.Mesh
open FileActionLog (ActionRecord)

structure ComplianceInput where
  agentDid : String
  agentRing : PrivilegeRing
  agentCapabilities : List String
  action : String
  resourceCategory : DataCategory
  actionHistory : List ActionRecord
  jurisdiction : Option String

inductive ComplianceResult where
  | compliant
  | notApplicable
  | violation (rule reason : String)
  deriving DecidableEq, Repr

/-- `matches!(r, ComplianceResult::Violation { .. })`. -/
def ComplianceResult.isViolation : ComplianceResult → Bool
  | .violation _ _ => true
  | _ => false

/-- `trait ComplianceRule`, with the reading that `Utc::now()` gives during an evaluation. -/
structure ComplianceRule where
  name : String
  evaluate : DateTime → ComplianceInput → ComplianceResult

def startsWith (s start : String) : Bool :=
  start.toList.isPrefixOf s.toList

/-! ## The rules -/

def gdprDataExportRule : ComplianceRule where
  name := "GDPR-001"
  evaluate _ input :=
    if input.action ≠ "data_export" then .notApplicable
    else if input.resourceCategory ≠ .personalData then .notApplicable
    else if input.jurisdiction = some "US" then .notApplicable
    else if !input.agentCapabilities.contains "gdpr_data_processor" then
      .violation "GDPR-001" "Agent lacks gdpr_data_processor capability for PersonalData export"
    else .compliant

/-- `impl Debug for Duration`. -/
def debugDuration (d : Duration) : String :=
  "TimeDelta \x7b secs: " ++ toString (d / 1000000000) ++ ", nanos: " ++
    toString (d % 1000000000) ++ " \x7d"

/-- A write to financial or audit data after the cutoff. -/
def recentWrite (cutoff : DateTime) (r : ActionRecord) : Bool :=
  cutoff < r.timestamp &&
  (r.resourceCategory = .financialRecord || r.resourceCategory = .auditLog) &&
  (startsWith r.action "write" || startsWith r.action "delete" || startsWith r.action "update")

def soxAuditImmutabilityRule (isolationWindow : Duration) : ComplianceRule where
  name := "SOX-001"
  evaluate now input :=
    if input.resourceCategory ≠ .auditLog then .notApplicable
    else if !(["read", "read_audit_log"].contains input.action) then .notApplicable
    else if input.actionHistory.any (recentWrite (now - isolationWindow)) then
      .violation "SOX-001" ("Agent has recent write history within window (" ++
        debugDuration isolationWindow ++ "); audit log read denied")
    else .compliant

/-! ## The verifier -/

structure ComplianceVerifier where
  rules : List ComplianceRule

namespace ComplianceVerifier

def defaultPolicy : ComplianceVerifier where
  rules := [gdprDataExportRule, soxAuditImmutabilityRule (hours 24)]

/-- `evaluate`; `now i` is the clock reading of the `i`-th rule. -/
def evaluate (v : ComplianceVerifier) (now : Nat → DateTime) (input : ComplianceInput) :
    List ComplianceResult :=
  v.rules.mapIdx fun i rule => rule.evaluate (now i) input

/-- `is_compliant`, which evaluates the rules again. -/
def isCompliant (v : ComplianceVerifier) (now : Nat → DateTime) (input : ComplianceInput) : Bool :=
  (v.evaluate now input).all fun r => !r.isViolation

end ComplianceVerifier

/-! ## What the default policy decides -/

/-- The actions that the SOX rule watches. -/
def IsAuditRead (category : DataCategory) (action : String) : Prop :=
  category = .auditLog ∧ (action = "read" ∨ action = "read_audit_log")

/-- The actions after which an agent must not read the audit log. -/
def IsLedgerWrite (category : DataCategory) (action : String) : Prop :=
  (category = .financialRecord ∨ category = .auditLog) ∧
  (startsWith action "write" ∨ startsWith action "delete" ∨ startsWith action "update")

theorem recentWrite_iff (cutoff : DateTime) (r : ActionRecord) :
    recentWrite cutoff r = true ↔
      cutoff < r.timestamp ∧ IsLedgerWrite r.resourceCategory r.action := by
  simp [recentWrite, IsLedgerWrite, and_assoc, or_assoc]

/-- No action is both a watched read and a write. -/
theorem IsLedgerWrite.not_isAuditRead {category : DataCategory} {action : String}
    (hw : IsLedgerWrite category action) : ¬ IsAuditRead category action := by
  rintro ⟨-, rfl | rfl⟩
  · exact absurd hw.2 (by decide)
  · exact absurd hw.2 (by decide)

/-- **The SOX rule**: it is violated exactly by a watched read after a write in the window. -/
theorem sox_isViolation_iff (window : Duration) (now : DateTime) (input : ComplianceInput) :
    ((soxAuditImmutabilityRule window).evaluate now input).isViolation = true ↔
      IsAuditRead input.resourceCategory input.action ∧
      ∃ r ∈ input.actionHistory, now - window < r.timestamp ∧
        IsLedgerWrite r.resourceCategory r.action := by
  have hwatched : ["read", "read_audit_log"].contains input.action = true ↔
      input.action = "read" ∨ input.action = "read_audit_log" := by simp
  have hany : input.actionHistory.any (recentWrite (now - window)) = true ↔
      ∃ r ∈ input.actionHistory, now - window < r.timestamp ∧
        IsLedgerWrite r.resourceCategory r.action := by
    simp only [List.any_eq_true, recentWrite_iff]
  -- the rule checks the category, the action and the history, in this order
  rw [← hany, IsAuditRead, ← hwatched]
  simp only [soxAuditImmutabilityRule]
  split
  · rename_i hcat
    simp [ComplianceResult.isViolation, hcat]
  · rename_i hcat
    rw [not_not] at hcat
    split
    · rename_i hact
      rw [Bool.not_eq_true'] at hact
      simp only [ComplianceResult.isViolation, hact, Bool.false_eq_true, and_false, false_and]
    · rename_i hact
      rw [Bool.not_eq_true', Bool.not_eq_false] at hact
      -- the category and the action match, so the history decides
      split
      · rename_i hrecent
        simp only [ComplianceResult.isViolation, true_iff]
        exact ⟨⟨hcat, hact⟩, hrecent⟩
      · rename_i hrecent
        simp only [ComplianceResult.isViolation, Bool.false_eq_true, false_iff]
        exact fun h => hrecent h.2

/-- The GDPR rule is about personal data only. -/
theorem gdpr_isViolation_of_ne (now : DateTime) {input : ComplianceInput}
    (h : input.resourceCategory ≠ .personalData) :
    (gdprDataExportRule.evaluate now input).isViolation = false := by
  simp only [gdprDataExportRule, if_pos h, ite_self]
  rfl

namespace ComplianceVerifier

theorem isCompliant_defaultPolicy (now : Nat → DateTime) (input : ComplianceInput) :
    defaultPolicy.isCompliant now input =
      (!(gdprDataExportRule.evaluate (now 0) input).isViolation &&
        !((soxAuditImmutabilityRule (hours 24)).evaluate (now 1) input).isViolation) := by
  simp [isCompliant, evaluate, defaultPolicy]

/-- Outside personal data the SOX rule decides. -/
theorem isCompliant_of_ne (now : Nat → DateTime) {input : ComplianceInput}
    (h : input.resourceCategory ≠ .personalData) :
    defaultPolicy.isCompliant now input = true ↔
      ¬ (IsAuditRead input.resourceCategory input.action ∧
        ∃ r ∈ input.actionHistory, now 1 - hours 24 < r.timestamp ∧
          IsLedgerWrite r.resourceCategory r.action) := by
  rw [isCompliant_defaultPolicy, gdpr_isViolation_of_ne _ h, Bool.not_false, Bool.true_and,
    Bool.not_eq_true', ← Bool.not_eq_true, sox_isViolation_iff]

/-- **Watched reads** are compliant exactly when the history has no write in the last day. -/
theorem isCompliant_auditRead (now : Nat → DateTime) {input : ComplianceInput}
    (h : IsAuditRead input.resourceCategory input.action) :
    defaultPolicy.isCompliant now input = true ↔
      ∀ r ∈ input.actionHistory, IsLedgerWrite r.resourceCategory r.action →
        r.timestamp ≤ now 1 - hours 24 := by
  rw [isCompliant_of_ne now (by rw [h.1]; decide)]
  constructor
  · intro hn r hr hw
    exact not_lt.mp fun hlt => hn ⟨h, r, hr, hlt, hw⟩
  · rintro hall ⟨-, r, hr, hlt, hw⟩
    exact absurd (hall r hr hw) (not_le.mpr hlt)

/-- Writes to financial or audit data are always compliant. -/
theorem isCompliant_ledgerWrite (now : Nat → DateTime) {input : ComplianceInput}
    (h : IsLedgerWrite input.resourceCategory input.action) :
    defaultPolicy.isCompliant now input = true := by
  have hcat : input.resourceCategory ≠ .personalData := by
    rcases h.1 with hfin | haud
    · rw [hfin]
      decide
    · rw [haud]
      decide
  exact (isCompliant_of_ne now hcat).mpr fun hviol => h.not_isAuditRead hviol.1

end ComplianceVerifier

end AgentGovernance.Compliance
