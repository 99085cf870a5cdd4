import AgentGovernance.Daemon.Gateway

/-!
# Rings in decisions, escalations and approvals

The ring of an agent is compared in `Enforcer::can_execute`, in the escalation branch of
`evaluate`, and once more in `EscalationManager::approve`, each time with the more privileged ring
as the smaller one.  `evaluate_rings` ties the three together: what an agent may do in one ring it
may do in a more privileged one, and a required escalation can be approved and is enough.
-/

namespace AgentGovernance.McpGovernance

open AgentGovernance.Mesh

namespace PolicyEnforcer

variable (enforcer : PolicyEnforcer) (agentDid toolName : String) (agentRing : PrivilegeRing)
  (args : Value)

/-! ## The decisions by ring -/

theorem checkPolicy_ne_escalateRequired (q : PrivilegeRing) :
    enforcer.checkPolicy agentDid toolName ≠ .escalateRequired q := by
  unfold checkPolicy
  split
  · split
    · simp
    · split <;> simp
  · simp
  · simp

/-- An escalation is required to the ring of a registered tool that the agent does not reach. -/
theorem evaluate_eq_escalateRequired_iff (q : PrivilegeRing) :
    enforcer.evaluate agentDid agentRing toolName args = .escalateRequired q ↔
      ∃ tool, enforcer.getTool toolName = some tool ∧ tool.requiredRing = q ∧ q < agentRing := by
  rcases enforcer.evaluate_cases agentDid toolName agentRing args with
    ⟨htool, -, heq⟩ | ⟨htool, -, heq⟩ | ⟨tool, htool, ⟨hring, heq⟩ | ⟨hring, heq⟩⟩
  · simp [heq, htool]
  · simp [heq, htool]
  · rw [heq, EnforcementDecision.escalateRequired.injEq]
    simp only [htool, Option.some.injEq, exists_eq_left']
    refine ⟨?_, fun h => h.1⟩
    rintro rfl
    exact ⟨rfl, hring⟩
  · -- the policy check never asks for an escalation
    rw [heq]
    refine iff_of_false (enforcer.checkPolicy_ne_escalateRequired agentDid toolName q) ?_
    simp only [htool, Option.some.injEq, exists_eq_left']
    rintro ⟨rfl, hlt⟩
    exact absurd hring (not_le.mpr hlt)

inductive DenyReason : String → Prop where
  | unregistered : DenyReason "Tool not registered in AGT mesh (fail-closed)"
  | denylist : DenyReason "Tool explicitly denied by policy"
  | allowlist : DenyReason "Tool not in agent allowlist"
  | noPolicy : DenyReason "No policy registered for agent"
  | store (e : String) : DenyReason ("Policy store error: " ++ e)

theorem denyReason_of_checkPolicy {cause : String}
    (h : enforcer.checkPolicy agentDid toolName = .deny cause) : DenyReason cause := by
  unfold checkPolicy at h
  -- the four denials, in the order of the source
  split at h
  · split at h
    · obtain rfl := EnforcementDecision.deny.inj h
      exact .denylist
    · split at h
      · obtain rfl := EnforcementDecision.deny.inj h
        exact .allowlist
      · cases h
  · obtain rfl := EnforcementDecision.deny.inj h
    exact .noPolicy
  · obtain rfl := EnforcementDecision.deny.inj h
    exact .store _

/-- The ring is not among the reasons of a denial. -/
theorem denyReason_of_evaluate {cause : String}
    (h : enforcer.evaluate agentDid agentRing toolName args = .deny cause) : DenyReason cause := by
  rcases enforcer.evaluate_cases agentDid toolName agentRing args with
    ⟨-, -, heq⟩ | ⟨-, -, heq⟩ | ⟨tool, -, ⟨-, heq⟩ | ⟨-, heq⟩⟩
  · rw [heq] at h
    cases h
  · rw [heq] at h
    obtain rfl := EnforcementDecision.deny.inj h
    exact .unregistered
  · -- below the required ring the call is escalated
    rw [heq] at h
    cases h
  · rw [heq] at h
    exact enforcer.denyReason_of_checkPolicy agentDid toolName h

theorem DenyReason.not_startsWith {cause : String} (h : DenyReason cause) :
    Compliance.startsWith cause "Insufficient privilege ring" = false := by
  cases h with
  | store e =>
    rw [Compliance.startsWith, String.toList_append]
    rfl
  | _ => decide

variable {enforcer agentDid toolName agentRing args}

/-- A more privileged ring allows what a less privileged one does. -/
theorem evaluate_allow_mono {ring : PrivilegeRing} (hring : ring ≤ agentRing)
    (h : enforcer.evaluate agentDid agentRing toolName args = .allow) :
    enforcer.evaluate agentDid ring toolName args = .allow := by
  rw [evaluate_eq_allow_iff] at h ⊢
  rcases h with ⟨tool, htool, hle, hpermitted⟩ | hunknown
  · exact .inl ⟨tool, htool, hring.trans hle, hpermitted⟩
  · exact .inr hunknown

end PolicyEnforcer

end AgentGovernance.McpGovernance

namespace AgentGovernance.Runtime

open AgentGovernance.Mesh

variable (C : Crypto)

/-! ## The ring transition check -/

/-- `approve` denies with the ring transition only when the request asks for no more privileged
    ring. -/
theorem EscalationManager.attestationCheck_ne_transition
    (answer : Except String (Option SignedAttestation)) (registryPubkey : String)
    (verifiedAt : DateTime) (eventId : Uuid) {request : EscalationRequest} (signature : Lib.Bytes)
    (hring : request.requestedRing < request.currentRing) :
    attestationCheck C answer registryPubkey verifiedAt eventId request signature ≠
      .ok (.denied "Requested ring must be more privileged") := by
  unfold attestationCheck
  split
  · simp
  · simp
  · -- the other denials have other texts
    split
    · simp
    · dsimp only
      split
      · simp
      · -- the rings are as requested, so this check is passed
        rw [if_neg (not_le.mpr hring)]
        simp

/-- A request for a more privileged ring passes the check, whoever approves it. -/
theorem EscalationManager.approve_ne_transition {m : EscalationManager} {eventId : Uuid}
    {request : EscalationRequest} (hpending : m.pending.lookup eventId = some request)
    (hring : request.requestedRing < request.currentRing) (env : Surroundings)
    (approverDid : String) (signature : Lib.Bytes) {event : EscalationEvent}
    (happrove : (m.approve C env eventId approverDid signature).2 = .ok event) :
    event.outcome ≠ .denied "Requested ring must be more privileged" := by
  rw [approve, take_eq_some.mpr ⟨hpending, rfl⟩] at happrove
  dsimp only at happrove
  -- the outcome of the event is that of the decision
  cases hdecision : decision C m.registryPubkey env eventId request approverDid signature with
  | error e =>
    rw [hdecision] at happrove
    cases happrove
  | ok outcome =>
    rw [hdecision] at happrove
    obtain rfl := Except.ok.inj happrove
    rintro rfl
    show False
    unfold decision at hdecision
    split at hdecision
    · cases hdecision
    next outcome' hcheck =>
      obtain rfl := Except.ok.inj hdecision
      -- a denial for the approver's ring has another text
      unfold ringCheck at hcheck
      split at hcheck
      · cases hcheck
      · cases hcheck
      · split at hcheck
        · simp at hcheck
        · cases hcheck
    · -- past the ring check the attestation decides
      exact attestationCheck_ne_transition C _ _ _ _ _ hring hdecision

end AgentGovernance.Runtime

namespace AgentGovernance.Daemon

open AgentGovernance.Mesh AgentGovernance.Compliance AgentGovernance.McpGovernance
open AgentGovernance.Runtime

/-! ## The request of the gateway -/

/-- The request that the gateway files for an escalation. -/
def autoEscalation (did tool : String) (ring requestedRing : PrivilegeRing) (now : DateTime) :
    EscalationRequest where
  agentDid := did
  currentRing := ring
  requestedRing := requestedRing
  reason := "Auto-escalation for tool: " ++ tool
  timestamp := now

/-- Where the enforcer requires an escalation, the gateway files this request. -/
theorem GatewayState.enforce_escalates (E : LogEnv) {g : GatewayState} {did tool : String}
    {ring q : PrivilegeRing} {args : Value}
    (h : g.enforcer.evaluate did ring tool args = .escalateRequired q) (reads : GatewayReads) :
    (g.enforce E did ring tool args reads).1.serverState.escalationManager =
      g.serverState.escalationManager.requestEscalation reads.escalationId
        (autoEscalation did tool ring q (reads.now 6)) := by
  simp only [GatewayState.enforce, h]
  rfl

/-! ## The three comparisons -/

/-- **Rings**: what a ring allows, every more privileged ring allows; a required escalation is to
    a more privileged ring, the request for it passes the ring check of `approve`, and from there
    on no escalation is required, whatever the store holds by then; and no denial names the ring. -/
theorem evaluate_rings (enforcer : PolicyEnforcer) (agentDid toolName : String) (args : Value) :
    (∀ ring ring', ring' < ring → enforcer.evaluate agentDid ring toolName args = .allow →
      enforcer.evaluate agentDid ring' toolName args = .allow) ∧
    (∀ ring q, enforcer.evaluate agentDid ring toolName args = .escalateRequired q →
      q < ring ∧
      (∀ (C : Crypto) (m : EscalationManager) (eventId : Uuid) (now : DateTime)
        (env : Surroundings) (approverDid : String) (signature : Lib.Bytes)
        (event : EscalationEvent),
        m.pending.lookup eventId = some (autoEscalation agentDid toolName ring q now) →
        (m.approve C env eventId approverDid signature).2 = .ok event →
          event.outcome ≠ .denied "Requested ring must be more privileged") ∧
      ∀ ring' ≤ q, ∀ (store : PolicyStore) (q' : PrivilegeRing),
        { enforcer with store := store }.evaluate agentDid ring' toolName args ≠
          .escalateRequired q') ∧
    ∀ ring cause, enforcer.evaluate agentDid ring toolName args = .deny cause →
      startsWith cause "Insufficient privilege ring" = false := by
  refine ⟨?_, ?_, ?_⟩
  · intro ring ring' hring hallow
    exact PolicyEnforcer.evaluate_allow_mono hring.le hallow
  · intro ring q hescalate
    -- the ring asked for is the tool's
    obtain ⟨tool, htool, rfl, hring⟩ :=
      (enforcer.evaluate_eq_escalateRequired_iff agentDid toolName ring args q).mp hescalate
    refine ⟨hring, ?_, ?_⟩
    · intro C m eventId now env approverDid signature event hpending happrove
      exact EscalationManager.approve_ne_transition C hpending hring env approverDid signature
        happrove
    · intro ring' hle store q' hagain
      obtain ⟨tool', htool', rfl, hring'⟩ :=
        (PolicyEnforcer.evaluate_eq_escalateRequired_iff _ agentDid toolName ring' args q').mp hagain
      -- the tool is the same one, and its ring is reached
      obtain rfl : tool = tool' := Option.some.inj (htool.symm.trans htool')
      exact absurd hle (not_le.mpr hring')
  · intro ring cause hdeny
    exact (enforcer.denyReason_of_evaluate agentDid toolName ring args hdeny).not_startsWith

/-- An enforcer with a tool for trusted agents. -/
def ledgerEnforcer : PolicyEnforcer :=
  (PolicyEnforcer.new (MemoryPolicyStore.mk ∅).answers).registerTool
    { name := "export_ledger"
      requiredRing := .trusted
      defaultCategory := .financialRecord
      classificationRules := [] }

/-- A sandboxed agent is asked to escalate to the trusted ring, where it need not escalate. -/
theorem evaluate_rings_sample :
    ledgerEnforcer.evaluate "agent-1" .sandboxed "export_ledger" .null =
        .escalateRequired .trusted ∧
      ∀ q, ledgerEnforcer.evaluate "agent-1" .trusted "export_ledger" .null ≠
        .escalateRequired q := by
  have hescalate : ledgerEnforcer.evaluate "agent-1" .sandboxed "export_ledger" .null =
      .escalateRequired .trusted := by decide
  exact ⟨hescalate, ((evaluate_rings ledgerEnforcer "agent-1" "export_ledger" .null).2.1
    .sandboxed .trusted hescalate).2.2 .trusted le_rfl ledgerEnforcer.store⟩

end AgentGovernance.Daemon
