import AgentGovernance.McpGovernance.Store
import AgentGovernance.Mesh.AgentId
import AgentGovernance.Mesh.Audit

/-!
# The policy enforcer

`PolicyEnforcer` in `crates/ext/mcp-governance/src/lib.rs`, which decides about one tool
call of an agent.  A registered tool is checked against the agent's ring and against the
lists of its policy; an unregistered one only against `allow_unknown_tools`.

`evaluate_eq_allow_iff` is the decision, and `allow_binds_iff` says when it follows the lists.
-/

namespace AgentGovernance.McpGovernance

open AgentGovernance.Mesh

/-! ## Tools and arguments -/

/-- `serde_json::Value`; a number is its text. -/
inductive Value where
  | null
  | bool (b : Bool)
  | number (text : String)
  | string (s : String)
  | array (items : List Value)
  | object (fields : List (String × Value))

namespace Value

/-- `Value::get` with a field name. -/
def get (v : Value) (key : String) : Option Value :=
  match v with
  | .object fields => fields.lookup key
  | _ => none

def asStr : Value → Option String
  | .string s => some s
  | _ => none

end Value

def contains (s pattern : String) : Bool :=
  s.toList.tails.any fun rest => pattern.toList.isPrefixOf rest

structure ClassificationRule where
  paramName : String
  pattern : String
  overrideCategory : DataCategory

def ClassificationRule.applies (rule : ClassificationRule)
    (args : Value) : Bool :=
  match (args.get rule.paramName).bind Value.asStr with
  | none => false
  | some val => contains val rule.pattern

structure McpTool where
  name : String
  requiredRing : PrivilegeRing
  defaultCategory : DataCategory
  classificationRules : List ClassificationRule

inductive EnforcementDecision where
  | allow
  | deny (reason : String)
  | escalateRequired (requestedRing : PrivilegeRing)
  deriving DecidableEq

/-- `Enforcer::can_execute` in `crates/core/runtime/src/rings/enforcer.rs`. -/
def canExecute (agentRing requiredRing : PrivilegeRing) : Bool :=
  agentRing ≤ requiredRing

/-- `PolicyEnforcer`, with the answers of its store. -/
structure PolicyEnforcer where
  tools : Finmap (fun _ : String => McpTool)
  store : PolicyStore

namespace PolicyEnforcer

/-! ## The enforcer -/

def new (store : PolicyStore) : PolicyEnforcer where
  tools := ∅
  store := store

def registerTool (enforcer : PolicyEnforcer) (tool : McpTool) : PolicyEnforcer :=
  { enforcer with tools := enforcer.tools.insert tool.name tool }

def getTool (enforcer : PolicyEnforcer) (name : String) : Option McpTool :=
  enforcer.tools.lookup name

/-- `classify`: the first rule that applies overrides the tool's category. -/
def classify (enforcer : PolicyEnforcer) (toolName : String) (args : Value) : DataCategory :=
  match enforcer.getTool toolName with
  | none => .unknown
  | some tool =>
    match tool.classificationRules.find? (·.applies args) with
    | none => tool.defaultCategory
    | some rule => rule.overrideCategory

/-- The check of a registered tool against the policy of the agent. -/
def checkPolicy (enforcer : PolicyEnforcer) (agentDid toolName : String) : EnforcementDecision :=
  match enforcer.store.loadPolicy agentDid with
  | .ok (some policy) =>
    if policy.denylist.contains toolName then .deny "Tool explicitly denied by policy"
    else if !policy.allowedTools.isEmpty && !policy.allowedTools.contains toolName then
      .deny "Tool not in agent allowlist"
    else .allow
  | .ok none => .deny "No policy registered for agent"
  | .error e => .deny ("Policy store error: " ++ e)

/-- `evaluate`.  The arguments are only classified for a log message. -/
def evaluate (enforcer : PolicyEnforcer) (agentDid : String) (agentRing : PrivilegeRing)
    (toolName : String) (_args : Value) : EnforcementDecision :=
  match enforcer.getTool toolName with
  | none =>
    match enforcer.store.loadPolicy agentDid with
    | .ok (some policy) =>
      -- the lists of the policy are not looked at
      if policy.allowUnknownTools then .allow
      else .deny "Tool not registered in AGT mesh (fail-closed)"
    | _ => .deny "Tool not registered in AGT mesh (fail-closed)"
  | some tool =>
    if !canExecute agentRing tool.requiredRing then
      if tool.requiredRing < agentRing then .escalateRequired tool.requiredRing
      else
        .deny ("Insufficient privilege ring: agent is " ++ agentRing.toText ++ ", tool requires " ++
          tool.requiredRing.toText)
    else enforcer.checkPolicy agentDid toolName

end PolicyEnforcer

/-! ## The decision -/

/-- The lists of a policy permit a tool. -/
def McpPolicy.Permits (policy : McpPolicy) (toolName : String) : Prop :=
  toolName ∉ policy.denylist ∧ (policy.allowedTools = [] ∨ toolName ∈ policy.allowedTools)

namespace PolicyEnforcer

variable (enforcer : PolicyEnforcer) (agentDid toolName : String) (agentRing : PrivilegeRing)
  (args : Value)

/-- The agent has a policy whose lists permit the tool. -/
def Permitted : Prop :=
  ∃ policy, enforcer.store.loadPolicy agentDid = .ok (some policy) ∧ policy.Permits toolName

/-- The agent has a policy that allows unknown tools. -/
def UnknownAllowed : Prop :=
  ∃ policy, enforcer.store.loadPolicy agentDid = .ok (some policy) ∧
    policy.allowUnknownTools = true

/-- The policy check of a registered tool follows the lists. -/
theorem checkPolicy_eq_allow_iff :
    enforcer.checkPolicy agentDid toolName = .allow ↔ enforcer.Permitted agentDid toolName := by
  unfold checkPolicy Permitted McpPolicy.Permits
  cases enforcer.store.loadPolicy agentDid with
  | error e =>
    -- a store that cannot be read denies, and an agent without a policy is denied too
    simp
  | ok found =>
    cases found with
    | none => simp
    | some policy =>
      by_cases hdeny : toolName ∈ policy.denylist
      · -- the denylist is looked at before the allowlist
        simp [hdeny]
      · by_cases hallow : policy.allowedTools = [] ∨ toolName ∈ policy.allowedTools
        · rcases hallow with hempty | hlisted
          · -- an empty allowlist lists every tool
            simp [hdeny, hempty]
          · simp [hdeny, hlisted]
        · simp_all

/-- What a decision depends on: the flag for an unregistered tool, the ring and then the policy for
    a registered one. -/
theorem evaluate_cases :
    (enforcer.getTool toolName = none ∧ enforcer.UnknownAllowed agentDid ∧
        enforcer.evaluate agentDid agentRing toolName args = .allow) ∨
      (enforcer.getTool toolName = none ∧ ¬ enforcer.UnknownAllowed agentDid ∧
        enforcer.evaluate agentDid agentRing toolName args =
          .deny "Tool not registered in AGT mesh (fail-closed)") ∨
      ∃ tool, enforcer.getTool toolName = some tool ∧
        ((tool.requiredRing < agentRing ∧
            enforcer.evaluate agentDid agentRing toolName args =
              .escalateRequired tool.requiredRing) ∨
          (agentRing ≤ tool.requiredRing ∧
            enforcer.evaluate agentDid agentRing toolName args =
              enforcer.checkPolicy agentDid toolName)) := by
  unfold evaluate
  cases enforcer.getTool toolName with
  | none =>
    -- an unregistered tool: only `allow_unknown_tools` is read, never the lists
    simp only [UnknownAllowed]
    cases enforcer.store.loadPolicy agentDid with
    | error e => simp
    | ok found =>
      cases found with
      | none => simp
      | some policy => cases hflag : policy.allowUnknownTools <;> simp [hflag]
  | some tool =>
    refine .inr (.inr ⟨tool, rfl, ?_⟩)
    by_cases hring : agentRing ≤ tool.requiredRing
    · exact .inr ⟨hring, by simp [canExecute, hring]⟩
    · -- below the required ring the call is escalated
      exact .inl ⟨not_le.mp hring, by simp [canExecute, hring, not_le.mp hring]⟩

/-- **Decision**: a registered tool is allowed by ring and lists, an unregistered one by the
    flag alone. -/
theorem evaluate_eq_allow_iff :
    enforcer.evaluate agentDid agentRing toolName args = .allow ↔
      (∃ tool, enforcer.getTool toolName = some tool ∧ agentRing ≤ tool.requiredRing ∧
        enforcer.Permitted agentDid toolName) ∨
      (enforcer.getTool toolName = none ∧ enforcer.UnknownAllowed agentDid) := by
  rcases enforcer.evaluate_cases agentDid toolName agentRing args with
    ⟨htool, hflag, heq⟩ | ⟨htool, hflag, heq⟩ | ⟨tool, htool, ⟨hring, heq⟩ | ⟨hring, heq⟩⟩
  · simp [heq, htool, hflag]
  · simp [heq, htool, hflag]
  · simp [heq, htool, not_le.mpr hring]
  · rw [heq, checkPolicy_eq_allow_iff]
    simp [htool, hring]

/-- The flag allows a tool that the lists of the same policy do not permit. -/
def ListsIgnored : Prop :=
  enforcer.getTool toolName = none ∧ ∃ policy,
    enforcer.store.loadPolicy agentDid = .ok (some policy) ∧ policy.allowUnknownTools = true ∧
      ¬ policy.Permits toolName

/-- An agent has one policy. -/
theorem permitted_iff_of_loaded {policy : McpPolicy}
    (h : enforcer.store.loadPolicy agentDid = .ok (some policy)) :
    enforcer.Permitted agentDid toolName ↔ policy.Permits toolName := by
  simp [Permitted, h]

/-- **Lists**: an allowed tool is permitted by the lists of the agent's policy, except when it
    is unregistered and the flag overrides the lists. -/
theorem allow_binds_iff :
    (enforcer.evaluate agentDid agentRing toolName args = .allow →
      enforcer.Permitted agentDid toolName) ↔ ¬ enforcer.ListsIgnored agentDid toolName := by
  rw [evaluate_eq_allow_iff]
  constructor
  · -- the ignored lists would have to permit the tool they do not permit
    rintro h ⟨hunknown, policy, hload, hflag, hlists⟩
    apply hlists
    rw [← permitted_iff_of_loaded _ _ _ hload]
    exact h (.inr ⟨hunknown, policy, hload, hflag⟩)
  · rintro hignored (⟨tool, -, -, hpermitted⟩ | ⟨hunknown, policy, hload, hflag⟩)
    · exact hpermitted
    · -- a registered tool is permitted already, so the answer came from the flag
      by_contra hlists
      rw [permitted_iff_of_loaded _ _ _ hload] at hlists
      exact hignored ⟨hunknown, policy, hload, hflag, hlists⟩

/-- A policy that denies a tool and allows unknown ones. -/
def denyingPolicy : McpPolicy where
  allowedTools := []
  denylist := ["delete_database"]
  allowUnknownTools := true
  maxRequestsPerSecond := 10

/-- The denied tool is allowed when it is not registered. -/
theorem allow_not_binding :
    ¬ ∀ (enforcer : PolicyEnforcer) (agentDid toolName : String) (agentRing : PrivilegeRing)
      (args : Value), enforcer.evaluate agentDid agentRing toolName args = .allow →
        enforcer.Permitted agentDid toolName := by
  intro h
  -- an unregistered tool is allowed although the denylist names it
  have hpermitted := h (.new ((MemoryPolicyStore.mk ∅).savePolicy "agent-1" denyingPolicy).answers)
    "agent-1" "delete_database" .sandboxed .null (by decide)
  have hload : (PolicyEnforcer.new
      ((MemoryPolicyStore.mk ∅).savePolicy "agent-1" denyingPolicy).answers).store.loadPolicy
        "agent-1" = .ok (some denyingPolicy) := by decide
  rw [permitted_iff_of_loaded _ _ _ hload] at hpermitted
  exact hpermitted.1 (by decide)

end PolicyEnforcer

end AgentGovernance.McpGovernance
