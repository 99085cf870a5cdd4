import AgentGovernance.Daemon.GatewayAudit

/-!
# The tools the gateway knows

The handler makes an enforcer for each request and never registers a tool with it, so
every tool is unknown there and the lists of a policy are not looked at.  A call that the
lists permit is then forwarded exactly when the policy allows unknown tools.
-/

namespace AgentGovernance.Daemon

open AgentGovernance.Lib AgentGovernance.Mesh AgentGovernance.Compliance
open AgentGovernance.McpGovernance AgentGovernance.Runtime

namespace GatewayState

variable (C : Crypto) (E : LogEnv) (parseRequest : Bytes → Except String JsonRpcRequest)
  (g : GatewayState)

/-- The state that `run_gateway` starts with. -/
def start (s : ServerState) : GatewayState where
  serverState := s
  lastRequests := ∅

/-! ## Listed calls -/

/-- What the gateway shows the compliance rules about a call, with the agent's history. -/
def complianceInput (did : String) (ring : PrivilegeRing) (tool : String) (args : Value)
    (history : List FileActionLog.ActionRecord) : ComplianceInput where
  agentDid := did
  agentRing := ring
  agentCapabilities := []
  action := tool
  resourceCategory := g.enforcer.classify tool args
  actionHistory := history
  jurisdiction := none

/-- The rules find nothing wrong with the call, given the history in the action log. -/
def Compliant (did : String) (ring : PrivilegeRing) (tool : String) (args : Value)
    (reads : GatewayReads) : Prop :=
  ∃ history, FileActionLog.loadHistory E g.serverState.actionLog.disk.log did = .ok history ∧
    g.serverState.complianceVerifier.isCompliant (fun i => reads.now (8 + i))
      (g.complianceInput did ring tool args history) = true

/-- A correctly signed `tools/call` with a tool and its arguments. -/
def SignedCall (req : GatewayRequest) (reads : GatewayReads) (did tool : String) (args : Value) :
    Prop :=
  ∃ signatureB64 signature payload, req.agentDid.toStr = some did ∧
    req.signature.toStr = some signatureB64 ∧ C.decode64 signatureB64 = .ok signature ∧
    g.serverState.authenticate C did signature req.body reads.toRequestReads = .ok () ∧
    parseRequest req.body = .ok payload ∧ payload.method = "tools/call" ∧
    payload.toolName = some tool ∧ payload.arguments = args

/-- A call that nothing but the enforcer can stop: signed, by a registered agent, not too early,
    compliant, and listed in the agent's policy. -/
structure ListedCall (req : GatewayRequest) (reads : GatewayReads) (did tool : String)
    (args : Value) (ring : PrivilegeRing) (policy : McpPolicy) : Prop where
  signed : g.SignedCall C parseRequest req reads did tool args
  registered :
    (g.serverState.registryAnswers C reads.toRequestReads).getRing did = .ok (some ring)
  stored : g.serverState.policyStore.loadPolicy did = some policy
  notLimited : g.limitRate did policy (reads.now 5) ≠ none
  allowed : tool ∈ policy.allowedTools
  notDenied : tool ∉ policy.denylist
  compliant : g.Compliant E did ring tool args reads

/-! ## The decision -/

/-- The enforcer of a request allows what the flag of the policy allows. -/
theorem evaluate_enforcer_eq_allow_iff {did : String} {policy : McpPolicy}
    (hstored : g.serverState.policyStore.loadPolicy did = some policy) (ring : PrivilegeRing)
    (tool : String) (args : Value) :
    g.enforcer.evaluate did ring tool args = .allow ↔ policy.allowUnknownTools = true := by
  have hunknown : g.enforcer.getTool tool = none := rfl
  have hload : g.enforcer.store.loadPolicy did = .ok (some policy) := congrArg Except.ok hstored
  rw [PolicyEnforcer.evaluate_eq_allow_iff]
  simp [hunknown, PolicyEnforcer.UnknownAllowed, hload]

/-- A compliant call that the enforcer allows goes to the upstream, and no other does. -/
theorem enforce_forwarded_iff {did : String} {ring : PrivilegeRing} {tool : String} {args : Value}
    {reads : GatewayReads} (hcompliant : g.Compliant E did ring tool args reads) :
    (g.enforce E did ring tool args reads).2 =
        .forwarded (some { agentDid := did, toolName := tool, args := args }) ↔
      g.enforcer.evaluate did ring tool args = .allow := by
  obtain ⟨history, hhistory, hrules⟩ := hcompliant
  unfold enforce
  cases g.enforcer.evaluate did ring tool args with
  | allow =>
    -- past the enforcer the rules are asked, and they have no objection
    rw [complianceInput] at hrules
    simp [checkCompliance, hhistory, hrules]
  | deny cause =>
    -- the other decisions answer the caller at once
    simp
  | escalateRequired requestedRing => simp

/-- Rate limiting changes nothing that the rules see. -/
theorem Compliant.of_serverState {g g' : GatewayState} (hserver : g'.serverState = g.serverState)
    {did : String} {ring : PrivilegeRing} {tool : String} {args : Value} {reads : GatewayReads}
    (h : g.Compliant E did ring tool args reads) : g'.Compliant E did ring tool args reads := by
  simp only [Compliant, complianceInput, enforcer, hserver]
  exact h

/-- A listed call gets as far as the enforcer. -/
theorem ListedCall.receive_eq {req : GatewayRequest} {reads : GatewayReads} {did tool : String}
    {args : Value} {ring : PrivilegeRing} {policy : McpPolicy}
    (h : g.ListedCall C E parseRequest req reads did tool args ring policy) :
    ∃ g' : GatewayState, g'.serverState = g.serverState ∧
      g.receive C E parseRequest req reads = g'.enforce E did ring tool args reads := by
  obtain ⟨signatureB64, signature, payload, hdid, hsig, hdecode, hauth, hparse, hmethod, htool,
    rfl⟩ := h.signed
  -- the limiter lets the call pass
  obtain ⟨g', hlimit⟩ := Option.ne_none_iff_exists'.mp h.notLimited
  have hload : g.serverState.policyStore.answers.loadPolicy did = .ok (some policy) :=
    congrArg Except.ok h.stored
  refine ⟨g', g.limitRate_serverState hlimit, ?_⟩
  rw [g.receive_toolCall C E parseRequest req hdid hsig hdecode hauth hparse hmethod htool]
  -- the ring and the policy are the stored ones, so the enforcer is next
  simp only [governTool, h.registered, hload, Option.getD_some, hlimit]

/-- The enforcer's decision about a listed call. -/
theorem ListedCall.enforce_iff {req : GatewayRequest} {reads : GatewayReads} {did tool : String}
    {args : Value} {ring : PrivilegeRing} {policy : McpPolicy}
    (h : g.ListedCall C E parseRequest req reads did tool args ring policy) {g' : GatewayState}
    (hserver : g'.serverState = g.serverState) :
    (g'.enforce E did ring tool args reads).2 =
        .forwarded (some { agentDid := did, toolName := tool, args := args }) ↔
      policy.allowUnknownTools = true := by
  have hstored : g'.serverState.policyStore.loadPolicy did = some policy := by
    rw [hserver]
    exact h.stored
  rw [g'.enforce_forwarded_iff E (h.compliant.of_serverState E hserver)]
  exact g'.evaluate_enforcer_eq_allow_iff hstored ring tool args

/-- **Listed calls.** In every state of the gateway, a call that the agent's policy lists and that
    nothing else stops is forwarded exactly when the policy allows unknown tools. -/
theorem listedCall_forwarded_iff {req : GatewayRequest} {reads : GatewayReads} {did tool : String}
    {args : Value} {ring : PrivilegeRing} {policy : McpPolicy}
    (h : g.ListedCall C E parseRequest req reads did tool args ring policy) :
    (g.receive C E parseRequest req reads).2 =
        .forwarded (some { agentDid := did, toolName := tool, args := args }) ↔
      policy.allowUnknownTools = true := by
  obtain ⟨g', hserver, hreceive⟩ := h.receive_eq
  rw [hreceive]
  exact h.enforce_iff C E parseRequest g hserver

/-! ## A listed call that is stopped -/

def listingPolicy (allowUnknownTools : Bool) : McpPolicy where
  allowedTools := ["export_ledger"]
  denylist := []
  allowUnknownTools := allowUnknownTools
  maxRequestsPerSecond := 10

/-- A gateway in front of an agent with that policy. -/
noncomputable def listingGateway (allowUnknownTools : Bool) : GatewayState :=
  .start
    { gatewayStart.state.serverState with
      policyStore := (MemoryPolicyStore.mk ∅).savePolicy "did:mesh:agent-1"
        (listingPolicy allowUnknownTools) }

theorem listedCall_listingGateway (allowUnknownTools : Bool) :
    (listingGateway allowUnknownTools).ListedCall (Crypto.ofVectors toolCallVectors) sampleEnv
      (fun _ => .ok toolCallPayload) toolCallRequest epochReads "did:mesh:agent-1" "export_ledger"
      (.object []) .standard (listingPolicy allowUnknownTools) where
  signed :=
    ⟨"zqVT2cE8en0b+QPyxJhfGBEmHtD0PcPBCsZ2lkTYX0t7o8WNPiMtU1c1jm7Sj9qUi6eXF5Wf2FOm6hfLkbGpCQ==",
      toolCallSignature.val, toolCallPayload, rfl, rfl, by decide +kernel, authenticate_toolCall, rfl,
      rfl, by simp [JsonRpcRequest.toolName, toolCallPayload, Value.get, Value.asStr], rfl⟩
  registered := by
    -- the caller has just been registered
    apply congrArg Except.ok
    rw [MemoryAgentRegistry.getRing]
    exact congrArg _ (MemoryAgentRegistry.lookup_register_self _ callingAgent .standard)
  stored := MemoryPolicyStore.loadPolicy_savePolicy_self _ _ _
  notLimited := by simp [limitRate, listingGateway, start]
  allowed := List.mem_cons_self
  notDenied := List.not_mem_nil
  compliant := ⟨[], rfl, isCompliant_unknown _ _ rfl⟩

/-- The listed call is forwarded with the flag and stopped without it. -/
theorem listedCall_forwarded_sample :
    ((listingGateway true).receive (Crypto.ofVectors toolCallVectors) sampleEnv
        (fun _ => .ok toolCallPayload) toolCallRequest epochReads).2 =
        .forwarded (some exportCall) ∧
      ((listingGateway false).receive (Crypto.ofVectors toolCallVectors) sampleEnv
        (fun _ => .ok toolCallPayload) toolCallRequest epochReads).2 ≠
        .forwarded (some exportCall) :=
  ⟨(listedCall_forwarded_iff _ _ _ _ (listedCall_listingGateway true)).mpr rfl,
    (listedCall_forwarded_iff _ _ _ _ (listedCall_listingGateway false)).not.mpr
      Bool.false_ne_true⟩

/-- A listed call is stopped right after the gateway was started. -/
theorem listedCall_stopped :
    ¬ ∀ (C : Crypto) (E : LogEnv) (parseRequest : Bytes → Except String JsonRpcRequest)
      (s : ServerState) (req : GatewayRequest) (reads : GatewayReads) (did tool : String)
      (args : Value) (ring : PrivilegeRing) (policy : McpPolicy),
      (start s).ListedCall C E parseRequest req reads did tool args ring policy →
      ((start s).receive C E parseRequest req reads).2 =
        .forwarded (some { agentDid := did, toolName := tool, args := args }) := by
  intro h
  have hlisted := listedCall_listingGateway false
  have hforwarded := h _ _ _ _ _ _ _ _ _ _ _ hlisted
  -- with the flag off the enforcer denies the listed tool
  obtain ⟨g', hserver, hreceive⟩ := hlisted.receive_eq
  change ((listingGateway false).receive _ _ _ _ _).2 = _ at hforwarded
  rw [hreceive] at hforwarded
  exact absurd ((hlisted.enforce_iff _ _ _ _ hserver).mp hforwarded) Bool.false_ne_true

end GatewayState

end AgentGovernance.Daemon
