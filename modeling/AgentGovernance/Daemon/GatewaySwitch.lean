import AgentGovernance.Daemon.GatewayRate

/-!
# What the gateway comes down to

The gateway checks a `tools/call` against a ring, lists, rules about data and the history of the
agent.  But its enforcer has no tools, so the ring and the lists are never compared, and every call
is classified as unknown data, which the default rules never object to.

`gateway_switches`: over every run the gateway decides as a switchboard does that knows two things
about an agent, the flag `allow_unknown_tools` and the least time between two calls.  Neither the
tool nor its arguments matter, and no escalation is ever requested.
-/

namespace AgentGovernance.Daemon

open AgentGovernance.Lib AgentGovernance.Mesh AgentGovernance.Compliance
open AgentGovernance.McpGovernance AgentGovernance.Runtime
open FileActionLog (Stored)

/-! ## The switchboard -/

/-- What is decided about a tool call. -/
inductive Decision where
  | unregistered
  | tooEarly
  /-- The switch of the agent is off. -/
  | closed
  | passed
  deriving DecidableEq

/-- A call of an agent: the times of the last calls, and the decision.  `agents` gives the policy of
    a registered agent. -/
def switch (agents : String → Option McpPolicy) (last : String → Option DateTime) (did : String)
    (now : DateTime) : (String → Option DateTime) × Decision :=
  match agents did with
  | none => (last, .unregistered)
  | some policy =>
    if Spacing.admits (requestInterval policy) (last did) now then
      (Function.update last did (some now), if policy.allowUnknownTools then .passed else .closed)
    else (last, .tooEarly)

/-- The policies of the registered agents; an agent without one has the default policy. -/
def ServerState.agentPolicies (s : ServerState) (did : String) : Option McpPolicy :=
  (s.registry.getRing did).map fun _ => (s.policyStore.loadPolicy did).getD .default

/-- The answer to the caller, unless the call goes to the upstream. -/
def Decision.admission (call : ToolCall) : Decision → Admission
  | .unregistered => .responded (.error (.unauthorized, "Agent not registered"))
  | .tooEarly => .responded (.error (.tooManyRequests, "Rate limit exceeded"))
  | .closed => .responded (.error (.forbidden, "Tool not registered in AGT mesh (fail-closed)"))
  | .passed => .forwarded (some call)

/-! ## What the gateway changes -/

/-- The server states differ at most in the action log. -/
def OnlyLog (s s' : ServerState) : Prop :=
  ∃ log, s' = { s with actionLog := log }

theorem OnlyLog.refl (s : ServerState) : OnlyLog s s := ⟨s.actionLog, rfl⟩

theorem OnlyLog.trans {s s' s'' : ServerState} (h : OnlyLog s s') (h' : OnlyLog s' s'') :
    OnlyLog s s'' := by
  obtain ⟨log, rfl⟩ := h
  obtain ⟨log', rfl⟩ := h'
  exact ⟨log', rfl⟩

namespace GatewayState

variable (C : Crypto) (E : LogEnv) (parseRequest : Bytes → Except String JsonRpcRequest)
  (g : GatewayState)

/-! ## One call -/

/-- Every tool is unknown to the enforcer, so the flag decides. -/
theorem evaluate_enforcer (did : String) (ring : PrivilegeRing) (tool : String) (args : Value) :
    g.enforcer.evaluate did ring tool args =
      if ((g.serverState.policyStore.loadPolicy did).getD .default).allowUnknownTools then .allow
      else .deny "Tool not registered in AGT mesh (fail-closed)" := by
  have hunknown : g.enforcer.getTool tool = none := rfl
  have hload : g.enforcer.store.loadPolicy did = .ok (g.serverState.policyStore.loadPolicy did) := rfl
  simp only [PolicyEnforcer.evaluate, hunknown, hload]
  cases g.serverState.policyStore.loadPolicy did <;> rfl

/-- The default rules do not object to a call. -/
theorem checkCompliance_unknown {rs : List ActionLogRecord}
    (hlog : Stored E rs g.serverState.actionLog)
    (hrules : g.serverState.complianceVerifier = .defaultPolicy) (did : String)
    (ring : PrivilegeRing) (tool : String) (args : Value) (reads : GatewayReads) :
    g.checkCompliance E did ring tool args reads = (g, .forwarded (some ⟨did, tool, args⟩)) := by
  simp only [checkCompliance, hlog.loadHistory, hrules]
  rw [isCompliant_unknown _ _ rfl]
  rfl

/-- Where the flag is off, the denial is logged. -/
theorem enforce_eq {rs : List ActionLogRecord} (hlog : Stored E rs g.serverState.actionLog)
    (hrules : g.serverState.complianceVerifier = .defaultPolicy) (did : String)
    (ring : PrivilegeRing) (tool : String) (args : Value) (reads : GatewayReads) :
    g.enforce E did ring tool args reads =
      if ((g.serverState.policyStore.loadPolicy did).getD .default).allowUnknownTools then
        (g, .forwarded (some ⟨did, tool, args⟩))
      else
        (g.logDenial E did tool "Tool not registered in AGT mesh (fail-closed)" .unknown reads,
          .responded (.error (.forbidden, "Tool not registered in AGT mesh (fail-closed)"))) := by
  have hdecision := g.evaluate_enforcer did ring tool args
  by_cases hflag : ((g.serverState.policyStore.loadPolicy did).getD .default).allowUnknownTools = true
  · -- the flag lets an unknown tool pass, and no rule is about it
    rw [if_pos hflag] at hdecision ⊢
    simp only [enforce, hdecision]
    exact g.checkCompliance_unknown E hlog hrules did ring tool args reads
  · -- without the flag the call is denied and logged
    rw [if_neg hflag] at hdecision ⊢
    simp only [enforce, hdecision]

/-- The times after a call at the limiter. -/
theorem lookup_insert_eq_update (last : Finmap (fun _ : String => DateTime)) (did : String)
    (now : DateTime) :
    (last.insert did now).lookup = Function.update last.lookup did (some now) := by
  funext caller
  by_cases hcaller : caller = did
  · subst hcaller
    rw [Finmap.lookup_insert, Function.update_self]
  · rw [Finmap.lookup_insert_of_ne _ hcaller, Function.update_of_ne hcaller]

/-- **One call**: the gateway decides as the switchboard, which keeps the times of the calls. -/
theorem governTool_switches {rs : List ActionLogRecord}
    (hlog : Stored E rs g.serverState.actionLog)
    (hrules : g.serverState.complianceVerifier = .defaultPolicy) (did tool : String) (args : Value)
    (reads : GatewayReads) :
    (g.governTool C E did tool args reads).2 =
        (switch g.serverState.agentPolicies g.lastRequests.lookup did (reads.now 5)).2.admission
          ⟨did, tool, args⟩ ∧
      (g.governTool C E did tool args reads).1.lastRequests.lookup =
        (switch g.serverState.agentPolicies g.lastRequests.lookup did (reads.now 5)).1 := by
  have hanswer : (g.serverState.registryAnswers C reads.toRequestReads).getRing did =
      .ok (g.serverState.registry.getRing did) := rfl
  have hload : g.serverState.policyStore.answers.loadPolicy did =
      .ok (g.serverState.policyStore.loadPolicy did) := rfl
  cases hring : g.serverState.registry.getRing did with
  | none =>
    -- an agent without a ring is refused in both
    simp only [governTool, hanswer, hring, switch, ServerState.agentPolicies, Option.map_none]
    exact ⟨rfl, trivial⟩
  | some ring =>
    simp only [governTool, hanswer, hring, hload, switch, ServerState.agentPolicies, Option.map_some,
      limitRate_eq]
    by_cases hadmits : Spacing.admits
        (requestInterval ((g.serverState.policyStore.loadPolicy did).getD .default))
        (g.lastRequests.lookup did) (reads.now 5) = true
    · -- past the limiter the flag decides, in the state with the new time
      simp only [if_pos hadmits, lastRequests_enforce, lookup_insert_eq_update, and_true]
      have henforce := enforce_eq E
        { g with lastRequests := g.lastRequests.insert did (reads.now 5) } hlog hrules did ring tool
        args reads
      rw [henforce]
      dsimp only
      split <;> rfl
    · -- the limiter refuses in both, and notes no time
      simp only [if_neg hadmits]
      exact ⟨rfl, trivial⟩

/-- The enforcer requests no escalation. -/
theorem onlyLog_enforce (did : String) (ring : PrivilegeRing) (tool : String) (args : Value)
    (reads : GatewayReads) :
    OnlyLog g.serverState (g.enforce E did ring tool args reads).1.serverState := by
  have hdecision := g.evaluate_enforcer did ring tool args
  unfold enforce
  split
  · -- a denial is written to the log
    exact ⟨_, rfl⟩
  · -- no tool is registered, so nothing is escalated
    rename_i requestedRing hescalate
    rw [hescalate] at hdecision
    split at hdecision <;> cases hdecision
  · unfold checkCompliance
    dsimp only
    split
    · exact .refl _
    · split
      · exact ⟨_, rfl⟩
      · exact .refl _

theorem onlyLog_governTool (did tool : String) (args : Value) (reads : GatewayReads) :
    OnlyLog g.serverState (g.governTool C E did tool args reads).1.serverState := by
  unfold governTool
  split
  · exact .refl _
  · exact .refl _
  · split
    · exact .refl _
    · split
      · exact .refl _
      · -- the limiter changes the gateway, and not its server state
        rename_i g' hpassed
        rw [← g.limitRate_serverState hpassed]
        exact g'.onlyLog_enforce E did _ tool args reads

theorem onlyLog_complete (call : Option ToolCall) (upstream : UpstreamOutcome)
    (reads : GatewayReads) :
    OnlyLog g.serverState (g.complete E call upstream reads).1.serverState := by
  cases upstream with
  | json answer =>
    cases call with
    | none => exact .refl _
    | some call => exact ⟨_, rfl⟩
  | notSent e => exact .refl _
  | noResponse e => exact .refl _
  | notJson e => exact .refl _

/-! ## Requests -/

/-- The tool call of a request that is correctly signed. -/
def signedToolCall (req : GatewayRequest) (reads : GatewayReads) : Option ToolCall :=
  req.agentDid.toStr.bind fun did =>
    req.signature.toStr.bind fun signatureB64 =>
      (C.decode64 signatureB64).toOption.bind fun signature =>
        (g.serverState.authenticate C did signature req.body reads.toRequestReads).toOption.bind
          fun _ => (parseRequest req.body).toOption.bind fun payload =>
            if payload.method = "tools/call" then
              payload.toolName.map fun tool => ⟨did, tool, payload.arguments⟩
            else none

/-- Such a call is governed, and any other request changes nothing. -/
theorem receive_cases (req : GatewayRequest) (reads : GatewayReads) :
    (∃ call, g.signedToolCall C parseRequest req reads = some call ∧
        g.receive C E parseRequest req reads =
          g.governTool C E call.agentDid call.toolName call.args reads) ∨
      (g.signedToolCall C parseRequest req reads = none ∧
        (g.receive C E parseRequest req reads).1 = g) := by
  unfold signedToolCall receive
  cases req.agentDid.toStr with
  | none =>
    -- each check that fails ends the request without a trace
    exact .inr ⟨rfl, rfl⟩
  | some did =>
    cases req.signature.toStr with
    | none => exact .inr ⟨rfl, rfl⟩
    | some signatureB64 =>
      dsimp only [Option.bind_some]
      cases C.decode64 signatureB64 with
      | error e => exact .inr ⟨rfl, rfl⟩
      | ok signature =>
        dsimp only [Except.toOption, Option.bind_some]
        cases g.serverState.authenticate C did signature req.body reads.toRequestReads with
        | error e => exact .inr ⟨rfl, rfl⟩
        | ok u =>
          dsimp only [Option.bind_some]
          cases parseRequest req.body with
          | error e => exact .inr ⟨rfl, rfl⟩
          | ok payload =>
            dsimp only [Option.bind_some]
            by_cases hmethod : payload.method = "tools/call"
            · simp only [if_pos hmethod]
              cases payload.toolName with
              | none => exact .inr ⟨rfl, rfl⟩
              | some tool =>
                -- all checks passed, and the body is a tool call
                exact .inl ⟨_, rfl, rfl⟩
            · simp only [if_neg hmethod]
              exact .inr ⟨trivial, trivial⟩

end GatewayState

/-! ## Runs -/

namespace GatewayRun

variable (C : Crypto) (E : LogEnv) (parseRequest : Bytes → Except String JsonRpcRequest)
  (w : GatewayRun)

/-- The tool call that arrives, and the time at which it is at the limiter. -/
def asked (w : GatewayRun) : GatewayEvent → Option (ToolCall × DateTime)
  | .arrives req reads =>
    (w.state.signedToolCall C parseRequest req reads).map fun call => (call, reads.now 5)
  | .returns _ _ _ => none

/-- How the gateway takes a tool call that arrives. -/
def decided (w : GatewayRun) : GatewayEvent → Option Admission
  | .arrives req reads =>
    (w.state.signedToolCall C parseRequest req reads).map fun _ =>
      (w.state.receive C E parseRequest req reads).2
  | .returns _ _ _ => none

def switched (agents : String → Option McpPolicy) (last : String → Option DateTime) :
    Option (ToolCall × DateTime) → (String → Option DateTime) × Option Admission
  | none => (last, none)
  | some (call, now) =>
    ((switch agents last call.agentDid now).1,
      some ((switch agents last call.agentDid now).2.admission call))

variable {C E parseRequest w}

/-- A request leaves the state that `receive` leaves. -/
theorem step_arrives_state (req : GatewayRequest) (reads : GatewayReads) :
    (w.step C E parseRequest (.arrives req reads)).state =
      (w.state.receive C E parseRequest req reads).1 := by
  cases hreceive : w.state.receive C E parseRequest req reads with
  | mk g admission => cases admission <;> simp [step, hreceive]

/-- **Step**: an event changes nothing of the server state but the log. -/
theorem onlyLog_step (event : GatewayEvent) :
    OnlyLog w.state.serverState (w.step C E parseRequest event).state.serverState := by
  cases event with
  | arrives req reads =>
    rw [step_arrives_state]
    rcases w.state.receive_cases C E parseRequest req reads with ⟨call, -, hreceive⟩ | ⟨-, hsame⟩
    · rw [hreceive]
      apply GatewayState.onlyLog_governTool
    · -- a request that is no signed call changes nothing
      rw [hsame]
      exact .refl _
  | returns i upstream reads =>
    simp only [step]
    split
    · exact .refl _
    · apply GatewayState.onlyLog_complete

theorem onlyLog_run (run : List GatewayEvent) :
    OnlyLog w.state.serverState (runFrom (step C E parseRequest) w run).state.serverState := by
  apply runFrom_keeps (I := fun w' : GatewayRun => OnlyLog w.state.serverState w'.state.serverState)
  · exact fun w' event h => h.trans (onlyLog_step event)
  · exact .refl _

/-- The answers of the upstream leave the limiter alone. -/
theorem lastRequests_returns (i : Nat) (upstream : UpstreamOutcome) (reads : GatewayReads) :
    (w.step C E parseRequest (.returns i upstream reads)).state.lastRequests =
      w.state.lastRequests := by
  simp only [step]
  split
  · rfl
  · rename_i call hwaiting
    cases upstream with
    | json answer => cases call <;> rfl
    | notSent e => rfl
    | noResponse e => rfl
    | notJson e => rfl

/-- The log stays readable, whether or not the upstream answers. -/
theorem stored_next {rs : List ActionLogRecord} (hlog : Stored E rs w.log) {event : GatewayEvent}
    (hio : event.logIo.line = .ok) : ∃ rs', Stored E rs' (w.step C E parseRequest event).log := by
  rcases step_cases C parseRequest hlog hio with
    ⟨-, gained, hgained, -⟩ | ⟨call, -, -, hsame⟩ | ⟨call, r, -, -, -, hgained⟩
  · exact ⟨_, hgained⟩
  · exact ⟨_, hsame⟩
  · exact ⟨_, hgained⟩

/-- **Step**: the gateway takes a tool call as the switchboard does. -/
theorem step_switched {rs : List ActionLogRecord} (hlog : Stored E rs w.log)
    (hrules : w.state.serverState.complianceVerifier = .defaultPolicy) (event : GatewayEvent) :
    (w.step C E parseRequest event).state.lastRequests.lookup =
        (switched w.state.serverState.agentPolicies w.state.lastRequests.lookup
          (w.asked C parseRequest event)).1 ∧
      w.decided C E parseRequest event =
        (switched w.state.serverState.agentPolicies w.state.lastRequests.lookup
          (w.asked C parseRequest event)).2 := by
  cases event with
  | returns i upstream reads =>
    -- an answer of the upstream server asks for no admission
    rw [lastRequests_returns]
    exact ⟨rfl, rfl⟩
  | arrives req reads =>
    rw [step_arrives_state]
    rcases w.state.receive_cases C E parseRequest req reads with
      ⟨call, hcall, hreceive⟩ | ⟨hnone, hsame⟩
    · obtain ⟨hadmission, hlast⟩ := w.state.governTool_switches C E hlog hrules call.agentDid
        call.toolName call.args reads
      simp only [asked, decided, hcall, Option.map_some, switched, hreceive]
      exact ⟨hlast, congrArg some hadmission⟩
    · -- a request that is no signed call asks for none either
      simp only [asked, decided, hnone, Option.map_none, switched, hsame]
      exact ⟨trivial, trivial⟩

end GatewayRun

open GatewayRun in
/-- **Switchboard**: over every run of requests and upstream answers, from a readable log with the
    default rules and without a failed write of a line, the gateway takes each signed tool call as
    the switchboard does, which looks at the caller and the time only.  Nothing of the server state
    but the log ever changes, so no escalation is requested. -/
theorem gateway_switches (C : Crypto) (E : LogEnv)
    (parseRequest : Bytes → Except String JsonRpcRequest) (s : ServerState)
    (rs : List ActionLogRecord) (hlog : Stored E rs s.actionLog)
    (hrules : s.complianceVerifier = .defaultPolicy) (run : List GatewayEvent)
    (hrun : ∀ event ∈ run, event.logIo.line = .ok) :
    let step := GatewayRun.step C E parseRequest
    let start : GatewayRun := ⟨.start s, []⟩
    answers (fun w event => (step w event, w.decided C E parseRequest event)) start run =
        answers (switched s.agentPolicies) (fun _ => none)
          (answers (fun w event => (step w event, w.asked C parseRequest event)) start run) ∧
      OnlyLog s (runFrom step start run).state.serverState := by
  intro step start
  refine ⟨?_, onlyLog_run (w := start) run⟩
  -- the gateway and the switchboard are run side by side
  apply answers_eq_answers_notes_of (G := fun event : GatewayEvent => event.logIo.line = .ok)
    (R := fun (w : GatewayRun) last => (∃ rs, Stored E rs w.log) ∧
      OnlyLog s w.state.serverState ∧ w.state.lastRequests.lookup = last)
  · rintro w last event hio ⟨⟨rs, hlog⟩, honly, rfl⟩
    -- only the log changes, so the policies are those of the start
    have hpolicies : w.state.serverState.agentPolicies = s.agentPolicies := by
      obtain ⟨log, hstate⟩ := honly
      rw [hstate]
      rfl
    have hdefault : w.state.serverState.complianceVerifier = .defaultPolicy := by
      obtain ⟨log, hstate⟩ := honly
      rw [hstate]
      exact hrules
    obtain ⟨hlast, hdecided⟩ := step_switched (C := C) hlog hdefault event
    rw [hpolicies] at hlast hdecided
    refine ⟨⟨stored_next hlog hio, honly.trans (onlyLog_step event), hlast⟩, hdecided⟩
  · exact ⟨⟨rs, hlog⟩, .refl s, rfl⟩
  · exact hrun

/-! ## A call that passes -/

/-- The request is a signed tool call. -/
theorem signedToolCall_toolCall :
    (GatewayState.start gatewayStart.state.serverState).signedToolCall
      (Crypto.ofVectors toolCallVectors) (fun _ => .ok toolCallPayload) toolCallRequest epochReads =
      some exportCall := by
  -- the signature decodes, verifies, and the body names the tool
  have hdecode : (Crypto.ofVectors toolCallVectors).decode64
      "zqVT2cE8en0b+QPyxJhfGBEmHtD0PcPBCsZ2lkTYX0t7o8WNPiMtU1c1jm7Sj9qUi6eXF5Wf2FOm6hfLkbGpCQ==" =
        .ok toolCallSignature.val := by decide +kernel
  have hauth := authenticate_toolCall
  have htool : toolCallPayload.toolName = some "export_ledger" := by
    simp [JsonRpcRequest.toolName, toolCallPayload, Value.get, Value.asStr]
  simp only [GatewayState.signedToolCall, GatewayState.start, toolCallRequest, HeaderValue.toStr,
    Option.bind_some, hdecode, Except.toOption, hauth, htool]
  rfl

/-- The policy of the agent. -/
theorem agentPolicies_toolCall :
    gatewayStart.state.serverState.agentPolicies "did:mesh:agent-1" = some openPolicy := by
  have hring : gatewayStart.state.serverState.registry.getRing "did:mesh:agent-1" = some .standard := by
    rw [MemoryAgentRegistry.getRing]
    exact congrArg _ (MemoryAgentRegistry.lookup_register_self _ callingAgent .standard)
  have hload : gatewayStart.state.serverState.policyStore.loadPolicy "did:mesh:agent-1" =
      some openPolicy := MemoryPolicyStore.loadPolicy_savePolicy_self _ _ _
  rw [ServerState.agentPolicies, hring, hload]
  rfl

open GatewayRun in
/-- The witness: the call passes, as on the switchboard. -/
theorem gateway_switches_call :
    answers (fun w event =>
        (GatewayRun.step (Crypto.ofVectors toolCallVectors) sampleEnv (fun _ => .ok toolCallPayload)
            w event,
          w.decided (Crypto.ofVectors toolCallVectors) sampleEnv (fun _ => .ok toolCallPayload) event))
      ⟨.start gatewayStart.state.serverState, []⟩ [.arrives toolCallRequest epochReads] =
      [some (.forwarded (some exportCall))] := by
  obtain ⟨hanswers, -⟩ := gateway_switches (Crypto.ofVectors toolCallVectors) sampleEnv
    (fun _ => .ok toolCallPayload) gatewayStart.state.serverState []
    (FileActionLog.stored_open .blank rfl) rfl [.arrives toolCallRequest epochReads]
    (by simp [GatewayEvent.logIo, epochReads, AppendOutcome.ok])
  rw [hanswers]
  -- the one request is a signed call at time 0
  have hasked : asked (Crypto.ofVectors toolCallVectors) (fun _ => .ok toolCallPayload)
      ⟨.start gatewayStart.state.serverState, []⟩ (.arrives toolCallRequest epochReads) =
        some (exportCall, 0) := by
    simp only [asked, signedToolCall_toolCall, Option.map_some]
    rfl
  -- an open policy and a first call: the switchboard lets it pass
  have hdecision : (switch gatewayStart.state.serverState.agentPolicies (fun _ => none)
      exportCall.agentDid 0).2 = .passed := by
    simp only [switch, exportCall, agentPolicies_toolCall]
    rfl
  simp only [answers, hasked, switched, hdecision]
  rfl

end AgentGovernance.Daemon
