import AgentGovernance.Daemon.Server
import AgentGovernance.McpGovernance.Enforcer

/-!
# The gateway

`crates/daemon/src/gateway.rs`: a proxy in front of an MCP server.  A `tools/call` is
checked against rate limit, policy and compliance rules, and is written to the action log
after the upstream has answered.

The handler is put together from `receive`, which ends where the body is posted, and
`complete`, so that other requests can be served while one waits for the upstream.
-/

namespace AgentGovernance.Daemon

open AgentGovernance.Lib AgentGovernance.Mesh AgentGovernance.Compliance
open AgentGovernance.McpGovernance AgentGovernance.Runtime

/-! ## Requests and responses -/

/-- `JsonRpcRequest`; the handler reads two of its fields. -/
structure JsonRpcRequest where
  method : String
  params : Option Value

structure GatewayRequest where
  /-- `X-AGT-Agent-DID`. -/
  agentDid : HeaderValue
  /-- `X-AGT-Signature`. -/
  signature : HeaderValue
  body : Bytes

abbrev GatewayResult := Except HttpError Value

/-- `EscalationAcceptedResponse` as JSON. -/
def escalationAcceptedJson (escalationId : Uuid) (message : String) : String :=
  String.ofList
    ((((jsonString.tagged (objectKey '{' "escalation_id")).pair
      (jsonString.tagged (objectKey ',' "message"))).ended ['}']).enc
      (escalationId.toText, message))

inductive UpstreamOutcome where
  /-- The body was not delivered. -/
  | notSent (e : String)
  /-- The body was delivered, and no response came back. -/
  | noResponse (e : String)
  | notJson (e : String)
  | json (answer : Value)

/-- The body reached the upstream. -/
def UpstreamOutcome.posted : UpstreamOutcome → Bool
  | .notSent _ => false
  | _ => true

/-- What `receive` and `complete` get from outside. -/
structure GatewayReads extends RequestReads where
  /-- `Uuid::new_v4` of an escalation request. -/
  escalationId : Uuid

/-- `GatewayState`; the URL of the upstream does not change. -/
structure GatewayState where
  serverState : ServerState
  lastRequests : Finmap (fun _ : String => DateTime)

/-- A `tools/call` that passed the checks. -/
structure ToolCall where
  agentDid : String
  toolName : String
  args : Value

/-- How `receive` ends. -/
inductive Admission where
  | responded (result : GatewayResult)
  /-- The body goes to the upstream, for a tool call or for another method. -/
  | forwarded (call : Option ToolCall)

/-- The tool name of a `tools/call`. -/
def JsonRpcRequest.toolName (payload : JsonRpcRequest) : Option String :=
  (payload.params.bind (·.get "name")).bind Value.asStr

/-- The arguments of a `tools/call`. -/
def JsonRpcRequest.arguments (payload : JsonRpcRequest) : Value :=
  (payload.params.bind (·.get "arguments")).getD .null

/-- The least time between two requests of an agent:
    `Duration::seconds(1) / max_requests_per_second.max(1) as i32`. -/
def requestInterval (policy : McpPolicy) : Duration :=
  Int.tdiv 1000000000 (max policy.maxRequestsPerSecond 1).toInt32.toInt

namespace GatewayState

variable (C : Crypto) (E : LogEnv) (parseRequest : Bytes → Except String JsonRpcRequest)
  (g : GatewayState)

/-! ## The handler -/

/-- The enforcer of a request.  It has no tools. -/
def enforcer : PolicyEnforcer :=
  .new g.serverState.policyStore.answers

/-- A record in the action log; the result of `append` is dropped. -/
def appendRecord (record : ActionLogRecord) (io : AppendOutcome) : GatewayState :=
  { g with
    serverState :=
      { g.serverState with actionLog := (g.serverState.actionLog.append E record io).1 } }

def logDenial (did tool cause : String) (category : DataCategory) (reads : GatewayReads) :
    GatewayState :=
  g.appendRecord E
    { recordId := reads.newId
      agentDid := did
      action := tool
      resourceCategory := category
      timestamp := reads.now 7
      outcome := .denied "Governance" cause
      prevHash := "" } reads.logIo

/-- Rate limiting: the time of the request is kept when it is not too early. -/
def limitRate (did : String) (policy : McpPolicy) (now : DateTime) : Option GatewayState :=
  match g.lastRequests.lookup did with
  | some last =>
    if now - last < requestInterval policy then none
    else some { g with lastRequests := g.lastRequests.insert did now }
  | none => some { g with lastRequests := g.lastRequests.insert did now }

/-- The compliance evaluation of an allowed call. -/
def checkCompliance (did : String) (ring : PrivilegeRing) (tool : String) (args : Value)
    (reads : GatewayReads) : GatewayState × Admission :=
  let category := g.enforcer.classify tool args
  match FileActionLog.loadHistory E g.serverState.actionLog.disk.log did with
  | .error e => (g, .responded (.error (.internalServerError, e)))
  | .ok history =>
    let input : ComplianceInput :=
      { agentDid := did
        agentRing := ring
        agentCapabilities := []
        action := tool
        resourceCategory := category
        actionHistory := history
        jurisdiction := none }
    if !g.serverState.complianceVerifier.isCompliant (fun i => reads.now (8 + i)) input then
      (g.logDenial E did tool "Compliance violation detected" category reads,
        .responded (.error (.forbidden, "Compliance violation detected")))
    else (g, .forwarded (some { agentDid := did, toolName := tool, args := args }))

def enforce (did : String) (ring : PrivilegeRing) (tool : String) (args : Value)
    (reads : GatewayReads) : GatewayState × Admission :=
  match g.enforcer.evaluate did ring tool args with
  | .deny cause =>
    (g.logDenial E did tool cause .unknown reads, .responded (.error (.forbidden, cause)))
  | .escalateRequired requestedRing =>
    let cause := "Tool " ++ tool ++ " requires " ++ requestedRing.toText ++
      " ring. Escalation triggered."
    let req : EscalationRequest :=
      { agentDid := did
        currentRing := ring
        requestedRing := requestedRing
        reason := "Auto-escalation for tool: " ++ tool
        timestamp := reads.now 6 }
    let g : GatewayState :=
      { g with
        serverState :=
          { g.serverState with
            escalationManager :=
              g.serverState.escalationManager.requestEscalation reads.escalationId req } }
    (g.logDenial E did tool cause .unknown reads,
      .responded (.error (.accepted, escalationAcceptedJson reads.escalationId cause)))
  | .allow => g.checkCompliance E did ring tool args reads

/-- The checks of a `tools/call`. -/
def governTool (did tool : String) (args : Value) (reads : GatewayReads) :
    GatewayState × Admission :=
  match (g.serverState.registryAnswers C reads.toRequestReads).getRing did with
  | .error e => (g, .responded (.error (.internalServerError, e)))
  | .ok none => (g, .responded (.error (.unauthorized, "Agent not registered")))
  | .ok (some ring) =>
    match g.serverState.policyStore.answers.loadPolicy did with
    | .error e => (g, .responded (.error (.internalServerError, e)))
    | .ok found =>
      match g.limitRate did (found.getD McpPolicy.default) (reads.now 5) with
      | none => (g, .responded (.error (.tooManyRequests, "Rate limit exceeded")))
      | some g => g.enforce E did ring tool args reads

/-- The handler up to where the body is posted. -/
def receive (req : GatewayRequest) (reads : GatewayReads) : GatewayState × Admission :=
  match req.agentDid.toStr with
  | none => (g, .responded (.error (.unauthorized, "Missing X-AGT-Agent-DID")))
  | some did =>
    match req.signature.toStr with
    | none => (g, .responded (.error (.unauthorized, "Missing X-AGT-Signature")))
    | some signatureB64 =>
      match C.decode64 signatureB64 with
      | .error _ => (g, .responded (.error (.badRequest, "Invalid Base64 in signature")))
      | .ok signature =>
        match g.serverState.authenticate C did signature req.body reads.toRequestReads with
        | .error e => (g, .responded (.error (.unauthorized, e)))
        | .ok () =>
          match parseRequest req.body with
          | .error e => (g, .responded (.error (.badRequest, "Invalid JSON: " ++ e)))
          | .ok payload =>
            if payload.method = "tools/call" then
              match payload.toolName with
              | none =>
                (g, .responded (.error (.badRequest, "Missing tool name in tools/call")))
              | some tool => g.governTool C E did tool payload.arguments reads
            else (g, .forwarded none)

/-- An authenticated tool call is governed. -/
theorem receive_toolCall (req : GatewayRequest) {reads : GatewayReads} {did signatureB64 : String}
    {signature : Bytes} {payload : JsonRpcRequest} {tool : String}
    (hdid : req.agentDid.toStr = some did) (hsignature : req.signature.toStr = some signatureB64)
    (hdecode : C.decode64 signatureB64 = .ok signature)
    (hauth : g.serverState.authenticate C did signature req.body reads.toRequestReads = .ok ())
    (hparse : parseRequest req.body = .ok payload) (hmethod : payload.method = "tools/call")
    (htool : payload.toolName = some tool) :
    g.receive C E parseRequest req reads = g.governTool C E did tool payload.arguments reads := by
  simp only [receive, hdid, hsignature, hdecode, hauth, hparse, hmethod, htool, if_true]

/-- The record of a call that was executed. -/
def permittedRecord (call : ToolCall) (reads : GatewayReads) : ActionLogRecord where
  recordId := reads.newId
  agentDid := call.agentDid
  action := call.toolName
  resourceCategory := g.enforcer.classify call.toolName call.args
  timestamp := reads.now 7
  outcome := .permitted
  prevHash := ""

/-- The handler from where the body is posted. -/
def complete (call : Option ToolCall) (upstream : UpstreamOutcome) (reads : GatewayReads) :
    GatewayState × GatewayResult :=
  match upstream with
  | .notSent e => (g, .error (.badGateway, e))
  | .noResponse e => (g, .error (.badGateway, e))
  | .notJson e => (g, .error (.badGateway, e))
  | .json answer =>
    match call with
    | none => (g, .ok answer)
    | some call => (g.appendRecord E (g.permittedRecord call reads) reads.logIo, .ok answer)

/-- `mcp_proxy_handler`, with nothing in between. -/
def handle (req : GatewayRequest) (upstream : UpstreamOutcome) (before after : GatewayReads) :
    GatewayState × GatewayResult :=
  match g.receive C E parseRequest req before with
  | (g, .responded result) => (g, result)
  | (g, .forwarded call) => g.complete E call upstream after

end GatewayState

end AgentGovernance.Daemon
