import AgentGovernance.Daemon.Server

/-!
# The HTTP transport

The router, the middleware and the handlers of `crates/daemon/src/lib.rs`.  Every route is
behind `auth_middleware`; a handler then works on the path and the body, and only some of
them look at the DID that was authenticated.
-/

namespace AgentGovernance.Daemon

open AgentGovernance.Lib AgentGovernance.Mesh AgentGovernance.Compliance AgentGovernance.Discovery
open AgentGovernance.McpGovernance AgentGovernance.Runtime

/-! ## Requests and responses -/

structure RegisterRequest where
  identity : AgentIdentity
  ring : PrivilegeRing

structure ApproveRequest where
  approverDid : String
  /-- Base64. -/
  signature : String

structure PresenceReport where
  name : String
  address : String

structure AttestedKeyResponse where
  keyB64 : String
  attestation : SignedAttestation
  deriving DecidableEq

/-- The routes, with their path parameters. -/
inductive HttpRoute where
  | registerAgent
  | getAttestation (did : String)
  | getRing (did : String)
  | getPolicy (did : String)
  | savePolicy (did : String)
  | getKey (did : String)
  | saveKey (did : String)
  | listPending
  | approveEscalation (id : String)
  | reportPresence
  | listShadows
  | executeAction

structure HttpRequest where
  /-- `X-AGT-Agent-DID`. -/
  agentDid : HeaderValue
  /-- `X-AGT-Signature`. -/
  signature : HeaderValue
  peerAddr : String
  /-- The body, or the error of reading it. -/
  body : Except String Bytes
  route : HttpRoute

/-- The body of a successful response. -/
inductive HttpBody where
  | empty
  | attestation (answer : Option SignedAttestation)
  | ring (answer : Option PrivilegeRing)
  | policy (answer : Option McpPolicy)
  | key (answer : Option AttestedKeyResponse)
  | pending (requests : Multiset (Uuid × EscalationRequest))
  | shadows (agents : Multiset DiscoveredAgent)
  | executed (answer : ExecuteResponse)

abbrev HttpResult := Except HttpError (StatusCode × HttpBody)

/-- The extractors `Json` and `Path<Uuid>`, with their rejections. -/
structure Extractors where
  registerRequest : Bytes → Except HttpError RegisterRequest
  policy : Bytes → Except HttpError McpPolicy
  keyB64 : Bytes → Except HttpError String
  approveRequest : Bytes → Except HttpError ApproveRequest
  presenceReport : Bytes → Except HttpError PresenceReport
  executeRequest : Bytes → Except HttpError ExecuteRequest
  eventId : String → Except HttpError Uuid

/-- A handler behind an extractor: a rejection is the response. -/
def extracted {α : Type} (s : ServerState) (answer : Except HttpError α)
    (handler : α → ServerState × HttpResult) : ServerState × HttpResult :=
  match answer with
  | .error e => (s, .error e)
  | .ok a => handler a

namespace ServerState

variable (C : Crypto) (E : LogEnv) (X : Extractors) (s : ServerState)

/-! ## Handlers -/

/-- `register_agent`.  A registry with a file changes its memory before the file. -/
def registerAgent (req : RegisterRequest) (reads : RequestReads) : ServerState × HttpResult :=
  let s := { s with registry := s.registry.register req.identity req.ring }
  match reads.persisted with
  | .error e => (s, .error (.internalServerError, e))
  | .ok () =>
    ({ s with discoveryManager := s.discoveryManager.registerAgent req.identity.did.toText },
      .ok (.created, .empty))

def getAttestation (did : String) (reads : RequestReads) : ServerState × HttpResult :=
  match (s.registryAnswers C reads).getAttestation did with
  | .error e => (s, .error (.internalServerError, e))
  | .ok answer => (s, .ok (.ok, .attestation answer))

def getRing (did : String) (reads : RequestReads) : ServerState × HttpResult :=
  match (s.registryAnswers C reads).getRing did with
  | .error e => (s, .error (.internalServerError, e))
  | .ok answer => (s, .ok (.ok, .ring answer))

def getPolicy (did : String) : ServerState × HttpResult :=
  (s, .ok (.ok, .policy (s.policyStore.loadPolicy did)))

def savePolicy (did : String) (policy : McpPolicy) : ServerState × HttpResult :=
  ({ s with policyStore := s.policyStore.savePolicy did policy }, .ok (.ok, .empty))

def getKey (did : String) (reads : RequestReads) : ServerState × HttpResult :=
  match (s.registryAnswers C reads).getAttestation did with
  | .error e => (s, .error (.internalServerError, e))
  | .ok none => (s, .error (.notFound, "Agent not in registry"))
  | .ok (some attestation) =>
    match s.keyStore.loadKey did with
    | none => (s, .ok (.ok, .key none))
    | some k =>
      (s, .ok (.ok, .key (some { keyB64 := C.encode64 k.val, attestation := attestation })))

def saveKey (did keyB64 : String) : ServerState × HttpResult :=
  match C.decode64 keyB64 with
  | .error _ => (s, .error (.badRequest, "Invalid Base64"))
  | .ok bytes =>
    match tryInto 32 bytes with
    | none => (s, .error (.badRequest, "Invalid key length"))
    | some signingKey =>
      ({ s with keyStore := s.keyStore.saveKey did signingKey }, .ok (.ok, .empty))

def listPending : ServerState × HttpResult :=
  (s, .ok (.ok, .pending s.pendingRequests))

def approveEscalation (id : Uuid) (req : ApproveRequest) (reads : RequestReads) :
    ServerState × HttpResult :=
  match C.decode64 req.signature with
  | .error e => (s, .error (.badRequest, e))
  | .ok signature =>
    match s.approve C id req.approverDid signature reads with
    | (s, .error e) => (s, .error (.forbidden, e))
    | (s, .ok _) => (s, .ok (.ok, .empty))

def reportPresence (agentDid : HeaderValue) (peerAddr : String) (req : PresenceReport)
    (reads : RequestReads) : ServerState × HttpResult :=
  match agentDid.toStr with
  | none => (s, .error (.unauthorized, "Missing X-AGT-Agent-DID"))
  | some didStr =>
    match parseDid didStr with
    | .error e => (s, .error (.badRequest, e))
    -- the address is that of the connection, not the one in the report
    | .ok did => (s.present did req.name peerAddr .active reads, .ok (.ok, .empty))

def listShadows (agentDid : HeaderValue) (reads : RequestReads) : ServerState × HttpResult :=
  match agentDid.toStr with
  | none => (s, .error (.unauthorized, "Missing X-AGT-Agent-DID"))
  | some did =>
    match (s.registryAnswers C reads).getRing did with
    | .error e => (s, .error (.internalServerError, e))
    | .ok none => (s, .error (.unauthorized, "Not registered"))
    | .ok (some ring) =>
      if ring ≠ .system then
        (s, .error (.forbidden, "Only System-ring agents can query shadows"))
      else (s, .ok (.ok, .shadows s.discoveryManager.detectShadowAgents))

/-- The router: the extractors and the handler of each route. -/
def route (req : HttpRequest) (body : Bytes) (reads : RequestReads) : ServerState × HttpResult :=
  match req.route with
  | .registerAgent => extracted s (X.registerRequest body) fun r => s.registerAgent r reads
  | .getAttestation did => s.getAttestation C did reads
  | .getRing did => s.getRing C did reads
  | .getPolicy did => s.getPolicy did
  | .savePolicy did => extracted s (X.policy body) fun policy => s.savePolicy did policy
  | .getKey did => s.getKey C did reads
  | .saveKey did => extracted s (X.keyB64 body) fun keyB64 => s.saveKey C did keyB64
  | .listPending => s.listPending
  | .approveEscalation id =>
    extracted s (X.eventId id) fun eventId =>
      extracted s (X.approveRequest body) fun r => s.approveEscalation C eventId r reads
  | .reportPresence =>
    extracted s (X.presenceReport body) fun r => s.reportPresence req.agentDid req.peerAddr r reads
  | .listShadows => s.listShadows C req.agentDid reads
  | .executeAction =>
    extracted s (X.executeRequest body) fun r =>
      match s.execute C E req.agentDid.toStr r reads with
      | (s, .error e) => (s, .error e)
      | (s, .ok answer) => (s, .ok (.ok, .executed answer))

/-! ## The middleware -/

/-- An unregistered caller is remembered as a shadow agent. -/
def noticeCaller (didStr peerAddr e : String) (reads : RequestReads) : ServerState :=
  if e = "Agent not registered" then
    match parseDid didStr with
    | .error _ => s
    | .ok did => s.present did "unknown" peerAddr .passive reads
  else s

/-- `auth_middleware`, with the router behind it. -/
def serveHttp (req : HttpRequest) (reads : RequestReads) : ServerState × HttpResult :=
  match req.agentDid.toStr with
  | none => (s, .error (.unauthorized, "Missing X-AGT-Agent-DID"))
  | some didStr =>
    match req.signature.toStr with
    | none => (s, .error (.unauthorized, "Missing X-AGT-Signature"))
    | some signatureB64 =>
      match C.decode64 signatureB64 with
      | .error _ => (s, .error (.badRequest, "Invalid Base64 in signature"))
      | .ok signature =>
        match req.body with
        | .error e => (s, .error (.badRequest, e))
        | .ok body =>
          match s.authenticate C didStr signature body reads with
          | .error e => (s.noticeCaller didStr req.peerAddr e reads, .error (.unauthorized, e))
          | .ok () => s.route C E X req body reads

end ServerState

end AgentGovernance.Daemon
