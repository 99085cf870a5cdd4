import AgentGovernance.Daemon.Server

/-!
# The gRPC transport

The services of `crates/daemon/src/grpc/`.  Each method authenticates its caller by a
signature over the encoded message; `watch_shadows` looks at the ring first, and
`watch_presence` does nothing.
-/

namespace AgentGovernance.Daemon

open AgentGovernance.Lib AgentGovernance.Mesh AgentGovernance.Compliance AgentGovernance.Discovery
open AgentGovernance.McpGovernance AgentGovernance.Runtime

/-! ## Messages -/

/-- `google.protobuf.Timestamp`. -/
structure Timestamp where
  seconds : Int64
  nanos : Int32

/-- `proto::AgentIdentity`. -/
structure ProtoIdentity where
  did : Option AgentDID
  name : String
  publicKeyB64 : String
  sponsorEmail : String
  capabilities : List String
  ring : Int32

/-- `proto::EscalationRequest`. -/
structure ProtoEscalationRequest where
  agentDid : String
  currentRing : Int32
  requestedRing : Int32
  reason : String
  timestamp : Option Timestamp

/-- The request messages, one for each method. -/
inductive GrpcMessage where
  | register (identity : Option ProtoIdentity) (ring : Int32)
  | getAttestation (did : String)
  | watchPresence (sinceTimestamp : String)
  | reportPresence (name address : String)
  | watchShadows (sinceTimestamp : Option Timestamp)
  | requestEscalation (request : ProtoEscalationRequest)
  | approve (requestId approverDid signatureB64 : String)
  | deny (requestId approverDid cause : String)
  | listPending
  | getPolicy (agentDid : String)
  | setPolicy (agentDid policyJson : String)

/-- A request: two metadata values and a message. -/
structure GrpcRequest where
  agentDid : HeaderValue
  signature : HeaderValue
  message : GrpcMessage

/-- `tonic::Code`. -/
inductive GrpcCode where
  | invalidArgument
  | notFound
  | permissionDenied
  | failedPrecondition
  | unimplemented
  | internal
  | unauthenticated
  deriving DecidableEq, Repr

/-- `tonic::Status`. -/
abbrev GrpcStatus := GrpcCode × String

/-- The response messages, with the values that are converted to protobuf types. -/
inductive GrpcReply where
  | registered
  | attestation (answer : SignedAttestation)
  | presenceAck
  /-- The alerts replayed from the log, in front of the live ones. -/
  | shadowAlerts (replayed : List DiscoveredAgent)
  | requestId (id : String)
  | event (event : EscalationEvent)
  | pending (requests : Multiset EscalationRequest)
  | policy (policyJson error : String)

abbrev GrpcResult := Except GrpcStatus GrpcReply

/-- What the services use of prost, serde, uuid and chrono. -/
structure GrpcWire where
  /-- `Message::encode_to_vec`. -/
  encodeToVec : GrpcMessage → Bytes
  /-- `Uuid::parse_str`. -/
  parseUuid : String → Option Uuid
  /-- `serde_json::from_str`, with the text of its error. -/
  policyFromJson : String → Except String McpPolicy
  /-- `serde_json::to_string`. -/
  policyToJson : McpPolicy → String
  /-- `serde_json::from_str`. -/
  eventFromJson : String → Option DiscoveryEvent
  /-- `Utc.timestamp_opt(..).single()`. -/
  timestampOpt : Timestamp → Option DateTime

/-! ## Conversions -/

def fromProtoRing (ring : Int32) : Except GrpcStatus PrivilegeRing :=
  if ring = 1 then .ok .system
  else if ring = 2 then .ok .trusted
  else if ring = 3 then .ok .standard
  else if ring = 4 then .ok .sandboxed
  else .error (.invalidArgument, "Unknown PrivilegeRing")

def fromProtoIdentity (id : ProtoIdentity) : Except GrpcStatus AgentIdentity :=
  match id.did with
  | none => .error (.invalidArgument, "Missing DID")
  | some did =>
    .ok
      { did := did
        name := id.name
        publicKey := id.publicKeyB64
        sponsorEmail := id.sponsorEmail
        capabilities := id.capabilities
        status := "active"
        parentDid := none
        delegationDepth := 0
        privateKey := none }

variable (W : GrpcWire)

def fromProtoTimestamp (ts : Timestamp) : Except GrpcStatus DateTime :=
  match W.timestampOpt ts with
  | none => .error (.invalidArgument, "Invalid timestamp")
  | some t => .ok t

def fromProtoEscalationRequest (req : ProtoEscalationRequest) :
    Except GrpcStatus EscalationRequest := do
  let currentRing ← fromProtoRing req.currentRing
  let requestedRing ← fromProtoRing req.requestedRing
  let timestamp ← match req.timestamp with
    | none => .error (.invalidArgument, "Missing timestamp")
    | some ts => fromProtoTimestamp W ts
  return {
    agentDid := req.agentDid
    currentRing := currentRing
    requestedRing := requestedRing
    reason := req.reason
    timestamp := timestamp }

/-- The identity and the ring of a `register` message. -/
def fromProtoRegister (identity : Option ProtoIdentity) (ring : Int32) :
    Except GrpcStatus (AgentIdentity × PrivilegeRing) := do
  let proto ← match identity with
    | none => .error (.invalidArgument, "Missing identity")
    | some proto => .ok proto
  let identity ← fromProtoIdentity proto
  let ring ← fromProtoRing ring
  return (identity, ring)

/-! ## Methods -/

namespace ServerState

variable (C : Crypto) (E : LogEnv) (s : ServerState)

/-- `RegistryServiceImpl::register`. -/
def grpcRegister (identity : Option ProtoIdentity) (ring : Int32) (reads : RequestReads) :
    ServerState × GrpcResult :=
  match fromProtoRegister identity ring with
  | .error e => (s, .error e)
  | .ok (identity, ring) =>
    let s := { s with registry := s.registry.register identity ring }
    match reads.persisted with
    | .error e => (s, .error (.internal, e))
    | .ok () => (s, .ok .registered)

/-- `RegistryServiceImpl::get_attestation`. -/
def grpcGetAttestation (did : String) (reads : RequestReads) : ServerState × GrpcResult :=
  match (s.registryAnswers C reads).getAttestation did with
  | .error e => (s, .error (.internal, e))
  | .ok none => (s, .error (.notFound, "Attestation not found"))
  | .ok (some attestation) => (s, .ok (.attestation attestation))

/-- `DiscoveryServiceImpl::report_presence`. -/
def grpcReportPresence (didStr name address : String) (reads : RequestReads) :
    ServerState × GrpcResult :=
  match parseDid didStr with
  | .error e => (s, .error (.invalidArgument, e))
  | .ok did => (s.present did name address .active reads, .ok .presenceAck)

/-- The shadow agents among the discovery events of the log. -/
def replayedShadows (records : List ActionLogRecord) : List DiscoveredAgent :=
  records.filterMap fun record =>
    match record.outcome with
    | .discoveryEvent eventJson =>
      match W.eventFromJson eventJson with
      | some (.shadow agent) => some agent
      | _ => none
    | _ => none

/-- The part of `watch_shadows` behind the checks; a log that cannot be read is an empty one. -/
def grpcWatchShadows (sinceTimestamp : Option Timestamp) (reads : RequestReads) :
    ServerState × GrpcResult :=
  let since : Except GrpcStatus DateTime := match sinceTimestamp with
    | none => .ok (reads.now 3)
    | some ts => fromProtoTimestamp W ts
  match since with
  | .error e => (s, .error e)
  | .ok since =>
    match FileActionLog.replaySince E s.actionLog.disk.log since with
    | .error _ => (s, .ok (.shadowAlerts []))
    | .ok records => (s, .ok (.shadowAlerts (replayedShadows W records)))

/-- `EscalationServiceImpl::request_escalation`. -/
def grpcRequestEscalation (request : ProtoEscalationRequest) (reads : RequestReads) :
    ServerState × GrpcResult :=
  match fromProtoEscalationRequest W request with
  | .error e => (s, .error e)
  | .ok request =>
    ({ s with
        escalationManager := s.escalationManager.requestEscalation reads.newId request },
      .ok (.requestId reads.newId.toText))

/-- `EscalationServiceImpl::approve`. -/
def grpcApprove (requestId approverDid signatureB64 : String) (reads : RequestReads) :
    ServerState × GrpcResult :=
  match W.parseUuid requestId with
  | none => (s, .error (.invalidArgument, "Invalid request_id UUID"))
  | some eventId =>
    match C.decode64 signatureB64 with
    | .error _ => (s, .error (.invalidArgument, "Invalid Base64 in signature"))
    | .ok signature =>
      match s.approve C eventId approverDid signature reads with
      | (s, .error e) => (s, .error (.failedPrecondition, e))
      | (s, .ok event) => (s, .ok (.event event))

/-- `EscalationServiceImpl::deny`. -/
def grpcDeny (requestId approverDid cause : String) (reads : RequestReads) :
    ServerState × GrpcResult :=
  match W.parseUuid requestId with
  | none => (s, .error (.invalidArgument, "Invalid request_id UUID"))
  | some eventId =>
    match s.deny C eventId approverDid cause reads with
    | (s, .error e) => (s, .error (.failedPrecondition, e))
    | (s, .ok event) => (s, .ok (.event event))

/-- `EscalationServiceImpl::list_pending`. -/
def grpcListPending : ServerState × GrpcResult :=
  (s, .ok (.pending (s.pendingRequests.map (·.2))))

/-- `EscalationServiceImpl::get_policy`. -/
def grpcGetPolicy (agentDid : String) : ServerState × GrpcResult :=
  match s.policyStore.loadPolicy agentDid with
  | none => (s, .ok (.policy "" "Policy not found"))
  | some p => (s, .ok (.policy (W.policyToJson p) ""))

/-- `EscalationServiceImpl::set_policy`. -/
def grpcSetPolicy (agentDid policyJson : String) : ServerState × GrpcResult :=
  match W.policyFromJson policyJson with
  | .error e => (s, .error (.invalidArgument, "Invalid policy JSON: " ++ e))
  | .ok policy =>
    ({ s with policyStore := s.policyStore.savePolicy agentDid policy },
      .ok (.policy policyJson ""))

/-- The part of each method behind its authentication. -/
def method (didStr : String) (message : GrpcMessage) (reads : RequestReads) :
    ServerState × GrpcResult :=
  match message with
  | .register identity ring => s.grpcRegister identity ring reads
  | .getAttestation did => s.grpcGetAttestation C did reads
  | .watchPresence _ => (s, .error (.unimplemented, "WatchPresence not implemented yet"))
  | .reportPresence name address => s.grpcReportPresence didStr name address reads
  | .watchShadows sinceTimestamp => s.grpcWatchShadows W E sinceTimestamp reads
  | .requestEscalation request => s.grpcRequestEscalation W request reads
  | .approve requestId approverDid signatureB64 =>
    s.grpcApprove W C requestId approverDid signatureB64 reads
  | .deny requestId approverDid cause => s.grpcDeny W C requestId approverDid cause reads
  | .listPending => s.grpcListPending
  | .getPolicy agentDid => s.grpcGetPolicy W agentDid
  | .setPolicy agentDid policyJson => s.grpcSetPolicy W agentDid policyJson

/-! ## Authentication -/

def extractGrpcAuth (req : GrpcRequest) : Except GrpcStatus (String × Bytes) :=
  match req.agentDid with
  | .absent => .error (.unauthenticated, "Missing X-AGT-Agent-DID")
  | .notText => .error (.unauthenticated, "Invalid DID format")
  | .text did =>
    match req.signature with
    | .absent => .error (.unauthenticated, "Missing X-AGT-Signature")
    | .notText => .error (.unauthenticated, "Invalid signature format")
    | .text signatureB64 =>
      match C.decode64 signatureB64 with
      | .error _ => .error (.invalidArgument, "Invalid Base64 in signature")
      | .ok signature => .ok (did, signature)

/-- The ring check of `watch_shadows`, which comes before the signature check. -/
def grpcRingCheck (did : String) (message : GrpcMessage) (reads : RequestReads) :
    Except GrpcStatus Unit :=
  match message with
  | .watchShadows _ =>
    match (s.registryAnswers C reads).getRing did with
    | .error e => .error (.internal, e)
    | .ok none => .error (.unauthenticated, "Agent not registered")
    | .ok (some ring) =>
      if ring ≠ .system then
        .error (.permissionDenied, "Only System-ring agents can watch shadows")
      else .ok ()
  | _ => .ok ()

/-- A call of any method. -/
def serveGrpc (req : GrpcRequest) (reads : RequestReads) : ServerState × GrpcResult :=
  match req.message with
  | .watchPresence _ => (s, .error (.unimplemented, "WatchPresence not implemented yet"))
  | message =>
    match extractGrpcAuth C req with
    | .error e => (s, .error e)
    | .ok (did, signature) =>
      match s.grpcRingCheck C did message reads with
      | .error e => (s, .error e)
      | .ok () =>
        match s.authenticate C did signature (W.encodeToVec message) reads with
        | .error e => (s, .error (.unauthenticated, e))
        | .ok () => s.method W C E did message reads

end ServerState

end AgentGovernance.Daemon
