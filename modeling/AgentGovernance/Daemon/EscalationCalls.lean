import AgentGovernance.Daemon.ProtoWire
import AgentGovernance.Daemon.Registration
import AgentGovernance.Daemon.Writes
import AgentGovernance.Lib.Runs
import AgentGovernance.Runtime.EscalationRuns

/-!
# Requests to the escalation manager

`request_escalation`, `approve` and `deny` over gRPC and `approve_escalation` over HTTP reach the
escalation manager, and no other handler does.  `ServerState.escalation` is the call that a
request makes there, and an authenticated request changes the manager by exactly that call.

None of the handlers compares what the message says with its caller; `deny` checks nothing about
the caller at all.
-/

namespace AgentGovernance.Daemon

open AgentGovernance.Lib AgentGovernance.Mesh AgentGovernance.Compliance AgentGovernance.Discovery
open AgentGovernance.McpGovernance AgentGovernance.Runtime

namespace ServerState

variable (C : Crypto) (E : LogEnv) (X : Extractors) (W : GrpcWire) (s : ServerState)

/-! ## Calls -/

/-- The call that an HTTP request makes. -/
def httpEscalation (req : HttpRequest) (body : Bytes) (reads : RequestReads) : Option Call :=
  match req.route with
  | .approveEscalation id =>
    (X.eventId id).toOption.bind fun eventId =>
      (X.approveRequest body).toOption.bind fun r =>
        (C.decode64 r.signature).toOption.map fun signature =>
          .approve (s.surroundings C reads) eventId r.approverDid signature
  | _ => none

/-- The call that a gRPC message makes. -/
def grpcEscalation (message : GrpcMessage) (reads : RequestReads) : Option Call :=
  match message with
  | .requestEscalation request =>
    (fromProtoEscalationRequest W request).toOption.map fun request =>
      .request reads.newId request
  | .approve requestId approverDid signatureB64 =>
    (W.parseUuid requestId).bind fun eventId =>
      (C.decode64 signatureB64).toOption.map fun signature =>
        .approve (s.surroundings C reads) eventId approverDid signature
  | .deny requestId approverDid cause =>
    (W.parseUuid requestId).map fun eventId =>
      .deny (s.surroundings C reads) eventId approverDid cause
  | _ => none

/-- The call that a request makes. -/
def escalation (req : DaemonRequest) (reads : RequestReads) : Option Call :=
  match req with
  | .http req => req.body.toOption.bind fun body => s.httpEscalation C X req body reads
  | .grpc req => s.grpcEscalation C W req.message reads

/-! ## Handlers -/

theorem approveEscalation_escalation (id : Uuid) (r : ApproveRequest) (reads : RequestReads) :
    (s.approveEscalation C id r reads).1.escalationManager =
      s.escalationManager.after C ((C.decode64 r.signature).toOption.map fun signature =>
        .approve (s.surroundings C reads) id r.approverDid signature) := by
  unfold approveEscalation
  cases C.decode64 r.signature with
  | error e => rfl
  | ok signature =>
    have happrove : (s.approve C id r.approverDid signature reads).1.escalationManager =
        s.escalationManager.after C
          (some (.approve (s.surroundings C reads) id r.approverDid signature)) := rfl
    -- the handler keeps what `approve` did, whether that gave an event or an error
    dsimp only
    split <;> simp_all only [Except.toOption, Option.map_some]

theorem grpcRequestEscalation_escalation (request : ProtoEscalationRequest) (reads : RequestReads) :
    (s.grpcRequestEscalation W request reads).1.escalationManager =
      s.escalationManager.after C (s.grpcEscalation C W (.requestEscalation request) reads) := by
  simp only [grpcRequestEscalation, grpcEscalation]
  cases fromProtoEscalationRequest W request <;> rfl

theorem grpcApprove_escalation (requestId approverDid signatureB64 : String) (reads : RequestReads) :
    (s.grpcApprove W C requestId approverDid signatureB64 reads).1.escalationManager =
      s.escalationManager.after C
        (s.grpcEscalation C W (.approve requestId approverDid signatureB64) reads) := by
  simp only [grpcApprove, grpcEscalation]
  cases W.parseUuid requestId with
  | none =>
    -- an identifier that cannot be parsed makes no call
    rfl
  | some eventId =>
    cases C.decode64 signatureB64 with
    | error e => rfl
    | ok signature =>
      have happrove : (s.approve C eventId approverDid signature reads).1.escalationManager =
          s.escalationManager.after C
            (some (.approve (s.surroundings C reads) eventId approverDid signature)) := rfl
      dsimp only [Option.bind_some, Except.toOption, Option.map_some]
      split <;> simp_all only

theorem grpcDeny_escalation (requestId approverDid cause : String) (reads : RequestReads) :
    (s.grpcDeny W C requestId approverDid cause reads).1.escalationManager =
      s.escalationManager.after C
        (s.grpcEscalation C W (.deny requestId approverDid cause) reads) := by
  simp only [grpcDeny, grpcEscalation]
  cases W.parseUuid requestId with
  | none => rfl
  | some eventId =>
    -- a denial is the same call of the manager
    have hdeny : (s.deny C eventId approverDid cause reads).1.escalationManager =
        s.escalationManager.after C
          (some (.deny (s.surroundings C reads) eventId approverDid cause)) := rfl
    dsimp only [Option.map_some]
    split <;> simp_all only

/-! ## Handlers that make no call -/

theorem extracted_escalationManager {α : Type} (answer : Except HttpError α)
    (handler : α → ServerState × HttpResult)
    (h : ∀ a, (handler a).1.escalationManager = s.escalationManager) :
    (extracted s answer handler).1.escalationManager = s.escalationManager := by
  cases answer with
  | error e => rfl
  | ok a => exact h a

theorem registerAgent_escalationManager (r : RegisterRequest) (reads : RequestReads) :
    (s.registerAgent r reads).1.escalationManager = s.escalationManager := by
  unfold registerAgent
  cases reads.persisted <;> rfl

theorem saveKey_escalationManager (did keyB64 : String) :
    (s.saveKey C did keyB64).1.escalationManager = s.escalationManager := by
  unfold saveKey
  split
  · rfl
  · split <;> rfl

theorem getKey_escalationManager (did : String) (reads : RequestReads) :
    (s.getKey C did reads).1.escalationManager = s.escalationManager := by
  unfold getKey
  split
  · rfl
  · rfl
  · split <;> rfl

theorem reportPresence_escalationManager (agentDid : HeaderValue) (peerAddr : String)
    (r : PresenceReport) (reads : RequestReads) :
    (s.reportPresence agentDid peerAddr r reads).1.escalationManager = s.escalationManager := by
  unfold reportPresence
  split
  · rfl
  · split <;> rfl

theorem listShadows_escalationManager (agentDid : HeaderValue) (reads : RequestReads) :
    (s.listShadows C agentDid reads).1.escalationManager = s.escalationManager := by
  unfold listShadows
  split
  · rfl
  · split
    · rfl
    · rfl
    · split <;> rfl

theorem executeRoute_escalationManager (header : Option String) (request : ExecuteRequest)
    (reads : RequestReads) :
    (match s.execute C E header request reads with
      | (s, .error e) => (s, .error e)
      | (s, .ok answer) => (s, .ok (.ok, .executed answer)) :
        ServerState × HttpResult).1.escalationManager = s.escalationManager := by
  have hexecute : (s.execute C E header request reads).1.escalationManager = s.escalationManager := rfl
  split <;> simp_all only

theorem grpcRegister_escalationManager (identity : Option ProtoIdentity) (ring : Int32)
    (reads : RequestReads) :
    (s.grpcRegister identity ring reads).1.escalationManager = s.escalationManager := by
  unfold grpcRegister
  split
  · rfl
  · cases reads.persisted <;> rfl

theorem grpcGetAttestation_escalationManager (did : String) (reads : RequestReads) :
    (s.grpcGetAttestation C did reads).1.escalationManager = s.escalationManager := by
  unfold grpcGetAttestation
  split <;> rfl

theorem grpcReportPresence_escalationManager (didStr name address : String) (reads : RequestReads) :
    (s.grpcReportPresence didStr name address reads).1.escalationManager = s.escalationManager := by
  unfold grpcReportPresence
  split <;> rfl

theorem grpcWatchShadows_escalationManager (sinceTimestamp : Option Timestamp)
    (reads : RequestReads) :
    (s.grpcWatchShadows W E sinceTimestamp reads).1.escalationManager = s.escalationManager := by
  unfold grpcWatchShadows
  dsimp only
  split
  · rfl
  · split <;> rfl

theorem grpcGetPolicy_escalationManager (agentDid : String) :
    (s.grpcGetPolicy W agentDid).1.escalationManager = s.escalationManager := by
  unfold grpcGetPolicy
  split <;> rfl

theorem grpcSetPolicy_escalationManager (agentDid policyJson : String) :
    (s.grpcSetPolicy W agentDid policyJson).1.escalationManager = s.escalationManager := by
  unfold grpcSetPolicy
  split <;> rfl

/-! ## What a request does to the manager -/

/-- The router makes the call of the request. -/
theorem route_escalation (req : HttpRequest) (body : Bytes) (reads : RequestReads) :
    (s.route C E X req body reads).1.escalationManager =
      s.escalationManager.after C (s.httpEscalation C X req body reads) := by
  unfold route httpEscalation
  cases req.route with
  | approveEscalation id =>
    -- two extractors stand before the call
    apply s.extracted_writes ServerState.escalationManager (s.escalationManager.after C) _ _ _ rfl
    intro eventId
    apply s.extracted_writes ServerState.escalationManager (s.escalationManager.after C) _ _ _ rfl
    exact fun r => s.approveEscalation_escalation C eventId r reads
  | registerAgent =>
    -- the other routes do not touch the manager
    apply extracted_escalationManager
    exact fun r => s.registerAgent_escalationManager r reads
  | saveKey did =>
    apply extracted_escalationManager
    exact fun keyB64 => s.saveKey_escalationManager C did keyB64
  | savePolicy did =>
    apply extracted_escalationManager
    exact fun policy => rfl
  | reportPresence =>
    apply extracted_escalationManager
    exact fun r => s.reportPresence_escalationManager req.agentDid req.peerAddr r reads
  | executeAction =>
    apply extracted_escalationManager
    exact fun r => s.executeRoute_escalationManager C E req.agentDid.toStr r reads
  | getKey did => exact s.getKey_escalationManager C did reads
  | listShadows => exact s.listShadows_escalationManager C req.agentDid reads
  | getAttestation did => rfl
  | getRing did => rfl
  | getPolicy did => rfl
  | listPending => rfl

/-- A method makes the call of the message. -/
theorem method_escalation (did : String) (message : GrpcMessage) (reads : RequestReads) :
    (s.method W C E did message reads).1.escalationManager =
      s.escalationManager.after C (s.grpcEscalation C W message reads) := by
  unfold method
  cases message with
  | requestEscalation request =>
    -- three methods call the manager
    exact s.grpcRequestEscalation_escalation C W request reads
  | approve requestId approverDid signatureB64 =>
    exact s.grpcApprove_escalation C W requestId approverDid signatureB64 reads
  | deny requestId approverDid cause =>
    exact s.grpcDeny_escalation C W requestId approverDid cause reads
  | register identity ring =>
    -- the others leave it alone
    exact s.grpcRegister_escalationManager identity ring reads
  | getAttestation d => exact s.grpcGetAttestation_escalationManager C d reads
  | reportPresence name address =>
    exact s.grpcReportPresence_escalationManager did name address reads
  | watchShadows sinceTimestamp =>
    exact s.grpcWatchShadows_escalationManager E W sinceTimestamp reads
  | getPolicy agentDid => exact s.grpcGetPolicy_escalationManager W agentDid
  | setPolicy agentDid policyJson => exact s.grpcSetPolicy_escalationManager W agentDid policyJson
  | watchPresence sinceTimestamp => rfl
  | listPending => rfl

variable {C W s}

/-- **Authenticated requests**: the escalation manager changes by the call of the request. -/
theorem serve_escalation_of_authenticates {req : DaemonRequest} {reads : RequestReads} {did : String}
    (h : s.Authenticates C W req reads did) :
    (s.serve C E X W req reads).escalationManager =
      s.escalationManager.after C (s.escalation C X W req reads) := by
  cases req with
  | http req =>
    obtain ⟨-, body, hbody, hserve⟩ := serveHttp_of_authenticates E X h
    simp only [serve, hserve, escalation, hbody]
    apply route_escalation
  | grpc req =>
    simp only [serve, serveGrpc_of_authenticates E h, escalation]
    cases hring : s.grpcRingCheck C did req.message reads with
    | error e =>
      -- `watch_shadows` is the only method with a ring check, and it makes no call
      obtain ⟨sinceTimestamp, hmessage⟩ := s.watchShadows_of_grpcRingCheck C hring
      rw [hmessage]
      rfl
    | ok u => apply method_escalation

/-- Any other request leaves the manager alone. -/
theorem serve_escalation_of_not_authenticates {req : DaemonRequest} {reads : RequestReads}
    (h : ∀ did, ¬ s.Authenticates C W req reads did) :
    (s.serve C E X W req reads).escalationManager = s.escalationManager := by
  rcases serve_of_not_authenticates E X h with hsame | ⟨did, peerAddr, -, hnoticed⟩
  · rw [hsame]
  · rw [hnoticed]
    rfl

/-- **Step**: a request leaves the manager alone, or makes the call that its caller asks for. -/
theorem step_escalation_cases (call : DaemonRequest × RequestReads) :
    (step C E X W s call).escalationManager = s.escalationManager ∨
      ∃ did c, CalledBy C W did s call ∧ s.escalation C X W call.1 call.2 = some c ∧
        (step C E X W s call).escalationManager = (s.escalationManager.call C c).1 := by
  by_cases hcaller : ∃ did, CalledBy C W did s call
  · obtain ⟨did, hdid⟩ := hcaller
    have hmanager := serve_escalation_of_authenticates E X hdid
    cases hcall : s.escalation C X W call.1 call.2 with
    | none =>
      -- the request asks the manager for nothing
      rw [hcall] at hmanager
      exact .inl hmanager
    | some c =>
      rw [hcall] at hmanager
      exact .inr ⟨did, c, hdid, rfl, hmanager⟩
  · left
    -- an unauthenticated request gets to no handler
    apply serve_escalation_of_not_authenticates
    exact fun did hdid => hcaller ⟨did, hdid⟩

/-! ## Responses -/

/-- A gRPC request has one caller. -/
theorem authenticates_grpc_unique {req : GrpcRequest} {reads : RequestReads} {did did' : String}
    (h : s.Authenticates C W (.grpc req) reads did)
    (h' : s.Authenticates C W (.grpc req) reads did') : did = did' := by
  obtain ⟨signature, hextract, -⟩ := h
  obtain ⟨signature', hextract', -⟩ := h'
  exact congrArg Prod.fst (Except.ok.inj (hextract.symm.trans hextract'))

/-- A reply comes from the method, behind the authentication. -/
theorem method_of_serveGrpc_ok {req : GrpcRequest} {reads : RequestReads} {reply : GrpcReply}
    (h : (s.serveGrpc W C E req reads).2 = .ok reply) :
    ∃ did, s.Authenticates C W (.grpc req) reads did ∧
      (s.method W C E did req.message reads).2 = .ok reply := by
  unfold serveGrpc at h
  -- all the ways out before the method are statuses
  split at h
  · cases h
  · cases hextract : extractGrpcAuth C req with
    | error e => simp [hextract] at h
    | ok caller =>
      obtain ⟨did, signature⟩ := caller
      simp only [hextract] at h
      cases hring : s.grpcRingCheck C did req.message reads with
      | error e => simp [hring] at h
      | ok u =>
        simp only [hring] at h
        cases hauth : s.authenticate C did signature (W.encodeToVec req.message) reads with
        | error e => simp [hauth] at h
        | ok v =>
          simp only [hauth] at h
          -- past the checks the reply is that of the method
          exact ⟨did, ⟨signature, hextract, hauth⟩, h⟩

/-- An authenticated message other than `watch_shadows` is served by its method. -/
theorem serveGrpc_eq_method {req : GrpcRequest} {reads : RequestReads} {did : String}
    (h : s.Authenticates C W (.grpc req) reads did)
    (hmessage : ∀ sinceTimestamp, req.message ≠ .watchShadows sinceTimestamp) :
    s.serveGrpc W C E req reads = s.method W C E did req.message reads := by
  rw [serveGrpc_of_authenticates E h]
  cases hring : s.grpcRingCheck C did req.message reads with
  | error e =>
    obtain ⟨sinceTimestamp, hwatch⟩ := s.watchShadows_of_grpcRingCheck C hring
    exact absurd hwatch (hmessage sinceTimestamp)
  | ok u => rfl

end ServerState

/-! ## Three agents -/

/-- The seeds of two agents, and the public key of the second. -/
def agentOneSeed : ByteArr 32 :=
  ⟨List.replicate 32 6, List.length_replicate⟩

@[inherit_doc agentOneSeed]
def agentTwoSeed : ByteArr 32 :=
  ⟨List.replicate 32 7, List.length_replicate⟩

@[inherit_doc agentOneSeed]
def agentTwoKey : ByteArr 32 :=
  bytes32 0xea4a6c63e29c520abef5507b132ec5f9954776aebebe7b92421eea691446d22c

/-- A message that files a request at the epoch. -/
def filingMessage (agentDid : String) (currentRing requestedRing : PrivilegeRing) : GrpcMessage :=
  .requestEscalation
    { agentDid := agentDid
      currentRing := toProtoRing currentRing
      requestedRing := toProtoRing requestedRing
      reason := "audit"
      timestamp := some { seconds := 0, nanos := 0 } }

/-- The denial of the request in the name of the administrator. -/
def denyMessage : GrpcMessage :=
  .deny (Uuid.fill 7).toText "did:mesh:admin" "no"

/-- The administrator's signatures of two approval payloads. -/
def ownApproval : ByteArr 64 :=
  signatureOf 0x923f7ad9f33b418ae19372a08127da141a6a6d1836f2c54278a93012f99a731f
    0xef16fc2f0c7556144384e6395448c09811ac3cad65b5d11dd62afa5129bab603

@[inherit_doc ownApproval]
def foreignApproval : ByteArr 64 :=
  signatureOf 0x3cb13e2a88da726da602df06a9e1b25c7482cf31a7230f52617296bdf9d5bea8
    0xe5239ce5b3f4f17cfa1f3bd8538ee9c5865e747e2b6cbd17dc892f06a49c160e

/-- The message that carries such a signature. -/
def approveMessage (signature : ByteArr 64) : GrpcMessage :=
  .approve (Uuid.fill 7).toText "did:mesh:admin" (Base64.encodeText signature.val)

/-- Ed25519 of the registry and of the three agents on these inputs. -/
def threeAgents : Crypto :=
  .ofKeyPairs
    ((((Equiv.swap registrySeed registryKey).trans (Equiv.swap secondSeed secondKey)).trans
      (Equiv.swap agentOneSeed agentOneKey)).trans (Equiv.swap agentTwoSeed agentTwoKey))
    [((registrySeed, (MemoryAgentRegistry.claimFor "did:mesh:agent-1"
        (Base64.encodeText agentOneKey.val) 0 0).canonicalBytes),
      signatureOf 0x76f288a2f4675f9e5513855befc5704f1c7d323b95e3323f7adb1c8c61645aaf
        0x81c7c9b3ca62e0b2700ef4426407d3679387bc241e4a78e19fc2cc144670f806),
     ((registrySeed, (MemoryAgentRegistry.claimFor "did:mesh:agent-2"
        (Base64.encodeText agentTwoKey.val) 0 0).canonicalBytes),
      signatureOf 0x996d72b1a4946783a4f469232d2a48ddc3ea3917a3322aa69a74060a65af1c38
        0x0d389e57b2bdc45753b0f4b3a3786e704349d1407508f8eda4181756492f7004),
     ((registrySeed, (MemoryAgentRegistry.claimFor "did:mesh:admin"
        (Base64.encodeText secondKey.val) 0 0).canonicalBytes),
      signatureOf 0x16f028f42b77dacd0d98081a2a6609a69e2eae35799727adcd93509a2203657d
        0x943edcafc0762bd7e05f05a736b70490dfef47cc2866b7e9ff31d4e2cb65c906),
     ((agentOneSeed, (filingMessage "did:mesh:agent-1" .standard .trusted).encodeToVec),
      signatureOf 0x986b58b0d8cb0e1d42dc09a804674c1bd9244c5553e4ad3d903327620fe14208
        0xe1bc52b40bd3e59d6c2520de4549ea9c462e8ecf4178b459b247e340966a4701),
     ((agentTwoSeed, (filingMessage "did:mesh:agent-2" .standard .trusted).encodeToVec),
      signatureOf 0xcc29b63af637eea2bb5883bf086e8718d1e3660c3db63e87cb50a11164e6eded
        0x0af2d137b9e5b80ee1f03b3cccd156f87b17ee317f189093ca93b13e692dd102),
     ((agentOneSeed, (filingMessage "did:mesh:agent-2" .sandboxed .standard).encodeToVec),
      signatureOf 0x93f0b5687eeb20995592389d2fad1551748fbac15e52dea34b6d80ba7376fa75
        0x05b58008a85697060b352ab0c8ebf5edabf23bccdce8f16e8f6bed481e26f50e),
     ((agentOneSeed, denyMessage.encodeToVec),
      signatureOf 0x47630c3cde60fab122c4edc885962e7773ffc03a4dfcd1cd2f5595cfa73595af
        0x98aee73121b065ddc155a5857371d0fd5429f76c32145316cc17b1c357887605),
     ((secondSeed, approvalPayload (.fill 7) "did:mesh:agent-1" .trusted), ownApproval),
     ((secondSeed, approvalPayload (.fill 7) "did:mesh:agent-2" .standard), foreignApproval),
     ((secondSeed, (approveMessage ownApproval).encodeToVec),
      signatureOf 0x951274a426eb47f2cabdf10d228ebd3820b48b507b4a986301070ca9dbcf9719
        0xd49668e616f01a6604efcbf1e077bfb7238944250e1210dac1e96596e0e88205),
     ((secondSeed, (approveMessage foreignApproval).encodeToVec),
      signatureOf 0xd4e34c035a4453f6d1224a1a6e6c202a54668b068f142f001f0d0974084cfe39
        0x93fda762145ac376bc7214fe09a08ed12499993ca4a2f09d8aa8fe8e805a250a)]

/-- The prost encoding, with the one identifier that the messages name. -/
def escalationWire : GrpcWire :=
  { silentWire with
    encodeToVec := GrpcMessage.encodeToVec
    parseUuid := fun s => if s = (Uuid.fill 7).toText then some (.fill 7) else none
    timestampOpt := fun ts => some (ts.seconds.toInt * 1000000000 + ts.nanos.toInt) }

theorem parseUuid_seven : escalationWire.parseUuid (Uuid.fill 7).toText = some (.fill 7) := by
  simp [escalationWire]

/-- An agent with the public key of a seed. -/
def keyedAgent (name : String) (seed : ByteArr 32) : AgentIdentity :=
  { identityStub (threeAgents.pubkeyB64 seed) with
    did := { method := "mesh", uniqueId := name }
    name := name
    status := "active" }

/-- The daemon with the three of them in its registry file. -/
noncomputable def agentsStart : ServerState :=
  .start sampleEnv registrySeed "did:mesh:registry"
    [(keyedAgent "agent-1" agentOneSeed, .standard), (keyedAgent "agent-2" agentTwoSeed, .standard),
      (keyedAgent "admin" secondSeed, .system)]
    none .blank false (threeAgents.pubkeyB64 registrySeed)

/-- A signed message at the epoch; a request that is filed gets the identifier. -/
def agentCall (did : String) (seed : ByteArr 32) (message : GrpcMessage) :
    DaemonRequest × RequestReads :=
  (signedMessage threeAgents escalationWire did seed message,
    { epochRequestReads with newId := .fill 7 })

theorem lookup_agentOne :
    agentsStart.registry.entries.lookup "did:mesh:agent-1" =
      some (threeAgents.pubkeyB64 agentOneSeed, .standard) :=
  (MemoryAgentRegistry.lookup_register_of_ne _ _ _ (by decide)).trans
    ((MemoryAgentRegistry.lookup_register_of_ne _ _ _ (by decide)).trans
      (MemoryAgentRegistry.lookup_register_self _ _ _))

theorem lookup_agentTwo :
    agentsStart.registry.entries.lookup "did:mesh:agent-2" =
      some (threeAgents.pubkeyB64 agentTwoSeed, .standard) :=
  (MemoryAgentRegistry.lookup_register_of_ne _ _ _ (by decide)).trans
    (MemoryAgentRegistry.lookup_register_self _ _ _)

theorem lookup_admin :
    agentsStart.registry.entries.lookup "did:mesh:admin" =
      some (threeAgents.pubkeyB64 secondSeed, .system) :=
  MemoryAgentRegistry.lookup_register_self _ _ _

/-- Each of them is authenticated by its own signature, while the registry is this one. -/
theorem calledBy_agentCall {s : ServerState} (hregistry : s.registry = agentsStart.registry)
    (hpubkey : s.registryPubkey = agentsStart.registryPubkey) {did : String} {seed : ByteArr 32}
    {ring : PrivilegeRing}
    (hentry : agentsStart.registry.entries.lookup did = some (threeAgents.pubkeyB64 seed, ring))
    (message : GrpcMessage) :
    ServerState.CalledBy threeAgents escalationWire did s (agentCall did seed message) := by
  have hlookup : s.registry.entries.lookup did = some (threeAgents.pubkeyB64 seed, ring) := by
    rw [hregistry, hentry]
  apply calledBy_signedMessage hlookup
  · rw [hpubkey, MemoryAgentRegistry.pubkey, hregistry]
    rfl
  · decide

def filedRequest (agentDid : String) (currentRing requestedRing : PrivilegeRing) :
    EscalationRequest where
  agentDid := agentDid
  currentRing := currentRing
  requestedRing := requestedRing
  reason := "audit"
  timestamp := 0

/-- The state with that request. -/
noncomputable def filed (agentDid : String) (currentRing requestedRing : PrivilegeRing) :
    ServerState :=
  { agentsStart with
    escalationManager := agentsStart.escalationManager.requestEscalation (.fill 7)
      (filedRequest agentDid currentRing requestedRing) }

/-- Any of the three may file it. -/
theorem step_filing {did : String} {seed : ByteArr 32} {ring : PrivilegeRing}
    (hentry : agentsStart.registry.entries.lookup did = some (threeAgents.pubkeyB64 seed, ring))
    (agentDid : String) (currentRing requestedRing : PrivilegeRing) :
    ServerState.step threeAgents sampleEnv rejectingExtractors escalationWire agentsStart
        (agentCall did seed (filingMessage agentDid currentRing requestedRing)) =
      filed agentDid currentRing requestedRing := by
  -- the caller signed the message, so it is served
  have hcaller := calledBy_agentCall rfl rfl hentry (filingMessage agentDid currentRing requestedRing)
  have hserve := ServerState.serveGrpc_eq_method sampleEnv hcaller (by simp [filingMessage])
  simp only [ServerState.step, ServerState.serve, agentCall, signedMessage] at hserve ⊢
  rw [hserve]
  simp only [ServerState.method, filingMessage, ServerState.grpcRequestEscalation,
    fromProtoEscalationRequest, fromProtoRing_toProtoRing, fromProtoTimestamp, escalationWire]
  rfl

end AgentGovernance.Daemon
