import AgentGovernance.Daemon.Grpc
import AgentGovernance.Daemon.Http
import AgentGovernance.Daemon.ParseDid

/-!
# Requests on either transport

The daemon takes one request after the other, over HTTP or gRPC.  An authenticated request
reaches the handler of its route or method.  Any other request changes nothing, except that
the middleware notices the callers that are not registered.
-/

namespace AgentGovernance.Daemon

open AgentGovernance.Lib AgentGovernance.Mesh AgentGovernance.Compliance AgentGovernance.Discovery
open AgentGovernance.McpGovernance AgentGovernance.Runtime

/-- A request on either transport. -/
inductive DaemonRequest where
  | http (req : HttpRequest)
  | grpc (req : GrpcRequest)

inductive DaemonResponse where
  | http (result : HttpResult)
  | grpc (result : GrpcResult)

namespace ServerState

variable (C : Crypto) (E : LogEnv) (X : Extractors) (W : GrpcWire) (s : ServerState)

/-- The state after a request. -/
def serve (req : DaemonRequest) (reads : RequestReads) : ServerState :=
  match req with
  | .http req => (s.serveHttp C E X req reads).1
  | .grpc req => (s.serveGrpc W C E req reads).1

def respond (req : DaemonRequest) (reads : RequestReads) : DaemonResponse :=
  match req with
  | .http req => .http (s.serveHttp C E X req reads).2
  | .grpc req => .grpc (s.serveGrpc W C E req reads).2

/-- The request carries a DID and a signature that pass `verify_request_signature`. -/
def Authenticates (req : DaemonRequest) (reads : RequestReads) (did : String) : Prop :=
  match req with
  | .http req => ∃ signatureB64 signature body, req.agentDid.toStr = some did ∧
      req.signature.toStr = some signatureB64 ∧ C.decode64 signatureB64 = .ok signature ∧
      req.body = .ok body ∧ s.authenticate C did signature body reads = .ok ()
  | .grpc req => ∃ signature, extractGrpcAuth C req = .ok (did, signature) ∧
      s.authenticate C did signature (W.encodeToVec req.message) reads = .ok ()

/-- A request is served, with what it gets from outside. -/
def step (s : ServerState) (call : DaemonRequest × RequestReads) : ServerState :=
  s.serve C E X W call.1 call.2

/-- The caller is authenticated as `did`. -/
def CalledBy (did : String) (s : ServerState) (call : DaemonRequest × RequestReads) : Prop :=
  s.Authenticates C W call.1 call.2 did

/-- The caller is authenticated as an agent in the System ring. -/
def CalledBySystem (s : ServerState) (call : DaemonRequest × RequestReads) : Prop :=
  ∃ did, CalledBy C W did s call ∧ s.registry.getRing did = some .system

/-! ## Authenticated requests -/

variable {C W s}

/-- An authenticated HTTP request reaches the router. -/
theorem serveHttp_of_authenticates {req : HttpRequest} {reads : RequestReads} {did : String}
    (h : s.Authenticates C W (.http req) reads did) :
    req.agentDid.toStr = some did ∧ ∃ body, req.body = .ok body ∧
      s.serveHttp C E X req reads = s.route C E X req body reads := by
  obtain ⟨signatureB64, signature, body, hdid, hsignature, hdecode, hbody, hauth⟩ := h
  refine ⟨hdid, body, hbody, ?_⟩
  simp only [serveHttp, hdid, hsignature, hdecode, hbody, hauth]

/-- An authenticated gRPC message reaches its method, behind the ring check. -/
theorem serveGrpc_of_authenticates {req : GrpcRequest} {reads : RequestReads} {did : String}
    (h : s.Authenticates C W (.grpc req) reads did) :
    s.serveGrpc W C E req reads =
      match s.grpcRingCheck C did req.message reads with
      | .error e => (s, .error e)
      | .ok () => s.method W C E did req.message reads := by
  obtain ⟨signature, hextract, hauth⟩ := h
  unfold serveGrpc
  split
  · rename_i hmessage
    simp only [hmessage, grpcRingCheck, method]
  · cases hring : s.grpcRingCheck C did req.message reads <;> simp only [hextract, hauth, hring]

/-- Only registered agents are authenticated. -/
theorem CalledBy.registered {did : String} {call : DaemonRequest × RequestReads}
    (h : CalledBy C W did s call) : ∃ ring, s.registry.getRing did = some ring := by
  obtain ⟨signature, body, hauth⟩ : ∃ signature body, s.authenticate C did signature body call.2 =
      .ok () := by
    obtain ⟨req | req, reads⟩ := call
    · obtain ⟨-, signature, body, -, -, -, -, hauth⟩ := h
      exact ⟨signature, body, hauth⟩
    · obtain ⟨signature, -, hauth⟩ := h
      exact ⟨signature, _, hauth⟩
  obtain ⟨att, hatt, -⟩ := (verifyRequestSignature_eq_ok_iff C _ _ _ _ _ _).mp hauth
  obtain ⟨entry, hentry, -⟩ := Option.map_eq_some_iff.mp (Except.ok.inj hatt)
  exact ⟨entry.2, by rw [MemoryAgentRegistry.getRing, hentry]; rfl⟩

/-! ## Other requests -/

/-- The text of the error tells that the caller is not registered. -/
theorem not_isRegistered_of_authenticate {did : String} {signature body : Bytes}
    {reads : RequestReads}
    (h : s.authenticate C did signature body reads = .error "Agent not registered") :
    s.registry.isRegistered did = false := by
  rw [authenticate, verifyRequestSignature] at h
  rw [MemoryAgentRegistry.isRegistered]
  cases hentry : s.registry.entries.lookup did with
  | none => rfl
  | some entry =>
    simp only [MemoryAgentRegistry.answers, MemoryAgentRegistry.getAttestation, hentry,
      Option.map_some] at h
    split at h
    · -- an error of the verification has another text
      rename_i e _
      have htext := congrArg String.toList (Except.error.inj h)
      simp at htext
    · split at h
      · cases h
      · exact absurd (Except.error.inj h) (by decide)

/-- The middleware notices a caller only when the error says that it is not registered. -/
theorem noticeCaller_cases {didStr : String} {signature body : Bytes} {reads : RequestReads}
    {e : String} (hauth : s.authenticate C didStr signature body reads = .error e)
    (peerAddr : String) :
    s.noticeCaller didStr peerAddr e reads = s ∨
      ∃ did, s.registry.isRegistered did.toText = false ∧
        s.noticeCaller didStr peerAddr e reads =
          s.present did "unknown" peerAddr .passive reads := by
  unfold noticeCaller
  split
  · rename_i herror
    subst herror
    -- a header that is no DID is not remembered
    cases hparse : parseDid didStr with
    | error e => exact .inl rfl
    | ok did =>
      right
      refine ⟨did, ?_, rfl⟩
      rw [toText_of_parseDid hparse]
      exact not_isRegistered_of_authenticate hauth
  · -- another error is not about an unknown agent
    exact .inl rfl

/-- Over HTTP, a request that is not authenticated gets no further than the middleware. -/
theorem serveHttp_of_not_authenticates {req : HttpRequest} {reads : RequestReads}
    (h : ∀ did, ¬ s.Authenticates C W (.http req) reads did) :
    (s.serveHttp C E X req reads).1 = s ∨
      ∃ did peerAddr, s.registry.isRegistered did.toText = false ∧
        (s.serveHttp C E X req reads).1 = s.present did "unknown" peerAddr .passive reads := by
  unfold serveHttp
  cases hdid : req.agentDid.toStr with
  | none => exact .inl rfl
  | some didStr =>
    cases hsignature : req.signature.toStr with
    | none => exact .inl rfl
    | some signatureB64 =>
      dsimp only
      cases hdecode : C.decode64 signatureB64 with
      | error e => exact .inl rfl
      | ok signature =>
        cases hbody : req.body with
        | error e => exact .inl rfl
        | ok body =>
          dsimp only
          -- every earlier check answers without touching the state
          cases hauth : s.authenticate C didStr signature body reads with
          | ok u =>
            exact absurd ⟨signatureB64, signature, body, hdid, hsignature, hdecode, hbody, hauth⟩
              (h didStr)
          | error e =>
            -- a stranger is remembered, if its DID can be parsed
            rcases noticeCaller_cases hauth req.peerAddr with hnotice | ⟨did, hdid, hnotice⟩
            · exact .inl hnotice
            · exact .inr ⟨did, req.peerAddr, hdid, hnotice⟩

/-- Over gRPC, a request that is not authenticated changes nothing. -/
theorem serveGrpc_of_not_authenticates {req : GrpcRequest} {reads : RequestReads}
    (h : ∀ did, ¬ s.Authenticates C W (.grpc req) reads did) :
    (s.serveGrpc W C E req reads).1 = s := by
  -- no status is answered after a write
  unfold serveGrpc
  split
  · rfl
  · cases hextract : extractGrpcAuth C req with
    | error e => rfl
    | ok caller =>
      obtain ⟨did, signature⟩ := caller
      dsimp only
      cases s.grpcRingCheck C did req.message reads with
      | error e => rfl
      | ok u =>
        dsimp only
        cases hauth : s.authenticate C did signature (W.encodeToVec req.message) reads with
        | error e => rfl
        | ok v => exact absurd ⟨signature, hextract, hauth⟩ (h did)

/-- **Other requests** change nothing, or a caller that is not registered is noticed. -/
theorem serve_of_not_authenticates {req : DaemonRequest} {reads : RequestReads}
    (h : ∀ did, ¬ s.Authenticates C W req reads did) :
    s.serve C E X W req reads = s ∨
      ∃ did peerAddr, s.registry.isRegistered did.toText = false ∧
        s.serve C E X W req reads = s.present did "unknown" peerAddr .passive reads := by
  cases req with
  | http req => exact serveHttp_of_not_authenticates E X h
  | grpc req => exact .inl (serveGrpc_of_not_authenticates E h)

end ServerState

/-! ## A signed request -/

/-- Nothing is sent over gRPC. -/
def silentWire : GrpcWire where
  encodeToVec _ := []
  parseUuid _ := none
  policyFromJson _ := .error ""
  policyToJson _ := ""
  eventFromJson _ := none
  timestampOpt _ := none

/-- No extractor accepts a body. -/
def rejectingExtractors : Extractors where
  registerRequest _ := .error (.badRequest, "")
  policy _ := .error (.badRequest, "")
  keyB64 _ := .error (.badRequest, "")
  approveRequest _ := .error (.badRequest, "")
  presenceReport _ := .error (.badRequest, "")
  executeRequest _ := .error (.badRequest, "")
  eventId _ := .error (.badRequest, "")

/-- What a request gets from outside at the epoch, without a failure. -/
def epochRequestReads : RequestReads where
  now _ := 0
  newId := .fill 0
  persisted := .ok ()
  auditIo := .ok
  logIo := .ok

/-- A gRPC message of an agent, signed with a key. -/
def signedMessage (C : Crypto) (W : GrpcWire) (did : String) (key : ByteArr 32)
    (message : GrpcMessage) : DaemonRequest :=
  .grpc
    { agentDid := .text did
      signature := .text (C.encode64 (C.sign key (W.encodeToVec message)).val)
      message := message }

/-- The signature authenticates the agent that is registered with the public key. -/
theorem calledBy_signedMessage {C : Crypto} {W : GrpcWire} {s : ServerState} {did : String}
    {key : ByteArr 32} {ring : PrivilegeRing} {reads : RequestReads}
    (hentry : s.registry.entries.lookup did = some (C.pubkeyB64 key, ring))
    (hpubkey : s.registryPubkey = s.registry.pubkey C)
    (hlife : reads.now 2 ≤ reads.now 1 + hours 24) (message : GrpcMessage) :
    ServerState.CalledBy C W did s (signedMessage C W did key message, reads) := by
  refine ⟨(C.sign key (W.encodeToVec message)).val, ?_, ?_⟩
  · simp only [ServerState.extractGrpcAuth, C.decode64_encode64]
  · rw [ServerState.authenticate, hpubkey]
    apply (verifyRequestSignature_memory_iff C _ _ _ _ hlife).mpr
    -- the registered key is the public key of the signing key
    refine .inl ⟨_, ring, hentry, C.verifyingKey key, C.decode64_encode64 _, ?_⟩
    exact ⟨C.checkKey_verifyingKey key, _, tryInto_val _, C.verify_sign key _⟩

/-- Recorded Ed25519 values: the key of an agent, its signature of a body, and the registry's
    signature of the agent's claim at the epoch. -/
structure SignedBody where
  publicKey : ByteArr 32
  body : Bytes
  signature : ByteArr 64
  claimSignature : ByteArr 64

namespace SignedBody

variable (b : SignedBody)

def agent : AgentIdentity :=
  { identityStub (Base64.encodeText b.publicKey.val) with
    did := { method := "mesh", uniqueId := "agent-1" } }

/-- Ed25519 on the recorded values. -/
def vectors : Vectors where
  seed := registrySeed
  publicKey := registryKey
  signed := [((MemoryAgentRegistry.claimFor "did:mesh:agent-1" b.agent.publicKey 0 0).canonicalBytes,
    b.claimSignature)]
  accepted := [(b.publicKey, b.body, b.signature)]

/-- The daemon with the agent in its registry file. -/
noncomputable def start : ServerState :=
  .start sampleEnv registrySeed "did:mesh:registry" [(b.agent, .standard)] none .blank false
    ((Crypto.ofVectors b.vectors).pubkeyB64 registrySeed)

def request (route : HttpRoute) : DaemonRequest :=
  .http
    { agentDid := .text "did:mesh:agent-1"
      signature := .text (Base64.encodeText b.signature.val)
      peerAddr := "127.0.0.1:40000"
      body := .ok b.body
      route := route }

theorem lookup_start :
    b.start.registry.entries.lookup "did:mesh:agent-1" = some (b.agent.publicKey, .standard) :=
  MemoryAgentRegistry.lookup_register_self _ b.agent .standard

/-- The agent's own signature authenticates the request wherever the agent is registered with its
    key. -/
theorem calledBy_request {s : ServerState}
    (hlookup : s.registry.entries.lookup "did:mesh:agent-1" = some (b.agent.publicKey, .standard))
    (hpubkey : s.registryPubkey = s.registry.pubkey (Crypto.ofVectors b.vectors)) (W : GrpcWire)
    (route : HttpRoute) :
    ServerState.CalledBy (Crypto.ofVectors b.vectors) W "did:mesh:agent-1" s
      (b.request route, epochRequestReads) := by
  -- the registered key verifies the signature of the body
  have hregistered : RegisteredKeyAccepts (Crypto.ofVectors b.vectors) s.registry
      "did:mesh:agent-1" b.body b.signature.val := by
    refine ⟨b.agent.publicKey, .standard, hlookup, b.publicKey, ?_, rfl, b.signature,
      tryInto_val _, ?_⟩
    · exact (Crypto.ofVectors b.vectors).decode64_encode64 b.publicKey.val
    · simp [Crypto.ofVectors, vectors]
  refine ⟨_, b.signature.val, b.body, rfl, rfl, ?_, rfl, ?_⟩
  · exact (Crypto.ofVectors b.vectors).decode64_encode64 b.signature.val
  · -- the attestation that was just issued has not expired
    have hlife : (0 : DateTime) ≤ 0 + hours 24 := by decide
    rw [ServerState.authenticate, hpubkey]
    exact (verifyRequestSignature_memory_iff _ _ _ _ _ hlife).mpr (.inl hregistered)

end SignedBody

/-- A request of `did:mesh:agent-1` without a body. -/
def emptyBody : SignedBody where
  publicKey := agentOneKey
  body := []
  signature := ⟨(Base64.decodeText
    "9zO4TtZQEsf/JcBSWV5wPpjRQ8wf90nVG0O6MbZWpNg3pny5UdiVL/Z5q6h2lTQhth3rUO7ZdYEgE32MWPmmCQ==").getD
      [], by decide +kernel⟩
  claimSignature := agentOneClaimSignature

end AgentGovernance.Daemon
