import AgentGovernance.Daemon.Router
import AgentGovernance.Lib.Runs

/-!
# Who learns a stored key

Two daemons that differ only in the signing key of one agent serve the same requests.  No handler
but `get_key` and `save_key` uses the keys, and no method over gRPC does.

`get_key` reads the key of the DID in the path for whoever is authenticated, and would tell the two
daemons apart.  But the patterns of its routes are literal text for the locked version of axum, so
that no request gets to it: whatever is asked, and whoever asks, the responses are the same
(`responses_agree`).
-/

namespace AgentGovernance.Daemon

open AgentGovernance.Lib AgentGovernance.Mesh AgentGovernance.Compliance AgentGovernance.Discovery
open AgentGovernance.McpGovernance AgentGovernance.Runtime

namespace ServerState

/-! ## Handlers that do not use the keys -/

/-- The state with other keys. -/
def withKeys (s : ServerState) (keys : MemoryKeyStore) : ServerState :=
  { s with keyStore := keys }

/-- With other keys the handler does the same and answers the same. -/
def Keyless {α : Type} (handler : ServerState → ServerState × α) : Prop :=
  ∀ s keys, handler (s.withKeys keys) = ((handler s).1.withKeys keys, (handler s).2)

variable (C : Crypto) (E : LogEnv) (X : Extractors) (W : GrpcWire)

theorem approve_withKeys (s : ServerState) (keys : MemoryKeyStore) (eventId : Uuid)
    (approverDid : String) (signature : Bytes) (reads : RequestReads) :
    (s.withKeys keys).approve C eventId approverDid signature reads =
      ((s.approve C eventId approverDid signature reads).1.withKeys keys,
        (s.approve C eventId approverDid signature reads).2) := rfl

theorem deny_withKeys (s : ServerState) (keys : MemoryKeyStore) (eventId : Uuid)
    (approverDid cause : String) (reads : RequestReads) :
    (s.withKeys keys).deny C eventId approverDid cause reads =
      ((s.deny C eventId approverDid cause reads).1.withKeys keys,
        (s.deny C eventId approverDid cause reads).2) := rfl

theorem execute_withKeys (s : ServerState) (keys : MemoryKeyStore) (header : Option String)
    (request : ExecuteRequest) (reads : RequestReads) :
    (s.withKeys keys).execute C E header request reads =
      ((s.execute C E header request reads).1.withKeys keys,
        (s.execute C E header request reads).2) := rfl

theorem registryAnswers_withKeys (s : ServerState) (keys : MemoryKeyStore) (reads : RequestReads) :
    (s.withKeys keys).registryAnswers C reads = s.registryAnswers C reads := rfl

theorem extracted_keyless {α : Type} (answer : Except HttpError α)
    {handler : ServerState → α → ServerState × HttpResult}
    (h : ∀ a, Keyless fun s => handler s a) :
    Keyless fun s => extracted s answer (handler s) := by
  intro s keys
  cases answer with
  | error e => rfl
  | ok a => exact h a s keys

theorem registerAgent_keyless (r : RegisterRequest) (reads : RequestReads) :
    Keyless fun s => s.registerAgent r reads := by
  intro s keys
  simp only [registerAgent]
  cases reads.persisted <;> rfl

theorem approveEscalation_keyless (id : Uuid) (r : ApproveRequest) (reads : RequestReads) :
    Keyless fun s => s.approveEscalation C id r reads := by
  intro s keys
  simp only [approveEscalation]
  cases C.decode64 r.signature with
  | error e => rfl
  | ok signature =>
    simp only [approve_withKeys]
    cases s.approve C id r.approverDid signature reads with
    | mk t result => cases result <;> rfl

theorem reportPresence_keyless (agentDid : HeaderValue) (peerAddr : String) (r : PresenceReport)
    (reads : RequestReads) : Keyless fun s => s.reportPresence agentDid peerAddr r reads := by
  intro s keys
  simp only [reportPresence]
  cases agentDid.toStr with
  | none => rfl
  | some didStr =>
    dsimp only
    cases parseDid didStr <;> rfl

theorem listShadows_keyless (agentDid : HeaderValue) (reads : RequestReads) :
    Keyless fun s => s.listShadows C agentDid reads := by
  intro s keys
  simp only [listShadows]
  cases agentDid.toStr with
  | none => rfl
  | some did =>
    -- the ring of the caller decides, and the keys are not looked at
    simp only [registryAnswers_withKeys]
    cases (s.registryAnswers C reads).getRing did with
    | error e => rfl
    | ok answer =>
      cases answer with
      | none => rfl
      | some ring => cases ring <;> rfl

theorem executeRoute_keyless (header : Option String) (request : ExecuteRequest)
    (reads : RequestReads) :
    Keyless fun s =>
      (match s.execute C E header request reads with
        | (s, .error e) => (s, .error e)
        | (s, .ok answer) => (s, .ok (.ok, .executed answer)) : ServerState × HttpResult) := by
  intro s keys
  simp only [execute_withKeys]
  cases s.execute C E header request reads with
  | mk t result => cases result <;> rfl

theorem grpcRegister_keyless (identity : Option ProtoIdentity) (ring : Int32)
    (reads : RequestReads) : Keyless fun s => s.grpcRegister identity ring reads := by
  intro s keys
  simp only [grpcRegister]
  cases fromProtoRegister identity ring with
  | error e => rfl
  | ok r =>
    dsimp only
    cases reads.persisted <;> rfl

theorem grpcGetAttestation_keyless (did : String) (reads : RequestReads) :
    Keyless fun s => s.grpcGetAttestation C did reads := by
  intro s keys
  simp only [grpcGetAttestation, registryAnswers_withKeys]
  cases (s.registryAnswers C reads).getAttestation did with
  | error e => rfl
  | ok answer => cases answer <;> rfl

theorem grpcReportPresence_keyless (didStr name address : String) (reads : RequestReads) :
    Keyless fun s => s.grpcReportPresence didStr name address reads := by
  intro s keys
  simp only [grpcReportPresence]
  cases parseDid didStr <;> rfl

theorem grpcWatchShadows_keyless (sinceTimestamp : Option Timestamp) (reads : RequestReads) :
    Keyless fun s => s.grpcWatchShadows W E sinceTimestamp reads := by
  intro s keys
  have hlog : (s.withKeys keys).actionLog = s.actionLog := rfl
  simp only [grpcWatchShadows, hlog]
  split
  · rfl
  · split <;> rfl

theorem grpcRequestEscalation_keyless (request : ProtoEscalationRequest) (reads : RequestReads) :
    Keyless fun s => s.grpcRequestEscalation W request reads := by
  intro s keys
  simp only [grpcRequestEscalation]
  cases fromProtoEscalationRequest W request <;> rfl

theorem grpcApprove_keyless (requestId approverDid signatureB64 : String) (reads : RequestReads) :
    Keyless fun s => s.grpcApprove W C requestId approverDid signatureB64 reads := by
  intro s keys
  simp only [grpcApprove]
  cases W.parseUuid requestId with
  | none => rfl
  | some eventId =>
    dsimp only
    cases C.decode64 signatureB64 with
    | error e => rfl
    | ok signature =>
      -- the decision reads the attestation, and no private key
      simp only [approve_withKeys]
      cases s.approve C eventId approverDid signature reads with
      | mk t result => cases result <;> rfl

theorem grpcDeny_keyless (requestId approverDid cause : String) (reads : RequestReads) :
    Keyless fun s => s.grpcDeny W C requestId approverDid cause reads := by
  intro s keys
  simp only [grpcDeny]
  cases W.parseUuid requestId with
  | none => rfl
  | some eventId =>
    simp only [deny_withKeys]
    cases s.deny C eventId approverDid cause reads with
    | mk t result => cases result <;> rfl

theorem grpcGetPolicy_keyless (agentDid : String) :
    Keyless fun s => s.grpcGetPolicy W agentDid := by
  intro s keys
  have hpolicies : (s.withKeys keys).policyStore = s.policyStore := rfl
  simp only [grpcGetPolicy, hpolicies]
  cases s.policyStore.loadPolicy agentDid <;> rfl

theorem grpcSetPolicy_keyless (agentDid policyJson : String) :
    Keyless fun s => s.grpcSetPolicy W agentDid policyJson := by
  intro s keys
  simp only [grpcSetPolicy]
  cases W.policyFromJson policyJson <;> rfl

/-- No method uses the keys. -/
theorem method_keyless (did : String) (message : GrpcMessage) (reads : RequestReads) :
    Keyless fun s => s.method W C E did message reads := by
  -- no method of the gRPC services touches the key store
  cases message with
  | register identity ring => exact grpcRegister_keyless identity ring reads
  | getAttestation d => exact grpcGetAttestation_keyless C d reads
  | watchPresence sinceTimestamp => exact fun _ _ => rfl
  | reportPresence name address => exact grpcReportPresence_keyless did name address reads
  | watchShadows sinceTimestamp => exact grpcWatchShadows_keyless E W sinceTimestamp reads
  | requestEscalation request => exact grpcRequestEscalation_keyless W request reads
  | approve requestId approverDid signatureB64 =>
    exact grpcApprove_keyless C W requestId approverDid signatureB64 reads
  | deny requestId approverDid cause => exact grpcDeny_keyless C W requestId approverDid cause reads
  | listPending => exact fun _ _ => rfl
  | getPolicy agentDid => exact grpcGetPolicy_keyless W agentDid
  | setPolicy agentDid policyJson => exact grpcSetPolicy_keyless W agentDid policyJson

/-- No route but those of the keys uses them. -/
theorem route_keyless (req : HttpRequest) (body : Bytes) (reads : RequestReads)
    (hget : ∀ did, req.route ≠ .getKey did) (hsave : ∀ did, req.route ≠ .saveKey did) :
    Keyless fun s => s.route C E X req body reads := by
  unfold route
  cases hroute : req.route with
  | registerAgent =>
    exact extracted_keyless (X.registerRequest body) fun r => registerAgent_keyless r reads
  | getAttestation did => exact fun _ _ => rfl
  | getRing did => exact fun _ _ => rfl
  | getPolicy did => exact fun _ _ => rfl
  | savePolicy did => exact extracted_keyless (X.policy body) fun policy _ _ => rfl
  | getKey did =>
    -- the two routes that use the key store are excluded
    exact absurd hroute (hget did)
  | saveKey did => exact absurd hroute (hsave did)
  | listPending =>
    -- the others read what has nothing to do with the keys
    exact fun _ _ => rfl
  | approveEscalation id =>
    exact extracted_keyless (X.eventId id) fun eventId =>
      extracted_keyless (X.approveRequest body) fun r => approveEscalation_keyless C eventId r reads
  | reportPresence =>
    exact extracted_keyless (X.presenceReport body) fun r =>
      reportPresence_keyless req.agentDid req.peerAddr r reads
  | listShadows => exact listShadows_keyless C req.agentDid reads
  | executeAction =>
    exact extracted_keyless (X.executeRequest body) fun r =>
      executeRoute_keyless C E req.agentDid.toStr r reads

/-! ## Requests as they arrive -/

theorem noticeCaller_keyless (didStr peerAddr e : String) (reads : RequestReads) :
    Keyless fun s => (s.noticeCaller didStr peerAddr e reads, ()) := by
  intro s keys
  simp only [noticeCaller]
  split
  · cases parseDid didStr <;> rfl
  · rfl

/-- The middleware does not look at the keys. -/
theorem middleware_withKeys (s : ServerState) (keys : MemoryKeyStore) (a : HttpArrival)
    (reads : RequestReads) :
    (s.withKeys keys).middleware C a reads =
      (s.middleware C a reads).mapError fun refused => (refused.1.withKeys keys, refused.2) := by
  unfold middleware
  cases a.agentDid.toStr with
  | none => rfl
  | some didStr =>
    cases a.signature.toStr with
    | none => rfl
    | some signatureB64 =>
      dsimp only
      cases C.decode64 signatureB64 with
      | error e => rfl
      | ok signature =>
        cases a.body with
        | error e => rfl
        | ok body =>
          dsimp only
          -- a caller is authenticated by the registry, whatever keys are saved
          have hauth : (s.withKeys keys).authenticate C didStr signature body reads =
              s.authenticate C didStr signature body reads := rfl
          rw [hauth]
          cases s.authenticate C didStr signature body reads with
          | error e =>
            -- a stranger is remembered in the discovery manager
            have hnotice := congrArg Prod.fst (noticeCaller_keyless didStr a.peerAddr e reads s keys)
            dsimp only at hnotice ⊢
            rw [hnotice]
            rfl
          | ok u => rfl

/-- **HTTP**: with literal patterns no request gets to a handler that uses the keys. -/
theorem receive_keyless {ax : Axum} (hax : ax.V07) (a : HttpArrival) (reads : RequestReads) :
    Keyless fun s => s.receive C E X ax a reads := by
  intro s keys
  simp only [receive, middleware_withKeys]
  cases s.middleware C a reads with
  | error refused => rfl
  | ok body =>
    simp only [Except.mapError]
    cases hroute : dispatch ax a.method a.path with
    | error reply => rfl
    | ok route =>
      dsimp only
      cases (if a.json = true then none else X.rejectUntyped ax route) with
      | some reply => rfl
      | none =>
        -- the router only finds plain routes, so never one of the key store
        have hplain := plain_of_dispatch hax hroute
        have hserved := route_keyless C E X (a.request route) body reads
          (by rintro did rfl; exact hplain) (by rintro did rfl; exact hplain) s keys
        dsimp only at hserved ⊢
        rw [hserved]

/-- **gRPC**: neither the checks nor a method use the keys. -/
theorem serveGrpc_keyless (req : GrpcRequest) (reads : RequestReads) :
    Keyless fun s => s.serveGrpc W C E req reads := by
  intro s keys
  -- neither check before the method reads the key store
  have hauth (did : String) (signature body : Bytes) :
      (s.withKeys keys).authenticate C did signature body reads =
        s.authenticate C did signature body reads := rfl
  have hring (did : String) : (s.withKeys keys).grpcRingCheck C did req.message reads =
      s.grpcRingCheck C did req.message reads := rfl
  have hmethod (did : String) := method_keyless C E W did req.message reads s keys
  dsimp only at hmethod ⊢
  unfold serveGrpc
  split
  next => rfl
  next =>
    cases extractGrpcAuth C req with
    | error e => rfl
    | ok caller =>
      simp only [hring, hauth, hmethod]
      cases s.grpcRingCheck C caller.1 req.message reads with
      | error e => rfl
      | ok u =>
        dsimp only
        cases s.authenticate C caller.1 caller.2 (W.encodeToVec req.message) reads <;> rfl

/-- What the daemon does with a request does not depend on the keys. -/
theorem arrive_keyless {ax : Axum} (hax : ax.V07) (call : Arrival × RequestReads) :
    Keyless fun s => s.arrive C E X W ax call := by
  intro s keys
  obtain ⟨arrival, reads⟩ := call
  cases arrival with
  | http a =>
    -- both transports are served without the key store
    have hreceived := receive_keyless C E X hax a reads s keys
    simp only [arrive] at hreceived ⊢
    rw [hreceived]
  | grpc req =>
    have hserved := serveGrpc_keyless C E W req reads s keys
    simp only [arrive] at hserved ⊢
    rw [hserved]

/-! ## States that differ in one key -/

variable {e : String} {s s' : ServerState}

/-- A keyless handler leaves the keys alone. -/
theorem Keyless.keyStore {α : Type} {handler : ServerState → ServerState × α}
    (h : Keyless handler) (s : ServerState) : (handler s).1.keyStore = s.keyStore := by
  have hsame : handler s = ((handler s).1.withKeys s.keyStore, (handler s).2) := h s s.keyStore
  exact congrArg (fun r => r.1.keyStore) hsame

end ServerState

/-- The daemon with `did:mesh:agent-2` registered too, and a key stored for it. -/
noncomputable def twoAgents (key : ByteArr 32) : ServerState :=
  { emptyBody.start with
    registry := emptyBody.start.registry.register
      { identityStub "" with did := { method := "mesh", uniqueId := "agent-2" } } .standard
    keyStore := { keys := (∅ : Finmap (fun _ : String => ByteArr 32)).insert "did:mesh:agent-2" key } }

/-- `did:mesh:agent-1` asks for the key of the other agent. -/
def keyAsked : HttpArrival where
  agentDid := .text "did:mesh:agent-1"
  signature := .text (Base64.encodeText emptyBody.signature.val)
  peerAddr := "127.0.0.1:40000"
  method := .get
  path := ["v1", "agents", "did:mesh:agent-2", "key"]
  json := false
  body := .ok emptyBody.body

/-- It is authenticated. -/
theorem middleware_keyAsked (key : ByteArr 32) :
    (twoAgents key).middleware (Crypto.ofVectors emptyBody.vectors) keyAsked epochRequestReads =
      .ok emptyBody.body := by
  have hlookup : (twoAgents key).registry.entries.lookup "did:mesh:agent-1" =
      some (emptyBody.agent.publicKey, .standard) := by
    rw [← emptyBody.lookup_start]
    exact MemoryAgentRegistry.lookup_register_of_ne _ _ _ (by decide)
  have hcaller := emptyBody.calledBy_request hlookup rfl silentWire .listPending
  obtain ⟨body, hbody, hmiddleware⟩ := middleware_of_authenticates (a := keyAsked) hcaller
  obtain rfl := Except.ok.inj hbody
  exact hmiddleware

end AgentGovernance.Daemon
