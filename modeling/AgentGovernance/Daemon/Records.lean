import AgentGovernance.Daemon.Writes
import AgentGovernance.Lib.Runs

/-!
# What a request records

The action log and the SIEM exporter hear of one route, `execute_action`.  No request changes
the compliance rules or the key that attestations are checked under.

`serve_records_of_authenticates` says so over all routes and methods; together with
`serve_stores_of_authenticates` it tells what a request can touch.
-/

namespace AgentGovernance.Daemon

open AgentGovernance.Lib AgentGovernance.Mesh AgentGovernance.Compliance AgentGovernance.Discovery
open AgentGovernance.McpGovernance AgentGovernance.Runtime

/-- The log and the exporter, and the settings of the daemon. -/
structure Records where
  complianceVerifier : ComplianceVerifier
  actionLog : FileActionLog
  siemExporter : Option (List ActionLogRecord)
  registryPubkey : String

def ServerState.records (s : ServerState) : Records where
  complianceVerifier := s.complianceVerifier
  actionLog := s.actionLog
  siemExporter := s.siemExporter
  registryPubkey := s.registryPubkey

variable (C : Crypto) (E : LogEnv) (X : Extractors) (W : GrpcWire)

/-- The action that an HTTP request asks to execute, with the header of its caller. -/
def HttpRequest.execution (req : HttpRequest) (body : Bytes) :
    Option (Option String × ExecuteRequest) :=
  match req.route with
  | .executeAction => (X.executeRequest body).toOption.map fun r => (req.agentDid.toStr, r)
  | _ => none

/-- The action that a request asks to execute; none over gRPC. -/
def DaemonRequest.execution : DaemonRequest → Option (Option String × ExecuteRequest)
  | .http req => req.body.toOption.bind (req.execution X)
  | .grpc _ => none

namespace ServerState

variable (s : ServerState)

/-- The records after an action, or after nothing. -/
def recordsAfter (reads : RequestReads) : Option (Option String × ExecuteRequest) → Records
  | none => s.records
  | some call => (s.execute C E call.1 call.2 reads).1.records

/-! ## Handlers -/

@[simp] theorem present_records (did : AgentDID) (name address : String) (source : DiscoverySource)
    (reads : RequestReads) : (s.present did name address source reads).records = s.records := rfl

theorem registerAgent_records (r : RegisterRequest) (reads : RequestReads) :
    (s.registerAgent r reads).1.records = s.records := by
  unfold registerAgent
  cases reads.persisted <;> rfl

theorem saveKey_records (did keyB64 : String) : (s.saveKey C did keyB64).1.records = s.records := by
  unfold saveKey
  split
  · rfl
  · split <;> rfl

theorem getKey_records (did : String) (reads : RequestReads) :
    (s.getKey C did reads).1.records = s.records := by
  unfold getKey
  split
  · rfl
  · rfl
  · split <;> rfl

theorem approve_records (eventId : Uuid) (approverDid : String) (signature : Bytes)
    (reads : RequestReads) :
    (s.approve C eventId approverDid signature reads).1.records = s.records := rfl

theorem deny_records (eventId : Uuid) (approverDid cause : String) (reads : RequestReads) :
    (s.deny C eventId approverDid cause reads).1.records = s.records := rfl

theorem approveEscalation_records (id : Uuid) (r : ApproveRequest) (reads : RequestReads) :
    (s.approveEscalation C id r reads).1.records = s.records := by
  unfold approveEscalation
  cases C.decode64 r.signature with
  | error e => rfl
  | ok signature =>
    have happrove := s.approve_records C id r.approverDid signature reads
    dsimp only
    split <;> simp_all only

theorem reportPresence_records (agentDid : HeaderValue) (peerAddr : String) (r : PresenceReport)
    (reads : RequestReads) :
    (s.reportPresence agentDid peerAddr r reads).1.records = s.records := by
  unfold reportPresence
  split
  · rfl
  · split <;> rfl

theorem listShadows_records (agentDid : HeaderValue) (reads : RequestReads) :
    (s.listShadows C agentDid reads).1.records = s.records := by
  unfold listShadows
  split
  · rfl
  · split
    · rfl
    · rfl
    · split <;> rfl

/-- The route of `execute_action` passes on the state of the handler. -/
theorem executeRoute_records (header : Option String) (request : ExecuteRequest)
    (reads : RequestReads) :
    ((match s.execute C E header request reads with
      | (s, .error e) => (s, .error e)
      | (s, .ok answer) => (s, .ok (.ok, .executed answer))) : ServerState × HttpResult).1.records =
      (s.execute C E header request reads).1.records := by
  split <;> simp_all only

theorem extracted_records {α : Type} (answer : Except HttpError α)
    (handler : α → ServerState × HttpResult) (h : ∀ a, (handler a).1.records = s.records) :
    (extracted s answer handler).1.records = s.records := by
  cases answer with
  | error e => rfl
  | ok a => exact h a

/-- The router records what the request asks to execute. -/
theorem route_records (req : HttpRequest) (body : Bytes) (reads : RequestReads) :
    (s.route C E X req body reads).1.records =
      s.recordsAfter C E reads (req.execution X body) := by
  unfold route HttpRequest.execution
  cases req.route with
  | executeAction =>
    -- an executed action writes the records
    dsimp only
    rw [Option.map_eq_bind]
    apply s.extracted_writes ServerState.records (s.recordsAfter C E reads) _ _ _ rfl
    exact fun r => s.executeRoute_records C E req.agentDid.toStr r reads
  | registerAgent =>
    -- the other routes do not
    apply s.extracted_records
    exact fun r => s.registerAgent_records r reads
  | savePolicy did =>
    apply s.extracted_records
    exact fun policy => rfl
  | saveKey did =>
    apply s.extracted_records
    exact fun keyB64 => s.saveKey_records C did keyB64
  | approveEscalation id =>
    apply s.extracted_records
    intro eventId
    apply s.extracted_records
    exact fun r => s.approveEscalation_records C eventId r reads
  | reportPresence =>
    apply s.extracted_records
    exact fun r => s.reportPresence_records req.agentDid req.peerAddr r reads
  | getKey did => exact s.getKey_records C did reads
  | listShadows => exact s.listShadows_records C req.agentDid reads
  | getAttestation did => rfl
  | getRing did => rfl
  | getPolicy did => rfl
  | listPending => rfl

theorem grpcRegister_records (identity : Option ProtoIdentity) (ring : Int32)
    (reads : RequestReads) : (s.grpcRegister identity ring reads).1.records = s.records := by
  unfold grpcRegister
  split
  · rfl
  · cases reads.persisted <;> rfl

theorem grpcApprove_records (requestId approverDid signatureB64 : String) (reads : RequestReads) :
    (s.grpcApprove W C requestId approverDid signatureB64 reads).1.records = s.records := by
  unfold grpcApprove
  split
  · rfl
  · rename_i eventId _
    cases C.decode64 signatureB64 with
    | error e => rfl
    | ok signature =>
      have happrove := s.approve_records C eventId approverDid signature reads
      dsimp only
      split <;> simp_all only

theorem grpcDeny_records (requestId approverDid cause : String) (reads : RequestReads) :
    (s.grpcDeny W C requestId approverDid cause reads).1.records = s.records := by
  unfold grpcDeny
  split
  · rfl
  · rename_i eventId _
    have hdeny := s.deny_records C eventId approverDid cause reads
    split <;> simp_all only

/-- No method records anything. -/
theorem method_records (did : String) (message : GrpcMessage) (reads : RequestReads) :
    (s.method W C E did message reads).1.records = s.records := by
  -- no method of the gRPC services writes the records
  unfold method
  cases message with
  | register identity ring => exact s.grpcRegister_records identity ring reads
  | approve requestId approverDid signatureB64 =>
    exact s.grpcApprove_records C W requestId approverDid signatureB64 reads
  | deny requestId approverDid cause => exact s.grpcDeny_records C W requestId approverDid cause reads
  | setPolicy agentDid policyJson =>
    dsimp only [grpcSetPolicy]
    split <;> rfl
  | getAttestation d =>
    dsimp only [grpcGetAttestation]
    split <;> rfl
  | reportPresence name address =>
    dsimp only [grpcReportPresence]
    split <;> rfl
  | requestEscalation request =>
    dsimp only [grpcRequestEscalation]
    split <;> rfl
  | getPolicy agentDid =>
    dsimp only [grpcGetPolicy]
    split <;> rfl
  | watchShadows sinceTimestamp =>
    dsimp only [grpcWatchShadows]
    split
    · rfl
    · split <;> rfl
  | watchPresence sinceTimestamp => rfl
  | listPending => rfl

/-! ## Requests -/

variable {C W s}

/-- **Authenticated requests**: what is recorded is the action that the request asks to execute. -/
theorem serve_records_of_authenticates {req : DaemonRequest} {reads : RequestReads} {did : String}
    (h : s.Authenticates C W req reads did) :
    (s.serve C E X W req reads).records = s.recordsAfter C E reads (req.execution X) := by
  cases req with
  | http req =>
    obtain ⟨-, body, hbody, hserve⟩ := serveHttp_of_authenticates E X h
    simp only [serve, hserve, DaemonRequest.execution, hbody]
    apply route_records
  | grpc req =>
    simp only [serve, serveGrpc_of_authenticates E h, DaemonRequest.execution]
    -- the ring check stops before the method, or lets it run
    cases s.grpcRingCheck C did req.message reads with
    | error e => rfl
    | ok u => apply method_records

/-- Any other request leaves the records alone. -/
theorem serve_records_of_not_authenticates {req : DaemonRequest} {reads : RequestReads}
    (h : ∀ did, ¬ s.Authenticates C W req reads did) :
    (s.serve C E X W req reads).records = s.records := by
  rcases serve_of_not_authenticates E X h with hsame | ⟨did, peerAddr, -, hnoticed⟩
  · rw [hsame]
  · rw [hnoticed, present_records]

/-- **Step**: a request records nothing, or the action that its caller asks to execute. -/
theorem step_records_cases (call : DaemonRequest × RequestReads) :
    (step C E X W s call).records = s.records ∨
      ∃ did header request, CalledBy C W did s call ∧
        call.1.execution X = some (header, request) ∧
        (step C E X W s call).records = (s.execute C E header request call.2).1.records := by
  by_cases hcaller : ∃ did, CalledBy C W did s call
  · obtain ⟨did, hdid⟩ := hcaller
    have hrecords := serve_records_of_authenticates E X hdid
    cases hexecution : call.1.execution X with
    | none =>
      -- the request asks for no action
      rw [hexecution] at hrecords
      exact .inl hrecords
    | some asked =>
      rw [hexecution] at hrecords
      exact .inr ⟨did, asked.1, asked.2, hdid, rfl, hrecords⟩
  · -- an unauthenticated request executes nothing
    left
    apply serve_records_of_not_authenticates
    exact fun did hdid => hcaller ⟨did, hdid⟩

/-! ## Settings -/

/-- **Step**: no request changes the key that attestations are checked under. -/
theorem step_registryPubkey (call : DaemonRequest × RequestReads) :
    (step C E X W s call).registryPubkey = s.registryPubkey := by
  rcases step_records_cases E X (C := C) (W := W) (s := s) call with
    hsame | ⟨did, header, request, -, -, hexecuted⟩
  · exact congrArg Records.registryPubkey hsame
  · exact congrArg Records.registryPubkey hexecuted

/-- **Step**: no request changes the key pair of the registry. -/
theorem step_registryIdentity (call : DaemonRequest × RequestReads) :
    (step C E X W s call).registry.registryIdentity = s.registry.registryIdentity := by
  have hregistry (t : ServerState) : t.registry = t.stores.registry := rfl
  rcases step_stores_cases E X (C := C) (W := W) (s := s) call with hsame | ⟨did, m, -, -, hwritten⟩
  · rw [hregistry, hsame]
    rfl
  · rw [hregistry, hwritten]
    cases m <;> rfl

/-- **Run.** A daemon that knows the key of its registry goes on knowing it. -/
theorem runFrom_pubkey (hpubkey : s.registryPubkey = s.registry.pubkey C)
    (run : List (DaemonRequest × RequestReads)) :
    (runFrom (step C E X W) s run).registryPubkey =
      (runFrom (step C E X W) s run).registry.pubkey C := by
  apply runFrom_keeps (I := fun s : ServerState => s.registryPubkey = s.registry.pubkey C)
  · intro s call h
    rw [step_registryPubkey, h, MemoryAgentRegistry.pubkey, MemoryAgentRegistry.pubkey,
      step_registryIdentity]
  · exact hpubkey

end ServerState

end AgentGovernance.Daemon
