import AgentGovernance.Daemon.Requests

/-!
# What a request writes

The registry, the keys and the policies are written by few handlers: `register` and
`set_policy` or `save_policy` on both transports, and `save_key`.  `Mutation` is what such a
handler writes, and a request names its mutation before it is authenticated.  The map of
known agents has its own writers; all other handlers are `Quiet`.

`serve_stores_of_authenticates` says that the stores change by exactly that mutation, over
all routes and methods, and `serve_stores_of_not_authenticates` that they do not change
otherwise.
-/

namespace AgentGovernance.Daemon

open AgentGovernance.Lib AgentGovernance.Mesh AgentGovernance.Compliance AgentGovernance.Discovery
open AgentGovernance.McpGovernance AgentGovernance.Runtime

/-- What is registered or stored for agents. -/
structure Stores where
  registry : MemoryAgentRegistry
  keyStore : MemoryKeyStore
  policyStore : MemoryPolicyStore

def ServerState.stores (s : ServerState) : Stores where
  registry := s.registry
  keyStore := s.keyStore
  policyStore := s.policyStore

/-! ## Mutations -/

/-- What a handler writes. -/
inductive Mutation where
  | register (identity : AgentIdentity) (ring : PrivilegeRing)
  | savePolicy (did : String) (policy : McpPolicy)
  | saveKey (did : String) (key : ByteArr 32)

def Mutation.apply (st : Stores) : Mutation → Stores
  | .register identity ring => { st with registry := st.registry.register identity ring }
  | .savePolicy did policy => { st with policyStore := st.policyStore.savePolicy did policy }
  | .saveKey did key => { st with keyStore := st.keyStore.saveKey did key }

/-- A write or nothing. -/
def Stores.after (st : Stores) : Option Mutation → Stores
  | none => st
  | some m => m.apply st

variable (C : Crypto) (E : LogEnv) (X : Extractors) (W : GrpcWire)

/-- What an HTTP request asks to write. -/
def HttpRequest.mutation (req : HttpRequest) (body : Bytes) : Option Mutation :=
  match req.route with
  | .registerAgent => (X.registerRequest body).toOption.map fun r => .register r.identity r.ring
  | .savePolicy did => (X.policy body).toOption.map fun policy => .savePolicy did policy
  | .saveKey did =>
    (X.keyB64 body).toOption.bind fun keyB64 =>
      (C.decode64 keyB64).toOption.bind fun bytes =>
        (tryInto 32 bytes).map fun key => .saveKey did key
  | _ => none

/-- What a gRPC message asks to write. -/
def GrpcMessage.mutation : GrpcMessage → Option Mutation
  | .register identity ring =>
    (fromProtoRegister identity ring).toOption.map fun r => .register r.1 r.2
  | .setPolicy agentDid policyJson =>
    (W.policyFromJson policyJson).toOption.map fun policy => .savePolicy agentDid policy
  | _ => none

/-- What a request asks to write. -/
def DaemonRequest.mutation : DaemonRequest → Option Mutation
  | .http req => req.body.toOption.bind (req.mutation C X)
  | .grpc req => req.message.mutation W

namespace ServerState

variable (s : ServerState)

/-! ## Handlers that write neither the stores nor the known agents -/

/-- The stores and the discovery manager stay the same. -/
structure Quiet (s s' : ServerState) : Prop where
  stores : s'.stores = s.stores
  discoveryManager : s'.discoveryManager = s.discoveryManager

theorem Quiet.refl (s : ServerState) : Quiet s s := ⟨rfl, rfl⟩

theorem approve_quiet (eventId : Uuid) (approverDid : String) (signature : Bytes)
    (reads : RequestReads) : Quiet s (s.approve C eventId approverDid signature reads).1 :=
  ⟨rfl, rfl⟩

theorem deny_quiet (eventId : Uuid) (approverDid cause : String) (reads : RequestReads) :
    Quiet s (s.deny C eventId approverDid cause reads).1 := ⟨rfl, rfl⟩

theorem getKey_quiet (did : String) (reads : RequestReads) :
    Quiet s (s.getKey C did reads).1 := by
  unfold getKey
  split
  · exact .refl s
  · exact .refl s
  · split <;> exact .refl s

theorem approveEscalation_quiet (id : Uuid) (r : ApproveRequest) (reads : RequestReads) :
    Quiet s (s.approveEscalation C id r reads).1 := by
  unfold approveEscalation
  cases C.decode64 r.signature with
  | error e => exact .refl s
  | ok signature =>
    have happrove := s.approve_quiet C id r.approverDid signature reads
    dsimp only
    split <;> simp_all only

theorem listShadows_quiet (agentDid : HeaderValue) (reads : RequestReads) :
    Quiet s (s.listShadows C agentDid reads).1 := by
  unfold listShadows
  split
  · exact .refl s
  · split
    · exact .refl s
    · exact .refl s
    · split <;> exact .refl s

theorem executeRoute_quiet (header : Option String) (request : ExecuteRequest)
    (reads : RequestReads) :
    Quiet s
      (match s.execute C E header request reads with
        | (s, .error e) => (s, .error e)
        | (s, .ok answer) => (s, .ok (.ok, .executed answer)) : ServerState × HttpResult).1 := by
  have hexecute : Quiet s (s.execute C E header request reads).1 := ⟨rfl, rfl⟩
  split <;> simp_all only

theorem grpcGetAttestation_quiet (did : String) (reads : RequestReads) :
    Quiet s (s.grpcGetAttestation C did reads).1 := by
  unfold grpcGetAttestation
  split <;> exact .refl s

theorem grpcWatchShadows_quiet (sinceTimestamp : Option Timestamp) (reads : RequestReads) :
    Quiet s (s.grpcWatchShadows W E sinceTimestamp reads).1 := by
  unfold grpcWatchShadows
  dsimp only
  split
  · exact .refl s
  · split <;> exact .refl s

theorem grpcRequestEscalation_quiet (request : ProtoEscalationRequest) (reads : RequestReads) :
    Quiet s (s.grpcRequestEscalation W request reads).1 := by
  unfold grpcRequestEscalation
  split
  · exact .refl s
  · exact ⟨rfl, rfl⟩

theorem grpcApprove_quiet (requestId approverDid signatureB64 : String) (reads : RequestReads) :
    Quiet s (s.grpcApprove W C requestId approverDid signatureB64 reads).1 := by
  unfold grpcApprove
  split
  · exact .refl s
  · rename_i eventId _
    cases C.decode64 signatureB64 with
    | error e => exact .refl s
    | ok signature =>
      have happrove := s.approve_quiet C eventId approverDid signature reads
      dsimp only
      split <;> simp_all only

theorem grpcDeny_quiet (requestId approverDid cause : String) (reads : RequestReads) :
    Quiet s (s.grpcDeny W C requestId approverDid cause reads).1 := by
  unfold grpcDeny
  split
  · exact .refl s
  · rename_i eventId _
    have hdeny := s.deny_quiet C eventId approverDid cause reads
    split <;> simp_all only

theorem grpcGetPolicy_quiet (agentDid : String) : Quiet s (s.grpcGetPolicy W agentDid).1 := by
  unfold grpcGetPolicy
  split <;> exact .refl s

/-! ## What a request does to the stores -/

@[simp] theorem present_stores (did : AgentDID) (name address : String) (source : DiscoverySource)
    (reads : RequestReads) : (s.present did name address source reads).stores = s.stores := rfl

theorem registerAgent_stores (r : RegisterRequest) (reads : RequestReads) :
    (s.registerAgent r reads).1.stores = (Mutation.register r.identity r.ring).apply s.stores := by
  unfold registerAgent
  cases reads.persisted <;> rfl

theorem saveKey_stores (did keyB64 : String) :
    (s.saveKey C did keyB64).1.stores =
      s.stores.after ((C.decode64 keyB64).toOption.bind fun bytes =>
        (tryInto 32 bytes).map fun key => .saveKey did key) := by
  unfold saveKey
  cases C.decode64 keyB64 with
  | error e => rfl
  | ok bytes =>
    simp only [Except.toOption, Option.bind_some]
    cases tryInto 32 bytes <;> rfl

theorem reportPresence_stores (agentDid : HeaderValue) (peerAddr : String) (r : PresenceReport)
    (reads : RequestReads) : (s.reportPresence agentDid peerAddr r reads).1.stores = s.stores := by
  unfold reportPresence
  split
  · rfl
  · split <;> rfl

theorem grpcRegister_stores (identity : Option ProtoIdentity) (ring : Int32)
    (reads : RequestReads) :
    (s.grpcRegister identity ring reads).1.stores =
      s.stores.after ((fromProtoRegister identity ring).toOption.map fun r => .register r.1 r.2) := by
  unfold grpcRegister
  cases fromProtoRegister identity ring with
  | error e => rfl
  | ok r =>
    simp only [Except.toOption, Option.map_some]
    cases reads.persisted <;> rfl

theorem grpcSetPolicy_stores (agentDid policyJson : String) :
    (s.grpcSetPolicy W agentDid policyJson).1.stores =
      s.stores.after
        ((W.policyFromJson policyJson).toOption.map fun policy => .savePolicy agentDid policy) := by
  unfold grpcSetPolicy
  cases W.policyFromJson policyJson <;> rfl

theorem grpcReportPresence_stores (didStr name address : String) (reads : RequestReads) :
    (s.grpcReportPresence didStr name address reads).1.stores = s.stores := by
  unfold grpcReportPresence
  split <;> rfl

/-- A rejected extractor writes nothing, for any part of the state and any kind of write. -/
theorem extracted_writes {α β μ : Type} (part : ServerState → β) (after : Option μ → β)
    (answer : Except HttpError α) (handler : α → ServerState × HttpResult) (write : α → Option μ)
    (hnone : after none = part s) (h : ∀ a, part (handler a).1 = after (write a)) :
    part (extracted s answer handler).1 = after (answer.toOption.bind write) := by
  cases answer with
  | error e => exact hnone.symm
  | ok a => exact h a

theorem extracted_quiet {α : Type} (answer : Except HttpError α)
    (handler : α → ServerState × HttpResult) (h : ∀ a, Quiet s (handler a).1) :
    Quiet s (extracted s answer handler).1 := by
  cases answer with
  | error e => exact .refl s
  | ok a => exact h a

/-- The router writes what the request asks for. -/
theorem route_stores (req : HttpRequest) (body : Bytes) (reads : RequestReads) :
    (s.route C E X req body reads).1.stores = s.stores.after (req.mutation C X body) := by
  unfold route HttpRequest.mutation
  cases req.route with
  | registerAgent =>
    -- three routes write a store
    dsimp only
    rw [Option.map_eq_bind]
    apply s.extracted_writes ServerState.stores s.stores.after _ _ _ rfl
    exact fun r => s.registerAgent_stores r reads
  | savePolicy did =>
    dsimp only
    rw [Option.map_eq_bind]
    apply s.extracted_writes ServerState.stores s.stores.after _ _ _ rfl
    exact fun policy => rfl
  | saveKey did =>
    apply s.extracted_writes ServerState.stores s.stores.after _ _ _ rfl
    exact fun keyB64 => s.saveKey_stores C did keyB64
  | approveEscalation id =>
    -- the others leave the stores alone
    apply Quiet.stores
    apply s.extracted_quiet
    intro eventId
    apply s.extracted_quiet
    exact fun r => s.approveEscalation_quiet C eventId r reads
  | reportPresence =>
    dsimp only
    cases X.presenceReport body with
    | error e => rfl
    | ok r => exact s.reportPresence_stores req.agentDid req.peerAddr r reads
  | executeAction =>
    apply Quiet.stores
    apply s.extracted_quiet
    exact fun r => s.executeRoute_quiet C E req.agentDid.toStr r reads
  | getKey did => exact (s.getKey_quiet C did reads).stores
  | listShadows => exact (s.listShadows_quiet C req.agentDid reads).stores
  | getAttestation did => rfl
  | getRing did => rfl
  | getPolicy did => rfl
  | listPending => rfl

/-- A method writes what the message asks for. -/
theorem method_stores (did : String) (message : GrpcMessage) (reads : RequestReads) :
    (s.method W C E did message reads).1.stores = s.stores.after (message.mutation W) := by
  unfold method GrpcMessage.mutation
  cases message with
  | register identity ring =>
    -- two methods write a store
    exact s.grpcRegister_stores identity ring reads
  | setPolicy agentDid policyJson => exact s.grpcSetPolicy_stores W agentDid policyJson
  | getAttestation d =>
    -- the others leave the stores alone
    exact (s.grpcGetAttestation_quiet C d reads).stores
  | watchPresence sinceTimestamp => rfl
  | reportPresence name address => exact s.grpcReportPresence_stores did name address reads
  | watchShadows sinceTimestamp => exact (s.grpcWatchShadows_quiet E W sinceTimestamp reads).stores
  | requestEscalation request => exact (s.grpcRequestEscalation_quiet W request reads).stores
  | approve requestId approverDid signatureB64 =>
    exact (s.grpcApprove_quiet C W requestId approverDid signatureB64 reads).stores
  | deny requestId approverDid cause =>
    exact (s.grpcDeny_quiet C W requestId approverDid cause reads).stores
  | listPending => rfl
  | getPolicy agentDid => exact (s.grpcGetPolicy_quiet W agentDid).stores

/-- Only `watch_shadows` has a ring check that may refuse. -/
theorem watchShadows_of_grpcRingCheck {did : String} {message : GrpcMessage} {reads : RequestReads}
    {e : GrpcStatus} (h : s.grpcRingCheck C did message reads = .error e) :
    ∃ sinceTimestamp, message = .watchShadows sinceTimestamp := by
  cases message with
  | watchShadows sinceTimestamp => exact ⟨sinceTimestamp, rfl⟩
  | register | getAttestation | watchPresence | reportPresence | requestEscalation | approve | deny
  | listPending | getPolicy | setPolicy => cases h

variable {C W s}

/-- **Authenticated requests**: the stores change by the write the request asks for. -/
theorem serve_stores_of_authenticates {req : DaemonRequest} {reads : RequestReads} {did : String}
    (h : s.Authenticates C W req reads did) :
    (s.serve C E X W req reads).stores = s.stores.after (req.mutation C X W) := by
  cases req with
  | http req =>
    obtain ⟨-, body, hbody, hserve⟩ := serveHttp_of_authenticates E X h
    simp only [serve, hserve, DaemonRequest.mutation, hbody]
    apply route_stores
  | grpc req =>
    simp only [serve, serveGrpc_of_authenticates E h, DaemonRequest.mutation]
    cases hring : s.grpcRingCheck C did req.message reads with
    | error e =>
      -- the ring check stops a shadow stream, which writes nothing anyway
      obtain ⟨sinceTimestamp, hmessage⟩ := s.watchShadows_of_grpcRingCheck C hring
      rw [hmessage]
      rfl
    | ok u => apply method_stores

/-- Any other request leaves the stores alone. -/
theorem serve_stores_of_not_authenticates {req : DaemonRequest} {reads : RequestReads}
    (h : ∀ did, ¬ s.Authenticates C W req reads did) :
    (s.serve C E X W req reads).stores = s.stores := by
  rcases serve_of_not_authenticates E X h with hsame | ⟨did, peerAddr, -, hnoticed⟩
  · rw [hsame]
  · rw [hnoticed, present_stores]

/-- **Step**: a request leaves the stores alone, or makes the write that its caller asks for. -/
theorem step_stores_cases (call : DaemonRequest × RequestReads) :
    (step C E X W s call).stores = s.stores ∨
      ∃ did m, CalledBy C W did s call ∧ call.1.mutation C X W = some m ∧
        (step C E X W s call).stores = m.apply s.stores := by
  by_cases hcaller : ∃ did, CalledBy C W did s call
  · obtain ⟨did, hdid⟩ := hcaller
    have hstores := serve_stores_of_authenticates E X hdid
    cases hmutation : call.1.mutation C X W with
    | none =>
      -- the request asks for no write
      rw [hmutation] at hstores
      exact .inl hstores
    | some m =>
      rw [hmutation] at hstores
      exact .inr ⟨did, m, hdid, rfl, hstores⟩
  · left
    -- an unauthenticated request writes nothing
    apply serve_stores_of_not_authenticates
    exact fun did hdid => hcaller ⟨did, hdid⟩

end ServerState

end AgentGovernance.Daemon
