import AgentGovernance.Daemon.Writes
import AgentGovernance.Lib.Runs

/-!
# Shadow agents

The discovery manager marks the known agents that are registered, beside the registry.  The
two get out of step in two ways.  A registered agent that the daemon meets for the first time
is entered without a mark, and a registration that is not passed on to the discovery manager
leaves a known agent without one.

`shadows_exact_iff` says that nothing else makes `detect_shadow_agents` wrong.
-/

namespace AgentGovernance.Daemon

open AgentGovernance.Lib AgentGovernance.Mesh AgentGovernance.Compliance AgentGovernance.Discovery
open AgentGovernance.McpGovernance AgentGovernance.Runtime

/-! ## What a request tells the discovery manager -/

/-- A call of the discovery manager by a handler. -/
inductive DiscoveryCall where
  | reportPresence (did : AgentDID) (name address : String)
  | registerAgent (did : String)

def DiscoveryCall.apply (m : DiscoveryManager) (reads : RequestReads) :
    DiscoveryCall → DiscoveryManager
  | .reportPresence did name address =>
    m.reportPresence did name address .active (reads.now 3) (reads.now 4)
  | .registerAgent did => m.registerAgent did

def DiscoveryCall.after (m : DiscoveryManager) (reads : RequestReads) :
    Option DiscoveryCall → DiscoveryManager
  | none => m
  | some call => call.apply m reads

variable (C : Crypto) (E : LogEnv) (X : Extractors) (W : GrpcWire)

/-- What the handler of an HTTP request tells. -/
def HttpRequest.discoveryCall (req : HttpRequest) (body : Bytes) (reads : RequestReads) :
    Option DiscoveryCall :=
  match req.route with
  | .registerAgent =>
    (X.registerRequest body).toOption.bind fun r =>
      reads.persisted.toOption.map fun _ => .registerAgent r.identity.did.toText
  | .reportPresence =>
    (X.presenceReport body).toOption.bind fun r =>
      req.agentDid.toStr.bind fun caller =>
        (parseDid caller).toOption.map fun did => .reportPresence did r.name req.peerAddr
  | _ => none

/-- What a gRPC method tells; `register` tells nothing. -/
def GrpcMessage.discoveryCall (caller : String) : GrpcMessage → Option DiscoveryCall
  | .reportPresence name address =>
    (parseDid caller).toOption.map fun did => .reportPresence did name address
  | _ => none

/-- What the handler of a request tells. -/
def DaemonRequest.discoveryCall (reads : RequestReads) : DaemonRequest → Option DiscoveryCall
  | .http req => req.body.toOption.bind fun body => req.discoveryCall X body reads
  | .grpc req => req.agentDid.toStr.bind fun caller => req.message.discoveryCall caller

namespace ServerState

section
variable (s : ServerState)

theorem registerAgent_discovery (r : RegisterRequest) (reads : RequestReads) :
    (s.registerAgent r reads).1.discoveryManager =
      DiscoveryCall.after s.discoveryManager reads
        (reads.persisted.toOption.map fun _ => .registerAgent r.identity.did.toText) := by
  unfold registerAgent
  cases reads.persisted <;> rfl

theorem reportPresence_discovery (agentDid : HeaderValue) (peerAddr : String) (r : PresenceReport)
    (reads : RequestReads) :
    (s.reportPresence agentDid peerAddr r reads).1.discoveryManager =
      DiscoveryCall.after s.discoveryManager reads
        (agentDid.toStr.bind fun caller =>
          (parseDid caller).toOption.map fun did => .reportPresence did r.name peerAddr) := by
  unfold reportPresence
  cases agentDid.toStr with
  | none => rfl
  | some caller =>
    simp only [Option.bind_some]
    cases parseDid caller <;> rfl

theorem grpcReportPresence_discovery (caller name address : String) (reads : RequestReads) :
    (s.grpcReportPresence caller name address reads).1.discoveryManager =
      DiscoveryCall.after s.discoveryManager reads
        ((parseDid caller).toOption.map fun did => .reportPresence did name address) := by
  unfold grpcReportPresence
  cases parseDid caller <;> rfl

theorem saveKey_discovery (did keyB64 : String) :
    (s.saveKey C did keyB64).1.discoveryManager = s.discoveryManager := by
  unfold saveKey
  split
  · rfl
  · split <;> rfl

theorem grpcRegister_discovery (identity : Option ProtoIdentity) (ring : Int32)
    (reads : RequestReads) :
    (s.grpcRegister identity ring reads).1.discoveryManager = s.discoveryManager := by
  unfold grpcRegister
  split
  · rfl
  · dsimp only
    split <;> rfl

theorem grpcSetPolicy_discovery (agentDid policyJson : String) :
    (s.grpcSetPolicy W agentDid policyJson).1.discoveryManager = s.discoveryManager := by
  unfold grpcSetPolicy
  split <;> rfl

theorem extracted_discovery {α : Type} (answer : Except HttpError α)
    (handler : α → ServerState × HttpResult)
    (h : ∀ a, (handler a).1.discoveryManager = s.discoveryManager) :
    (extracted s answer handler).1.discoveryManager = s.discoveryManager := by
  cases answer with
  | error e => rfl
  | ok a => exact h a

/-- The router tells what the request asks for. -/
theorem route_discovery (req : HttpRequest) (body : Bytes) (reads : RequestReads) :
    (s.route C E X req body reads).1.discoveryManager =
      DiscoveryCall.after s.discoveryManager reads (req.discoveryCall X body reads) := by
  unfold route HttpRequest.discoveryCall
  cases req.route with
  | registerAgent =>
    -- these two routes call the discovery manager
    apply s.extracted_writes ServerState.discoveryManager (DiscoveryCall.after _ reads) _ _ _ rfl
    exact fun r => s.registerAgent_discovery r reads
  | reportPresence =>
    apply s.extracted_writes ServerState.discoveryManager (DiscoveryCall.after _ reads) _ _ _ rfl
    exact fun r => s.reportPresence_discovery req.agentDid req.peerAddr r reads
  | savePolicy did =>
    -- the others do not
    apply s.extracted_discovery
    exact fun policy => rfl
  | saveKey did =>
    apply s.extracted_discovery
    exact fun keyB64 => s.saveKey_discovery C did keyB64
  | approveEscalation id =>
    apply Quiet.discoveryManager
    apply s.extracted_quiet
    intro eventId
    apply s.extracted_quiet
    exact fun r => s.approveEscalation_quiet C eventId r reads
  | executeAction =>
    apply Quiet.discoveryManager
    apply s.extracted_quiet
    exact fun r => s.executeRoute_quiet C E req.agentDid.toStr r reads
  | getKey did => exact (s.getKey_quiet C did reads).discoveryManager
  | listShadows => exact (s.listShadows_quiet C req.agentDid reads).discoveryManager
  | getAttestation did => rfl
  | getRing did => rfl
  | getPolicy did => rfl
  | listPending => rfl

/-- A method tells what the message asks for. -/
theorem method_discovery (caller : String) (message : GrpcMessage) (reads : RequestReads) :
    (s.method W C E caller message reads).1.discoveryManager =
      DiscoveryCall.after s.discoveryManager reads (message.discoveryCall caller) := by
  unfold method GrpcMessage.discoveryCall
  cases message with
  | register identity ring =>
    -- over gRPC a registration does not tell the manager
    exact s.grpcRegister_discovery identity ring reads
  | setPolicy agentDid policyJson => exact s.grpcSetPolicy_discovery W agentDid policyJson
  | reportPresence name address => exact s.grpcReportPresence_discovery caller name address reads
  | getAttestation d => exact (s.grpcGetAttestation_quiet C d reads).discoveryManager
  | watchPresence sinceTimestamp => rfl
  | watchShadows sinceTimestamp =>
    exact (s.grpcWatchShadows_quiet E W sinceTimestamp reads).discoveryManager
  | requestEscalation request =>
    exact (s.grpcRequestEscalation_quiet W request reads).discoveryManager
  | approve requestId approverDid signatureB64 =>
    exact (s.grpcApprove_quiet C W requestId approverDid signatureB64 reads).discoveryManager
  | deny requestId approverDid cause =>
    exact (s.grpcDeny_quiet C W requestId approverDid cause reads).discoveryManager
  | listPending => rfl
  | getPolicy agentDid => exact (s.grpcGetPolicy_quiet W agentDid).discoveryManager

end

variable {C W} {s : ServerState}

/-- A result that is there is no error. -/
theorem ok_of_toOption {ε α : Type} {result : Except ε α} {a : α}
    (h : result.toOption = some a) : result = .ok a := by
  cases result with
  | error e => cases h
  | ok b => exact congrArg Except.ok (Option.some.inj h)

theorem toStr_of_extractGrpcAuth {req : GrpcRequest} {did : String} {signature : Bytes}
    (h : extractGrpcAuth C req = .ok (did, signature)) : req.agentDid.toStr = some did := by
  unfold extractGrpcAuth at h
  split at h
  · cases h
  · cases h
  · rename_i caller hcaller
    -- the DID is read from the metadata first
    rw [hcaller]
    split at h
    · cases h
    · cases h
    · split at h
      · cases h
      · obtain ⟨rfl, -⟩ := Prod.mk.inj (Except.ok.inj h)
        rfl

/-- **Authenticated requests** tell the discovery manager what they ask for. -/
theorem serve_discovery_of_authenticates {req : DaemonRequest} {reads : RequestReads} {did : String}
    (h : s.Authenticates C W req reads did) :
    (s.serve C E X W req reads).discoveryManager =
      DiscoveryCall.after s.discoveryManager reads (req.discoveryCall X reads) := by
  cases req with
  | http req =>
    obtain ⟨-, body, hbody, hserve⟩ := serveHttp_of_authenticates E X h
    simp only [serve, hserve, DaemonRequest.discoveryCall, hbody]
    apply route_discovery
  | grpc req =>
    obtain ⟨signature, hextract, -⟩ := id h
    simp only [serve, serveGrpc_of_authenticates E h, DaemonRequest.discoveryCall,
      toStr_of_extractGrpcAuth hextract, Option.bind_some]
    cases hring : s.grpcRingCheck C did req.message reads with
    | error e =>
      -- the ring check is made for a shadow stream only
      obtain ⟨sinceTimestamp, hmessage⟩ := s.watchShadows_of_grpcRingCheck C hring
      rw [hmessage]
      rfl
    | ok u => apply method_discovery

/-! ## Marks and the registry -/

/-- `detect_shadow_agents` gives the known agents that are not registered. -/
def ShadowsExact (s : ServerState) : Prop :=
  s.discoveryManager.detectShadowAgents =
    s.discoveryManager.discovered.filter fun agent => !s.registry.isRegistered agent.did.toText

/-- The marks of the known agents say what the registry says. -/
def Synced (s : ServerState) : Prop :=
  ∀ did registered, s.discoveryManager.mark did = some registered →
    registered = s.registry.isRegistered did

/-- The shadow agents are right when the marks are, and only then. -/
theorem shadowsExact_iff_synced (hkeyed : s.discoveryManager.Keyed) :
    s.ShadowsExact ↔ s.Synced := by
  constructor
  · intro h did registered hmark
    obtain ⟨agent, hagent, rfl⟩ := Option.map_eq_some_iff.mp hmark
    -- an agent is found exactly when its mark is false
    have hmem : agent ∈ s.discoveryManager.discovered :=
      DiscoveryManager.mem_discovered.mpr ⟨did, hagent⟩
    have hiff : agent ∈ s.discoveryManager.detectShadowAgents ↔
        agent ∈ s.discoveryManager.discovered ∧ s.registry.isRegistered did = false := by
      rw [h, Multiset.mem_filter, hkeyed did agent hagent, Bool.not_eq_true']
    rw [DiscoveryManager.mem_detectShadowAgents] at hiff
    simpa [hmem] using hiff
  · intro h
    apply Multiset.filter_congr
    intro agent hmem
    obtain ⟨did, hagent⟩ := DiscoveryManager.mem_discovered.mp hmem
    have hmark : s.discoveryManager.mark did = some agent.isRegistered := by
      rw [DiscoveryManager.mark, hagent]
      rfl
    rw [hkeyed did agent hagent, h did _ hmark]

/-- A request keeps the marks in step with the registry: who reports itself is known already, and
    a registration that is not passed on is not one of a known shadow agent. -/
def InStep (C : Crypto) (X : Extractors) (W : GrpcWire) (s : ServerState)
    (call : DaemonRequest × RequestReads) : Prop :=
  ∀ caller, CalledBy C W caller s call →
    match call.1.discoveryCall X call.2 with
    | some (.registerAgent _) => True
    | some (.reportPresence did _ _) => (s.discoveryManager.mark did.toText).isSome
    | none => ∀ identity ring, call.1.mutation C X W = some (.register identity ring) →
        (s.discoveryManager.mark identity.did.toText).isSome →
        s.registry.isRegistered identity.did.toText

/-! ## One request -/

section
variable {s' : ServerState}

theorem Synced.of_same (h : s.Synced) (hregistry : s'.registry = s.registry)
    (hmanager : s'.discoveryManager = s.discoveryManager) : s'.Synced := by
  intro did registered hmark
  rw [hregistry]
  rw [hmanager] at hmark
  exact h did registered hmark

/-- A report keeps step when the agent is known already or not registered. -/
theorem Synced.reportPresence_iff (h : s.Synced) {did : AgentDID} {name address : String}
    {source : DiscoverySource} {firstSeen lastSeen : DateTime}
    (hregistry : s'.registry = s.registry)
    (hmanager : s'.discoveryManager =
      s.discoveryManager.reportPresence did name address source firstSeen lastSeen) :
    s'.Synced ↔ (s.registry.isRegistered did.toText = true →
      (s.discoveryManager.mark did.toText).isSome) := by
  simp only [Synced, hregistry, hmanager, DiscoveryManager.mark_reportPresence]
  cases hknown : s.discoveryManager.mark did.toText with
  | none =>
    constructor
    · intro hsynced hregistered
      -- the new entry is not marked as registered
      have hfalse := hsynced did.toText false (by simp [hknown])
      rw [hregistered] at hfalse
      cases hfalse
    · intro hunregistered key registered hmark
      split at hmark
      · rename_i hkey
        subst hkey
        rw [hknown] at hmark
        -- the reported agent is marked as unregistered
        obtain rfl := Option.some.inj hmark
        simpa using hunregistered
      · exact h key registered hmark
  | some registered =>
    simp only [Option.isSome_some, implies_true, iff_true]
    -- a known agent keeps its mark
    intro key registered' hmark
    split at hmark
    · rename_i hkey
      subst hkey
      apply h
      rw [hknown] at hmark ⊢
      exact hmark
    · -- the others are marked as before
      exact h key registered' hmark

/-- A registration that is passed on keeps step. -/
theorem Synced.registerAgent (h : s.Synced) {identity : AgentIdentity} {ring : PrivilegeRing}
    (hregistry : s'.registry = s.registry.register identity ring)
    (hmanager : s'.discoveryManager = s.discoveryManager.registerAgent identity.did.toText) :
    s'.Synced := by
  intro key registered hmark
  rw [hmanager, DiscoveryManager.mark_registerAgent] at hmark
  rw [hregistry, MemoryAgentRegistry.isRegistered_register]
  split at hmark
  · rename_i hkey
    -- the registered agent is marked, and is in the registry
    obtain ⟨-, -, rfl⟩ := Option.map_eq_some_iff.mp hmark
    simp [hkey]
  · rename_i hkey
    -- the others are as before in both
    simpa [hkey] using h key registered hmark

/-- A registration that is not passed on keeps step when it is none of a known shadow agent. -/
theorem Synced.register_iff (h : s.Synced) {identity : AgentIdentity} {ring : PrivilegeRing}
    (hregistry : s'.registry = s.registry.register identity ring)
    (hmanager : s'.discoveryManager = s.discoveryManager) :
    s'.Synced ↔ ((s.discoveryManager.mark identity.did.toText).isSome →
      s.registry.isRegistered identity.did.toText) := by
  simp only [Synced, hregistry, hmanager, MemoryAgentRegistry.isRegistered_register]
  constructor
  · intro hsynced hknown
    obtain ⟨registered, hmark⟩ := Option.isSome_iff_exists.mp hknown
    -- the mark would have to change, and nobody changes it
    have hnew : registered = true := by simpa using hsynced _ registered hmark
    have hold : registered = s.registry.isRegistered identity.did.toText := h _ registered hmark
    exact hold.symm.trans hnew
  · intro hregistered key registered hmark
    by_cases hkey : key = identity.did.toText
    · subst hkey
      have hold : registered = s.registry.isRegistered identity.did.toText := h _ registered hmark
      simp [hold, hregistered (Option.isSome_iff_exists.mpr ⟨registered, hmark⟩)]
    · simpa [hkey] using h key registered hmark

end

/-- Only a registration is passed on as one. -/
theorem mutation_of_registerAgent {req : DaemonRequest} {reads : RequestReads} {did : String}
    (h : req.discoveryCall X reads = some (.registerAgent did)) :
    ∃ identity ring, req.mutation C X W = some (.register identity ring) ∧
      identity.did.toText = did := by
  cases req with
  | grpc req =>
    obtain ⟨caller, -, hcall⟩ := Option.bind_eq_some_iff.mp h
    unfold GrpcMessage.discoveryCall at hcall
    -- over gRPC no message is such a call
    split at hcall
    · simp at hcall
    · cases hcall
  | http req =>
    obtain ⟨body, hbody, hcall⟩ := Option.bind_eq_some_iff.mp h
    unfold HttpRequest.discoveryCall at hcall
    simp only [DaemonRequest.mutation, hbody, Option.bind_some, HttpRequest.mutation]
    split at hcall
    · rename_i hroute
      -- the registration that writes the registry tells the manager
      obtain ⟨r, hr, hcall⟩ := Option.bind_eq_some_iff.mp hcall
      obtain ⟨-, -, hcall⟩ := Option.map_eq_some_iff.mp hcall
      obtain rfl := DiscoveryCall.registerAgent.inj hcall
      exact ⟨r.identity, r.ring, by simp [hroute, hr], rfl⟩
    · obtain ⟨r, -, hcall⟩ := Option.bind_eq_some_iff.mp hcall
      obtain ⟨caller, -, hcall⟩ := Option.bind_eq_some_iff.mp hcall
      simp at hcall
    · cases hcall

/-- A report is about its caller, and writes nothing else. -/
theorem mutation_of_reportPresence {s : ServerState} {caller : String} {req : DaemonRequest}
    {reads : RequestReads} {did : AgentDID} {name address : String}
    (hauth : s.Authenticates C W req reads caller)
    (h : req.discoveryCall X reads = some (.reportPresence did name address)) :
    req.mutation C X W = none ∧ did.toText = caller := by
  cases req with
  | grpc req =>
    obtain ⟨signature, hextract, -⟩ := hauth
    obtain ⟨caller', hcaller', hcall⟩ := Option.bind_eq_some_iff.mp h
    -- the DID in the header is the one that was authenticated
    obtain rfl : caller = caller' :=
      Option.some.inj ((toStr_of_extractGrpcAuth hextract).symm.trans hcaller')
    unfold GrpcMessage.discoveryCall at hcall
    split at hcall
    · -- the report is about its caller, and writes no store
      rename_i hmessage
      obtain ⟨did', hparse, hcall⟩ := Option.map_eq_some_iff.mp hcall
      obtain ⟨rfl, -, -⟩ := DiscoveryCall.reportPresence.inj hcall
      refine ⟨by rw [DaemonRequest.mutation, hmessage]; rfl, ?_⟩
      exact toText_of_parseDid (ok_of_toOption hparse)
    · cases hcall
  | http req =>
    obtain ⟨-, -, body, hcaller, -, -, hbody, -⟩ := hauth
    simp only [DaemonRequest.discoveryCall, DaemonRequest.mutation, hbody] at h ⊢
    -- the body is the one that was authenticated
    change req.discoveryCall X body reads = _ at h
    change req.mutation C X body = none ∧ _
    unfold HttpRequest.discoveryCall at h
    split at h
    · obtain ⟨r, -, hcall⟩ := Option.bind_eq_some_iff.mp h
      simp at hcall
    · rename_i hroute
      obtain ⟨r, -, hcall⟩ := Option.bind_eq_some_iff.mp h
      rw [hcaller, Option.bind_some] at hcall
      obtain ⟨did', hparse, hcall⟩ := Option.map_eq_some_iff.mp hcall
      obtain ⟨rfl, -, -⟩ := DiscoveryCall.reportPresence.inj hcall
      refine ⟨by rw [HttpRequest.mutation, hroute], ?_⟩
      exact toText_of_parseDid (ok_of_toOption hparse)
    · cases h

/-- The registry after an authenticated request. -/
theorem serve_registry_of_authenticates {req : DaemonRequest} {reads : RequestReads} {did : String}
    (h : s.Authenticates C W req reads did) :
    (s.serve C E X W req reads).registry = (s.stores.after (req.mutation C X W)).registry :=
  congrArg Stores.registry (serve_stores_of_authenticates E X h)

/-- Whom the registry authenticates is in it. -/
theorem isRegistered_of_authenticates {req : DaemonRequest} {reads : RequestReads} {did : String}
    (h : s.Authenticates C W req reads did) : s.registry.isRegistered did = true := by
  have hcalled : CalledBy C W did s (req, reads) := h
  obtain ⟨ring, hring⟩ := hcalled.registered
  obtain ⟨entry, hentry, -⟩ := Option.map_eq_some_iff.mp hring
  rw [MemoryAgentRegistry.isRegistered, hentry]
  rfl

/-- An authenticated request that the discovery manager does not hear of. -/
theorem synced_step_iff_of_unheard (hsynced : s.Synced) {req : DaemonRequest} {reads : RequestReads}
    {caller : String} (hauth : s.Authenticates C W req reads caller)
    (hcall : req.discoveryCall X reads = none) :
    (step C E X W s (req, reads)).Synced ↔ InStep C X W s (req, reads) := by
  have hregistry : (step C E X W s (req, reads)).registry =
      (s.stores.after (req.mutation C X W)).registry := serve_registry_of_authenticates E X hauth
  have hmanager : (step C E X W s (req, reads)).discoveryManager =
      DiscoveryCall.after s.discoveryManager reads (req.discoveryCall X reads) :=
    serve_discovery_of_authenticates E X hauth
  have hinstep : InStep C X W s (req, reads) ↔ _ :=
    ⟨fun h => h caller hauth, fun h _ _ => h⟩
  rw [hinstep, hcall]
  rw [hcall] at hmanager
  cases hmutation : req.mutation C X W with
  | none =>
    -- neither the registry nor the map changes
    rw [hmutation] at hregistry
    simpa using hsynced.of_same hregistry hmanager
  | some m =>
    rw [hmutation] at hregistry
    cases m with
    | register identity ring =>
      -- a registration that the manager does not hear of
      rw [hsynced.register_iff hregistry hmanager]
      simp
    | savePolicy did policy => simpa using hsynced.of_same hregistry hmanager
    | saveKey did key => simpa using hsynced.of_same hregistry hmanager

/-- An authenticated request that the discovery manager hears of. -/
theorem synced_step_iff_of_heard (hsynced : s.Synced) {req : DaemonRequest} {reads : RequestReads}
    {caller : String} (hauth : s.Authenticates C W req reads caller) {heard : DiscoveryCall}
    (hcall : req.discoveryCall X reads = some heard) :
    (step C E X W s (req, reads)).Synced ↔ InStep C X W s (req, reads) := by
  have hregistry : (step C E X W s (req, reads)).registry =
      (s.stores.after (req.mutation C X W)).registry := serve_registry_of_authenticates E X hauth
  have hmanager : (step C E X W s (req, reads)).discoveryManager =
      DiscoveryCall.after s.discoveryManager reads (req.discoveryCall X reads) :=
    serve_discovery_of_authenticates E X hauth
  have hinstep : InStep C X W s (req, reads) ↔ _ :=
    ⟨fun h => h caller hauth, fun h _ _ => h⟩
  rw [hinstep, hcall]
  rw [hcall] at hmanager
  cases heard with
  | registerAgent did =>
    -- both the registry and the map have the new agent
    obtain ⟨identity, ring, hmutation, rfl⟩ := mutation_of_registerAgent (C := C) (W := W) X hcall
    rw [hmutation] at hregistry
    exact iff_of_true (hsynced.registerAgent hregistry hmanager) trivial
  | reportPresence did name address =>
    obtain ⟨hmutation, hdid⟩ := mutation_of_reportPresence X hauth hcall
    rw [hmutation] at hregistry
    rw [hsynced.reportPresence_iff hregistry hmanager]
    -- the caller is registered, so its entry must be marked
    simp [hdid, isRegistered_of_authenticates hauth]

/-- A request that is not authenticated: the caller is unknown at most, so an entry without a mark
    is right. -/
theorem Synced.step_of_not_authenticates (hsynced : s.Synced) {req : DaemonRequest}
    {reads : RequestReads} (hnone : ∀ did, ¬ s.Authenticates C W req reads did) :
    (step C E X W s (req, reads)).Synced := by
  show (s.serve C E X W req reads).Synced
  rcases serve_of_not_authenticates E X hnone with hsame | ⟨did, peerAddr, hunknown, hnoticed⟩
  · rw [hsame]
    exact hsynced
  · rw [hnoticed]
    -- who is remembered here is not in the registry
    have hkept : (s.present did "unknown" peerAddr .passive reads).Synced ↔ _ :=
      hsynced.reportPresence_iff rfl rfl
    rw [hkept]
    intro hregistered
    rw [hunknown] at hregistered
    cases hregistered

/-- **Step**: a request keeps the marks right exactly when it keeps them in step. -/
theorem synced_step_iff (hsynced : s.Synced) (call : DaemonRequest × RequestReads) :
    (step C E X W s call).Synced ↔ InStep C X W s call := by
  obtain ⟨req, reads⟩ := call
  by_cases hcaller : ∃ caller, s.Authenticates C W req reads caller
  · obtain ⟨caller, hauth⟩ := hcaller
    cases hcall : req.discoveryCall X reads with
    | none => exact synced_step_iff_of_unheard E X hsynced hauth hcall
    | some heard => exact synced_step_iff_of_heard E X hsynced hauth hcall
  · have hnone : ∀ did, ¬ s.Authenticates C W req reads did :=
      fun did hauth => hcaller ⟨did, hauth⟩
    exact iff_of_true (hsynced.step_of_not_authenticates E X hnone)
      (fun caller hauth => absurd hauth (hnone caller))

/-- The map stays keyed by the DIDs of its agents. -/
theorem keyed_step (hkeyed : s.discoveryManager.Keyed) (call : DaemonRequest × RequestReads) :
    (step C E X W s call).discoveryManager.Keyed := by
  obtain ⟨req, reads⟩ := call
  show (s.serve C E X W req reads).discoveryManager.Keyed
  by_cases hcaller : ∃ caller, CalledBy C W caller s (req, reads)
  · obtain ⟨caller, hauth⟩ := hcaller
    rw [serve_discovery_of_authenticates E X hauth]
    -- each call writes under the DID it is about
    cases req.discoveryCall X reads with
    | none => exact hkeyed
    | some discovered =>
      cases discovered with
      | reportPresence did name address => apply hkeyed.reportPresence
      | registerAgent did => apply hkeyed.registerAgent
  · rcases serve_of_not_authenticates E X fun did hauth => hcaller ⟨did, hauth⟩ with
      hsame | ⟨did, peerAddr, -, hnoticed⟩
    · rw [hsame]
      exact hkeyed
    · rw [hnoticed]
      apply hkeyed.reportPresence

end ServerState

/-! ## Runs -/

open ServerState

/-- **Shadow agents**: over every run from an empty discovery map and any registry, the shadow
    agents are right in every state exactly when every request keeps the marks in step. -/
theorem shadows_exact_iff (C : Crypto) (E : LogEnv) (X : Extractors) (W : GrpcWire)
    (s : ServerState) (run : List (DaemonRequest × RequestReads)) :
    (∀ pre, pre <+: run →
      ShadowsExact (runFrom (step C E X W) { s with discoveryManager := .new } pre)) ↔
    AllSteps (step C E X W) (InStep C X W) { s with discoveryManager := .new } run := by
  have hempty : ∀ did, DiscoveryManager.new.agents.lookup did = none := fun did => rfl
  have hkeyed : DiscoveryManager.new.Keyed := by
    intro did agent hagent
    rw [hempty did] at hagent
    cases hagent
  -- by induction on the run, with the entries under their own DIDs as the invariant
  refine forall_prefix_iff_allSteps (I := fun s => s.discoveryManager.Keyed) ?_ ?_ hkeyed ?_
  · exact fun s call h => keyed_step E X h call
  · intro s call h hexact
    rw [shadowsExact_iff_synced (keyed_step E X h call)]
    exact synced_step_iff E X ((shadowsExact_iff_synced h).mp hexact) call
  · -- the empty map agrees with every registry
    apply (shadowsExact_iff_synced hkeyed).mpr
    intro did registered hmark
    rw [DiscoveryManager.mark, hempty did] at hmark
    cases hmark

/-! ## A registered shadow agent -/

/-- An agent's first report. -/
def presenceBody : SignedBody where
  publicKey :=
    ⟨(Base64.decodeText "bnoc3Smwt4/ROvTFWY/v9O8qlxZuPKby5Pv8zYBQW/E=").getD [], by decide +kernel⟩
  body := stringBytes "\x7b\"name\":\"agent-1\",\"address\":\"127.0.0.1:9000\"\x7d"
  signature := ⟨(Base64.decodeText
    "CqFUkm28lfiPpWBOltGgx1CEgF0Zvr17RgzSBoc4rX1XA/NsyUr27y0jAIDdFMKk7xUDaacFZB2n69ya7pY5AQ==").getD
      [], by decide +kernel⟩
  claimSignature := ⟨(Base64.decodeText
    "JUi+0bWWvZ+xZqcUq/vv/6PlH5anPFpkodxATN7YDWefriYOmo4IT7DZFBb7+Vj2Z2BxKZCh4A81EO908sdQDQ==").getD
      [], by decide +kernel⟩

def presenceExtractors : Extractors :=
  { rejectingExtractors with
    presenceReport := fun _ => .ok { name := "agent-1", address := "127.0.0.1:9000" } }

/-- The report, at the epoch. -/
def presenceCall : DaemonRequest × RequestReads :=
  (presenceBody.request .reportPresence, epochRequestReads)

/-- A registered agent becomes a shadow agent by its first report. -/
theorem shadows_not_exact :
    ¬ ∀ (C : Crypto) (E : LogEnv) (X : Extractors) (W : GrpcWire) (registryIdentity : ByteArr 32)
      (registryDid : String) (registered : List (AgentIdentity × PrivilegeRing))
      (auditFile : Option Bytes) (disk : Disk) (hasExporter : Bool)
      (run : List (DaemonRequest × RequestReads)),
      ShadowsExact (runFrom (step C E X W) (.start E registryIdentity registryDid registered auditFile
        disk hasExporter (C.pubkeyB64 registryIdentity)) run) := by
  intro h
  have hexact := h (Crypto.ofVectors presenceBody.vectors) sampleEnv presenceExtractors silentWire
    registrySeed "did:mesh:registry" [(presenceBody.agent, .standard)] none .blank false
    [presenceCall]
  rw [runFrom_cons, runFrom_nil] at hexact
  have hempty : ∀ did, presenceBody.start.discoveryManager.mark did = none := fun did => rfl
  have hkeyed : presenceBody.start.discoveryManager.Keyed := by
    intro did agent hagent
    cases hagent
  have hsynced : presenceBody.start.Synced := by
    intro did registered hmark
    rw [hempty did] at hmark
    cases hmark
  have hinstep := (synced_step_iff sampleEnv presenceExtractors hsynced presenceCall).mp
    ((shadowsExact_iff_synced (keyed_step sampleEnv presenceExtractors hkeyed presenceCall)).mp
      hexact)
  have hknown := hinstep "did:mesh:agent-1" (presenceBody.calledBy_request presenceBody.lookup_start rfl _ _)
  -- the registered agent reports its presence
  have hcall : presenceCall.1.discoveryCall presenceExtractors presenceCall.2 =
      some (.reportPresence presenceBody.agent.did "agent-1" "127.0.0.1:40000") := by
    have hparse : parseDid "did:mesh:agent-1" = .ok presenceBody.agent.did := by decide +kernel
    simp [DaemonRequest.discoveryCall, HttpRequest.discoveryCall, presenceCall, presenceExtractors,
      SignedBody.request, HeaderValue.toStr, hparse, Except.toOption]
  -- the map holds nobody yet, so the report is not of a known agent
  rw [hcall] at hknown
  simp [hempty] at hknown

end AgentGovernance.Daemon
