import AgentGovernance.Daemon.EscalationCalls
import AgentGovernance.Daemon.Process
import AgentGovernance.Lib.Unwinding

/-!
# What discovery cannot reach

Anybody can make the daemon take note of an agent: the middleware remembers callers that it
refuses, agents report their presence, and the worker writes alerts to the log that decides about
actions.  `discovery_isolated` says that none of this is seen by anybody but those who ask for
shadow agents: without it, a daemon gives the same answers, stores the same, decides the same and
exports the same.

Two states are `Alike` when they differ in the known agents and in the discovery events of the log
only.
-/

namespace AgentGovernance.Daemon

open AgentGovernance.Lib AgentGovernance.Mesh AgentGovernance.Compliance AgentGovernance.Discovery
open AgentGovernance.McpGovernance AgentGovernance.Runtime
open FileActionLog (Synced historyEntry)
open ServerState (CalledBy)

/-! ## Requests about discovery -/

def DaemonRequest.reportsPresence : DaemonRequest → Bool
  | .http req => match req.route with
    | .reportPresence => true
    | _ => false
  | .grpc req => match req.message with
    | .reportPresence _ _ => true
    | _ => false

def DaemonRequest.asksShadows : DaemonRequest → Bool
  | .http req => match req.route with
    | .listShadows => true
    | _ => false
  | .grpc req => match req.message with
    | .watchShadows _ => true
    | _ => false

/-! ## Alike states -/

/-- The states differ in the known agents and in the discovery events of the log only. -/
structure Alike (E : LogEnv) (s t : ServerState) : Prop where
  stores : s.stores = t.stores
  escalationManager : s.escalationManager = t.escalationManager
  complianceVerifier : s.complianceVerifier = t.complianceVerifier
  siemExporter : s.siemExporter = t.siemExporter
  registryPubkey : s.registryPubkey = t.registryPubkey
  log : ∃ rs rs', Synced E rs s.actionLog ∧ Synced E rs' t.actionLog ∧ actions rs = actions rs'

/-- Discovery events are in no history. -/
theorem filterMap_historyEntry_actions (did : String) (rs : List ActionLogRecord) :
    (actions rs).filterMap (historyEntry did) = rs.filterMap (historyEntry did) := by
  rw [actions, List.filterMap_filter]
  congr 1
  funext record
  cases houtcome : record.outcome <;> simp [isAction, historyEntry, houtcome]

namespace Alike

variable {C : Crypto} {E : LogEnv} {X : Extractors} {W : GrpcWire} {s t : ServerState}
  {reads : RequestReads}

theorem refl {rs : List ActionLogRecord} (hlog : Synced E rs s.actionLog) : Alike E s s :=
  ⟨rfl, rfl, rfl, rfl, rfl, rs, rs, hlog, hlog, rfl⟩

theorem registry (h : Alike E s t) : s.registry = t.registry :=
  congrArg Stores.registry h.stores

theorem keyStore (h : Alike E s t) : s.keyStore = t.keyStore :=
  congrArg Stores.keyStore h.stores

theorem policyStore (h : Alike E s t) : s.policyStore = t.policyStore :=
  congrArg Stores.policyStore h.stores

theorem registryAnswers (h : Alike E s t) (reads : RequestReads) :
    s.registryAnswers C reads = t.registryAnswers C reads := by
  rw [ServerState.registryAnswers, ServerState.registryAnswers, h.registry]

theorem surroundings (h : Alike E s t) (reads : RequestReads) :
    s.surroundings C reads = t.surroundings C reads := by
  rw [ServerState.surroundings, ServerState.surroundings, h.registryAnswers]

theorem approve (h : Alike E s t) (C : Crypto) (eventId : Uuid) (approverDid : String)
    (signature : Bytes) (reads : RequestReads) :
    (s.approve C eventId approverDid signature reads).2 =
      (t.approve C eventId approverDid signature reads).2 := by
  rw [ServerState.approve, ServerState.approve, h.escalationManager, h.surroundings]

theorem deny (h : Alike E s t) (C : Crypto) (eventId : Uuid) (approverDid cause : String)
    (reads : RequestReads) :
    (s.deny C eventId approverDid cause reads).2 =
      (t.deny C eventId approverDid cause reads).2 := by
  rw [ServerState.deny, ServerState.deny, h.escalationManager, h.surroundings]

/-- Both authenticate the same requests. -/
theorem authenticates_iff (h : Alike E s t) (req : DaemonRequest) (did : String) :
    s.Authenticates C W req reads did ↔ t.Authenticates C W req reads did := by
  cases req with
  | http req => simp only [ServerState.Authenticates, ServerState.authenticate, h.registry, h.registryPubkey]
  | grpc req => simp only [ServerState.Authenticates, ServerState.authenticate, h.registry, h.registryPubkey]

/-! ## Executing an action -/

/-- Actions are decided alike, and the states stay alike. -/
theorem execute (h : Alike E s t) (C : Crypto) (hio : reads.logIo = .ok) (header : Option String)
    (request : ExecuteRequest) :
    Alike E (s.execute C E header request reads).1 (t.execute C E header request reads).1 ∧
      (s.execute C E header request reads).2 = (t.execute C E header request reads).2 := by
  cases hcaller : callerOf (s.registryAnswers C reads) header with
  | error e =>
    have hcaller' : callerOf (t.registryAnswers C reads) header = .error e := by
      rw [← h.registryAnswers]
      exact hcaller
    -- both refuse the caller
    rw [ServerState.execute_refused hcaller, ServerState.execute_refused hcaller']
    exact ⟨h, rfl⟩
  | ok caller =>
    obtain ⟨did, ring⟩ := caller
    obtain ⟨rs, rs', hlog, hlog', hactions⟩ := id h.log
    have hcaller' : callerOf (t.registryAnswers C reads) header = .ok (did, ring) := by
      rw [← h.registryAnswers]
      exact hcaller
    -- both evaluate the request on the same history
    have hevaluated : s.evaluated C rs header request reads did ring =
        t.evaluated C rs' header request reads did ring := by
      have hhistory : rs.filterMap (historyEntry did) = rs'.filterMap (historyEntry did) := by
        rw [← filterMap_historyEntry_actions did rs, hactions, filterMap_historyEntry_actions]
      rw [ServerState.evaluated, ServerState.evaluated, ServerState.executeCall,
        ServerState.executeCall, hhistory, h.registryAnswers, h.complianceVerifier]
    rw [ServerState.execute_admitted request hlog hio hcaller,
      ServerState.execute_admitted request hlog' hio hcaller', hevaluated]
    refine ⟨?_, rfl⟩
    exact
      { stores := h.stores
        escalationManager := h.escalationManager
        complianceVerifier := h.complianceVerifier
        siemExporter := by simp only [ServerState.recording, h.siemExporter]
        registryPubkey := h.registryPubkey
        log := ⟨_, _, hlog.appended _, hlog'.appended _, by simp only [actions_append, hactions]⟩ }

/-! ## Handlers -/

/-- The handler gives the same answer in alike states. -/
def Blind {α : Type} (E : LogEnv) (handler : ServerState → ServerState × α) : Prop :=
  ∀ s t, Alike E s t → (handler s).2 = (handler t).2

theorem extracted_blind {α : Type} (answer : Except HttpError α)
    {handler : ServerState → α → ServerState × HttpResult}
    (h : ∀ a, Blind E fun s => handler s a) : Blind E fun s => extracted s answer (handler s) := by
  intro s t hst
  cases answer with
  | error e => rfl
  | ok a => exact h a s t hst

theorem registerAgent_blind (r : RegisterRequest) (reads : RequestReads) :
    Blind E fun s => s.registerAgent r reads := by
  intro s t h
  simp only [ServerState.registerAgent]
  cases reads.persisted <;> rfl

theorem getAttestation_blind (did : String) (reads : RequestReads) :
    Blind E fun s => s.getAttestation C did reads := by
  intro s t h
  simp only [ServerState.getAttestation, h.registryAnswers]
  split <;> rfl

theorem getRing_blind (did : String) (reads : RequestReads) :
    Blind E fun s => s.getRing C did reads := by
  intro s t h
  simp only [ServerState.getRing, h.registryAnswers]
  split <;> rfl

theorem getKey_blind (did : String) (reads : RequestReads) :
    Blind E fun s => s.getKey C did reads := by
  intro s t h
  simp only [ServerState.getKey, h.registryAnswers, h.keyStore]
  split
  · rfl
  · rfl
  · split <;> rfl

theorem saveKey_blind (did keyB64 : String) : Blind E fun s => s.saveKey C did keyB64 := by
  intro s t h
  simp only [ServerState.saveKey]
  split
  · rfl
  · split <;> rfl

theorem approveEscalation_blind (id : Uuid) (r : ApproveRequest) (reads : RequestReads) :
    Blind E fun s => s.approveEscalation C id r reads := by
  intro s t h
  simp only [ServerState.approveEscalation]
  cases C.decode64 r.signature with
  | error e => rfl
  | ok signature =>
    have happrove := h.approve C id r.approverDid signature reads
    dsimp only
    split <;> split <;> simp_all

theorem reportPresence_blind (agentDid : HeaderValue) (peerAddr : String) (r : PresenceReport)
    (reads : RequestReads) : Blind E fun s => s.reportPresence agentDid peerAddr r reads := by
  intro s t h
  simp only [ServerState.reportPresence]
  split
  · rfl
  · split <;> rfl

theorem executeRoute_blind (header : Option String) (request : ExecuteRequest)
    (hio : reads.logIo = .ok) :
    Blind E fun s =>
      (match s.execute C E header request reads with
        | (s, .error e) => (s, .error e)
        | (s, .ok answer) => (s, .ok (.ok, .executed answer)) : ServerState × HttpResult) := by
  intro s t h
  have hexecute := (h.execute C hio header request).2
  dsimp only
  split <;> split <;> simp_all

theorem grpcRegister_blind (identity : Option ProtoIdentity) (ring : Int32) (reads : RequestReads) :
    Blind E fun s => s.grpcRegister identity ring reads := by
  intro s t h
  simp only [ServerState.grpcRegister]
  split
  · rfl
  · cases reads.persisted <;> rfl

theorem grpcGetAttestation_blind (did : String) (reads : RequestReads) :
    Blind E fun s => s.grpcGetAttestation C did reads := by
  intro s t h
  simp only [ServerState.grpcGetAttestation, h.registryAnswers]
  split <;> rfl

theorem grpcReportPresence_blind (didStr name address : String) (reads : RequestReads) :
    Blind E fun s => s.grpcReportPresence didStr name address reads := by
  intro s t h
  simp only [ServerState.grpcReportPresence]
  split <;> rfl

theorem grpcRequestEscalation_blind (request : ProtoEscalationRequest) (reads : RequestReads) :
    Blind E fun s => s.grpcRequestEscalation W request reads := by
  intro s t h
  simp only [ServerState.grpcRequestEscalation]
  split <;> rfl

theorem grpcApprove_blind (requestId approverDid signatureB64 : String) (reads : RequestReads) :
    Blind E fun s => s.grpcApprove W C requestId approverDid signatureB64 reads := by
  intro s t h
  simp only [ServerState.grpcApprove]
  cases W.parseUuid requestId with
  | none => rfl
  | some eventId =>
    dsimp only
    cases C.decode64 signatureB64 with
    | error e => rfl
    | ok signature =>
      -- the decision reads the registry and the requests, which are alike
      have happrove := h.approve C eventId approverDid signature reads
      dsimp only
      split <;> split <;> simp_all

theorem grpcDeny_blind (requestId approverDid cause : String) (reads : RequestReads) :
    Blind E fun s => s.grpcDeny W C requestId approverDid cause reads := by
  intro s t h
  simp only [ServerState.grpcDeny]
  cases W.parseUuid requestId with
  | none => rfl
  | some eventId =>
    have hdeny := h.deny C eventId approverDid cause reads
    dsimp only
    split <;> split <;> simp_all

theorem pending_blind : Blind E fun s : ServerState => s.grpcListPending := by
  intro s t h
  simp only [ServerState.grpcListPending, ServerState.pendingRequests, h.escalationManager]

theorem grpcGetPolicy_blind (agentDid : String) : Blind E fun s => s.grpcGetPolicy W agentDid := by
  intro s t h
  simp only [ServerState.grpcGetPolicy, h.policyStore]
  split <;> rfl

theorem grpcSetPolicy_blind (agentDid policyJson : String) :
    Blind E fun s => s.grpcSetPolicy W agentDid policyJson := by
  intro s t h
  simp only [ServerState.grpcSetPolicy]
  split <;> rfl

/-! ## Requests -/

/-- No method but `watch_shadows` tells the states apart. -/
theorem method_blind (did : String) {message : GrpcMessage} (reads : RequestReads)
    (hmessage : ∀ sinceTimestamp, message ≠ .watchShadows sinceTimestamp) :
    Blind E fun s => s.method W C E did message reads := by
  cases message with
  | watchShadows sinceTimestamp =>
    -- the shadow stream is the one method that reads the agents
    exact absurd rfl (hmessage sinceTimestamp)
  | register identity ring => exact grpcRegister_blind identity ring reads
  | getAttestation d => exact grpcGetAttestation_blind d reads
  | watchPresence sinceTimestamp => exact fun _ _ _ => rfl
  | reportPresence name address => exact grpcReportPresence_blind did name address reads
  | requestEscalation request => exact grpcRequestEscalation_blind request reads
  | approve requestId approverDid signatureB64 =>
    exact grpcApprove_blind requestId approverDid signatureB64 reads
  | deny requestId approverDid cause => exact grpcDeny_blind requestId approverDid cause reads
  | listPending => exact pending_blind
  | getPolicy agentDid => exact grpcGetPolicy_blind agentDid
  | setPolicy agentDid policyJson => exact grpcSetPolicy_blind agentDid policyJson

/-- No route but `list_shadows` does. -/
theorem route_blind (req : HttpRequest) (body : Bytes) (hio : reads.logIo = .ok)
    (hroute : req.route ≠ .listShadows) : Blind E fun s => s.route C E X req body reads := by
  unfold ServerState.route
  cases hreq : req.route with
  | listShadows =>
    -- the list of shadows is the one route that reads the agents
    exact absurd hreq hroute
  | registerAgent =>
    exact extracted_blind (X.registerRequest body) fun r => registerAgent_blind r reads
  | getAttestation did => exact getAttestation_blind did reads
  | getRing did => exact getRing_blind did reads
  | getPolicy did =>
    intro s t h
    simp only [ServerState.getPolicy, h.policyStore]
  | savePolicy did => exact extracted_blind (X.policy body) fun policy _ _ _ => rfl
  | getKey did => exact getKey_blind did reads
  | saveKey did => exact extracted_blind (X.keyB64 body) fun keyB64 => saveKey_blind did keyB64
  | listPending =>
    intro s t h
    simp only [ServerState.listPending, ServerState.pendingRequests, h.escalationManager]
  | approveEscalation id =>
    exact extracted_blind (X.eventId id) fun eventId =>
      extracted_blind (X.approveRequest body) fun r => approveEscalation_blind eventId r reads
  | reportPresence =>
    exact extracted_blind (X.presenceReport body) fun r =>
      reportPresence_blind req.agentDid req.peerAddr r reads
  | executeAction =>
    exact extracted_blind (X.executeRequest body) fun r =>
      executeRoute_blind req.agentDid.toStr r hio

/-- An authenticated request that does not ask for shadow agents gets the same answer. -/
theorem respond_eq (h : Alike E s t) {req : DaemonRequest} (hio : reads.logIo = .ok) {did : String}
    (hcaller : s.Authenticates C W req reads did) (hshadows : req.asksShadows = false) :
    s.respond C E X W req reads = t.respond C E X W req reads := by
  have hcaller' := (h.authenticates_iff req did).mp hcaller
  cases req with
  | http req =>
    obtain ⟨-, body, hbody, hserve⟩ := ServerState.serveHttp_of_authenticates E X hcaller
    obtain ⟨-, body', hbody', hserve'⟩ := ServerState.serveHttp_of_authenticates E X hcaller'
    -- both read the same body
    obtain rfl : body = body' := Except.ok.inj (hbody.symm.trans hbody')
    have hroute : req.route ≠ .listShadows := by
      intro hroute
      simp [DaemonRequest.asksShadows, hroute] at hshadows
    simp only [ServerState.respond, hserve, hserve', DaemonResponse.http.injEq]
    -- the routes other than the list of shadows are blind
    exact route_blind req body hio hroute s t h
  | grpc req =>
    have hmessage : ∀ sinceTimestamp, req.message ≠ .watchShadows sinceTimestamp := by
      intro sinceTimestamp hmessage
      simp [DaemonRequest.asksShadows, hmessage] at hshadows
    simp only [ServerState.respond, DaemonResponse.grpc.injEq,
      ServerState.serveGrpc_eq_method E hcaller hmessage,
      ServerState.serveGrpc_eq_method E hcaller' hmessage]
    exact method_blind did reads hmessage s t h

/-- States with alike records and the same stores and escalations are alike. -/
theorem of_records {u v : ServerState} (h : Alike E u v) (hs : s.records = u.records)
    (ht : t.records = v.records) (hstores : s.stores = t.stores)
    (hmanager : s.escalationManager = t.escalationManager) : Alike E s t where
  stores := hstores
  escalationManager := hmanager
  complianceVerifier := by
    -- the verifier is one of the records, as are the exporter, the key and the log
    have hsu : s.complianceVerifier = u.complianceVerifier :=
      congrArg Records.complianceVerifier hs
    have htv : t.complianceVerifier = v.complianceVerifier :=
      congrArg Records.complianceVerifier ht
    rw [hsu, htv, h.complianceVerifier]
  siemExporter := by
    have hsu : s.siemExporter = u.siemExporter := congrArg Records.siemExporter hs
    have htv : t.siemExporter = v.siemExporter := congrArg Records.siemExporter ht
    rw [hsu, htv, h.siemExporter]
  registryPubkey := by
    have hsu : s.registryPubkey = u.registryPubkey := congrArg Records.registryPubkey hs
    have htv : t.registryPubkey = v.registryPubkey := congrArg Records.registryPubkey ht
    rw [hsu, htv, h.registryPubkey]
  log := by
    have hsu : s.actionLog = u.actionLog := congrArg Records.actionLog hs
    have htv : t.actionLog = v.actionLog := congrArg Records.actionLog ht
    rw [hsu, htv]
    exact h.log

/-- An authenticated request keeps the states alike. -/
theorem step (h : Alike E s t) {call : DaemonRequest × RequestReads} (hio : call.2.logIo = .ok)
    {did : String} (hcaller : s.Authenticates C W call.1 call.2 did) :
    Alike E (ServerState.step C E X W s call) (ServerState.step C E X W t call) := by
  have hcaller' := (h.authenticates_iff call.1 did).mp hcaller
  -- the stores change by what the request asks for
  have hstores : (ServerState.step C E X W s call).stores =
      (ServerState.step C E X W t call).stores := by
    rw [ServerState.step, ServerState.step, ServerState.serve_stores_of_authenticates E X hcaller,
      ServerState.serve_stores_of_authenticates E X hcaller', h.stores]
  -- the escalation manager changes by the call that is made
  have hmanager : (ServerState.step C E X W s call).escalationManager =
      (ServerState.step C E X W t call).escalationManager := by
    have hcall : s.escalation C X W call.1 call.2 = t.escalation C X W call.1 call.2 := by
      -- the call takes the registry of the state along
      cases call.1 with
      | http req =>
        simp only [ServerState.escalation, ServerState.httpEscalation, h.surroundings]
      | grpc req =>
        simp only [ServerState.escalation, ServerState.grpcEscalation, h.surroundings]
    rw [ServerState.step, ServerState.step,
      ServerState.serve_escalation_of_authenticates E X hcaller,
      ServerState.serve_escalation_of_authenticates E X hcaller', h.escalationManager, hcall]
  cases hasked : call.1.execution X with
  | none =>
    -- without an execution the records are as before
    exact h.of_records (ServerState.step_records_of_execution_none hasked)
      (ServerState.step_records_of_execution_none hasked) hstores hmanager
  | some asked =>
    -- with one, they are those of the executed call
    have hrecords := ServerState.serve_records_of_authenticates E X hcaller
    have hrecords' := ServerState.serve_records_of_authenticates E X hcaller'
    rw [hasked] at hrecords hrecords'
    exact (h.execute C hio asked.1 asked.2).1.of_records hrecords hrecords' hstores hmanager

/-- A request that is not authenticated keeps a state alike. -/
theorem step_of_not_authenticates (h : Alike E s t) {call : DaemonRequest × RequestReads}
    (hstranger : ∀ did, ¬ s.Authenticates C W call.1 call.2 did) :
    Alike E (ServerState.step C E X W s call) t := by
  have hstores : (ServerState.step C E X W s call).stores = s.stores :=
    ServerState.serve_stores_of_not_authenticates E X hstranger
  have hmanager : (ServerState.step C E X W s call).escalationManager = s.escalationManager :=
    ServerState.serve_escalation_of_not_authenticates E X hstranger
  have hrecords : (ServerState.step C E X W s call).records = s.records :=
    ServerState.serve_records_of_not_authenticates E X hstranger
  exact h.of_records hrecords rfl (hstores.trans h.stores) (hmanager.trans h.escalationManager)

/-- A report of presence asks for nothing to be written, decided or executed. -/
theorem asks_nothing (C : Crypto) (X : Extractors) (W : GrpcWire) (s : ServerState)
    (reads : RequestReads) {req : DaemonRequest} (h : req.reportsPresence = true) :
    req.mutation C X W = none ∧ s.escalation C X W req reads = none ∧ req.execution X = none := by
  cases req with
  | http req =>
    -- the route is that of a report
    have hroute : req.route = .reportPresence := by
      simp only [DaemonRequest.reportsPresence] at h
      split at h
      · assumption
      · cases h
    simp [DaemonRequest.mutation, HttpRequest.mutation, ServerState.escalation,
      ServerState.httpEscalation, DaemonRequest.execution, HttpRequest.execution, hroute]
  | grpc req =>
    obtain ⟨name, address, hmessage⟩ : ∃ name address, req.message = .reportPresence name address := by
      simp only [DaemonRequest.reportsPresence] at h
      split at h
      · exact ⟨_, _, ‹_›⟩
      · cases h
    simp [DaemonRequest.mutation, GrpcMessage.mutation, ServerState.escalation,
      ServerState.grpcEscalation, DaemonRequest.execution, hmessage]

/-- A report of presence keeps a state alike. -/
theorem step_of_reportsPresence (h : Alike E s t) {call : DaemonRequest × RequestReads}
    {did : String} (hcaller : s.Authenticates C W call.1 call.2 did)
    (hreport : call.1.reportsPresence = true) : Alike E (ServerState.step C E X W s call) t := by
  obtain ⟨hmutation, hescalation, hexecution⟩ := asks_nothing C X W s call.2 hreport
  have hstores : (ServerState.step C E X W s call).stores = s.stores := by
    rw [ServerState.step, ServerState.serve_stores_of_authenticates E X hcaller, hmutation]
    rfl
  have hmanager : (ServerState.step C E X W s call).escalationManager = s.escalationManager := by
    rw [ServerState.step, ServerState.serve_escalation_of_authenticates E X hcaller, hescalation]
    rfl
  exact h.of_records (ServerState.step_records_of_execution_none hexecution) rfl
    (hstores.trans h.stores) (hmanager.trans h.escalationManager)

/-- So does a step of the worker. -/
theorem work {p : DaemonProcess} (h : Alike E p.server t) (event : WorkerStep) :
    Alike E (p.work E event).server t where
  stores := h.stores
  escalationManager := h.escalationManager
  complianceVerifier := h.complianceVerifier
  siemExporter := h.siemExporter
  registryPubkey := h.registryPubkey
  log := by
    obtain ⟨rs, rs', hlog, hlog', hactions⟩ := h.log
    obtain ⟨new, hnew⟩ := DaemonProcess.gained_work hlog event
    -- what the worker appends is no action, so the actions are the same
    have hnone : actions new = [] := List.map_eq_nil_iff.mp hnew.told.symm
    refine ⟨rs ++ new, rs', hnew.log, hlog', ?_⟩
    rw [actions_append, hnone, List.append_nil, hactions]

end Alike

/-! ## Runs -/

namespace DaemonProcess

variable (C : Crypto) (E : LogEnv) (X : Extractors) (W : GrpcWire)

/-- The event is an authenticated request that is no report of presence. -/
def Governing (p : DaemonProcess) : ProcessEvent → Prop
  | .request call =>
    (∃ did, CalledBy C W did p.server call) ∧ call.1.reportsPresence = false
  | .worker _ => False

/-- The response to a request that does not ask for shadow agents. -/
def shown (p : DaemonProcess) : ProcessEvent → Option DaemonResponse
  | .request call =>
    if call.1.asksShadows then none else some (p.server.respond C E X W call.1 call.2)
  | .worker _ => none

variable {C E X W} {p q : DaemonProcess}

/-- **Hidden step**: any other event keeps the daemon alike. -/
theorem alike_hidden (h : Alike E p.server q.server) {event : ProcessEvent}
    (hevent : ¬ p.Governing C W event) : Alike E (p.step C E X W event).server q.server := by
  cases event with
  | worker event => exact h.work event
  | request call =>
    by_cases hcaller : ∃ did, CalledBy C W did p.server call
    · obtain ⟨did, hdid⟩ := id hcaller
      have hreport : call.1.reportsPresence = true := by
        by_contra hreport
        exact hevent ⟨hcaller, Bool.eq_false_iff.mpr hreport⟩
      exact h.step_of_reportsPresence hdid hreport
    · exact h.step_of_not_authenticates fun did hdid => hcaller ⟨did, hdid⟩

/-- **Visible step**: an authenticated request keeps the daemons alike, with the same answer. -/
theorem alike_governing (h : Alike E p.server q.server) {event : ProcessEvent}
    (hio : Faultless event) (hevent : p.Governing C W event) :
    Alike E (p.step C E X W event).server (q.step C E X W event).server ∧
      q.Governing C W event ∧ p.shown C E X W event = q.shown C E X W event := by
  cases event with
  | worker event => exact hevent.elim
  | request call =>
    obtain ⟨⟨did, hdid⟩, hreport⟩ := hevent
    -- the response is compared only if it does not list shadows
    refine ⟨h.step hio hdid, ⟨⟨did, (h.authenticates_iff call.1 did).mp hdid⟩, hreport⟩, ?_⟩
    simp only [shown]
    split
    · rfl
    · rename_i hshadows
      rw [h.respond_eq hio hdid (Bool.eq_false_iff.mpr hshadows)]

end DaemonProcess

open DaemonProcess in
/-- **Isolation**: over any run of requests and steps of the worker, from a log in step with its
    records, the authenticated requests other than reports of presence get the answers that they
    would get alone, unless they ask for shadow agents.  Alone they are authenticated too, and they
    leave the same stores, escalations, verdicts and exported records. -/
theorem discovery_isolated (C : Crypto) (E : LogEnv) (X : Extractors) (W : GrpcWire)
    (p : DaemonProcess) (rs : List ActionLogRecord) (hlog : Synced E rs p.server.actionLog)
    (run : List ProcessEvent) (hrun : ∀ event ∈ run, Faultless event) :
    let step := DaemonProcess.step C E X W
    let alone := purge step (Governing C W) p run
    Alike E (runFrom step p run).server (runFrom step p alone).server ∧
      AllSteps step (Governing C W) p alone ∧
      seen step (Governing C W) (shown C E X W) p run =
        answers (fun p event => (step p event, p.shown C E X W event)) p alone := by
  intro step alone
  apply unwinding _ _ _ _ (R := fun p q : DaemonProcess => Alike E p.server q.server)
    (G := Faultless)
  · -- a hidden event leaves the states alike
    exact fun p q event _ h hevent => alike_hidden h hevent
  · -- a governing one has the same effect and the same answer in both
    exact fun p q event hio h hevent => alike_governing h hio hevent
  · exact .refl hlog
  · exact hrun

/-- An agent reads while the worker runs. -/
theorem purge_readRun :
    purge (DaemonProcess.step (Crypto.ofVectors emptyBody.vectors) sampleEnv readingExtractors
        silentWire)
      (DaemonProcess.Governing (Crypto.ofVectors emptyBody.vectors) silentWire) exportingStart
      readRun =
      [.request (emptyBody.request .executeAction, epochRequestReads)] := by
  have hcalled := emptyBody.calledBy_request (s := exportingStart.server) emptyBody.lookup_start rfl
    silentWire .executeAction
  rw [readRun, purge_cons_of_visible ⟨⟨_, hcalled⟩, rfl⟩, purge_cons_of_hidden not_false,
    purge_cons_of_hidden not_false]
  rfl

/-- The witness: the read alone leaves an alike daemon. -/
theorem discovery_isolated_read :
    Alike sampleEnv
      (runFrom (DaemonProcess.step (Crypto.ofVectors emptyBody.vectors) sampleEnv readingExtractors
        silentWire) exportingStart readRun).server
      (DaemonProcess.step (Crypto.ofVectors emptyBody.vectors) sampleEnv readingExtractors silentWire
        exportingStart (.request (emptyBody.request .executeAction, epochRequestReads))).server := by
  obtain ⟨halike, -, -⟩ := discovery_isolated (Crypto.ofVectors emptyBody.vectors) sampleEnv
    readingExtractors silentWire exportingStart [] (FileActionLog.synced_blank sampleEnv) readRun
    (by simp [readRun, DaemonProcess.Faultless, epochRequestReads])
  rw [purge_readRun] at halike
  exact halike

end AgentGovernance.Daemon
