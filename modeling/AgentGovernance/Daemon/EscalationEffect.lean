import AgentGovernance.Daemon.EscalationCalls
import AgentGovernance.Lib.Unwinding

/-!
# What an escalation changes

Escalation requests are filed, approved and denied, and nothing follows from it: no handler of
the daemon looks at the escalation manager to answer anything else.  In particular an approval
gives the agent no ring, no policy and no permission.

Putting another manager into the state commutes with every handler that is not about escalations,
so that a daemon whose escalations are left out answers everything else the same and ends in the
same state but for its manager: `escalations_inert`.
-/

namespace AgentGovernance.Daemon

open AgentGovernance.Lib AgentGovernance.Mesh AgentGovernance.Compliance AgentGovernance.Discovery
open AgentGovernance.McpGovernance AgentGovernance.Runtime
open ServerState (CalledBy)

/-! ## Requests about escalations -/

/-- The request files, decides or lists escalation requests. -/
def DaemonRequest.aboutEscalation : DaemonRequest → Bool
  | .http req => match req.route with
    | .listPending => true
    | .approveEscalation _ => true
    | _ => false
  | .grpc req => match req.message with
    | .requestEscalation _ => true
    | .approve _ _ _ => true
    | .deny _ _ _ => true
    | .listPending => true
    | _ => false

/-! ## Another manager -/

/-- The state with another escalation manager. -/
def ServerState.withEscalations (s : ServerState) (m : EscalationManager) : ServerState :=
  { s with escalationManager := m }

namespace ServerState

variable (C : Crypto) (s : ServerState) (m : EscalationManager)

@[simp] theorem withEscalations_registryAnswers (reads : RequestReads) :
    (s.withEscalations m).registryAnswers C reads = s.registryAnswers C reads := rfl

@[simp] theorem withEscalations_authenticate (did : String) (signature body : Bytes)
    (reads : RequestReads) :
    (s.withEscalations m).authenticate C did signature body reads =
      s.authenticate C did signature body reads := rfl

@[simp] theorem withEscalations_grpcRingCheck (did : String) (message : GrpcMessage)
    (reads : RequestReads) :
    (s.withEscalations m).grpcRingCheck C did message reads =
      s.grpcRingCheck C did message reads := rfl

end ServerState

/-- The handler neither reads nor writes the escalation manager. -/
def Inert {α : Type} (handler : ServerState → ServerState × α) : Prop :=
  ∀ s m, handler (s.withEscalations m) = ((handler s).1.withEscalations m, (handler s).2)

namespace Inert

variable {C : Crypto} {E : LogEnv} {X : Extractors} {W : GrpcWire}

theorem extracted {α : Type} (answer : Except HttpError α)
    {handler : ServerState → α → ServerState × HttpResult} (h : ∀ a, Inert fun s => handler s a) :
    Inert fun s => Daemon.extracted s answer (handler s) := by
  intro s m
  cases answer with
  | error e => rfl
  | ok a => exact h a s m

/-! ## Handlers -/

theorem registerAgent (r : RegisterRequest) (reads : RequestReads) :
    Inert fun s => s.registerAgent r reads := by
  intro s m
  simp only [ServerState.registerAgent]
  cases reads.persisted <;> rfl

theorem getAttestation (did : String) (reads : RequestReads) :
    Inert fun s => s.getAttestation C did reads := by
  intro s m
  simp only [ServerState.getAttestation, ServerState.withEscalations_registryAnswers]
  split <;> rfl

theorem getRing (did : String) (reads : RequestReads) :
    Inert fun s => s.getRing C did reads := by
  intro s m
  simp only [ServerState.getRing, ServerState.withEscalations_registryAnswers]
  split <;> rfl

theorem getKey (did : String) (reads : RequestReads) : Inert fun s => s.getKey C did reads := by
  intro s m
  have hkeys : (s.withEscalations m).keyStore = s.keyStore := rfl
  simp only [ServerState.getKey, ServerState.withEscalations_registryAnswers, hkeys]
  split
  · rfl
  · rfl
  · split <;> rfl

theorem saveKey (did keyB64 : String) : Inert fun s => s.saveKey C did keyB64 := by
  intro s m
  simp only [ServerState.saveKey]
  split
  · rfl
  · split <;> rfl

theorem reportPresence (agentDid : HeaderValue) (peerAddr : String) (r : PresenceReport)
    (reads : RequestReads) : Inert fun s => s.reportPresence agentDid peerAddr r reads := by
  intro s m
  simp only [ServerState.reportPresence]
  split
  · rfl
  · split <;> rfl

theorem listShadows (agentDid : HeaderValue) (reads : RequestReads) :
    Inert fun s => s.listShadows C agentDid reads := by
  intro s m
  simp only [ServerState.listShadows, ServerState.withEscalations_registryAnswers]
  split
  · rfl
  · split
    · rfl
    · rfl
    · split <;> rfl

/-- What is executed and recorded is a matter of the registry, the rules and the log. -/
theorem execute (header : Option String) (request : ExecuteRequest) (reads : RequestReads) :
    Inert fun s => s.execute C E header request reads := by
  intro s m
  rfl

theorem executeRoute (header : Option String) (request : ExecuteRequest) (reads : RequestReads) :
    Inert fun s =>
      (match s.execute C E header request reads with
        | (s, .error e) => (s, .error e)
        | (s, .ok answer) => (s, .ok (.ok, .executed answer)) : ServerState × HttpResult) := by
  intro s m
  have hexecute := execute (C := C) (E := E) header request reads s m
  dsimp only at hexecute ⊢
  rw [hexecute]
  generalize s.execute C E header request reads = x
  obtain ⟨s', answer⟩ := x
  cases answer <;> rfl

theorem grpcRegister (identity : Option ProtoIdentity) (ring : Int32) (reads : RequestReads) :
    Inert fun s => s.grpcRegister identity ring reads := by
  intro s m
  simp only [ServerState.grpcRegister]
  split
  · rfl
  · cases reads.persisted <;> rfl

theorem grpcGetAttestation (did : String) (reads : RequestReads) :
    Inert fun s => s.grpcGetAttestation C did reads := by
  intro s m
  simp only [ServerState.grpcGetAttestation, ServerState.withEscalations_registryAnswers]
  split <;> rfl

theorem grpcReportPresence (didStr name address : String) (reads : RequestReads) :
    Inert fun s => s.grpcReportPresence didStr name address reads := by
  intro s m
  simp only [ServerState.grpcReportPresence]
  split <;> rfl

theorem grpcWatchShadows (sinceTimestamp : Option Timestamp) (reads : RequestReads) :
    Inert fun s => s.grpcWatchShadows W E sinceTimestamp reads := by
  intro s m
  have hlog : (s.withEscalations m).actionLog = s.actionLog := rfl
  simp only [ServerState.grpcWatchShadows, hlog]
  split
  · rfl
  · split <;> rfl

theorem grpcGetPolicy (agentDid : String) : Inert fun s => s.grpcGetPolicy W agentDid := by
  intro s m
  have hpolicies : (s.withEscalations m).policyStore = s.policyStore := rfl
  simp only [ServerState.grpcGetPolicy, hpolicies]
  split <;> rfl

theorem grpcSetPolicy (agentDid policyJson : String) :
    Inert fun s => s.grpcSetPolicy W agentDid policyJson := by
  intro s m
  simp only [ServerState.grpcSetPolicy]
  split <;> rfl

/-! ## Requests -/

/-- The router. -/
theorem route (req : HttpRequest) (body : Bytes) (reads : RequestReads)
    (hother : (DaemonRequest.http req).aboutEscalation = false) :
    Inert fun s => s.route C E X req body reads := by
  unfold ServerState.route
  simp only [DaemonRequest.aboutEscalation] at hother
  cases hroute : req.route with
  | listPending =>
    -- these two routes are about escalations
    simp [hroute] at hother
  | approveEscalation id => simp [hroute] at hother
  | registerAgent =>
    -- the others read and write something else
    exact extracted (X.registerRequest body) fun r => registerAgent r reads
  | getAttestation did => exact getAttestation did reads
  | getRing did => exact getRing did reads
  | getPolicy did => exact fun _ _ => rfl
  | savePolicy did => exact extracted (X.policy body) fun policy _ _ => rfl
  | getKey did => exact getKey did reads
  | saveKey did => exact extracted (X.keyB64 body) fun keyB64 => saveKey did keyB64
  | reportPresence =>
    exact extracted (X.presenceReport body) fun r => reportPresence req.agentDid req.peerAddr r reads
  | listShadows => exact listShadows req.agentDid reads
  | executeAction =>
    exact extracted (X.executeRequest body) fun r => executeRoute req.agentDid.toStr r reads

/-- The methods. -/
theorem method (did : String) (req : GrpcRequest) (reads : RequestReads)
    (hother : (DaemonRequest.grpc req).aboutEscalation = false) :
    Inert fun s => s.method W C E did req.message reads := by
  simp only [DaemonRequest.aboutEscalation] at hother
  cases hmessage : req.message with
  | requestEscalation request =>
    -- these four methods are about escalations
    simp [hmessage] at hother
  | approve requestId approverDid signatureB64 => simp [hmessage] at hother
  | deny requestId approverDid cause => simp [hmessage] at hother
  | listPending => simp [hmessage] at hother
  | register identity ring =>
    -- the others read and write something else
    exact grpcRegister identity ring reads
  | getAttestation d => exact grpcGetAttestation d reads
  | watchPresence sinceTimestamp => exact fun _ _ => rfl
  | reportPresence name address => exact grpcReportPresence did name address reads
  | watchShadows sinceTimestamp => exact grpcWatchShadows sinceTimestamp reads
  | getPolicy agentDid => exact grpcGetPolicy agentDid
  | setPolicy agentDid policyJson => exact grpcSetPolicy agentDid policyJson

end Inert

namespace ServerState

variable {C : Crypto} {E : LogEnv} {X : Extractors} {W : GrpcWire} {s : ServerState}
  {m : EscalationManager} {reads : RequestReads}

theorem withEscalations_noticeCaller (didStr peerAddr e : String) :
    (s.withEscalations m).noticeCaller didStr peerAddr e reads =
      (s.noticeCaller didStr peerAddr e reads).withEscalations m := by
  unfold noticeCaller
  split
  · split <;> rfl
  · rfl

/-- A request that is not about escalations, or that is not authenticated, is served alike. -/
theorem serveHttp_withEscalations (req : HttpRequest)
    (h : (DaemonRequest.http req).aboutEscalation = false ∨
      ∀ did, ¬ s.Authenticates C W (.http req) reads did) :
    (s.withEscalations m).serveHttp C E X req reads =
      ((s.serveHttp C E X req reads).1.withEscalations m, (s.serveHttp C E X req reads).2) := by
  unfold serveHttp
  cases hdid : req.agentDid.toStr with
  | none => rfl
  | some didStr =>
    cases hsignature : req.signature.toStr with
    | none => rfl
    | some signatureB64 =>
      dsimp only
      cases hdecode : C.decode64 signatureB64 with
      | error e => rfl
      | ok signature =>
        cases hbody : req.body with
        | error e => rfl
        | ok body =>
          dsimp only
          -- the caller is authenticated against the registry alone
          rw [withEscalations_authenticate]
          cases hauth : s.authenticate C didStr signature body reads with
          | error e =>
            dsimp only
            rw [withEscalations_noticeCaller]
          | ok u =>
            -- only here does a handler run
            rcases h with hother | hstranger
            · exact Inert.route req body reads hother s m
            · exact absurd ⟨signatureB64, signature, body, hdid, hsignature, hdecode, hbody, hauth⟩
                (hstranger didStr)

theorem serveGrpc_withEscalations (req : GrpcRequest)
    (h : (DaemonRequest.grpc req).aboutEscalation = false ∨
      ∀ did, ¬ s.Authenticates C W (.grpc req) reads did) :
    (s.withEscalations m).serveGrpc W C E req reads =
      ((s.serveGrpc W C E req reads).1.withEscalations m, (s.serveGrpc W C E req reads).2) := by
  unfold serveGrpc
  split
  · rfl
  · cases hextract : extractGrpcAuth C req with
    | error e => rfl
    | ok caller =>
      obtain ⟨did, signature⟩ := caller
      dsimp only
      -- the ring of the caller does not depend on the escalations
      rw [withEscalations_grpcRingCheck]
      cases s.grpcRingCheck C did req.message reads with
      | error e => rfl
      | ok u =>
        dsimp only
        rw [withEscalations_authenticate]
        cases hauth : s.authenticate C did signature (W.encodeToVec req.message) reads with
        | error e => rfl
        | ok v =>
          -- past both checks the method runs
          rcases h with hother | hstranger
          · exact Inert.method did req reads hother s m
          · exact absurd ⟨signature, hextract, hauth⟩ (hstranger did)

/-- A decision on an escalation changes the manager only. -/
theorem approveEscalation_withEscalations (id : Uuid) (r : ApproveRequest) :
    ∃ m, (s.approveEscalation C id r reads).1 = s.withEscalations m := by
  unfold approveEscalation
  cases C.decode64 r.signature with
  | error e => exact ⟨s.escalationManager, rfl⟩
  | ok signature =>
    have happrove : (s.approve C id r.approverDid signature reads).1 = s.withEscalations _ := rfl
    dsimp only
    split
    -- with or without an error the manager is all that has changed
    all_goals
      rename_i hresult
      rw [hresult] at happrove
      exact ⟨_, happrove⟩

theorem grpcApprove_withEscalations (requestId approverDid signatureB64 : String) :
    ∃ m, (s.grpcApprove W C requestId approverDid signatureB64 reads).1 = s.withEscalations m := by
  unfold grpcApprove
  cases W.parseUuid requestId with
  | none => exact ⟨s.escalationManager, rfl⟩
  | some eventId =>
    cases C.decode64 signatureB64 with
    | error e => exact ⟨s.escalationManager, rfl⟩
    | ok signature =>
      have happrove : (s.approve C eventId approverDid signature reads).1 = s.withEscalations _ :=
        rfl
      dsimp only
      split
      -- with or without an error the manager is all that has changed
      all_goals
        rename_i hresult
        rw [hresult] at happrove
        exact ⟨_, happrove⟩

theorem grpcDeny_withEscalations (requestId approverDid cause : String) :
    ∃ m, (s.grpcDeny W C requestId approverDid cause reads).1 = s.withEscalations m := by
  unfold grpcDeny
  cases W.parseUuid requestId with
  | none => exact ⟨s.escalationManager, rfl⟩
  | some eventId =>
    have hdeny : (s.deny C eventId approverDid cause reads).1 = s.withEscalations _ := rfl
    dsimp only
    split
    -- with or without an error the manager is all that has changed
    all_goals
      rename_i hresult
      rw [hresult] at hdeny
      exact ⟨_, hdeny⟩

/-- **Step**: an authenticated request about escalations changes the manager only. -/
theorem step_of_aboutEscalation {call : DaemonRequest × RequestReads} {did : String}
    (hcaller : CalledBy C W did s call) (habout : call.1.aboutEscalation = true) :
    ∃ m, step C E X W s call = s.withEscalations m := by
  obtain ⟨req | req, reads⟩ := call
  · obtain ⟨-, body, -, hserve⟩ := serveHttp_of_authenticates E X hcaller
    -- the handler runs, and it is one of two
    simp only [step, serve, hserve]
    simp only [DaemonRequest.aboutEscalation] at habout
    unfold route
    cases hroute : req.route with
    | listPending => exact ⟨s.escalationManager, rfl⟩
    | approveEscalation id =>
      dsimp only
      cases X.eventId id with
      | error e => exact ⟨s.escalationManager, rfl⟩
      | ok eventId =>
        cases X.approveRequest body with
        | error e => exact ⟨s.escalationManager, rfl⟩
        | ok r => exact approveEscalation_withEscalations eventId r
    | _ =>
      -- the other routes are not about escalations
      simp [hroute] at habout
  · simp only [step, serve, serveGrpc_of_authenticates E hcaller]
    simp only [DaemonRequest.aboutEscalation] at habout
    cases s.grpcRingCheck C did req.message reads with
    | error e =>
      -- the ring of the caller stops the method
      exact ⟨s.escalationManager, rfl⟩
    | ok u =>
      unfold method
      cases hmessage : req.message with
      | requestEscalation request =>
        dsimp only
        unfold grpcRequestEscalation
        cases fromProtoEscalationRequest W request with
        | error e => exact ⟨s.escalationManager, rfl⟩
        | ok request => exact ⟨_, rfl⟩
      | approve requestId approverDid signatureB64 =>
        exact grpcApprove_withEscalations requestId approverDid signatureB64
      | deny requestId approverDid cause => exact grpcDeny_withEscalations requestId approverDid cause
      | listPending => exact ⟨s.escalationManager, rfl⟩
      | _ => simp [hmessage] at habout

/-- The request is about something else, or nobody is authenticated by it. -/
def AsksOtherwise (C : Crypto) (W : GrpcWire) (s : ServerState)
    (call : DaemonRequest × RequestReads) : Prop :=
  call.1.aboutEscalation = false ∨ ∀ did, ¬ CalledBy C W did s call

/-- **Step**: any other request is served alike under another manager. -/
theorem step_withEscalations {call : DaemonRequest × RequestReads} (h : AsksOtherwise C W s call) :
    step C E X W (s.withEscalations m) call = (step C E X W s call).withEscalations m ∧
      (s.withEscalations m).respond C E X W call.1 call.2 = s.respond C E X W call.1 call.2 := by
  obtain ⟨req | req, reads⟩ := call
  · simp only [step, serve, respond]
    rw [serveHttp_withEscalations req h]
    exact ⟨rfl, rfl⟩
  · simp only [step, serve, respond]
    rw [serveGrpc_withEscalations req h]
    exact ⟨rfl, rfl⟩

end ServerState

/-- **Escalations are inert.**  In every run of requests, all other requests get the answers that
    they would get if no escalation had been filed, approved or denied, and all but the escalation
    manager ends in the same state: an approval gives nobody anything. -/
theorem escalations_inert (C : Crypto) (E : LogEnv) (X : Extractors) (W : GrpcWire)
    (s : ServerState) (run : List (DaemonRequest × RequestReads)) :
    let step := ServerState.step C E X W
    let others := purge step (ServerState.AsksOtherwise C W) s run
    (∃ m, runFrom step s run = (runFrom step s others).withEscalations m) ∧
      seen step (ServerState.AsksOtherwise C W)
          (fun s call => s.respond C E X W call.1 call.2) s run =
        answers (fun s call => (step s call, s.respond C E X W call.1 call.2)) s others := by
  intro step others
  suffices h : (∃ m, runFrom step s run = (runFrom step s others).withEscalations m) ∧
      AllSteps step (fun _ _ => True) s others ∧ _ from ⟨h.1, h.2.2⟩
  -- two states are related when they differ in their escalations only
  apply unwinding _ _ _ _ (R := fun s t : ServerState => ∃ m, s = t.withEscalations m)
    (G := fun _ => True) ?_ ?_ ⟨s.escalationManager, rfl⟩ fun _ _ => trivial
  · -- a hidden request changes nothing else
    rintro _ t call - ⟨m, rfl⟩ hhidden
    simp only [ServerState.AsksOtherwise, not_or, not_forall, not_not, Bool.not_eq_false] at hhidden
    obtain ⟨habout, did, hcaller⟩ := hhidden
    obtain ⟨m', hstep⟩ := ServerState.step_of_aboutEscalation (E := E) (X := X) hcaller habout
    exact ⟨m', hstep⟩
  · -- a request about something else does the same in both states, and is answered the same
    rintro _ t call - ⟨m, rfl⟩ hother
    have hstep := ServerState.step_withEscalations (E := E) (X := X) (m := m)
      (show ServerState.AsksOtherwise C W t call from hother)
    exact ⟨⟨m, hstep.1⟩, trivial, hstep.2⟩

end AgentGovernance.Daemon
