import AgentGovernance.Daemon.EscalationCalls

/-!
# Who files an escalation

`request_escalation` stores the agent's DID and its current ring as the message states them, and
`approve` compares the requested ring with that ring long afterwards.  `approvals_warranted` says
which filings and registrations keep an approval tied to the agent that asked for it and to the
ring that it has.
-/

namespace AgentGovernance.Daemon

open AgentGovernance.Lib AgentGovernance.Mesh AgentGovernance.Compliance AgentGovernance.Discovery
open AgentGovernance.McpGovernance AgentGovernance.Runtime

namespace ServerState

variable (C : Crypto) (E : LogEnv) (X : Extractors) (W : GrpcWire)

/-! ## Filings -/

/-- The message files the request under the identifier. -/
def Files (call : DaemonRequest × RequestReads) (eventId : Uuid) (request : EscalationRequest) :
    Prop :=
  ∃ req inner, call.1 = .grpc req ∧ req.message = .requestEscalation inner ∧
    fromProtoEscalationRequest W inner = .ok request ∧ call.2.newId = eventId

/-- The request was filed in the run, by a caller authenticated as its agent. -/
def FiledByAgent (start : ServerState) (past : List (DaemonRequest × RequestReads))
    (eventId : Uuid) (request : EscalationRequest) : Prop :=
  ∃ earlier filing later, past = earlier ++ filing :: later ∧ Files W filing eventId request ∧
    CalledBy C W request.agentDid (runFrom (step C E X W) start earlier) filing

/-- Each approved event of the `approve` method is about a request that its agent has filed, starts
    from the ring that the agent has, and leads to a more privileged one. -/
def ApprovalsWarranted (start : ServerState) (run : List (DaemonRequest × RequestReads)) : Prop :=
  ∀ before call after req requestId approverDid signatureB64 event,
    run = before ++ call :: after → call.1 = .grpc req →
    req.message = .approve requestId approverDid signatureB64 →
    (runFrom (step C E X W) start before).respond C E X W call.1 call.2 =
      .grpc (.ok (.event event)) →
    event.outcome = .approved →
    (∃ request, FiledByAgent C E X W start before event.eventId request ∧
      event.agentDid = request.agentDid ∧ event.fromRing = request.currentRing ∧
      event.toRing = request.requestedRing ∧ event.reason = request.reason) ∧
    (runFrom (step C E X W) start before).registry.getRing event.agentDid = some event.fromRing ∧
    event.toRing < event.fromRing

/-- A filed request names its caller and the ring that the caller has. -/
def FilesForSelf (s : ServerState) (call : DaemonRequest × RequestReads) : Prop :=
  ∀ did eventId request, CalledBy C W did s call → Files W call eventId request →
    request.agentDid = did ∧ s.registry.getRing did = some request.currentRing

/-- A registration does not change the ring of an agent with a pending request. -/
def KeepsPendingRings (s : ServerState) (call : DaemonRequest × RequestReads) : Prop :=
  ∀ did identity ring eventId request, CalledBy C W did s call →
    call.1.mutation C X W = some (.register identity ring) →
    s.escalationManager.pending.lookup eventId = some request →
    (s.registry.register identity ring).getRing request.agentDid =
      s.registry.getRing request.agentDid

/-! ## Steps -/

variable {C E X W} {s start : ServerState} {call : DaemonRequest × RequestReads} {eventId : Uuid}
  {request : EscalationRequest}

/-- Only `request_escalation` asks the manager for a new request. -/
theorem files_of_escalation
    (h : s.escalation C X W call.1 call.2 = some (.request eventId request)) :
    Files W call eventId request := by
  obtain ⟨req, reads⟩ := call
  cases req with
  | http req =>
    obtain ⟨body, -, hcall⟩ := Option.bind_eq_some_iff.mp h
    unfold httpEscalation at hcall
    split at hcall
    · -- of the HTTP routes none files a request
      -- `approve_escalation` makes another call
      obtain ⟨id, -, hid⟩ := Option.bind_eq_some_iff.mp hcall
      obtain ⟨r, -, hr⟩ := Option.bind_eq_some_iff.mp hid
      obtain ⟨signature, -, hsig⟩ := Option.map_eq_some_iff.mp hr
      cases hsig
    · cases hcall
  | grpc req =>
    simp only [escalation, grpcEscalation] at h
    split at h
    · -- a request is filed by this method alone
      rename_i inner hmessage
      obtain ⟨converted, hconverted, heq⟩ := Option.map_eq_some_iff.mp h
      obtain ⟨hid, rfl⟩ := Call.request.inj heq
      refine ⟨req, inner, rfl, hmessage, ?_, hid⟩
      cases hfrom : fromProtoEscalationRequest W inner with
      | error e => simp [hfrom, Except.toOption] at hconverted
      | ok r => simpa [hfrom, Except.toOption] using hconverted
    · -- `approve` and `deny` make other calls
      obtain ⟨id, -, hid⟩ := Option.bind_eq_some_iff.mp h
      obtain ⟨signature, -, hsig⟩ := Option.map_eq_some_iff.mp hid
      cases hsig
    · obtain ⟨id, -, hid⟩ := Option.map_eq_some_iff.mp h
      cases hid
    · cases h

/-- What is pending after a request was pending before or is filed by its caller. -/
theorem pending_step
    (h : (step C E X W s call).escalationManager.pending.lookup eventId = some request) :
    s.escalationManager.pending.lookup eventId = some request ∨
      ∃ did, CalledBy C W did s call ∧ Files W call eventId request := by
  rcases step_escalation_cases E X call with hsame | ⟨did, c, hcaller, hcall, hcalled⟩
  · rw [hsame] at h
    exact .inl h
  · rw [hcalled] at h
    rcases EscalationManager.lookup_call C h with hold | rfl
    · exact .inl hold
    · exact .inr ⟨did, hcaller, files_of_escalation hcall⟩

/-- A filing leaves the registry alone. -/
theorem registry_step_of_files (h : Files W call eventId request) :
    (step C E X W s call).registry = s.registry := by
  rcases step_stores_cases E X call with hsame | ⟨did, m, -, hmutation, -⟩
  · exact congrArg Stores.registry hsame
  · obtain ⟨req, inner, hreq, hmessage, -, -⟩ := h
    rw [hreq, DaemonRequest.mutation, hmessage] at hmutation
    cases hmutation

/-- The agent of a pending request keeps its ring. -/
theorem getRing_step (hrings : KeepsPendingRings C X W s call)
    (hpending : s.escalationManager.pending.lookup eventId = some request) :
    (step C E X W s call).registry.getRing request.agentDid =
      s.registry.getRing request.agentDid := by
  rcases step_stores_cases E X call with hsame | ⟨did, m, hcaller, hmutation, hstores⟩
  · exact congrArg (fun st => st.registry.getRing request.agentDid) hsame
  · have hregistry := congrArg Stores.registry hstores
    cases m with
    | register identity ring =>
      rw [← hrings did identity ring eventId request hcaller hmutation hpending]
      exact congrArg (fun r => r.getRing request.agentDid) hregistry
    | savePolicy | saveKey => exact congrArg (fun r => r.getRing request.agentDid) hregistry

/-! ## Pending requests -/

variable (C E X W) in
/-- Every pending request was filed by its agent and states the ring that the agent has. -/
def PendingWarranted (start : ServerState) (past : List (DaemonRequest × RequestReads))
    (s : ServerState) : Prop :=
  ∀ eventId request, s.escalationManager.pending.lookup eventId = some request →
    FiledByAgent C E X W start past eventId request ∧
      s.registry.getRing request.agentDid = some request.currentRing

theorem FiledByAgent.concat {past : List (DaemonRequest × RequestReads)}
    (h : FiledByAgent C E X W start past eventId request) :
    FiledByAgent C E X W start (past ++ [call]) eventId request := by
  obtain ⟨earlier, filing, later, rfl, hfiles, hcaller⟩ := h
  refine ⟨earlier, filing, later ++ [call], ?_, hfiles, hcaller⟩
  simp

/-- **Step.** An honest request keeps the pending requests warranted. -/
theorem PendingWarranted.step {past : List (DaemonRequest × RequestReads)}
    (h : PendingWarranted C E X W start past (runFrom (step C E X W) start past))
    (hself : FilesForSelf C W (runFrom (ServerState.step C E X W) start past) call)
    (hrings : KeepsPendingRings C X W (runFrom (ServerState.step C E X W) start past) call) :
    PendingWarranted C E X W start (past ++ [call])
      (ServerState.step C E X W (runFrom (ServerState.step C E X W) start past) call) := by
  intro eventId request hpending
  rcases pending_step hpending with hold | ⟨did, hcaller, hfiles⟩
  · -- pending before: its filing is still in the past, and its agent keeps the ring
    obtain ⟨hfiled, hring⟩ := h eventId request hold
    refine ⟨hfiled.concat, ?_⟩
    rw [getRing_step hrings hold, hring]
  · -- filed by this very request
    obtain ⟨hnamed, hring⟩ := hself did eventId request hcaller hfiles
    refine ⟨⟨past, call, [], rfl, hfiles, hnamed ▸ hcaller⟩, ?_⟩
    rw [registry_step_of_files hfiles, hnamed, hring]

/-- **Run.** From a state without pending requests they are warranted over every honest run. -/
theorem pendingWarranted_run (hempty : start.escalationManager.pending = ∅)
    {run : List (DaemonRequest × RequestReads)}
    (hrun : AllSteps (step C E X W)
      (fun s call => FilesForSelf C W s call ∧ KeepsPendingRings C X W s call) start run) :
    PendingWarranted C E X W start run (runFrom (step C E X W) start run) := by
  -- by induction from the end of the run
  induction run using List.reverseRecOn with
  | nil =>
    intro eventId request hpending
    rw [runFrom_nil, hempty, Finmap.lookup_empty] at hpending
    cases hpending
  | append_singleton past call ih =>
    obtain ⟨hpast, ⟨hself, hrings⟩, -⟩ := allSteps_append.mp hrun
    rw [runFrom_append]
    exact (ih hpast).step hself hrings

/-! ## Approvals -/

/-- The method approves exactly the pending requests that pass the manager's checks. -/
theorem grpcApprove_eq_approved_iff (s : ServerState) (requestId approverDid signatureB64 : String)
    (reads : RequestReads) (event : EscalationEvent) :
    ((s.grpcApprove W C requestId approverDid signatureB64 reads).2 = .ok (.event event) ∧
      event.outcome = .approved) ↔
    ∃ eventId signature request, W.parseUuid requestId = some eventId ∧
      C.decode64 signatureB64 = .ok signature ∧
      s.escalationManager.pending.lookup eventId = some request ∧
      EscalationManager.decision C s.escalationManager.registryPubkey (s.surroundings C reads) eventId
        request approverDid signature = .ok .approved ∧
      event = request.decided eventId approverDid .approved (reads.now 6) := by
  unfold grpcApprove
  cases W.parseUuid requestId with
  | none => simp
  | some eventId =>
    cases C.decode64 signatureB64 with
    | error e => simp
    | ok signature =>
      simp only [approve, Option.some.injEq, Except.ok.injEq, exists_and_left, exists_eq_left']
      rcases s.escalationManager.approve_cases C (s.surroundings C reads) eventId approverDid
        signature with ⟨hlook, heq⟩ | ⟨request, hlook, ⟨e, hdec, heq⟩ | ⟨outcome, hdec, heq⟩⟩
      · -- without a pending request, or with an error, no event is answered
        simp [heq, hlook]
      · simp [heq, hlook, hdec]
      · simp only [heq, hlook, hdec, Option.some.injEq, exists_eq_left', Except.ok.injEq,
          GrpcReply.event.injEq]
        -- the event has the outcome that was decided
        constructor
        · rintro ⟨rfl, rfl⟩
          exact ⟨rfl, rfl⟩
        · rintro ⟨rfl, rfl⟩
          exact ⟨rfl, rfl⟩

end ServerState

open ServerState

/-- **Approvals**: in every run from the start of a daemon in which each authenticated filing names
    its caller and the ring that the caller has, and no authenticated registration changes the ring
    of an agent with a pending request, all approvals are warranted. -/
theorem approvals_warranted (C : Crypto) (E : LogEnv) (X : Extractors) (W : GrpcWire)
    (registryIdentity : ByteArr 32) (registryDid : String)
    (registered : List (AgentIdentity × PrivilegeRing)) (auditFile : Option Bytes) (disk : Disk)
    (hasExporter : Bool) (registryPubkey : String) (run : List (DaemonRequest × RequestReads))
    (hrun : AllSteps (step C E X W)
      (fun s call => FilesForSelf C W s call ∧ KeepsPendingRings C X W s call)
      (.start E registryIdentity registryDid registered auditFile disk hasExporter registryPubkey)
      run) :
    ApprovalsWarranted C E X W
      (.start E registryIdentity registryDid registered auditFile disk hasExporter registryPubkey)
      run := by
  rintro before ⟨_, reads⟩ after req requestId approverDid signatureB64 event rfl rfl hmessage
    hrespond happroved
  -- only the requests before the approval matter
  have hpending := pendingWarranted_run rfl (allSteps_append.mp hrun).1
  -- the reply comes from the method, which has approved a pending request
  obtain ⟨did, -, hmethod⟩ := method_of_serveGrpc_ok E (DaemonResponse.grpc.inj hrespond)
  rw [hmessage] at hmethod
  obtain ⟨eventId, signature, request, -, -, hlook, hdec, rfl⟩ :=
    (grpcApprove_eq_approved_iff _ _ _ _ _ _).mp ⟨hmethod, happroved⟩
  obtain ⟨hfiled, hring⟩ := hpending eventId request hlook
  obtain ⟨-, att, -, -, -, hless⟩ := (EscalationManager.decision_eq_approved C _ _ _ _ _ _).mp hdec
  exact ⟨⟨request, hfiled, rfl, rfl, rfl, rfl⟩, hring, hless⟩

/-! ## An approval for oneself and one for another agent -/

/-- The registry attests the administrator's key. -/
theorem getAttestation_admin :
    agentsStart.registry.getAttestation threeAgents "did:mesh:admin" 0 0 =
      some ((MemoryAgentRegistry.claimFor "did:mesh:admin" (threeAgents.pubkeyB64 secondSeed) 0
        0).attest threeAgents registrySeed "did:mesh:registry") := by
  rw [MemoryAgentRegistry.getAttestation, lookup_admin]
  rfl

/-- The administrator's signature of the payload of a request passes all checks of an approval. -/
theorem decision_filedRequest {agentDid : String} {currentRing requestedRing : PrivilegeRing}
    {signature : ByteArr 64}
    (hsignature : signature =
      threeAgents.sign secondSeed (approvalPayload (.fill 7) agentDid requestedRing))
    (hless : requestedRing < currentRing) :
    EscalationManager.decision threeAgents (threeAgents.pubkeyB64 registrySeed)
        (agentsStart.surroundings threeAgents epochRequestReads) (.fill 7)
        (filedRequest agentDid currentRing requestedRing) "did:mesh:admin" signature.val =
      .ok .approved := by
  have hlife : (0 : DateTime) ≤ 0 + hours 24 := by decide
  -- the approver's attestation verifies and the ring is System
  have hverify := (agentsStart.registry.verify_getAttestation threeAgents
    getAttestation_admin).mpr hlife
  have hring : agentsStart.registry.getRing "did:mesh:admin" = some .system := by
    rw [MemoryAgentRegistry.getRing, lookup_admin]
    rfl
  -- the attested key is the one that the signature was made for
  have hsigned : (identityStub (threeAgents.pubkeyB64 secondSeed)).verifySignature threeAgents
      (approvalPayload (.fill 7) agentDid requestedRing) signature.val = true := by
    rw [AgentIdentity.verifySignature_of_key (k := secondSeed) rfl]
    exact (Crypto.verify_ofKeyPairs _ _ _ _ _).mpr hsignature
  apply (EscalationManager.decision_eq_approved _ _ _ _ _ _ _).mpr
  exact ⟨congrArg Except.ok hring, _, congrArg Except.ok getAttestation_admin, hverify, hsigned,
    hless⟩

/-- The administrator's signature of the payload of a filed request is enough for its approval. -/
theorem respond_approveMessage {agentDid : String} {currentRing requestedRing : PrivilegeRing}
    {signature : ByteArr 64}
    (hsignature : signature =
      threeAgents.sign secondSeed (approvalPayload (.fill 7) agentDid requestedRing))
    (hless : requestedRing < currentRing) :
    (filed agentDid currentRing requestedRing).respond threeAgents sampleEnv rejectingExtractors
        escalationWire (agentCall "did:mesh:admin" secondSeed (approveMessage signature)).1
        (agentCall "did:mesh:admin" secondSeed (approveMessage signature)).2 =
      .grpc (.ok (.event ((filedRequest agentDid currentRing requestedRing).decided (.fill 7)
        "did:mesh:admin" .approved 0))) := by
  have hcaller := calledBy_agentCall (s := filed agentDid currentRing requestedRing) rfl rfl
    lookup_admin (approveMessage signature)
  have hserve := serveGrpc_eq_method sampleEnv hcaller (by simp [approveMessage])
  -- the decision on the filed request is an approval
  have happroved := (grpcApprove_eq_approved_iff (C := threeAgents) (W := escalationWire)
    (filed agentDid currentRing requestedRing) (Uuid.fill 7).toText "did:mesh:admin"
    (Base64.encodeText signature.val) (agentCall "did:mesh:admin" secondSeed
      (approveMessage signature)).2 _).mpr
    ⟨.fill 7, signature.val, filedRequest agentDid currentRing requestedRing, parseUuid_seven,
      threeAgents.decode64_encode64 _, Finmap.lookup_insert _,
      decision_filedRequest hsignature hless, rfl⟩
  exact congrArg DaemonResponse.grpc ((congrArg Prod.snd hserve).trans happroved.1)

theorem sign_ownApproval :
    ownApproval = threeAgents.sign secondSeed (approvalPayload (.fill 7) "did:mesh:agent-1" .trusted) := by
  decide +kernel

theorem sign_foreignApproval :
    foreignApproval =
      threeAgents.sign secondSeed (approvalPayload (.fill 7) "did:mesh:agent-2" .standard) := by
  decide +kernel

/-- The request of a filing message is filed. -/
theorem files_filingMessage {did agentDid : String} {seed : ByteArr 32}
    {currentRing requestedRing : PrivilegeRing} {eventId : Uuid} {request : EscalationRequest}
    (h : Files escalationWire (agentCall did seed (filingMessage agentDid currentRing requestedRing))
      eventId request) : request = filedRequest agentDid currentRing requestedRing := by
  obtain ⟨req, inner, hreq, hmessage, hrequest, -⟩ := h
  cases hreq
  cases hmessage
  -- the message converts to the request that it was made from
  have hfiled : fromProtoEscalationRequest escalationWire
      { agentDid := agentDid
        currentRing := toProtoRing currentRing
        requestedRing := toProtoRing requestedRing
        reason := "audit"
        timestamp := some { seconds := 0, nanos := 0 } } =
      .ok (filedRequest agentDid currentRing requestedRing) := by
    simp only [fromProtoEscalationRequest, fromProtoRing_toProtoRing]
    rfl
  exact Except.ok.inj (hrequest.symm.trans hfiled)

/-- After a filing alone. -/
theorem runFrom_filing {did : String} {seed : ByteArr 32} {ring : PrivilegeRing}
    (hentry : agentsStart.registry.entries.lookup did = some (threeAgents.pubkeyB64 seed, ring))
    (agentDid : String) (currentRing requestedRing : PrivilegeRing) :
    runFrom (step threeAgents sampleEnv rejectingExtractors escalationWire) agentsStart
        [agentCall did seed (filingMessage agentDid currentRing requestedRing)] =
      filed agentDid currentRing requestedRing := by
  rw [runFrom_cons, runFrom_nil, step_filing hentry]

/-- A Standard agent files a request for itself, and the administrator approves it. -/
theorem approvals_warranted_own :
    ∃ event,
      (runFrom (step threeAgents sampleEnv rejectingExtractors escalationWire) agentsStart
          [agentCall "did:mesh:agent-1" agentOneSeed
            (filingMessage "did:mesh:agent-1" .standard .trusted)]).respond threeAgents sampleEnv
        rejectingExtractors escalationWire
        (agentCall "did:mesh:admin" secondSeed (approveMessage ownApproval)).1
        (agentCall "did:mesh:admin" secondSeed (approveMessage ownApproval)).2 =
          .grpc (.ok (.event event)) ∧
      event.outcome = .approved ∧
      ∃ request, FiledByAgent threeAgents sampleEnv rejectingExtractors escalationWire agentsStart
          [agentCall "did:mesh:agent-1" agentOneSeed
            (filingMessage "did:mesh:agent-1" .standard .trusted)] event.eventId request ∧
        event.agentDid = request.agentDid := by
  have hless : PrivilegeRing.trusted < .standard := by decide
  have hrespond := respond_approveMessage sign_ownApproval hless
  rw [← runFrom_filing lookup_agentOne] at hrespond
  refine ⟨_, hrespond, rfl, ?_⟩
  have hwarranted : ApprovalsWarranted threeAgents sampleEnv rejectingExtractors escalationWire
      agentsStart
      [agentCall "did:mesh:agent-1" agentOneSeed (filingMessage "did:mesh:agent-1" .standard .trusted),
        agentCall "did:mesh:admin" secondSeed (approveMessage ownApproval)] := by
    apply approvals_warranted
    refine ⟨⟨?_, ?_⟩, ⟨?_, ?_⟩, trivial⟩
    · -- the agent files for itself, with the ring the registry has
      intro did eventId request hcaller hfiles
      obtain rfl := files_filingMessage hfiles
      obtain rfl := authenticates_grpc_unique hcaller
        (calledBy_agentCall rfl rfl lookup_agentOne (filingMessage _ _ _))
      refine ⟨rfl, ?_⟩
      exact congrArg (Option.map Prod.snd) lookup_agentOne
    · -- nothing is pending at the start
      intro did identity ring eventId request _ _ hpending
      cases (Finmap.lookup_empty eventId).symm.trans hpending
    · -- the second request files nothing and registers nobody
      rintro did eventId request - ⟨req, inner, hreq, hmessage, -⟩
      cases hreq
      cases hmessage
    · intro did identity ring eventId request _ hmutation
      cases hmutation
  obtain ⟨⟨request, hfiled, hagent, -⟩, -⟩ := hwarranted [_] _ [] _ _ _ _ _ rfl rfl rfl hrespond rfl
  exact ⟨request, hfiled, hagent⟩

/-- A Standard agent files a request for another one as if that were Sandboxed, and the approval
    takes the other one to the ring it has. -/
theorem approvals_not_warranted :
    ¬ ∀ (C : Crypto) (E : LogEnv) (X : Extractors) (W : GrpcWire) (registryIdentity : ByteArr 32)
      (registryDid : String) (registered : List (AgentIdentity × PrivilegeRing))
      (auditFile : Option Bytes) (disk : Disk) (hasExporter : Bool)
      (run : List (DaemonRequest × RequestReads)),
      ApprovalsWarranted C E X W
        (.start E registryIdentity registryDid registered auditFile disk hasExporter
          (C.pubkeyB64 registryIdentity)) run := by
  intro h
  -- agent-1 files for agent-2, with a ring that agent-2 does not have
  have hwarranted : ApprovalsWarranted threeAgents sampleEnv rejectingExtractors escalationWire
      agentsStart
      [agentCall "did:mesh:agent-1" agentOneSeed
          (filingMessage "did:mesh:agent-2" .sandboxed .standard),
        agentCall "did:mesh:admin" secondSeed (approveMessage foreignApproval)] :=
    h _ _ _ _ _ _ _ _ _ _ _
  have hless : PrivilegeRing.standard < .sandboxed := by decide
  have hrespond := respond_approveMessage sign_foreignApproval hless
  rw [← runFrom_filing lookup_agentOne] at hrespond
  -- the event starts from the ring of the message, the registry holds another one
  obtain ⟨-, hring, -⟩ := hwarranted [_] _ [] _ _ _ _ _ rfl rfl rfl hrespond rfl
  rw [runFrom_filing lookup_agentOne] at hring
  have hreal : agentsStart.registry.getRing "did:mesh:agent-2" = some .standard :=
    congrArg (Option.map Prod.snd) lookup_agentTwo
  cases hreal.symm.trans hring

end AgentGovernance.Daemon
