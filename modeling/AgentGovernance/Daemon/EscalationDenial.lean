import AgentGovernance.Daemon.EscalationCalls

/-!
# Who denies an escalation

The `deny` method authenticates its caller and then passes the approver's DID of the message on,
which no one compares with the caller; `deny` of the manager has no ring check.
`denial_named_iff` says for which requests the event names its caller and the caller is a
System-ring agent.
-/

namespace AgentGovernance.Daemon

open AgentGovernance.Lib AgentGovernance.Mesh AgentGovernance.Compliance AgentGovernance.Discovery
open AgentGovernance.McpGovernance AgentGovernance.Runtime

namespace ServerState

variable (C : Crypto) (E : LogEnv) (X : Extractors) (W : GrpcWire)

/-- The event of a `deny` call names the authenticated caller, who holds the System ring. -/
def DenierNamed (s : ServerState) (call : DaemonRequest × RequestReads) : Prop :=
  ∀ req requestId approverDid cause event, call.1 = .grpc req →
    req.message = .deny requestId approverDid cause →
    s.respond C E X W call.1 call.2 = .grpc (.ok (.event event)) →
    ∃ did, CalledBy C W did s call ∧ event.approverDid = did ∧
      s.registry.getRing did = some .system

/-- A `deny` call of a pending request names its caller as the approver, and the caller holds the
    System ring. -/
def DeniesAsSystem (s : ServerState) (call : DaemonRequest × RequestReads) : Prop :=
  ∀ req requestId approverDid cause did eventId, call.1 = .grpc req →
    req.message = .deny requestId approverDid cause → CalledBy C W did s call →
    W.parseUuid requestId = some eventId → eventId ∈ s.escalationManager.pending →
    approverDid = did ∧ s.registry.getRing did = some .system

/-- The method answers with the event of the pending request, in the name of the message. -/
theorem grpcDeny_eq_ok_iff (s : ServerState) (requestId approverDid cause : String)
    (reads : RequestReads) (event : EscalationEvent) :
    (s.grpcDeny W C requestId approverDid cause reads).2 = .ok (.event event) ↔
      ∃ eventId request, W.parseUuid requestId = some eventId ∧
        s.escalationManager.pending.lookup eventId = some request ∧
        event = request.decided eventId approverDid (.denied cause) (reads.now 6) := by
  unfold grpcDeny
  cases W.parseUuid requestId with
  | none => simp
  | some eventId =>
    simp only [deny, Option.some.injEq, exists_and_left, exists_eq_left']
    rcases s.escalationManager.deny_cases (s.surroundings C reads) eventId approverDid cause with
      -- without a pending request the answer is a status
      ⟨hlook, heq⟩ | ⟨request, hlook, heq⟩
    · simp [heq, hlook]
    · simp only [heq, hlook, Option.some.injEq, exists_eq_left', Except.ok.injEq,
        GrpcReply.event.injEq]
      exact eq_comm

theorem denierNamed_iff (s : ServerState) (call : DaemonRequest × RequestReads) :
    DenierNamed C E X W s call ↔ DeniesAsSystem C W s call := by
  obtain ⟨req, reads⟩ := call
  constructor
  · rintro h req requestId approverDid cause did eventId rfl hmessage hcaller hparse hpending
    obtain ⟨request, hlook⟩ := Finmap.mem_iff.mp hpending
    -- the caller gets the event of the pending request
    have hdeny := (grpcDeny_eq_ok_iff C W s requestId approverDid cause reads _).mpr
      ⟨eventId, request, hparse, hlook, rfl⟩
    have hserve := serveGrpc_eq_method E hcaller (by simp [hmessage])
    have hrespond : s.respond C E X W (.grpc req) reads =
        .grpc (.ok (.event (request.decided eventId approverDid (.denied cause) (reads.now 6)))) := by
      rw [respond, hserve, hmessage]
      exact congrArg DaemonResponse.grpc hdeny
    obtain ⟨did', hcaller', hnamed, hring⟩ := h req _ _ _ _ rfl hmessage hrespond
    obtain rfl : did = did' := authenticates_grpc_unique hcaller hcaller'
    exact ⟨hnamed, hring⟩
  · rintro h req requestId approverDid cause event rfl hmessage hrespond
    -- an event is returned only behind the authentication, for a pending request
    obtain ⟨did, hcaller, hmethod⟩ := method_of_serveGrpc_ok E (DaemonResponse.grpc.inj hrespond)
    rw [hmessage] at hmethod
    obtain ⟨eventId, request, hparse, hlook, rfl⟩ :=
      (grpcDeny_eq_ok_iff C W s requestId approverDid cause reads event).mp hmethod
    obtain ⟨hnamed, hring⟩ := h req _ _ _ did eventId rfl hmessage hcaller hparse
      (Finmap.mem_iff.mpr ⟨request, hlook⟩)
    exact ⟨did, hcaller, hnamed, hring⟩

end ServerState

open ServerState

/-- **Denials**: over every run, each event of the `deny` method names its authenticated caller, a
    System-ring agent, exactly when each `deny` call of a pending request does so itself. -/
theorem denial_named_iff (C : Crypto) (E : LogEnv) (X : Extractors) (W : GrpcWire) (s : ServerState)
    (run : List (DaemonRequest × RequestReads)) :
    AllSteps (step C E X W) (DenierNamed C E X W) s run ↔
      AllSteps (step C E X W) (DeniesAsSystem C W) s run :=
  allSteps_congr (denierNamed_iff C E X W)

/-- A Standard-ring agent denies the request of another one in the name of the administrator. -/
theorem denial_not_named :
    ¬ ∀ (C : Crypto) (E : LogEnv) (X : Extractors) (W : GrpcWire) (registryIdentity : ByteArr 32)
      (registryDid : String) (registered : List (AgentIdentity × PrivilegeRing))
      (auditFile : Option Bytes) (disk : Disk) (hasExporter : Bool)
      (run : List (DaemonRequest × RequestReads)),
      AllSteps (step C E X W) (DenierNamed C E X W)
        (.start E registryIdentity registryDid registered auditFile disk hasExporter
          (C.pubkeyB64 registryIdentity)) run := by
  intro h
  -- a Standard agent denies the request of another one
  obtain ⟨-, hnamed, -⟩ := h threeAgents sampleEnv rejectingExtractors escalationWire registrySeed
    "did:mesh:registry"
    [(keyedAgent "agent-1" agentOneSeed, .standard), (keyedAgent "agent-2" agentTwoSeed, .standard),
      (keyedAgent "admin" secondSeed, .system)]
    none .blank false
    [agentCall "did:mesh:agent-2" agentTwoSeed (filingMessage "did:mesh:agent-2" .standard .trusted),
      agentCall "did:mesh:agent-1" agentOneSeed denyMessage]
  have hdenies := (denierNamed_iff _ _ _ _ _ _).mp hnamed
  change DeniesAsSystem threeAgents escalationWire
    (step threeAgents sampleEnv rejectingExtractors escalationWire agentsStart
      (agentCall "did:mesh:agent-2" agentTwoSeed (filingMessage "did:mesh:agent-2" .standard .trusted))) _ at hdenies
  rw [step_filing lookup_agentTwo] at hdenies
  -- agent-1 is the caller, and the message names the administrator
  obtain ⟨hself, -⟩ := hdenies _ _ _ _ "did:mesh:agent-1" (.fill 7) rfl rfl
    (calledBy_agentCall rfl rfl lookup_agentOne denyMessage) parseUuid_seven
    (Finmap.mem_insert.mpr (.inl rfl))
  exact absurd hself (by decide)

end AgentGovernance.Daemon
