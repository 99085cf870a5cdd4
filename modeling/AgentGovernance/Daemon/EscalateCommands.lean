import AgentGovernance.Daemon.ApproveCommand
import AgentGovernance.Daemon.EscalationFiling

/-!
# The escalate commands

`EscalateCommands` in `crates/cli/src/main.rs`: request, approve, deny and list, each of them one
call of the escalation service.  A request that is made with the command is always one of an agent
in the Standard ring, and an approval carries the signature of a payload of the command's own
(`approveCommandPayload`).

`terminal_escalations` is about every run of such commands at a daemon, by any agents with any keys.
None is answered with an approval, unless the signature that the command made is accepted for a text
that it did not sign; and an approval that is authenticated takes the request away.
-/

namespace AgentGovernance.Daemon

open AgentGovernance.Lib AgentGovernance.Mesh AgentGovernance.Compliance AgentGovernance.Discovery
open AgentGovernance.McpGovernance AgentGovernance.Runtime

/-! ## The commands -/

/-- `EscalateCommands`.  The server and the directory of the keys are left out. -/
inductive EscalateCommand where
  | request (did : String) (toRing : PrivilegeRing) (reason : String)
  | approve (id : Uuid) (approverDid : String)
  | deny (id : Uuid) (approverDid cause : String)
  | list (did : String)

/-- A command that gets as far as its call: the key that `load_key` finds, the clock, and what the
    daemon reads. -/
structure EscalateCall where
  command : EscalateCommand
  signingKey : ByteArr 32
  now : Timestamp
  reads : RequestReads

/-- Who makes the call. -/
def EscalateCommand.caller : EscalateCommand → String
  | .request did _ _ => did
  | .approve _ approverDid => approverDid
  | .deny _ approverDid _ => approverDid
  | .list did => did

namespace EscalateCall

section
variable (C : Crypto) (call : EscalateCall)

def message : GrpcMessage :=
  match call.command with
  | .request did toRing reason =>
    .requestEscalation
      -- a mock in the source: the ring that the agent is in is not looked up
      { agentDid := did
        currentRing := toProtoRing .standard
        requestedRing := toProtoRing toRing
        reason := reason
        timestamp := some call.now }
  | .approve id approverDid =>
    .approve id.toText approverDid
      (C.encode64 (C.sign call.signingKey (approveCommandPayload id)).val)
  | .deny id approverDid cause => .deny id.toText approverDid cause
  | .list _ => .listPending

/-- The call, with its metadata. -/
def grpc (W : GrpcWire) : GrpcRequest where
  agentDid := .text call.command.caller
  signature := .text (C.encode64 (C.sign call.signingKey (W.encodeToVec (call.message C))).val)
  message := call.message C

variable (E : LogEnv) (W : GrpcWire) (s : ServerState)

/-- What the daemon does, and what it answers. -/
def served : ServerState × GrpcResult :=
  s.serveGrpc W C E (call.grpc C W) call.reads

/-- The command's signature of its payload is accepted for another text, under the key of the System
    ring agent that it is made for. -/
def Forges : Prop :=
  ∃ id approverDid publicKeyB64 text, call.command = .approve id approverDid ∧
    s.registry.entries.lookup approverDid = some (publicKeyB64, .system) ∧
    (identityStub publicKeyB64).verifySignature C text
      (C.sign call.signingKey (approveCommandPayload id)).val = true ∧
    text ≠ approveCommandPayload id

/-- The request is filed by the command. -/
def Filed (request : EscalationRequest) : Prop :=
  call.command = .request request.agentDid request.requestedRing request.reason ∧
    request.currentRing = .standard

end

/-- The state after a call. -/
def step (C : Crypto) (E : LogEnv) (W : GrpcWire) (s : ServerState) (call : EscalateCall) :
    ServerState :=
  (call.served C E W s).1

variable {C : Crypto} {E : LogEnv} {W : GrpcWire} {s : ServerState} {call : EscalateCall}

/-! ## Answers -/

/-- An approval that is answered to an approve command is forged. -/
theorem forges_of_approve {id eventId : Uuid} {approverDid : String} {m : EscalationManager}
    {event : EscalationEvent} (hcommand : call.command = .approve id approverDid)
    (h : (m.approve C (s.surroundings C call.reads) eventId approverDid
      (C.sign call.signingKey (approveCommandPayload id)).val).2 = .ok event)
    (happroved : event.outcome = .approved) : call.Forges C s := by
  rcases m.approve_cases C (s.surroundings C call.reads) eventId approverDid
      (C.sign call.signingKey (approveCommandPayload id)).val with
    ⟨-, heq⟩ | ⟨request, -, ⟨e, -, heq⟩ | ⟨outcome, hdecision, heq⟩⟩
  · rw [heq] at h
    cases h
  · rw [heq] at h
    cases h
  · rw [heq] at h
    obtain rfl := Except.ok.inj h
    obtain rfl : outcome = .approved := happroved
    obtain ⟨hring, att, hatt, -, hvalid, -⟩ :=
      (EscalationManager.decision_eq_approved C _ _ _ _ _ _).mp hdecision
    -- ring and attestation come from the one entry of the approver
    obtain ⟨entry, hentry, hsystem⟩ := Option.map_eq_some_iff.mp (Except.ok.inj hring)
    obtain ⟨entry', hentry', rfl⟩ := Option.map_eq_some_iff.mp (Except.ok.inj hatt)
    obtain rfl := Option.some.inj (hentry.symm.trans hentry')
    have hentry : s.registry.entries.lookup approverDid = some (entry.1, .system) := by
      rw [← hsystem]
      exact hentry
    -- the manager has verified its own payload, which is never the one of the command
    exact ⟨id, approverDid, entry.1, _, hcommand, hentry, hvalid,
      (approveCommandPayload_ne id eventId request.agentDid request.requestedRing).symm⟩

/-- No other command is answered with an approval. -/
theorem forges_of_approved {event : EscalationEvent}
    (h : (call.served C E W s).2 = .ok (.event event)) (happroved : event.outcome = .approved) :
    call.Forges C s := by
  obtain ⟨did, -, hmethod⟩ := ServerState.method_of_serveGrpc_ok E h
  simp only [grpc, message] at hmethod
  cases hcommand : call.command with
  | request did toRing reason =>
    rw [hcommand] at hmethod
    simp only [ServerState.method, ServerState.grpcRequestEscalation] at hmethod
    -- filing returns no event
    split at hmethod
    · cases hmethod
    · cases hmethod
  | approve id approverDid =>
    rw [hcommand] at hmethod
    simp only [ServerState.method, ServerState.grpcApprove, C.decode64_encode64] at hmethod
    -- the identifier printed by the client is parsed by the daemon
    cases hid : W.parseUuid id.toText with
    | none =>
      rw [hid] at hmethod
      cases hmethod
    | some eventId =>
      simp only [hid, ServerState.approve] at hmethod
      split at hmethod
      · cases hmethod
      · next hresult =>
        cases hmethod
        exact forges_of_approve hcommand (congrArg Prod.snd hresult) happroved
  | deny id approverDid cause =>
    rw [hcommand] at hmethod
    simp only [ServerState.method, ServerState.grpcDeny] at hmethod
    cases hid : W.parseUuid id.toText with
    | none =>
      rw [hid] at hmethod
      cases hmethod
    | some eventId =>
      simp only [hid, ServerState.deny] at hmethod
      rcases s.escalationManager.deny_cases (s.surroundings C call.reads) eventId approverDid cause
        with ⟨-, heq⟩ | ⟨request, -, heq⟩
      · rw [heq] at hmethod
        cases hmethod
      · -- what is answered is the denial
        rw [heq] at hmethod
        cases hmethod
        cases happroved
  | list did =>
    -- listing returns no event either
    rw [hcommand] at hmethod
    cases hmethod

/-! ## Pending requests -/

/-- An approve command that is authenticated leaves nothing pending under its identifier. -/
theorem lookup_step_of_approve {id eventId : Uuid} {approverDid : String}
    (hcommand : call.command = .approve id approverDid)
    (hid : W.parseUuid id.toText = some eventId)
    (hcaller : s.Authenticates C W (.grpc (call.grpc C W)) call.reads approverDid) :
    (step C E W s call).escalationManager.pending.lookup eventId = none := by
  -- the daemon takes the request out for any authenticated approver
  have hmanager := ServerState.serve_escalation_of_authenticates E rejectingExtractors hcaller
  simp only [ServerState.escalation, ServerState.grpcEscalation, grpc, message, hcommand, hid,
    C.decode64_encode64, Option.bind_some, Except.toOption, Option.map_some] at hmanager
  have hlookup := congrArg (fun m => m.pending.lookup eventId) hmanager
  refine Eq.trans ?_ (hlookup.trans ?_)
  · simp only [step, served, ServerState.serve, grpc, message, hcommand]
  · -- whatever the decision, nothing is pending under the identifier
    simp only [EscalationManager.after, EscalationManager.call, EscalationManager.lookup_approve,
      if_pos]

/-- What a command files is about its own agent, in the Standard ring. -/
theorem filed_of_files {eventId : Uuid} {request : EscalationRequest}
    (h : ServerState.Files W (.grpc (call.grpc C W), call.reads) eventId request) :
    call.Filed request := by
  obtain ⟨req, inner, hreq, hmessage, hrequest, -⟩ := h
  obtain rfl := DaemonRequest.grpc.inj hreq
  cases hcommand : call.command with
  | request did toRing reason =>
    simp only [grpc, message, hcommand, GrpcMessage.requestEscalation.injEq] at hmessage
    subst hmessage
    -- the message carries what the command was given
    simp only [fromProtoEscalationRequest, fromProtoRing_toProtoRing] at hrequest
    cases htime : fromProtoTimestamp W call.now with
    | error e =>
      rw [htime] at hrequest
      cases hrequest
    | ok now =>
      rw [htime] at hrequest
      cases hrequest
      exact ⟨hcommand, rfl⟩
  | approve id approverDid =>
    -- the other commands file nothing
    simp [grpc, message, hcommand] at hmessage
  | deny id approverDid cause => simp [grpc, message, hcommand] at hmessage
  | list did => simp [grpc, message, hcommand] at hmessage

/-- **Step**: what is pending after a command was pending before or is filed by it. -/
theorem pending_step {eventId : Uuid} {request : EscalationRequest}
    (h : (step C E W s call).escalationManager.pending.lookup eventId = some request) :
    s.escalationManager.pending.lookup eventId = some request ∨ call.Filed request := by
  have hserved : (ServerState.step C E rejectingExtractors W s
      (.grpc (call.grpc C W), call.reads)).escalationManager.pending.lookup eventId =
        some request := h
  rcases ServerState.pending_step hserved with hold | ⟨did, -, hfiles⟩
  · exact .inl hold
  · exact .inr (filed_of_files hfiles)

/-- **Run** of commands. -/
theorem pending_run {run : List EscalateCall} {eventId : Uuid} {request : EscalationRequest}
    (h : (runFrom (step C E W) s run).escalationManager.pending.lookup eventId = some request) :
    s.escalationManager.pending.lookup eventId = some request ∨
      ∃ call ∈ run, call.Filed request := by
  induction run generalizing s with
  | nil => exact .inl h
  | cons call run ih =>
    rcases ih h with hbefore | ⟨later, hlater, hfiled⟩
    · rcases pending_step hbefore with hold | hfiled
      · exact .inl hold
      · exact .inr ⟨call, List.mem_cons_self, hfiled⟩
    · exact .inr ⟨later, List.mem_cons_of_mem _ hlater, hfiled⟩

end EscalateCall

/-- **From the terminal** nothing is escalated.  Over every run of commands at a daemon, by any agents
    with any keys: what is pending at the end was pending at the beginning, or was filed by a command
    for its own agent, in the Standard ring; no command is answered with an approval, unless the
    signature that it made of its own payload is accepted for another text; and after an approve
    command that is authenticated nothing is pending under its identifier. -/
theorem terminal_escalations (C : Crypto) (E : LogEnv) (W : GrpcWire) (s : ServerState)
    (run : List EscalateCall) :
    (∀ eventId request,
      (runFrom (EscalateCall.step C E W) s run).escalationManager.pending.lookup eventId =
        some request →
      s.escalationManager.pending.lookup eventId = some request ∨
        ∃ call ∈ run, call.Filed request) ∧
    AllSteps (EscalateCall.step C E W)
      (fun s call =>
        (∀ event, (call.served C E W s).2 = .ok (.event event) → event.outcome = .approved →
          call.Forges C s) ∧
        ∀ id approverDid eventId, call.command = .approve id approverDid →
          W.parseUuid id.toText = some eventId →
          s.Authenticates C W (.grpc (call.grpc C W)) call.reads approverDid →
          (call.step C E W s).escalationManager.pending.lookup eventId = none)
      s run := by
  constructor
  · -- what is pending was pending before, or was filed by a command of the run
    intro eventId request h
    exact EscalateCall.pending_run h
  · apply allSteps_of_forall
    intro s call
    constructor
    · -- an approval needs a signature that the commands do not make
      intro event h happroved
      exact EscalateCall.forges_of_approved h happroved
    · intro id approverDid eventId hcommand hid hcaller
      exact EscalateCall.lookup_step_of_approve hcommand hid hcaller

end AgentGovernance.Daemon
