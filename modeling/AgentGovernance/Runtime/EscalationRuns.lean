import AgentGovernance.Runtime.EscalationManager

/-!
# Runs of the escalation manager

Calls one after another, each with its own surroundings.  The results about runs rest
on what a call does to the pending map: a request inserts its identifier, a decision
removes it, and nothing else changes.
-/

namespace AgentGovernance.Runtime

open AgentGovernance.Lib AgentGovernance.Mesh

/-- A call of one of the manager's methods. -/
inductive Call where
  | request (eventId : Uuid) (request : EscalationRequest)
  | approve (env : Surroundings) (eventId : Uuid) (approverDid : String) (signature : Bytes)
  | deny (env : Surroundings) (eventId : Uuid) (approverDid cause : String)

/-- What a call returns. -/
inductive Reply where
  | requested (eventId : Uuid)
  | decided (result : Except String EscalationEvent)

/-- The identifiers that the requests among the calls returned. -/
def requestIds (calls : List Call) : List Uuid :=
  calls.filterMap fun
    | .request eventId _ => some eventId
    | _ => none

namespace EscalationManager

variable (C : Crypto)

def call (m : EscalationManager) : Call → EscalationManager × Reply
  | .request eventId request => (m.requestEscalation eventId request, .requested eventId)
  | .approve env eventId approverDid signature =>
    ((m.approve C env eventId approverDid signature).1,
      .decided (m.approve C env eventId approverDid signature).2)
  | .deny env eventId approverDid cause =>
    ((m.deny env eventId approverDid cause).1, .decided (m.deny env eventId approverDid cause).2)

/-- The state after a call or nothing. -/
def after (m : EscalationManager) : Option Call → EscalationManager
  | none => m
  | some c => (m.call C c).1

/-- The state after some calls. -/
def run (m : EscalationManager) (calls : List Call) : EscalationManager :=
  calls.foldl (fun m c => (m.call C c).1) m

theorem run_concat (m : EscalationManager) (calls : List Call) (c : Call) :
    m.run C (calls ++ [c]) = ((m.run C calls).call C c).1 := by
  simp [run]

/-! ## The pending map -/

theorem lookup_erase_eq (m : EscalationManager) (eventId id : Uuid) :
    (m.pending.erase eventId).lookup id = if id = eventId then none else m.pending.lookup id := by
  by_cases h : id = eventId
  · rw [if_pos h, h, Finmap.lookup_erase]
  · rw [if_neg h, Finmap.lookup_erase_ne h]

/-- After `approve` the identifier is not pending, whatever the outcome. -/
theorem lookup_approve (m : EscalationManager) (env : Surroundings) (eventId id : Uuid)
    (approverDid : String) (signature : Bytes) :
    (m.approve C env eventId approverDid signature).1.pending.lookup id =
      if id = eventId then none else m.pending.lookup id := by
  rcases m.approve_cases C env eventId approverDid signature with
    ⟨hlook, heq⟩ | ⟨request, -, ⟨e, -, heq⟩ | ⟨outcome, -, heq⟩⟩
  · -- nothing was pending under the identifier
    rw [heq]
    by_cases h : id = eventId
    · rw [if_pos h, h, hlook]
    · rw [if_neg h]
  · -- whatever the decision, the request was taken out first
    rw [heq, ← lookup_erase_eq]
  · rw [heq, ← lookup_erase_eq, publish_pending]

theorem lookup_deny (m : EscalationManager) (env : Surroundings) (eventId id : Uuid)
    (approverDid cause : String) :
    (m.deny env eventId approverDid cause).1.pending.lookup id =
      if id = eventId then none else m.pending.lookup id := by
  rcases m.deny_cases env eventId approverDid cause with ⟨hlook, heq⟩ | ⟨request, -, heq⟩
  · rw [heq]
    by_cases h : id = eventId
    · rw [if_pos h, h, hlook]
    · rw [if_neg h]
  · rw [heq, ← lookup_erase_eq, publish_pending]

/-- What is pending after a call was pending before or has just been requested. -/
theorem lookup_call {m : EscalationManager} {c : Call} {id : Uuid} {request : EscalationRequest}
    (h : (m.call C c).1.pending.lookup id = some request) :
    m.pending.lookup id = some request ∨ c = .request id request := by
  cases c with
  | request eventId req =>
    -- a filing call writes under its own identifier only
    by_cases hid : id = eventId
    · subst hid
      rw [call, requestEscalation, Finmap.lookup_insert] at h
      exact .inr (by rw [Option.some.inj h])
    · rw [call, requestEscalation, Finmap.lookup_insert_of_ne _ hid] at h
      exact .inl h
  | approve env eventId approverDid signature =>
    -- a decision can only take something out
    rw [call, lookup_approve] at h
    split at h
    · cases h
    · exact .inl h
  | deny env eventId approverDid cause =>
    rw [call, lookup_deny] at h
    split at h
    · cases h
    · exact .inl h

/-- Everything pending was requested in the run, with this very request. -/
theorem requested_of_pending {m : EscalationManager} (hm : m.pending = ∅) (calls : List Call)
    {id : Uuid} {request : EscalationRequest}
    (h : (m.run C calls).pending.lookup id = some request) : Call.request id request ∈ calls := by
  -- by induction from the end of the run
  induction calls using List.reverseRecOn with
  | nil =>
    rw [run, List.foldl_nil, hm, Finmap.lookup_empty] at h
    cases h
  | append_singleton calls c ih =>
    rw [run_concat] at h
    rcases lookup_call C h with hold | rfl
    · exact List.mem_append_left _ (ih hold)
    · exact List.mem_append_right _ List.mem_cons_self

end EscalationManager

/-- With fresh identifiers an identifier belongs to one request only. -/
theorem request_unique {calls : List Call} (hfresh : (requestIds calls).Nodup) {id : Uuid}
    {r s : EscalationRequest} (hr : Call.request id r ∈ calls) (hs : Call.request id s ∈ calls) :
    r = s := by
  -- a filing call puts its identifier into the list
  have hmem : ∀ {q : EscalationRequest} {cs : List Call}, Call.request id q ∈ cs →
      id ∈ requestIds cs := fun hq => List.mem_filterMap.mpr ⟨_, hq, rfl⟩
  induction calls with
  | nil => cases hr
  | cons c calls ih =>
    have htail : (requestIds calls).Nodup := by
      refine List.Nodup.sublist ?_ hfresh
      exact (List.sublist_cons_self c calls).filterMap _
    -- both calls are the first one, or one of them would repeat its identifier
    rcases List.mem_cons.mp hr with rfl | hr' <;> rcases List.mem_cons.mp hs with hs' | hs'
    · cases hs'
      rfl
    · exact absurd (hmem hs') (List.nodup_cons.mp hfresh).1
    · subst hs'
      exact absurd (hmem hr') (List.nodup_cons.mp hfresh).1
    · exact ih htail hr' hs'

namespace EscalationManager

variable (C : Crypto)

/-! ## Approval -/

/-- `approve` returns an approved event exactly when all checks pass on a pending request. -/
theorem approve_eq_approved (m : EscalationManager) (env : Surroundings) (eventId : Uuid)
    (approverDid : String) (signature : Bytes) :
    (∃ event, (m.approve C env eventId approverDid signature).2 = .ok event ∧
      event.outcome = .approved) ↔
    ∃ request, m.pending.lookup eventId = some request ∧
      decision C m.registryPubkey env eventId request approverDid signature = .ok .approved := by
  rcases m.approve_cases C env eventId approverDid signature with
    ⟨hlook, heq⟩ | ⟨request, hlook, ⟨e, hdec, heq⟩ | ⟨outcome, hdec, heq⟩⟩
  · simp [heq, hlook]
  · simp [heq, hlook, hdec]
  · simp [heq, hlook, hdec, EscalationRequest.decided]

/-- The event of a decision copies the request that was pending. -/
theorem decided_of_reply {m : EscalationManager} {c : Call} {event : EscalationEvent}
    (h : (m.call C c).2 = .decided (.ok event)) :
    ∃ request approverDid outcome now, m.pending.lookup event.eventId = some request ∧
      event = request.decided event.eventId approverDid outcome now := by
  cases c with
  | request eventId request => cases h
  | approve env eventId approverDid signature =>
    rcases m.approve_cases C env eventId approverDid signature with
      ⟨-, heq⟩ | ⟨request, hlook, ⟨e, -, heq⟩ | ⟨outcome, -, heq⟩⟩ <;>
    -- an error is no decision
    rw [call, heq] at h <;> cases h
    exact ⟨request, approverDid, outcome, env.decidedAt, hlook, rfl⟩
  | deny env eventId approverDid cause =>
    rcases m.deny_cases env eventId approverDid cause with ⟨-, heq⟩ | ⟨request, hlook, heq⟩ <;>
    rw [call, heq] at h <;> cases h
    exact ⟨request, approverDid, .denied cause, env.decidedAt, hlook, rfl⟩

/-- **Signed approval.** In every state `approve` approves exactly when the request is pending,
    the approver is in the System ring and attested, its attested key signed the payload, and
    the requested ring is more privileged.  In every run with fresh identifiers an approved event
    carries the data of the one request that returned its identifier. -/
theorem approve_sound :
    (∀ (m : EscalationManager) (env : Surroundings) (eventId : Uuid) (approverDid : String)
      (signature : Bytes),
      (∃ event, (m.approve C env eventId approverDid signature).2 = .ok event ∧
        event.outcome = .approved) ↔
      ∃ request, m.pending.lookup eventId = some request ∧
        env.registry.getRing approverDid = .ok (some .system) ∧
        ∃ att, env.registry.getAttestation approverDid = .ok (some att) ∧
          att.verify C m.registryPubkey env.verifiedAt = .ok () ∧
          (identityStub att.claim.publicKeyB64).verifySignature C
            (approvalPayload eventId request.agentDid request.requestedRing) signature = true ∧
          request.requestedRing < request.currentRing) ∧
    (∀ (auditFile : Option Bytes) (registryPubkey : String) (hasExporter : Bool)
      (before after : List Call) (c : Call) (event : EscalationEvent),
      (requestIds (before ++ c :: after)).Nodup →
      (((new auditFile registryPubkey hasExporter).run C before).call C c).2 =
        .decided (.ok event) →
      event.outcome = .approved →
      ∃ request, Call.request event.eventId request ∈ before ∧
        (∀ r, Call.request event.eventId r ∈ before ++ c :: after → r = request) ∧
        event.agentDid = request.agentDid ∧ event.fromRing = request.currentRing ∧
        event.toRing = request.requestedRing ∧ event.reason = request.reason) := by
  constructor
  · intro m env eventId approverDid signature
    -- the reply is the decision, and the decision was characterised before
    rw [approve_eq_approved]
    simp only [decision_eq_approved]
  · intro auditFile registryPubkey hasExporter before after c event hfresh hreply _
    -- the event is of the pending request, and that one was asked for before
    obtain ⟨request, approverDid, outcome, now, hpending, hevent⟩ := decided_of_reply C hreply
    have hmem := requested_of_pending C rfl before hpending
    refine ⟨request, hmem, ?_, ?_⟩
    · intro r hr
      exact request_unique hfresh hr (List.mem_append_left _ hmem)
    · rw [hevent]
      exact ⟨rfl, rfl, rfl, rfl⟩

/-! ## A signed approval -/

/-- Ed25519 on the inputs below: the registry's signature of the approver's claim, and the
    approver's signature of the payload. -/
def approvalVectors : Vectors where
  seed := registrySeed
  publicKey := registryKey
  signed := [((MemoryAgentRegistry.claimFor "did:mesh:admin"
      "gTl3Dqh9F19Wo1Rmw0x+zMuNipG07jeiXfYPW4/Js5Q=" 0 0).canonicalBytes,
    ⟨(Base64.decodeText
      "FvAo9Ct32s0NmAgaKmYJpp4urjV5lyetzZNQmiIDZX2UPtyvwHYr1+BfBac2twSQ3+9HzChmt+n/MdTiy2XJBg==").getD
        [], by decide +kernel⟩)]
  accepted := [(⟨(Base64.decodeText "gTl3Dqh9F19Wo1Rmw0x+zMuNipG07jeiXfYPW4/Js5Q=").getD [],
      by decide +kernel⟩,
    stringBytes "07070707-0707-0707-0707-070707070707:did:mesh:agent-1:Trusted",
    ⟨(Base64.decodeText
      "kj962fM7QYrhk3KggSfaFBpqbRg28sVCeKkwEvmacx/vFvwvDHVWFEOE5jlUSMCYEaw8rWW10R3WKvpRKbq2Aw==").getD
        [], by decide +kernel⟩)]

/-- The registry with the approver in the System ring. -/
def approvalRegistry : MemoryAgentRegistry :=
  (MemoryAgentRegistry.new approvalVectors.seed "did:mesh:registry").register
    { identityStub "gTl3Dqh9F19Wo1Rmw0x+zMuNipG07jeiXfYPW4/Js5Q=" with
      did := { method := "mesh", uniqueId := "admin" } } .system

/-- Everything happens at the epoch, and no write fails. -/
def approvalSurroundings : Surroundings where
  registry := approvalRegistry.answers (Crypto.ofVectors approvalVectors) 0 0
  verifiedAt := 0
  decidedAt := 0
  io := .ok

def trustedRequest : EscalationRequest where
  agentDid := "did:mesh:agent-1"
  currentRing := .standard
  requestedRing := .trusted
  reason := "Signed test"
  timestamp := 0

/-- The approver's signature of the payload. -/
def approvalSignature : Bytes :=
  (Base64.decodeText
    "kj962fM7QYrhk3KggSfaFBpqbRg28sVCeKkwEvmacx/vFvwvDHVWFEOE5jlUSMCYEaw8rWW10R3WKvpRKbq2Aw==").getD
      []

/-- The manager without audit log and exporter, before the request. -/
def approvalManager : EscalationManager :=
  new none ((Crypto.ofVectors approvalVectors).pubkeyB64 approvalVectors.seed) false

/-- The approver's attested key signed the payload. -/
theorem verifySignature_approval :
    (identityStub "gTl3Dqh9F19Wo1Rmw0x+zMuNipG07jeiXfYPW4/Js5Q=").verifySignature
      (Crypto.ofVectors approvalVectors)
      (approvalPayload (Uuid.fill 7) trustedRequest.agentDid trustedRequest.requestedRing)
      approvalSignature = true := by
  decide +kernel

theorem getRing_approval :
    approvalSurroundings.registry.getRing "did:mesh:admin" = .ok (some .system) := by
  have hring : approvalRegistry.getRing "did:mesh:admin" = some .system := by
    rw [MemoryAgentRegistry.getRing]
    exact congrArg _ (MemoryAgentRegistry.lookup_register_self _ _ _)
  exact congrArg Except.ok hring

/-- The registry attests the approver's key. -/
theorem getAttestation_approval :
    ∃ att, approvalSurroundings.registry.getAttestation "did:mesh:admin" = .ok (some att) ∧
      att.verify (Crypto.ofVectors approvalVectors) approvalManager.registryPubkey 0 = .ok () ∧
      att.claim.publicKeyB64 = "gTl3Dqh9F19Wo1Rmw0x+zMuNipG07jeiXfYPW4/Js5Q=" := by
  -- the attestation is made from the entry of the approver
  have hatt : approvalRegistry.getAttestation (Crypto.ofVectors approvalVectors) "did:mesh:admin" 0 0 =
      some ((MemoryAgentRegistry.claimFor "did:mesh:admin"
        "gTl3Dqh9F19Wo1Rmw0x+zMuNipG07jeiXfYPW4/Js5Q=" 0 0).attest (Crypto.ofVectors approvalVectors)
        approvalVectors.seed "did:mesh:registry") := by
    rw [MemoryAgentRegistry.getAttestation]
    exact congrArg _ (MemoryAgentRegistry.lookup_register_self _ _ _)
  exact ⟨_, congrArg Except.ok hatt,
    (approvalRegistry.verify_getAttestation _ hatt).mpr (by decide), rfl⟩

/-- The signed approval of a pending request is granted, with the request's data. -/
theorem approve_sound_signed :
    ∃ event,
      ((approvalManager.run (Crypto.ofVectors approvalVectors)
        [.request (Uuid.fill 7) trustedRequest]).call (Crypto.ofVectors approvalVectors)
        (.approve approvalSurroundings (Uuid.fill 7) "did:mesh:admin" approvalSignature)).2 =
          .decided (.ok event) ∧
      event.outcome = .approved ∧
      ∃ request, Call.request event.eventId request ∈ [Call.request (Uuid.fill 7) trustedRequest] ∧
        event.toRing = request.requestedRing := by
  obtain ⟨att, hatt, hverify, hkey⟩ := getAttestation_approval
  -- the condition holds of the signed approval
  obtain ⟨event, hok, hout⟩ :=
    ((approve_sound (Crypto.ofVectors approvalVectors)).1
      (approvalManager.run (Crypto.ofVectors approvalVectors)
        [.request (Uuid.fill 7) trustedRequest]) approvalSurroundings (Uuid.fill 7)
      "did:mesh:admin" approvalSignature).mpr
      ⟨trustedRequest, Finmap.lookup_insert _, getRing_approval, att, hatt, hverify,
        hkey ▸ verifySignature_approval, by decide⟩
  refine ⟨event, congrArg Reply.decided hok, hout, ?_⟩
  -- so its event stems from the request that was filed
  obtain ⟨request, hmem, -, -, -, hto, -⟩ :=
    (approve_sound (Crypto.ofVectors approvalVectors)).2 none
      ((Crypto.ofVectors approvalVectors).pubkeyB64 approvalVectors.seed) false
      [.request (Uuid.fill 7) trustedRequest] []
      (.approve approvalSurroundings (Uuid.fill 7) "did:mesh:admin" approvalSignature) event
      (by decide) (congrArg Reply.decided hok) hout
  exact ⟨request, hmem, hto⟩

end EscalationManager

end AgentGovernance.Runtime
