import AgentGovernance.Daemon.ApproveCommand
import AgentGovernance.Daemon.EscalationFiling
import AgentGovernance.Lib.Separated

/-!
# The payload of an approval

`approval_payload` in `crates/core/mesh/src/identity/escalation.rs` joins the identifier of a
request, the DID of its agent and the name of the requested ring with colons.  The DID may contain
colons itself; the identifier in front of it has a fixed length and the name behind it no colon.
-/

namespace AgentGovernance.Daemon

open AgentGovernance.Lib AgentGovernance.Mesh AgentGovernance.Runtime

/-! ## Both ends of the payload -/

theorem length_hexDigits (bs : Bytes) : (hexDigits bs).length = 2 * bs.length := by
  induction bs with
  | nil => rfl
  | cons b bs ih =>
    rw [hexDigits, List.flatMap_cons, List.length_append, ← hexDigits, ih]
    simp [hexByte]
    omega

/-- The hyphenated form has 36 characters. -/
theorem length_toText (u : Uuid) : u.toText.toList.length = 36 := by
  simp [Uuid.toText, Uuid.hyphenated, length_hexDigits, u.length_bytes]

theorem colon_not_mem_toText (ring : PrivilegeRing) : ':' ∉ ring.toText.toList := by
  cases ring <;> decide

/-- **The payload is injective**: the identifier is read from the front, the ring from the end,
    and the DID is what remains. -/
theorem approvalPayload_eq_iff {eventId otherId : Uuid} {agentDid otherDid : String}
    {ring otherRing : PrivilegeRing} :
    approvalPayload eventId agentDid ring = approvalPayload otherId otherDid otherRing ↔
      eventId = otherId ∧ agentDid = otherDid ∧ ring = otherRing := by
  refine ⟨fun h => ?_, fun ⟨hid, hdid, hring⟩ => by rw [hid, hdid, hring]⟩
  have htext := congrArg String.toList (stringBytes_injective h)
  simp only [String.toList_append, show ":".toList = [':'] from rfl, List.append_assoc,
    List.singleton_append] at htext
  -- both identifiers are as long as the other
  have hlength : eventId.toText.toList.length = otherId.toText.toList.length := by
    rw [length_toText, length_toText]
  obtain ⟨hid, hrest⟩ := (append_separator_inj_of_length hlength).mp htext
  -- no name of a ring contains a colon, so the last colon is the one in front of it
  obtain ⟨hdid, hring⟩ := (append_separator_inj_right (colon_not_mem_toText ring)
    (colon_not_mem_toText otherRing)).mp hrest
  refine ⟨Uuid.toText_injective (String.toList_inj.mp hid), String.toList_inj.mp hdid, ?_⟩
  exact PrivilegeRing.toText_injective (String.toList_inj.mp hring)

/-! ## What a signature is good for -/

/-- A signature of one payload is valid for the attested key of an approver only as the approval
    that it was made for. -/
theorem eq_of_decision_eq_approved (C : Crypto) {key : ByteArr 32} {eventId otherId : Uuid}
    {agentDid registryPubkey approverDid : String} {ring : PrivilegeRing}
    (honly : SignsOnly C key (approvalPayload eventId agentDid ring)) {env : Surroundings}
    {request : EscalationRequest} {att : SignedAttestation}
    (hatt : env.registry.getAttestation approverDid = .ok (some att))
    (hkey : att.claim.publicKeyB64 = C.pubkeyB64 key)
    (happroved : EscalationManager.decision C registryPubkey env otherId request approverDid
      (C.sign key (approvalPayload eventId agentDid ring)).val = .ok .approved) :
    otherId = eventId ∧ request.agentDid = agentDid ∧ request.requestedRing = ring := by
  obtain ⟨-, att', hatt', -, hsigned, -⟩ :=
    (EscalationManager.decision_eq_approved C _ _ _ _ _ _).mp happroved
  -- the approver's key is the one whose signatures are known
  obtain rfl := Option.some.inj (Except.ok.inj (hatt.symm.trans hatt'))
  rw [AgentIdentity.verifySignature_of_key hkey] at hsigned
  exact approvalPayload_eq_iff.mp (honly _ hsigned)

/-- **One payload, one approval.**  Payloads are equal for equal identifier, DID and ring only, and
    a signature of one of them approves no request with another identifier, agent or ring. -/
theorem approvalPayload_approves_one (C : Crypto) :
    (∀ (eventId otherId : Uuid) (agentDid otherDid : String) (ring otherRing : PrivilegeRing),
      approvalPayload eventId agentDid ring = approvalPayload otherId otherDid otherRing →
        eventId = otherId ∧ agentDid = otherDid ∧ ring = otherRing) ∧
    ∀ (key : ByteArr 32) (eventId otherId : Uuid) (agentDid registryPubkey approverDid : String)
      (ring : PrivilegeRing) (env : Surroundings) (request : EscalationRequest)
      (att : SignedAttestation),
      SignsOnly C key (approvalPayload eventId agentDid ring) →
      env.registry.getAttestation approverDid = .ok (some att) →
      att.claim.publicKeyB64 = C.pubkeyB64 key →
      EscalationManager.decision C registryPubkey env otherId request approverDid
        (C.sign key (approvalPayload eventId agentDid ring)).val = .ok .approved →
      otherId = eventId ∧ request.agentDid = agentDid ∧ request.requestedRing = ring :=
  ⟨fun _ _ _ _ _ _ h => approvalPayload_eq_iff.mp h,
    fun _ _ _ _ _ _ _ _ _ _ honly hatt hkey happroved =>
      eq_of_decision_eq_approved C honly hatt hkey happroved⟩

theorem signsOnly_ownApproval :
    SignsOnly threeAgents secondSeed (approvalPayload (.fill 7) "did:mesh:agent-1" .trusted) := by
  apply signsOnly_ofKeyPairs sign_ownApproval.symm
  · decide +kernel
  · decide +kernel

/-- The administrator's signature for the first agent approves that agent's request, and is made
    for it. -/
theorem approvalPayload_approves_one_sample :
    EscalationManager.decision threeAgents (threeAgents.pubkeyB64 registrySeed)
        (agentsStart.surroundings threeAgents epochRequestReads) (.fill 7)
        (filedRequest "did:mesh:agent-1" .standard .trusted) "did:mesh:admin" ownApproval.val =
      .ok .approved ∧
    (filedRequest "did:mesh:agent-1" .standard .trusted).agentDid = "did:mesh:agent-1" ∧
    (filedRequest "did:mesh:agent-1" .standard .trusted).requestedRing = .trusted := by
  have hless : PrivilegeRing.trusted < .standard := by decide
  have happroved := decision_filedRequest sign_ownApproval hless
  -- the sample request is approved by a signature of its own payload
  refine ⟨happroved, ?_⟩
  rw [sign_ownApproval] at happroved
  exact ((approvalPayload_approves_one threeAgents).2 secondSeed (.fill 7) (.fill 7)
    "did:mesh:agent-1" _ _ .trusted _ _ _ signsOnly_ownApproval
    (congrArg Except.ok getAttestation_admin) rfl happroved).2

end AgentGovernance.Daemon
