import AgentGovernance.Daemon.Registration

/-!
# The approve command

`EscalateCommands::Approve` in `crates/cli/src/main.rs` signs a payload with a fixed agent and
the number of a ring in it, where `EscalationManager::approve` expects the agent and the name
of the ring of the pending request.  The two texts differ at their last character, so no
approval sent with the command has a valid signature.
-/

namespace AgentGovernance.Daemon

open AgentGovernance.Lib AgentGovernance.Mesh AgentGovernance.Runtime

/-- The payload that the command signs:
    `format!("{}:target-agent:{}", id, proto::PrivilegeRing::Trusted as i32)`. -/
def approveCommandPayload (id : Uuid) : Bytes :=
  stringBytes (id.toText ++ ":target-agent:" ++ toString (toProtoRing .trusted))

/-! ## The payloads -/

/-- A ring's name does not end in a digit. -/
theorem getLast?_toText (ring : PrivilegeRing) : ring.toText.toList.getLast? ≠ some '2' := by
  cases ring <;> decide

theorem toText_toList_ne_nil (ring : PrivilegeRing) : ring.toText.toList ≠ [] := by
  cases ring <;> decide

/-- **The payloads** of command and manager differ, whatever the request is. -/
theorem approveCommandPayload_ne (id eventId : Uuid) (agentDid : String) (ring : PrivilegeRing) :
    approveCommandPayload id ≠ approvalPayload eventId agentDid ring := by
  intro h
  have htext := congrArg String.toList (stringBytes_injective h)
  have hlast := congrArg List.getLast? htext
  simp only [String.toList_append] at hlast
  rw [List.getLast?_append_of_ne_nil _ (toText_toList_ne_nil ring)] at hlast
  apply getLast?_toText ring
  rw [← hlast]
  rw [List.getLast?_append_of_ne_nil _ (by decide)]
  decide

/-! ## The answer to the command -/

/-- A signature of the text is no signature of another text. -/
def SignsOnly (C : Crypto) (key : ByteArr 32) (data : Bytes) : Prop :=
  ∀ other, C.verify (C.verifyingKey key) other (C.sign key data) = true → other = data

/-- Among recorded signatures, one that is recorded for its text alone. -/
theorem signsOnly_ofKeyPairs {keys : Equiv.Perm (ByteArr 32)}
    {signed : List ((ByteArr 32 × Bytes) × ByteArr 64)} {key : ByteArr 32} {data : Bytes}
    {signature : ByteArr 64} (hsign : (Crypto.ofKeyPairs keys signed).sign key data = signature)
    (hblank : signature ≠ Vectors.lookup.blank)
    (hone : ∀ entry ∈ signed, entry.2 = signature → entry.1.2 = data) :
    SignsOnly (Crypto.ofKeyPairs keys signed) key data := by
  intro other h
  rw [Crypto.verify_ofKeyPairs, hsign] at h
  simp only [Crypto.ofKeyPairs] at h
  cases hother : signed.lookup (key, other) with
  | none =>
    -- an unrecorded message has the blank signature
    rw [hother] at h
    exact absurd h hblank
  | some recorded =>
    rw [hother, Option.getD_some] at h
    -- the signature is recorded for one message
    obtain ⟨before, after, hsplit, -⟩ := List.lookup_eq_some_iff.mp hother
    exact hone ((key, other), recorded) (by simp [hsplit]) h.symm

/-- A signature of another text than the payload is answered with a denial. -/
theorem attestationCheck_eq_invalid (C : Crypto) {att : SignedAttestation} {registryPubkey : String}
    {verifiedAt : DateTime} (hverify : att.verify C registryPubkey verifiedAt = .ok ())
    {key : ByteArr 32} (hkey : att.claim.publicKeyB64 = C.pubkeyB64 key) {data : Bytes}
    (honly : SignsOnly C key data) {eventId : Uuid} {request : EscalationRequest}
    (hne : data ≠ approvalPayload eventId request.agentDid request.requestedRing) :
    EscalationManager.attestationCheck C (.ok (some att)) registryPubkey verifiedAt eventId request
      (C.sign key data).val = .ok (.denied "Approval signature invalid") := by
  have hinvalid : (identityStub att.claim.publicKeyB64).verifySignature C
      (approvalPayload eventId request.agentDid request.requestedRing) (C.sign key data).val =
      false := by
    refine Bool.eq_false_iff.mpr ?_
    -- a valid signature would be of the payload, which it is not
    intro hvalid
    rw [AgentIdentity.verifySignature_of_key hkey] at hvalid
    exact hne (honly _ hvalid).symm
  simp [EscalationManager.attestationCheck, hverify, hinvalid]

/-- **The approve command never works.** For every request, the payload it signs is not the one
    that the manager verifies, so an approval by a System-ring agent with an attested key is
    answered with a denial for its signature. -/
theorem approveCommand_denied (C : Crypto) (id : Uuid) (request : EscalationRequest) :
    approveCommandPayload id ≠ approvalPayload id request.agentDid request.requestedRing ∧
    ∀ (m : EscalationManager) (env : Surroundings) (approverDid : String) (key : ByteArr 32)
      (att : SignedAttestation), m.pending.lookup id = some request →
      env.registry.getRing approverDid = .ok (some .system) →
      env.registry.getAttestation approverDid = .ok (some att) →
      att.verify C m.registryPubkey env.verifiedAt = .ok () →
      att.claim.publicKeyB64 = C.pubkeyB64 key → SignsOnly C key (approveCommandPayload id) →
      ∃ event,
        (m.approve C env id approverDid (C.sign key (approveCommandPayload id)).val).2 = .ok event ∧
          event.outcome = .denied "Approval signature invalid" := by
  have hne := approveCommandPayload_ne id id request.agentDid request.requestedRing
  refine ⟨hne, ?_⟩
  intro m env approverDid key att hpending hring hatt hverify hkey honly
  have hcheck := attestationCheck_eq_invalid C hverify hkey honly hne
  -- the ring is right, so the signature decides
  have hdecision : EscalationManager.decision C m.registryPubkey env id request approverDid
      (C.sign key (approveCommandPayload id)).val = .ok (.denied "Approval signature invalid") := by
    simp only [EscalationManager.decision, hring, hatt,
      (EscalationManager.ringCheck_eq_ok_none _).mpr rfl, hcheck]
  -- the request is taken out and the denial published
  rw [EscalationManager.approve, EscalationManager.take_eq_some.mpr ⟨hpending, rfl⟩]
  dsimp only
  rw [hdecision]
  exact ⟨_, rfl, rfl⟩

/-! ## An approval of a pending request -/

/-- The administrator's signature of the payload of the command. -/
def commandSignature : ByteArr 64 :=
  signatureOf 0xf06183a9460698ec2afc259515ed8e61c59ed4ba22453b65faf79ba32cce71a1
    0x2a27d28736ab6e6bb06c5467c1b38b5ef33af07543cc6e1a165ad97c7b364e07

/-- Ed25519 of the registry and of the administrator on these inputs. -/
def commandKeys : Crypto :=
  .ofKeyPairs ((Equiv.swap registrySeed registryKey).trans (Equiv.swap secondSeed secondKey))
    [((registrySeed, (MemoryAgentRegistry.claimFor "did:mesh:admin"
        (Base64.encodeText secondKey.val) 0 0).canonicalBytes),
      signatureOf 0x16f028f42b77dacd0d98081a2a6609a69e2eae35799727adcd93509a2203657d
        0x943edcafc0762bd7e05f05a736b70490dfef47cc2866b7e9ff31d4e2cb65c906),
     ((secondSeed, approveCommandPayload (.fill 7)), commandSignature)]

/-- The registry with the administrator in the System ring. -/
def commandRegistry : MemoryAgentRegistry :=
  (MemoryAgentRegistry.new registrySeed "did:mesh:registry").register
    { identityStub (commandKeys.pubkeyB64 secondSeed) with
      did := { method := "mesh", uniqueId := "admin" } } .system

/-- Everything happens at the epoch, and no write fails. -/
def commandSurroundings : Surroundings where
  registry := commandRegistry.answers commandKeys 0 0
  verifiedAt := 0
  decidedAt := 0
  io := .ok

/-- A request for the Trusted ring by the agent that the command has in mind. -/
def targetRequest : EscalationRequest where
  agentDid := "target-agent"
  currentRing := .standard
  requestedRing := .trusted
  reason := "maintenance"
  timestamp := 0

theorem sign_commandPayload :
    commandKeys.sign secondSeed (approveCommandPayload (.fill 7)) = commandSignature := by
  have hregistry : secondSeed ≠ registrySeed := by decide
  simp [commandKeys, Crypto.ofKeyPairs, List.lookup_cons, hregistry, beq_false_of_ne]

theorem signsOnly_commandSignature :
    SignsOnly commandKeys secondSeed (approveCommandPayload (.fill 7)) := by
  apply signsOnly_ofKeyPairs sign_commandPayload
  · decide +kernel
  · decide +kernel

/-- The administrator's approval of the pending request is denied for its signature. -/
theorem approveCommand_denied_sample :
    ∃ event,
      (((EscalationManager.new none (commandKeys.pubkeyB64 registrySeed) false).requestEscalation
          (.fill 7) targetRequest).approve commandKeys commandSurroundings (.fill 7)
        "did:mesh:admin" commandSignature.val).2 = .ok event ∧
        event.outcome = .denied "Approval signature invalid" := by
  -- the approver is a registered System agent
  have hentry : commandRegistry.entries.lookup "did:mesh:admin" =
      some (commandKeys.pubkeyB64 secondSeed, .system) :=
    MemoryAgentRegistry.lookup_register_self _ _ _
  have hring : commandSurroundings.registry.getRing "did:mesh:admin" = .ok (some .system) := by
    apply congrArg Except.ok
    rw [MemoryAgentRegistry.getRing, hentry]
    rfl
  have hatt : commandRegistry.getAttestation commandKeys "did:mesh:admin" 0 0 = some
      ((MemoryAgentRegistry.claimFor "did:mesh:admin" (commandKeys.pubkeyB64 secondSeed) 0 0).attest
        commandKeys registrySeed "did:mesh:registry") := by
    rw [MemoryAgentRegistry.getAttestation, hentry]
    rfl
  rw [← sign_commandPayload]
  exact (approveCommand_denied commandKeys (.fill 7) targetRequest).2 _ _ _ _ _
    (Finmap.lookup_insert _) hring (congrArg Except.ok hatt)
    ((commandRegistry.verify_getAttestation commandKeys hatt).mpr (by decide)) rfl
    signsOnly_commandSignature

/-- The bytes that are signed are not the payload, for a request like the one that the command has
    in mind. -/
theorem approveCommand_not_payload :
    ¬ ∀ (id : Uuid) (agentDid : String) (ring : PrivilegeRing),
      approveCommandPayload id = approvalPayload id agentDid ring :=
  fun h => approveCommandPayload_ne _ _ _ _ (h (.fill 7) "target-agent" .trusted)

end AgentGovernance.Daemon
