import AgentGovernance.Lib.Rfc3339
import AgentGovernance.Mesh.AgentId

/-!
# Signed attestations

`crates/core/mesh/src/identity/attestation.rs`: the registry binds a DID to a public
key by signing a claim, and anyone who knows the registry's key can check it.
-/

namespace AgentGovernance.Mesh

open AgentGovernance.Lib

inductive AttestationError where
  | invalidSignature
  | expired
  | serialization (e : String)
  | invalidPublicKey (e : String)
  deriving DecidableEq, Repr

/-- `impl Display for AttestationError`. -/
def AttestationError.toText : AttestationError → String
  | .invalidSignature => "Invalid signature"
  | .expired => "Attestation expired"
  | .serialization e => "Serialization error: " ++ e
  | .invalidPublicKey e => "Invalid public key: " ++ e

structure AttestationClaim where
  subjectDid : String
  publicKeyB64 : String
  issuedAt : DateTime
  expiresAt : DateTime
  deriving DecidableEq

structure SignedAttestation where
  claim : AttestationClaim
  registryDid : String
  signatureB64 : String
  deriving DecidableEq

/-- `SignedAttestation::canonical_bytes`: the JSON text of the claim. -/
def AttestationClaim.canonicalBytes (claim : AttestationClaim) : Bytes :=
  (utf8.spell
    ((jsonString.tagged (objectKey '{' "subject_did")).pair
    ((jsonString.tagged (objectKey ',' "public_key_b64")).pair
    ((Rfc3339.jsonInstant.tagged (objectKey ',' "issued_at")).pair
    ((Rfc3339.jsonInstant.tagged (objectKey ',' "expires_at")).ended ['}']))))).enc
    (claim.subjectDid, claim.publicKeyB64, claim.issuedAt, claim.expiresAt)

variable (C : Crypto)

/-- `SignedAttestation::verify`.  Unlike an agent's key, a registry key of the wrong length
    is an error. -/
def SignedAttestation.verify (att : SignedAttestation) (registryPubkeyB64 : String)
    (now : DateTime) : Except AttestationError Unit :=
  if att.claim.expiresAt < now then .error .expired
  else
    match C.decode64 registryPubkeyB64 with
    | .error e => .error (.invalidPublicKey e)
    | .ok pubkeyBytes =>
      match tryInto 32 pubkeyBytes with
      | none => .error (.invalidPublicKey "Wrong length")
      | some verifyingKey =>
        match C.checkKey verifyingKey with
        | .error e => .error (.invalidPublicKey e)
        | .ok () =>
          match C.decode64 att.signatureB64 with
          | .error _ => .error .invalidSignature
          | .ok signatureBytes =>
            match tryInto 64 signatureBytes with
            | none => .error .invalidSignature
            | some signature =>
              if C.verify verifyingKey (att.claim.canonicalBytes) signature then .ok ()
              else .error .invalidSignature

/-- **Attestation check**: exactly the unexpired claims signed under the registry key pass. -/
theorem SignedAttestation.verify_eq_ok_iff (att : SignedAttestation) (registryPubkeyB64 : String)
    (now : DateTime) :
    att.verify C registryPubkeyB64 now = .ok () ↔
      now ≤ att.claim.expiresAt ∧
      ∃ key : ByteArr 32, C.decode64 registryPubkeyB64 = .ok key.val ∧
      ∃ signature, C.decode64 att.signatureB64 = .ok signature ∧
        C.accepts key (att.claim.canonicalBytes) signature := by
  unfold SignedAttestation.verify Crypto.accepts
  by_cases hexp : att.claim.expiresAt < now
  · -- an expired attestation is refused before its key is read
    simp [hexp]
  · have hle : now ≤ att.claim.expiresAt := not_lt.mp hexp
    rw [if_neg hexp]
    cases C.decode64 registryPubkeyB64 with
    | error e => simp
    | ok pubkeyBytes =>
      -- the registry key must have 32 bytes
      dsimp only
      cases hkey : tryInto 32 pubkeyBytes with
      | none =>
        have hlen := tryInto_eq_none.mp hkey
        simp only [reduceCtorEq, false_iff, Except.ok.injEq]
        rintro ⟨-, key, rfl, -⟩
        exact hlen key.property
      | some key =>
        -- the key is the decoded text; its check and the signature's length remain
        obtain rfl := tryInto_eq_some.mp hkey
        simp only [hle, true_and, Except.ok.injEq, ← Subtype.ext_iff, exists_eq_left']
        cases C.checkKey key with
        | error e => simp
        | ok u =>
          dsimp only
          cases C.decode64 att.signatureB64 with
          | error e => simp
          | ok signatureBytes =>
            dsimp only
            cases hsig : tryInto 64 signatureBytes with
            | none =>
              -- a signature of another length is refused
              simp [hsig]
            | some signature =>
              simp only [Except.ok.injEq, exists_eq_left', hsig, Option.some.injEq, true_and]
              by_cases hver : C.verify key (att.claim.canonicalBytes) signature = true <;>
                simp [hver]

/-- `registry_identity.sign(&canonical_bytes(&claim))` with the base64 text of the signature. -/
def AttestationClaim.attest (claim : AttestationClaim) (registryIdentity : ByteArr 32)
    (registryDid : String) : SignedAttestation where
  claim := claim
  registryDid := registryDid
  signatureB64 := C.encode64 (C.sign registryIdentity (claim.canonicalBytes)).val

/-- The base64 text of a signing key's public key. -/
def Crypto.pubkeyB64 (signingKey : ByteArr 32) : String :=
  C.encode64 (C.verifyingKey signingKey).val

/-- A claim attested with a key passes the check under that key until it expires. -/
theorem AttestationClaim.verify_attest (claim : AttestationClaim) (registryIdentity : ByteArr 32)
    (registryDid : String) (now : DateTime) :
    (claim.attest C registryIdentity registryDid).verify C (C.pubkeyB64 registryIdentity) now =
      .ok () ↔ now ≤ claim.expiresAt := by
  rw [SignedAttestation.verify_eq_ok_iff]
  refine ⟨fun h => h.1, fun h => ⟨h, C.verifyingKey registryIdentity, C.decode64_encode64 _, ?_⟩⟩
  exact ⟨_, C.decode64_encode64 _, C.checkKey_verifyingKey _, _, tryInto_val _, C.verify_sign _ _⟩

end AgentGovernance.Mesh
