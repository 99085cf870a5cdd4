import AgentGovernance.Daemon.Registration
import AgentGovernance.Lib.UtcTime

/-!
# Conversions to and from protobuf

`to_proto_*` and `from_proto_*` of attestations and escalation requests in
`crates/daemon/src/grpc/convert.rs`.  A nanosecond that is lost on the way would invalidate a
signature, so the times here have all that `DateTime<Utc>` has, leap seconds included;
`verify_coarse` and `fromProtoEscalationRequest_coarse` are the connection to the rest of the model,
where a time is a number of nanoseconds.
-/

namespace AgentGovernance.Daemon.Convert

open AgentGovernance.Lib AgentGovernance.Mesh

/-! ## Values -/

structure AttestationClaim where
  subjectDid : String
  publicKeyB64 : String
  issuedAt : UtcTime
  expiresAt : UtcTime
  deriving DecidableEq

structure SignedAttestation where
  claim : AttestationClaim
  registryDid : String
  signatureB64 : String
  deriving DecidableEq

structure EscalationRequest where
  agentDid : String
  currentRing : PrivilegeRing
  requestedRing : PrivilegeRing
  reason : String
  timestamp : UtcTime
  deriving DecidableEq

/-- `proto::AttestationClaim`. -/
structure ProtoAttestationClaim where
  subjectDid : String
  publicKeyB64 : String
  issuedAt : Option Timestamp
  expiresAt : Option Timestamp

/-- `proto::SignedAttestation`. -/
structure ProtoSignedAttestation where
  claim : Option ProtoAttestationClaim
  registryDid : String
  signatureB64 : String

/-! ## Conversions -/

def toProtoTimestamp (dt : UtcTime) : Timestamp where
  seconds := dt.seconds
  nanos := dt.nanos.toInt32

/-- `from_proto_timestamp`; `nanos as u32` makes negative nanoseconds large. -/
def fromProtoTimestamp (ts : Timestamp) : Except GrpcStatus UtcTime :=
  match UtcTime.timestampOpt ts.seconds ts.nanos.toUInt32 with
  | none => .error (.invalidArgument, "Invalid timestamp")
  | some dt => .ok dt

/-- `ok_or_else` on a time and `from_proto_timestamp`. -/
def fromProtoTime (missing : String) (ts : Option Timestamp) : Except GrpcStatus UtcTime :=
  match ts with
  | none => .error (.invalidArgument, missing)
  | some ts => fromProtoTimestamp ts

def toProtoAttestation (sa : SignedAttestation) : ProtoSignedAttestation where
  claim := some
    { subjectDid := sa.claim.subjectDid
      publicKeyB64 := sa.claim.publicKeyB64
      issuedAt := some (toProtoTimestamp sa.claim.issuedAt)
      expiresAt := some (toProtoTimestamp sa.claim.expiresAt) }
  registryDid := sa.registryDid
  signatureB64 := sa.signatureB64

def fromProtoAttestation (sa : ProtoSignedAttestation) : Except GrpcStatus SignedAttestation := do
  let protoClaim ← match sa.claim with
    | none => .error (.invalidArgument, "Missing claim")
    | some protoClaim => .ok protoClaim
  let issuedAt ← fromProtoTime "Missing issued_at" protoClaim.issuedAt
  let expiresAt ← fromProtoTime "Missing expires_at" protoClaim.expiresAt
  return {
    claim :=
      { subjectDid := protoClaim.subjectDid
        publicKeyB64 := protoClaim.publicKeyB64
        issuedAt := issuedAt
        expiresAt := expiresAt }
    registryDid := sa.registryDid
    signatureB64 := sa.signatureB64 }

def toProtoEscalationRequest (req : EscalationRequest) : ProtoEscalationRequest where
  agentDid := req.agentDid
  currentRing := toProtoRing req.currentRing
  requestedRing := toProtoRing req.requestedRing
  reason := req.reason
  timestamp := some (toProtoTimestamp req.timestamp)

def fromProtoEscalationRequest (req : ProtoEscalationRequest) :
    Except GrpcStatus EscalationRequest := do
  let currentRing ← fromProtoRing req.currentRing
  let requestedRing ← fromProtoRing req.requestedRing
  let timestamp ← fromProtoTime "Missing timestamp" req.timestamp
  return {
    agentDid := req.agentDid
    currentRing := currentRing
    requestedRing := requestedRing
    reason := req.reason
    timestamp := timestamp }

/-! ## Rings and times -/

/-- A number is read as the ring that is sent as it. -/
theorem fromProtoRing_eq_ok_iff {n : Int32} {ring : PrivilegeRing} :
    fromProtoRing n = .ok ring ↔ n = toProtoRing ring := by
  constructor
  · intro h
    unfold fromProtoRing at h
    split_ifs at h with hsystem htrusted hstandard hsandboxed
    all_goals cases h
    all_goals assumption
  · rintro rfl
    exact fromProtoRing_toProtoRing ring

/-- A message is read as the time that is sent as it. -/
theorem fromProtoTimestamp_eq_ok_iff {ts : Timestamp} {dt : UtcTime} :
    fromProtoTimestamp ts = .ok dt ↔ ts = toProtoTimestamp dt := by
  -- the casts between `i32` and `u32` are inverse
  have hcast : dt.nanos = ts.nanos.toUInt32 ↔ ts.nanos = dt.nanos.toInt32 := by
    constructor
    · intro h
      rw [h]
      simp
    · intro h
      rw [h]
      simp
  have hread : fromProtoTimestamp ts = .ok dt ↔
      UtcTime.timestampOpt ts.seconds ts.nanos.toUInt32 = some dt := by
    unfold fromProtoTimestamp
    cases UtcTime.timestampOpt ts.seconds ts.nanos.toUInt32 with
    | none => simp
    | some t => simp
  rw [hread, UtcTime.timestampOpt_eq_some_iff, hcast]
  obtain ⟨seconds, nanos⟩ := ts
  simp [toProtoTimestamp, eq_comm]

theorem fromProtoTime_eq_ok_iff {missing : String} {ts : Option Timestamp} {dt : UtcTime} :
    fromProtoTime missing ts = .ok dt ↔ ts = some (toProtoTimestamp dt) := by
  cases ts with
  | none => simp [fromProtoTime]
  | some ts => simp [fromProtoTime, fromProtoTimestamp_eq_ok_iff]

/-- What was sent is read. -/
@[simp] theorem fromProtoTime_toProtoTimestamp (missing : String) (dt : UtcTime) :
    fromProtoTime missing (some (toProtoTimestamp dt)) = .ok dt :=
  fromProtoTime_eq_ok_iff.mpr rfl

/-- Negative nanoseconds are no time: as a `u32` they exceed those of a leap second. -/
theorem fromProtoTimestamp_of_neg {ts : Timestamp} (h : ts.nanos.toInt < 0) :
    fromProtoTimestamp ts = .error (.invalidArgument, "Invalid timestamp") := by
  have hlarge : 2000000000 ≤ ts.nanos.toUInt32.toNat := by
    have hcast := BitVec.toInt_eq_toNat_cond ts.nanos.toBitVec
    rw [Int32.toNat_toBitVec, Int32.toInt_toBitVec] at hcast
    omega
  have hinvalid : ¬ ValidTime ts.seconds ts.nanos.toUInt32 := by
    rintro ⟨-, -, hnanos⟩
    omega
  simp only [fromProtoTimestamp, UtcTime.timestampOpt, dif_neg hinvalid]

/-! ## Messages -/

@[simp] theorem fromProtoAttestation_toProtoAttestation (sa : SignedAttestation) :
    fromProtoAttestation (toProtoAttestation sa) = .ok sa := by
  simp only [fromProtoAttestation, toProtoAttestation, bind, Except.bind,
    fromProtoTime_toProtoTimestamp]
  rfl

@[simp] theorem fromProtoEscalationRequest_toProto (req : EscalationRequest) :
    fromProtoEscalationRequest (toProtoEscalationRequest req) = .ok req := by
  simp only [fromProtoEscalationRequest, toProtoEscalationRequest, fromProtoRing_toProtoRing,
    fromProtoTime_toProtoTimestamp]
  rfl

/-- A read in two parts succeeds when both do. -/
theorem bind_eq_ok_iff {α β : Type} {x : Except GrpcStatus α} {f : α → Except GrpcStatus β}
    {b : β} : x >>= f = .ok b ↔ ∃ a, x = .ok a ∧ f a = .ok b := by
  cases x with
  | error e => simp [bind, Except.bind]
  | ok a => simp [bind, Except.bind]

/-- **Attestations**: a message is read as the attestation that is sent as it. -/
theorem fromProtoAttestation_eq_ok_iff {m : ProtoSignedAttestation} {sa : SignedAttestation} :
    fromProtoAttestation m = .ok sa ↔ m = toProtoAttestation sa := by
  refine ⟨fun h => ?_, fun h => by rw [h, fromProtoAttestation_toProtoAttestation]⟩
  obtain ⟨claim, registryDid, signatureB64⟩ := m
  -- every part that is read is the one that is sent for it
  unfold fromProtoAttestation at h
  cases claim with
  | none => cases h
  | some claim =>
    obtain ⟨protoClaim, hclaim, h⟩ := bind_eq_ok_iff.mp h
    obtain rfl := Except.ok.inj hclaim
    obtain ⟨issuedAt, hissued, h⟩ := bind_eq_ok_iff.mp h
    obtain ⟨expiresAt, hexpires, h⟩ := bind_eq_ok_iff.mp h
    obtain rfl := Except.ok.inj h
    rw [toProtoAttestation, ← fromProtoTime_eq_ok_iff.mp hissued,
      ← fromProtoTime_eq_ok_iff.mp hexpires]

/-- **Requests**: a message is read as the request that is sent as it. -/
theorem fromProtoEscalationRequest_eq_ok_iff {m : ProtoEscalationRequest}
    {req : EscalationRequest} :
    fromProtoEscalationRequest m = .ok req ↔ m = toProtoEscalationRequest req := by
  refine ⟨fun h => ?_, fun h => by rw [h, fromProtoEscalationRequest_toProto]⟩
  unfold fromProtoEscalationRequest at h
  obtain ⟨currentRing, hcurrent, h⟩ := bind_eq_ok_iff.mp h
  obtain ⟨requestedRing, hrequested, h⟩ := bind_eq_ok_iff.mp h
  obtain ⟨timestamp, htime, h⟩ := bind_eq_ok_iff.mp h
  obtain rfl := Except.ok.inj h
  rw [toProtoEscalationRequest, ← fromProtoRing_eq_ok_iff.mp hcurrent,
    ← fromProtoRing_eq_ok_iff.mp hrequested, ← fromProtoTime_eq_ok_iff.mp htime]

/-! ## Verification -/

/-- `canonical_bytes`: the JSON text of the claim. -/
def AttestationClaim.canonicalBytes (claim : AttestationClaim) : Bytes :=
  (utf8.spell
    ((jsonString.tagged (objectKey '{' "subject_did")).pair
    ((jsonString.tagged (objectKey ',' "public_key_b64")).pair
    ((UtcTime.json.tagged (objectKey ',' "issued_at")).pair
    ((UtcTime.json.tagged (objectKey ',' "expires_at")).ended ['}']))))).enc
    (claim.subjectDid, claim.publicKeyB64, claim.issuedAt, claim.expiresAt)

variable (C : Crypto)

/-- The checks of `verify` behind that of the expiry. -/
def verifyPayload (payload : Bytes) (registryPubkeyB64 signatureB64 : String) :
    Except AttestationError Unit :=
  match C.decode64 registryPubkeyB64 with
  | .error e => .error (.invalidPublicKey e)
  | .ok pubkeyBytes =>
    match tryInto 32 pubkeyBytes with
    | none => .error (.invalidPublicKey "Wrong length")
    | some verifyingKey =>
      match C.checkKey verifyingKey with
      | .error e => .error (.invalidPublicKey e)
      | .ok () =>
        match C.decode64 signatureB64 with
        | .error _ => .error .invalidSignature
        | .ok signatureBytes =>
          match tryInto 64 signatureBytes with
          | none => .error .invalidSignature
          | some signature =>
            if C.verify verifyingKey payload signature then .ok ()
            else .error .invalidSignature

def SignedAttestation.verify (sa : SignedAttestation) (registryPubkeyB64 : String)
    (now : UtcTime) : Except AttestationError Unit :=
  if sa.claim.expiresAt.Before now then .error .expired
  else verifyPayload C sa.claim.canonicalBytes registryPubkeyB64 sa.signatureB64

/-! ## Times as numbers of nanoseconds -/

/-- The claim with its times in nanoseconds. -/
def AttestationClaim.coarse (claim : AttestationClaim) : Mesh.AttestationClaim where
  subjectDid := claim.subjectDid
  publicKeyB64 := claim.publicKeyB64
  issuedAt := claim.issuedAt.toNanos
  expiresAt := claim.expiresAt.toNanos

/-- The attestation with its times in nanoseconds. -/
def SignedAttestation.coarse (sa : SignedAttestation) : Mesh.SignedAttestation where
  claim := sa.claim.coarse
  registryDid := sa.registryDid
  signatureB64 := sa.signatureB64

/-- The request with its time in nanoseconds. -/
def EscalationRequest.coarse (req : EscalationRequest) : Mesh.EscalationRequest where
  agentDid := req.agentDid
  currentRing := req.currentRing
  requestedRing := req.requestedRing
  reason := req.reason
  timestamp := req.timestamp.toNanos

variable {C}

/-- The signed text is the same. -/
theorem canonicalBytes_coarse {claim : AttestationClaim} (hissued : claim.issuedAt.Ordinary)
    (hexpires : claim.expiresAt.Ordinary) :
    claim.coarse.canonicalBytes = claim.canonicalBytes := by
  simp only [AttestationClaim.canonicalBytes, Mesh.AttestationClaim.canonicalBytes,
    AttestationClaim.coarse, PrefixCode.spell, PrefixCode.pair, PrefixCode.tagged,
    PrefixCode.ended, UtcTime.json_enc_of_ordinary hissued,
    UtcTime.json_enc_of_ordinary hexpires]

/-- **Verification** outside leap seconds is that of the rest of the model. -/
theorem verify_coarse {sa : SignedAttestation} (hissued : sa.claim.issuedAt.Ordinary)
    (hexpires : sa.claim.expiresAt.Ordinary) {now : UtcTime} (hnow : now.Ordinary)
    (registryPubkeyB64 : String) :
    sa.coarse.verify C registryPubkeyB64 now.toNanos = sa.verify C registryPubkeyB64 now := by
  have hverify : sa.coarse.verify C registryPubkeyB64 now.toNanos =
      if sa.claim.expiresAt.toNanos < now.toNanos then .error .expired
      else verifyPayload C sa.claim.coarse.canonicalBytes registryPubkeyB64 sa.signatureB64 := rfl
  rw [hverify, canonicalBytes_coarse hissued hexpires, SignedAttestation.verify]
  simp only [UtcTime.before_iff_toNanos_lt hexpires hnow]

/-- **Requests** are read as in the rest of the model. -/
theorem fromProtoEscalationRequest_coarse {W : GrpcWire}
    (hchrono : ∀ ts, W.timestampOpt ts =
      (UtcTime.timestampOpt ts.seconds ts.nanos.toUInt32).map UtcTime.toNanos)
    (m : ProtoEscalationRequest) :
    Daemon.fromProtoEscalationRequest W m =
      (fromProtoEscalationRequest m).map EscalationRequest.coarse := by
  unfold Daemon.fromProtoEscalationRequest fromProtoEscalationRequest
  -- the two functions make the same checks in the same order
  cases fromProtoRing m.currentRing with
  | error e => rfl
  | ok currentRing =>
    cases fromProtoRing m.requestedRing with
    | error e => rfl
    | ok requestedRing =>
      cases m.timestamp with
      | none => rfl
      | some ts =>
        -- `chrono` decides in both
        simp only [bind, Except.bind, Daemon.fromProtoTimestamp, hchrono, fromProtoTime,
          fromProtoTimestamp]
        cases UtcTime.timestampOpt ts.seconds ts.nanos.toUInt32 with
        | none => rfl
        | some t => rfl

/-! ## The two directions -/

/-- **The conversions are inverse**: what is sent is read back, so that `verify` answers alike before
    and after, and a message that is read is what would be sent for it. -/
theorem fromProto_toProto (C : Crypto) :
    (∀ sa : SignedAttestation, fromProtoAttestation (toProtoAttestation sa) = .ok sa) ∧
    (∀ req : EscalationRequest,
      fromProtoEscalationRequest (toProtoEscalationRequest req) = .ok req) ∧
    (∀ (sa : SignedAttestation) (registryPubkeyB64 : String) (now : UtcTime),
      (fromProtoAttestation (toProtoAttestation sa)).map (·.verify C registryPubkeyB64 now) =
        .ok (sa.verify C registryPubkeyB64 now)) ∧
    (∀ (m : ProtoSignedAttestation) (sa : SignedAttestation),
      fromProtoAttestation m = .ok sa ↔ toProtoAttestation sa = m) ∧
    ∀ (m : ProtoEscalationRequest) (req : EscalationRequest),
      fromProtoEscalationRequest m = .ok req ↔ toProtoEscalationRequest req = m := by
  refine ⟨fromProtoAttestation_toProtoAttestation, fromProtoEscalationRequest_toProto, ?_, ?_, ?_⟩
  · -- what comes back is the attestation itself, so it verifies as before
    intro sa registryPubkeyB64 now
    rw [fromProtoAttestation_toProtoAttestation]
    rfl
  · -- the inverse is two-sided
    intro m sa
    rw [fromProtoAttestation_eq_ok_iff, eq_comm]
  · intro m req
    rw [fromProtoEscalationRequest_eq_ok_iff, eq_comm]

/-- A message with a leap second outside the last second of a minute, and one without a claim. -/
example : (fromProtoTimestamp { seconds := 0, nanos := 1000000000 }).isOk = false ∧
    (fromProtoAttestation { claim := none, registryDid := "", signatureB64 := "" }).isOk = false := by
  decide +kernel

end AgentGovernance.Daemon.Convert
