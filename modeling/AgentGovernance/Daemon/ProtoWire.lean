import AgentGovernance.Daemon.Requests
import AgentGovernance.Lib.Protobuf

/-!
# The bytes that a gRPC caller signs

`encode_to_vec` of the request messages in `proto/agt/v1/`, as prost generates it: fields in the
order of their numbers, and no field for a default value.  The caller signs these bytes and
nothing else; the method is not part of them.

`signed_bytes_eq_iff` says which messages have the same bytes, and `authenticates_of_bytes_eq`
that a signature of one of them is then a signature of the other.
-/

namespace AgentGovernance.Daemon

open AgentGovernance.Lib AgentGovernance.Mesh AgentGovernance.Compliance AgentGovernance.Discovery
open AgentGovernance.McpGovernance AgentGovernance.Runtime
open Protobuf (Field Payload numbered repeatedField stringPayload varintPayload messagePayload)

/-! ## Fields of the messages -/

/-- A value of type `string`. -/
def textPayload (s : String) : Option Payload :=
  stringPayload (stringBytes s)

/-- A value of type `int64`, cast to `u64`. -/
def int64Payload (n : Int64) : Option Payload :=
  varintPayload n.toUInt64.toNat

/-- A value of type `int32` or of an enumeration, cast to `u64` with its sign. -/
def int32Payload (n : Int32) : Option Payload :=
  int64Payload n.toInt64

/-- `google.protobuf.Timestamp`. -/
def Timestamp.fields (ts : Timestamp) : List Field :=
  numbered 1 [int64Payload ts.seconds, int32Payload ts.nanos]

/-- `AgentDID`. -/
def didFields (did : AgentDID) : List Field :=
  numbered 1 [textPayload did.method, textPayload did.uniqueId]

/-- `AgentIdentity`. -/
def ProtoIdentity.fields (id : ProtoIdentity) : List Field :=
  numbered 1 [messagePayload (id.did.map didFields), textPayload id.name,
    textPayload id.publicKeyB64, textPayload id.sponsorEmail] ++
  repeatedField 5 (id.capabilities.map stringBytes) ++
  numbered 6 [int32Payload id.ring]

/-- The values of a request message, in the order of their field numbers. -/
def GrpcMessage.payloads : GrpcMessage → List (Option Payload)
  | .register identity ring =>
    [messagePayload (identity.map ProtoIdentity.fields), int32Payload ring]
  | .getAttestation did => [textPayload did]
  | .watchPresence sinceTimestamp => [textPayload sinceTimestamp]
  | .reportPresence name address => [textPayload name, textPayload address]
  | .watchShadows sinceTimestamp => [messagePayload (sinceTimestamp.map Timestamp.fields)]
  | .requestEscalation request =>
    [textPayload request.agentDid, int32Payload request.currentRing,
      int32Payload request.requestedRing, textPayload request.reason,
      messagePayload (request.timestamp.map Timestamp.fields)]
  | .approve requestId approverDid signatureB64 =>
    [textPayload requestId, textPayload approverDid, textPayload signatureB64]
  | .deny requestId approverDid cause =>
    [textPayload requestId, textPayload approverDid, textPayload cause]
  | .listPending => []
  | .getPolicy agentDid => [textPayload agentDid]
  | .setPolicy agentDid policyJson => [textPayload agentDid, textPayload policyJson]

def GrpcMessage.fields (message : GrpcMessage) : List Field :=
  numbered 1 message.payloads

def GrpcMessage.encodeToVec (message : GrpcMessage) : Bytes :=
  Protobuf.encode message.fields

/-! ## Methods -/

/-- The methods of the three services. -/
inductive Rpc where
  | register
  | getAttestation
  | watchPresence
  | reportPresence
  | watchShadows
  | requestEscalation
  | approve
  | deny
  | listPending
  | getPolicy
  | setPolicy
  deriving DecidableEq, Repr

def GrpcMessage.rpc : GrpcMessage → Rpc
  | .register _ _ => .register
  | .getAttestation _ => .getAttestation
  | .watchPresence _ => .watchPresence
  | .reportPresence _ _ => .reportPresence
  | .watchShadows _ => .watchShadows
  | .requestEscalation _ => .requestEscalation
  | .approve _ _ _ => .approve
  | .deny _ _ _ => .deny
  | .listPending => .listPending
  | .getPolicy _ => .getPolicy
  | .setPolicy _ _ => .setPolicy

/-- The handler calls `verify_request_signature`. -/
def Rpc.verifies : Rpc → Bool
  | .watchPresence => false
  | _ => true

/-! ## Equal bytes -/

/-- What a message carries under a field number; a default value is nothing. -/
def GrpcMessage.payloadAt (message : GrpcMessage) (number : Nat) : Option Payload :=
  Protobuf.payloadAt message.fields number

/-- A request of a method that verifies is authenticated by its metadata and its bytes alone. -/
theorem authenticates_of_bytes_eq {C : Crypto} {W : GrpcWire} {m m' : GrpcMessage}
    (hbytes : W.encodeToVec m = W.encodeToVec m') (s : ServerState)
    (agentDid signature : HeaderValue) (reads : RequestReads) (did : String) :
    s.Authenticates C W (.grpc ⟨agentDid, signature, m⟩) reads did ↔
      s.Authenticates C W (.grpc ⟨agentDid, signature, m'⟩) reads did := by
  unfold ServerState.Authenticates
  simp only [hbytes, ServerState.extractGrpcAuth]

/-- **Signed bytes**: two messages, of one method or of two, have the same bytes exactly when they
    carry the same payload, or none, under every field number. -/
theorem signed_bytes_eq_iff (m m' : GrpcMessage) :
    m.encodeToVec = m'.encodeToVec ↔ ∀ number, m.payloadAt number = m'.payloadAt number := by
  constructor
  · intro hbytes number
    -- the bytes tell the fields, and these are all that a message writes
    have hfields : m.fields = m'.fields := Protobuf.encode_injective hbytes
    rw [GrpcMessage.payloadAt, GrpcMessage.payloadAt, hfields]
  · intro hpayloads
    -- each number stands for one field, so the fields are the same ones in the same order
    have hfields : m.fields = m'.fields :=
      (Protobuf.ordered_numbered 1 _).ext (Protobuf.ordered_numbered 1 _) hpayloads
    rw [GrpcMessage.encodeToVec, GrpcMessage.encodeToVec, hfields]

/-- A signed approval and a denial with the signature as its cause have the same bytes. -/
theorem signed_bytes_shared :
    ¬ ∀ m m' : GrpcMessage, m.rpc ≠ m'.rpc → m.rpc.verifies = true → m'.rpc.verifies = true →
      m.encodeToVec ≠ m'.encodeToVec := by
  intro h
  have hdiffer := h
    (.approve "07070707-0707-0707-0707-070707070707" "did:mesh:admin" "c2lnbmF0dXJl")
    (.deny "07070707-0707-0707-0707-070707070707" "did:mesh:admin" "c2lnbmF0dXJl")
    (by decide) rfl rfl
  -- three strings under the numbers 1 to 3 in both
  exact hdiffer rfl

end AgentGovernance.Daemon
