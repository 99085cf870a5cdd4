import AgentGovernance.Mesh.Basic
import Mathlib.Order.Lattice
import Mathlib.Order.Defs.LinearOrder

/-!
# Privilege rings and agent identities

`crates/core/mesh/src/identity/agent_id.rs`: the four privilege rings with their
derived order, decentralized identifiers, and the signature check of an identity.
-/

namespace AgentGovernance.Mesh

open AgentGovernance.Lib

/-! ## Privilege rings -/

/-- `PrivilegeRing`, most privileged first. -/
inductive PrivilegeRing where
  | system
  | trusted
  | standard
  | sandboxed
  deriving DecidableEq, Repr

namespace PrivilegeRing

/-- The discriminant, which the derived `Ord` compares. -/
def rank : PrivilegeRing → Nat
  | .system => 0
  | .trusted => 1
  | .standard => 2
  | .sandboxed => 3

theorem rank_injective : Function.Injective rank := by
  intro a b h
  cases a <;> cases b <;> first | rfl | exact absurd h (by decide)

instance : LinearOrder PrivilegeRing :=
  LinearOrder.lift' rank rank_injective

/-- `impl Display for PrivilegeRing`. -/
def toText : PrivilegeRing → String
  | .system => "System"
  | .trusted => "Trusted"
  | .standard => "Standard"
  | .sandboxed => "Sandboxed"

theorem toText_injective : Function.Injective toText := by
  intro a b h
  cases a <;> cases b <;> first | rfl | exact absurd h (by decide)

end PrivilegeRing

/-! ## Identities -/

structure AgentDID where
  method : String
  uniqueId : String
  deriving DecidableEq, Repr

/-- `impl Display for AgentDID`. -/
def AgentDID.toText (d : AgentDID) : String :=
  "did:" ++ d.method ++ ":" ++ d.uniqueId

/-- `serde_json` of `AgentDID`. -/
def AgentDID.json : PrefixCode Char AgentDID :=
  (((jsonString.tagged (objectKey '{' "method")).pair
    (jsonString.tagged (objectKey ',' "unique_id"))).ended ['}']).comap
    (fun did => (did.method, did.uniqueId)) (fun a b h => by
      cases a
      cases b
      simp_all)

theorem AgentDID.json_printable : AgentDID.json.Printable :=
  .comap (.ended (.pair (.tagged jsonString_printable (by decide))
    (.tagged jsonString_printable (by decide))) (by decide)) _ _

structure AgentIdentity where
  did : AgentDID
  name : String
  /-- Base64 text, not checked by anything that stores it. -/
  publicKey : String
  sponsorEmail : String
  capabilities : List String
  status : String
  parentDid : Option String
  delegationDepth : UInt32
  privateKey : Option (ByteArr 32)

/-- The identity that request and approval checks fill in to verify a signature with a
    public key taken from an attestation. -/
def identityStub (pubkeyB64 : String) : AgentIdentity where
  publicKey := pubkeyB64
  did := { method := "", uniqueId := "" }
  name := ""
  sponsorEmail := ""
  capabilities := []
  status := ""
  parentDid := none
  delegationDepth := 0
  privateKey := none

variable (C : Crypto)

/-- `AgentIdentity::verify_signature`.  A key of the wrong length is replaced by 32 zero
    bytes (`unwrap_or(&[0u8; 32])`) and the check goes on with that key. -/
def AgentIdentity.verifySignature (identity : AgentIdentity) (data signature : Bytes) : Bool :=
  match C.decode64 identity.publicKey with
  | .error _ => false
  | .ok publicKeyBytes =>
    let key := (tryInto 32 publicKeyBytes).getD zeroKey
    match C.checkKey key with
    | .error _ => false
    | .ok () =>
      match tryInto 64 signature with
      | none => false
      | some sig => C.verify key data sig

/-- `VerifyingKey::from_bytes(key)?.verify(data, Signature::from_slice(signature)?).is_ok()`:
    the key is valid and accepts the signature bytes. -/
def Crypto.accepts (key : ByteArr 32) (data signature : Bytes) : Prop :=
  C.checkKey key = .ok () ∧ ∃ sig, tryInto 64 signature = some sig ∧ C.verify key data sig = true

/-- A signature is verified under the decoded key, or under the zero key when the decoded
    bytes have the wrong length. -/
theorem verifySignature_iff (identity : AgentIdentity) (data signature : Bytes) :
    identity.verifySignature C data signature = true ↔
      ∃ bs, C.decode64 identity.publicKey = .ok bs ∧
        C.accepts ((tryInto 32 bs).getD zeroKey) data signature := by
  unfold AgentIdentity.verifySignature Crypto.accepts
  -- the checks in the order of the source: key text, key bytes, signature length
  cases C.decode64 identity.publicKey with
  | error e => simp
  | ok bs =>
    simp only [Except.ok.injEq, exists_eq_left']
    cases C.checkKey ((tryInto 32 bs).getD zeroKey) with
    | error e => simp
    | ok u =>
      cases htry : tryInto 64 signature with
      | none =>
        -- a signature of another length is rejected before it is verified
        simp
      | some sig => simp

variable {C} in
/-- A signature is checked under the public key of the pair. -/
theorem AgentIdentity.verifySignature_of_key {identity : AgentIdentity} {k : ByteArr 32}
    (hpublic : identity.publicKey = C.encode64 (C.verifyingKey k).val) (data : Bytes)
    (sig : ByteArr 64) :
    identity.verifySignature C data sig.val = C.verify (C.verifyingKey k) data sig := by
  simp [AgentIdentity.verifySignature, hpublic, C.decode64_encode64, C.checkKey_verifyingKey]

end AgentGovernance.Mesh
