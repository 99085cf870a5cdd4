import AgentGovernance.Lib.Base64
import AgentGovernance.Lib.Hex
import AgentGovernance.Lib.JsonText
import Mathlib.Algebra.Group.Nat.Defs
import Mathlib.Logic.Equiv.Basic

/-!
# Identifiers, clocks and signatures

The external building blocks of the mesh: `uuid::Uuid`, `chrono::DateTime<Utc>`,
standard base64 and Ed25519.  The last two are a structure of functions with the
documented laws the code relies on, so every result holds for any implementation.
-/

namespace AgentGovernance.Mesh

open AgentGovernance.Lib

/-! ## Uuid -/

structure Uuid where
  bytes : Bytes
  length_bytes : bytes.length = 16
  deriving DecidableEq

namespace Uuid

/-- The digits of the hyphenated form, in groups of 4, 2, 2, 2 and 6 bytes. -/
def hyphenated (u : Uuid) : List Char :=
  hexDigits (u.bytes.take 4) ++ '-' :: hexDigits ((u.bytes.drop 4).take 2) ++
    '-' :: hexDigits ((u.bytes.drop 6).take 2) ++ '-' :: hexDigits ((u.bytes.drop 8).take 2) ++
    '-' :: hexDigits (u.bytes.drop 10)

/-- `impl Display for Uuid`. -/
def toText (u : Uuid) : String :=
  String.ofList u.hyphenated

/-- The uuid whose bytes are all equal. -/
def fill (b : UInt8) : Uuid where
  bytes := List.replicate 16 b
  length_bytes := List.length_replicate

theorem filter_hexDigits (bs : Bytes) : (hexDigits bs).filter (· ≠ '-') = hexDigits bs := by
  refine List.filter_eq_self.mpr ?_
  intro c hc
  exact decide_eq_true (ne_of_mem_hexDigits hc).2

/-- Dropping the hyphens leaves the digits of the bytes. -/
theorem filter_hyphenated (u : Uuid) :
    u.hyphenated.filter (· ≠ '-') = hexDigits u.bytes := by
  -- the five groups of the text are the 16 bytes in order
  have hbytes : u.bytes = u.bytes.take 4 ++ ((u.bytes.drop 4).take 2 ++ ((u.bytes.drop 6).take 2 ++
      ((u.bytes.drop 8).take 2 ++ u.bytes.drop 10))) := by
    have h10 : u.bytes.drop 10 = (u.bytes.drop 8).drop 2 := by rw [List.drop_drop]
    have h8 : u.bytes.drop 8 = (u.bytes.drop 6).drop 2 := by rw [List.drop_drop]
    have h6 : u.bytes.drop 6 = (u.bytes.drop 4).drop 2 := by rw [List.drop_drop]
    rw [h10, List.take_append_drop, h8, List.take_append_drop, h6, List.take_append_drop,
      List.take_append_drop]
  conv_rhs => rw [hbytes]
  simp only [hexDigits_append, hyphenated, List.filter_append, List.filter_cons, filter_hexDigits]
  simp

theorem toText_injective : Function.Injective toText := by
  intro u v h
  have hh : u.hyphenated = v.hyphenated := String.ofList_inj.mp h
  have hd : hexDigits u.bytes = hexDigits v.bytes := by
    rw [← filter_hyphenated, ← filter_hyphenated, hh]
  cases u
  cases v
  congr
  exact hexDigits_injective hd

/-- The JSON string of a uuid. -/
def json : PrefixCode Char Uuid :=
  jsonString.comap toText toText_injective

theorem json_printable : json.Printable :=
  .comap jsonString_printable _ _

end Uuid

/-! ## Time -/

/-- `chrono::DateTime<Utc>`, as nanoseconds since the Unix epoch. -/
abbrev DateTime := Int

/-- `chrono::Duration`, in nanoseconds. -/
abbrev Duration := Int

def hours (n : Int) : Duration :=
  n * 3600 * 1000000000

/-! ## Keys and signatures -/

/-- A Rust array of bytes. -/
abbrev ByteArr (n : Nat) := { bs : Bytes // bs.length = n }

/-- `<[u8; n]>::try_from`. -/
def tryInto (n : Nat) (bs : Bytes) : Option (ByteArr n) :=
  if h : bs.length = n then some ⟨bs, h⟩ else none

/-- The same byte everywhere. -/
def ByteArr.fill {n : Nat} (b : UInt8) : ByteArr n :=
  ⟨List.replicate n b, List.length_replicate⟩

/-- `[0u8; 32]`. -/
def zeroKey : ByteArr 32 :=
  ⟨List.replicate 32 0, List.length_replicate⟩

theorem tryInto_eq_some {n : Nat} {bs : Bytes} {a : ByteArr n} :
    tryInto n bs = some a ↔ bs = a.val := by
  unfold tryInto
  constructor
  · intro h
    split at h
    · rw [← Option.some.inj h]
    · cases h
  · rintro rfl
    rw [dif_pos a.property]

theorem tryInto_eq_none {n : Nat} {bs : Bytes} : tryInto n bs = none ↔ bs.length ≠ n := by
  simp [tryInto]

@[simp] theorem tryInto_val {n : Nat} (a : ByteArr n) : tryInto n a.val = some a :=
  tryInto_eq_some.mpr rfl

/-- Standard base64 and Ed25519.  A signing key is its 32 secret bytes. -/
structure Crypto where
  /-- `general_purpose::STANDARD.encode`. -/
  encode64 : Bytes → String
  /-- `general_purpose::STANDARD.decode`, with the text of its error. -/
  decode64 : String → Except String Bytes
  decode64_encode64 : ∀ bs, decode64 (encode64 bs) = .ok bs
  /-- `VerifyingKey::from_bytes`, with the text of its error. -/
  checkKey : ByteArr 32 → Except String Unit
  /-- `Verifier::verify(..).is_ok()` for a key that was accepted. -/
  verify : ByteArr 32 → Bytes → ByteArr 64 → Bool
  /-- `SigningKey::verifying_key().to_bytes()`. -/
  verifyingKey : ByteArr 32 → ByteArr 32
  /-- `SigningKey::sign(..).to_bytes()`. -/
  sign : ByteArr 32 → Bytes → ByteArr 64
  checkKey_verifyingKey : ∀ k, checkKey (verifyingKey k) = .ok ()
  verify_sign : ∀ k data, verify (verifyingKey k) data (sign k data) = true

/-! ## Test vectors -/

/-- Recorded Ed25519 answers: a key pair with signatures it made, and further triples of key,
    data and signature that verify. -/
structure Vectors where
  seed : ByteArr 32
  publicKey : ByteArr 32
  signed : List (Bytes × ByteArr 64)
  accepted : List (ByteArr 32 × Bytes × ByteArr 64)

/-- The recorded signature of the key pair; any other signature is a blank. -/
def Vectors.lookup (V : Vectors) (isSeed : Bool) (data : Bytes) : ByteArr 64 :=
  if isSeed then (V.signed.lookup data).getD blank else blank
where
  /-- 64 zero bytes. -/
  blank : ByteArr 64 := ⟨List.replicate 64 0, List.length_replicate⟩

/-- Standard base64 with an Ed25519 that answers from the recorded vectors. -/
def Crypto.ofVectors (V : Vectors) : Crypto where
  encode64 := Base64.encodeText
  decode64 s := ((Base64.decodeText s).map .ok).getD (.error "Invalid input")
  decode64_encode64 bs := by rw [Base64.decodeText_encodeText]; rfl
  checkKey _ := .ok ()
  verify key data sig :=
    sig = V.lookup (key = V.publicKey) data || V.accepted.contains (key, data, sig)
  verifyingKey k := Equiv.swap V.seed V.publicKey k
  sign k data := V.lookup (k = V.seed) data
  checkKey_verifyingKey _ := rfl
  verify_sign k data := by
    -- the swap sends the recorded seed, and nothing else, to the recorded public key
    have hkey : Equiv.swap V.seed V.publicKey k = V.publicKey ↔ k = V.seed := by
      rw [Equiv.swap_apply_eq_iff, Equiv.swap_apply_right]
    simp [hkey]

/-- A seed of 32 equal bytes. -/
def registrySeed : ByteArr 32 :=
  ⟨List.replicate 32 1, List.length_replicate⟩

def registryKey : ByteArr 32 :=
  ⟨(Base64.decodeText "iojj3XQJ8ZX9UtstPLpdcspnCb8dlBIb83SIAbQPb1w=").getD [], by decide +kernel⟩

/-- Another seed of 32 equal bytes. -/
def secondSeed : ByteArr 32 :=
  ⟨List.replicate 32 2, List.length_replicate⟩

/-- The 32 bytes of a hexadecimal number, the first digits first. -/
def bytes32 (n : Nat) : ByteArr 32 :=
  ⟨(List.range 32).map fun i => UInt8.ofNat (n / 256 ^ (31 - i)), by simp⟩

/-- The public key of the second seed. -/
def secondKey : ByteArr 32 :=
  bytes32 0x8139770ea87d175f56a35466c34c7ecccb8d8a91b4ee37a25df60f5b8fc9b394

/-- A signature from its two halves. -/
def signatureOf (r s : Nat) : ByteArr 64 :=
  ⟨(bytes32 r).val ++ (bytes32 s).val, by
    rw [List.length_append, (bytes32 r).property, (bytes32 s).property]⟩

/-- Standard base64 with an Ed25519 of several key pairs: `keys` sends their seeds to their public
    keys, and only the recorded signatures are real. -/
def Crypto.ofKeyPairs (keys : Equiv.Perm (ByteArr 32))
    (signed : List ((ByteArr 32 × Bytes) × ByteArr 64)) : Crypto where
  encode64 := Base64.encodeText
  decode64 s := ((Base64.decodeText s).map .ok).getD (.error "Invalid input")
  decode64_encode64 bs := by rw [Base64.decodeText_encodeText]; rfl
  checkKey _ := .ok ()
  verify key data sig := sig = (signed.lookup (keys.symm key, data)).getD Vectors.lookup.blank
  verifyingKey := keys
  sign k data := (signed.lookup (k, data)).getD Vectors.lookup.blank
  checkKey_verifyingKey _ := rfl
  verify_sign k data := by rw [Equiv.symm_apply_apply, decide_eq_true_iff]

/-- A public key accepts the one signature of its key pair. -/
theorem Crypto.verify_ofKeyPairs (keys : Equiv.Perm (ByteArr 32))
    (signed : List ((ByteArr 32 × Bytes) × ByteArr 64)) (k : ByteArr 32) (data : Bytes)
    (sig : ByteArr 64) :
    (ofKeyPairs keys signed).verify ((ofKeyPairs keys signed).verifyingKey k) data sig = true ↔
      sig = (ofKeyPairs keys signed).sign k data := by
  simp [ofKeyPairs]

end AgentGovernance.Mesh
