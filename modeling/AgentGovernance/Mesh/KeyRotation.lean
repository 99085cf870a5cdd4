import AgentGovernance.Compliance.ActionLogJson
import AgentGovernance.Daemon.Server
import AgentGovernance.Lib.Runs
import AgentGovernance.Mesh.RegistryJson

/-!
# Creating, rotating and loading an identity

`AgentIdentity::create`, `load` and `sign` in `crates/core/mesh/src/identity/agent_id.rs` and
`rotate_keys` in `rotation.rs`.  The public half of a key pair is in the identity and its JSON
text, the private half in memory and in the key store; a rotation leaves the key store alone.
-/

namespace AgentGovernance.Mesh

open AgentGovernance.Lib AgentGovernance.Compliance
open AgentGovernance.Daemon (MemoryKeyStore)

/-! ## The JSON text of an identity -/

/-- An identity as its text shows it: `#[serde(skip)]` drops the private key. -/
abbrev PublicIdentity := { identity : AgentIdentity // identity.privateKey = none }

def AgentIdentity.toPublic (identity : AgentIdentity) : PublicIdentity :=
  ⟨{ identity with privateKey := none }, rfl⟩

/-- `serde_json` on identities. -/
structure IdentityText where
  /-- `to_string`. -/
  serialize : PublicIdentity → String
  /-- `from_str`, with the text of its error. -/
  parse : String → Except String PublicIdentity
  parse_serialize : ∀ identity, parse (serialize identity) = .ok identity

/-! ## Operations -/

variable (C : Crypto) (sha256 : Bytes → Bytes) (J : IdentityText)

def AgentDID.new (name : String) (org : Option String) : AgentDID where
  method := "mesh"
  uniqueId :=
    let hash := hexEncode (sha256 (stringBytes (name ++ ":" ++ org.getD "default")))
    String.ofList (hash.toList.take 32)

/-- The arguments of `create`, with the random bytes that become the signing key. -/
structure CreateRequest where
  name : String
  sponsor : String
  capabilities : List String
  organization : Option String
  bytes : ByteArr 32

/-- `create`.  The store in memory has no error to return. -/
def AgentIdentity.create (request : CreateRequest) (keystore : Option MemoryKeyStore) :
    AgentIdentity × Option MemoryKeyStore :=
  let did := AgentDID.new sha256 request.name request.organization
  ({ did := did
     name := request.name
     publicKey := C.encode64 (C.verifyingKey request.bytes).val
     sponsorEmail := request.sponsor
     capabilities := request.capabilities
     status := "active"
     parentDid := none
     delegationDepth := 0
     privateKey := some request.bytes },
    keystore.map fun ks => ks.saveKey did.toText request.bytes)

/-- `rotate_keys`, with the random bytes of the new key. -/
def rotateKeys (identity : AgentIdentity) (bytes : ByteArr 32) : AgentIdentity :=
  { identity with
    publicKey := C.encode64 (C.verifyingKey bytes).val
    privateKey := some bytes }

def AgentIdentity.load (identityJson : String) (keystore : MemoryKeyStore) :
    Except String AgentIdentity := do
  let identity ← J.parse identityJson
  return { identity.val with privateKey := keystore.loadKey identity.val.did.toText }

def AgentIdentity.sign (identity : AgentIdentity) (data : Bytes) : Option Bytes :=
  identity.privateKey.map fun k => (C.sign k data).val

/-! ## Runs -/

/-- An agent with the store that its identity was created against. -/
structure KeyedAgent where
  identity : AgentIdentity
  store : MemoryKeyStore

/-- What the owner of the identity does with it: `reload` is `load` of its own JSON text. -/
inductive KeyEvent where
  | rotate (bytes : ByteArr 32)
  | reload

/-- The agent that `create` with a store leads to. -/
def KeyedAgent.created (request : CreateRequest) (store : MemoryKeyStore) : KeyedAgent where
  identity := (AgentIdentity.create C sha256 request (some store)).1
  store := (AgentIdentity.create C sha256 request (some store)).2.getD store

/-- One event; the identity stays as it is where `load` fails. -/
def KeyedAgent.step (a : KeyedAgent) : KeyEvent → KeyedAgent
  | .rotate bytes => { a with identity := rotateKeys C a.identity bytes }
  | .reload =>
    match AgentIdentity.load J (J.serialize a.identity.toPublic) a.store with
    | .ok identity => { a with identity := identity }
    | .error _ => a

/-- What is signed with the private key verifies with the public key. -/
def AgentIdentity.Paired (identity : AgentIdentity) : Prop :=
  ∀ data, ∃ s, identity.sign C data = some s ∧ identity.verifySignature C data s = true

/-- The identity is not loaded while its private key differs from the stored one. -/
def KeyedAgent.Stored (a : KeyedAgent) (event : KeyEvent) : Prop :=
  event = .reload → a.identity.privateKey = a.store.loadKey a.identity.did.toText

/-! ## The invariant -/

variable {C sha256 J} {a : KeyedAgent}

variable (C a) in
/-- In any case the public key is that of some key pair, and the store holds a key. -/
structure KeyedAgent.Keyed : Prop where
  publicKey : ∃ k, a.identity.publicKey = C.encode64 (C.verifyingKey k).val
  stored : ∃ k, a.store.loadKey a.identity.did.toText = some k

theorem KeyedAgent.step_reload :
    a.step C J .reload =
      { a with
        identity :=
          { a.identity with privateKey := a.store.loadKey a.identity.did.toText } } := by
  simp only [KeyedAgent.step, AgentIdentity.load, J.parse_serialize]
  rfl

theorem KeyedAgent.keyed_created (request : CreateRequest) (store : MemoryKeyStore) :
    (KeyedAgent.created C sha256 request store).Keyed C where
  publicKey := ⟨request.bytes, rfl⟩
  stored := ⟨request.bytes, MemoryKeyStore.loadKey_saveKey_self _ _ _⟩

theorem KeyedAgent.Keyed.step (h : a.Keyed C) (event : KeyEvent) : (a.step C J event).Keyed C := by
  cases event with
  | rotate bytes => exact ⟨⟨bytes, rfl⟩, h.stored⟩
  | reload =>
    rw [KeyedAgent.step_reload]
    exact ⟨h.publicKey, h.stored⟩

/-- Signing and verifying with the two halves of one key pair. -/
theorem AgentIdentity.paired_of_key {identity : AgentIdentity} {k : ByteArr 32}
    (hpublic : identity.publicKey = C.encode64 (C.verifyingKey k).val)
    (hprivate : identity.privateKey = some k) : identity.Paired C := by
  intro data
  refine ⟨(C.sign k data).val, by rw [AgentIdentity.sign, hprivate]; rfl, ?_⟩
  rw [AgentIdentity.verifySignature_of_key hpublic]
  exact C.verify_sign k data

/-- A stored key is all that a `load` needs, and a rotation brings both halves. -/
theorem KeyedAgent.paired_step (h : a.identity.Paired C) {event : KeyEvent}
    (hstored : a.Stored event) : (a.step C J event).identity.Paired C := by
  cases event with
  | rotate bytes => exact AgentIdentity.paired_of_key (k := bytes) rfl rfl
  | reload =>
    rw [KeyedAgent.step_reload, ← hstored rfl]
    exact h

section OwnSignatures

variable (hown : ∀ k k' data, C.verify (C.verifyingKey k) data (C.sign k' data) = true → k' = k)
include hown

/-- Where a signature verifies under no key but its own, the private key is the one that belongs
    to the public key. -/
theorem AgentIdentity.Paired.privateKey_eq {identity : AgentIdentity} (h : identity.Paired C)
    {k : ByteArr 32} (hpublic : identity.publicKey = C.encode64 (C.verifyingKey k).val) :
    identity.privateKey = some k := by
  obtain ⟨s, hsign, hverify⟩ := h []
  obtain ⟨k', hprivate, rfl⟩ := Option.map_eq_some_iff.mp hsign
  rw [AgentIdentity.verifySignature_of_key hpublic] at hverify
  rw [hprivate, hown k k' [] hverify]

theorem KeyedAgent.Keyed.stored_of_paired (hkeyed : a.Keyed C) (h : a.identity.Paired C)
    {event : KeyEvent} (hnext : (a.step C J event).identity.Paired C) : a.Stored event := by
  rintro rfl
  obtain ⟨k, hpublic⟩ := hkeyed.publicKey
  rw [KeyedAgent.step_reload] at hnext
  -- both private keys belong to the one public key
  have hbefore : a.identity.privateKey = some k := h.privateKey_eq hown hpublic
  have hafter : a.store.loadKey a.identity.did.toText = some k := hnext.privateKey_eq hown hpublic
  rw [hbefore, hafter]

end OwnSignatures

/-- **The two halves stay a pair** in every run that loads the identity only while the key store
    holds its current private key; where a signature verifies under no key but its own, only
    then. -/
theorem paired_iff_stored (C : Crypto) (sha256 : Bytes → Bytes) (J : IdentityText)
    (request : CreateRequest) (store : MemoryKeyStore) (run : List KeyEvent) :
    (AllSteps (KeyedAgent.step C J) KeyedAgent.Stored (.created C sha256 request store) run →
      ∀ pre, pre <+: run →
        (runFrom (KeyedAgent.step C J) (.created C sha256 request store) pre).identity.Paired C) ∧
    ((∀ k k' data, C.verify (C.verifyingKey k) data (C.sign k' data) = true → k' = k) →
      (∀ pre, pre <+: run →
        (runFrom (KeyedAgent.step C J) (.created C sha256 request store) pre).identity.Paired C) →
      AllSteps (KeyedAgent.step C J) KeyedAgent.Stored (.created C sha256 request store) run) := by
  have hcreated : (KeyedAgent.created C sha256 request store).identity.Paired C :=
    AgentIdentity.paired_of_key (k := request.bytes) rfl rfl
  constructor
  · rintro hrun pre ⟨post, rfl⟩
    have hpre := (allSteps_append.mp hrun).1
    -- a pair before a step is a pair after it
    apply hpre.keeps (I := fun a => a.identity.Paired C)
    · exact fun _ _ hstored h => KeyedAgent.paired_step h hstored
    · exact hcreated
  · intro hown hall
    -- between two pairs nothing else can have been loaded
    refine (forall_prefix_iff_allSteps (I := fun a => a.Keyed C)
      (P := fun a => a.identity.Paired C) (fun _ event h => h.step event) ?_
      (KeyedAgent.keyed_created request store) hcreated).mp hall
    intro a event hkeyed hpaired
    exact ⟨hkeyed.stored_of_paired hown hpaired, KeyedAgent.paired_step hpaired⟩

/-! ## A rotation and a reload -/

/-- The fields of an identity as they follow each other in its text. -/
def PublicIdentity.fields (p : PublicIdentity) :
    AgentDID × String × String × String × List String × String × Option String × UInt32 :=
  (p.val.did, p.val.name, p.val.publicKey, p.val.sponsorEmail, p.val.capabilities, p.val.status,
    p.val.parentDid, p.val.delegationDepth)

theorem PublicIdentity.fields_injective : Function.Injective PublicIdentity.fields := by
  intro a b h
  have hkey : a.val.privateKey = b.val.privateKey := a.property.trans b.property.symm
  apply Subtype.ext
  obtain ⟨⟨⟩, ha⟩ := a
  obtain ⟨⟨⟩, hb⟩ := b
  simp_all [fields]

def identityJson : PrefixCode Char PublicIdentity :=
  ((AgentDID.json.tagged (objectKey '{' "did")).pair
    ((jsonString.tagged (objectKey ',' "name")).pair
    ((jsonString.tagged (objectKey ',' "public_key")).pair
    ((jsonString.tagged (objectKey ',' "sponsor_email")).pair
    ((capabilitiesJson.tagged (objectKey ',' "capabilities")).pair
    ((jsonString.tagged (objectKey ',' "status")).pair
    ((parentJson.tagged (objectKey ',' "parent_did")).pair
    (depthJson.tagged (objectKey ',' "delegation_depth"))))))))).comap PublicIdentity.fields
    PublicIdentity.fields_injective

open Classical in
/-- The text that serde writes; a text that is not one of these is rejected. -/
noncomputable def IdentityText.serde : IdentityText where
  serialize p := String.ofList (identityJson.enc p)
  parse s :=
    if h : ∃ p, String.ofList (identityJson.enc p) = s then .ok h.choose
    else .error "invalid identity"
  parse_serialize p := by
    have h : ∃ q, String.ofList (identityJson.enc q) = String.ofList (identityJson.enc p) := ⟨p, rfl⟩
    rw [dif_pos h]
    exact congrArg _ (identityJson.enc_injective (String.ofList_inj.mp h.choose_spec))

/-- SHA-256 of the seed text of an agent without an organization. -/
def nameDigests : List (Bytes × Bytes) :=
  [(stringBytes "test-agent:default",
    (Base64.decodeText "AyQ5+WG6j5iSltpEnguhJiI8CHnwYySDEE/BRA0H/UE=").getD [])]

/-- The agent is created with the first of two key pairs. -/
def sampleCreate : CreateRequest where
  name := "test-agent"
  sponsor := "test@example.com"
  capabilities := []
  organization := none
  bytes := registrySeed

/-- Two key pairs, with their signatures of one text. -/
def twoKeyPairs : Crypto :=
  .ofKeyPairs ((Equiv.swap registrySeed registryKey).trans (Equiv.swap secondSeed secondKey))
    [((registrySeed, stringBytes "data"),
      ⟨(Base64.decodeText
        "I2PzsZaHboOwj9ap0XGMRiwq90i/rcEVSs+VA1AYHpQDG7qwSvtN6zeQdN3mSfl7kScVRN/qLk8UZTN8u2coDA==").getD
          [], by decide +kernel⟩),
     ((secondSeed, stringBytes "data"),
      ⟨(Base64.decodeText
        "sF9b6PbfbLN8iY3CaYkJAkVDn3HGcxkIzu/3HLPFBwpp2+f9Cb1y8iEVDu24vKBOC8kJYNwVgXHeti0vel/hAg==").getD
          [], by decide +kernel⟩)]

theorem signatures_differ :
    twoKeyPairs.sign registrySeed (stringBytes "data") ≠
      twoKeyPairs.sign secondSeed (stringBytes "data") := by
  decide +kernel

/-- After one rotation the loaded identity signs with the key it had before. -/
theorem paired_lost_by_reload :
    ¬ ∀ (C : Crypto) (sha256 : Bytes → Bytes) (J : IdentityText) (request : CreateRequest)
      (store : MemoryKeyStore) (run : List KeyEvent),
      (runFrom (KeyedAgent.step C J) (.created C sha256 request store) run).identity.Paired C := by
  intro h
  have hpaired := h twoKeyPairs (digestVectors nameDigests) .serde sampleCreate { keys := ∅ }
    [.rotate secondSeed, .reload] (stringBytes "data")
  simp only [runFrom_cons, runFrom_nil, KeyedAgent.step_reload] at hpaired
  obtain ⟨s, hsign, hverify⟩ := hpaired
  -- the store still holds the key of the creation
  have hstored := MemoryKeyStore.loadKey_saveKey_self { keys := ∅ }
    (AgentDID.new (digestVectors nameDigests) "test-agent" none).toText registrySeed
  obtain ⟨k, hk, rfl⟩ := Option.map_eq_some_iff.mp hsign
  obtain rfl : k = registrySeed := Option.some.inj (hk.symm.trans hstored)
  rw [AgentIdentity.verifySignature_of_key (k := secondSeed) rfl] at hverify
  exact signatures_differ ((Crypto.verify_ofKeyPairs _ _ _ _ _).mp hverify)

end AgentGovernance.Mesh
