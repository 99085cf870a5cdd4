import AgentGovernance.Lib.Separated
import AgentGovernance.Mesh.KeyRotation

/-!
# The DID of a name and an organization

`AgentDID::new` in `crates/core/mesh/src/identity/agent_id.rs` hashes a name and an organization
joined by a colon, and `create` stores the new key under the DID.  Both texts may contain colons,
so the colon between them can be read in more than one place.
-/

namespace AgentGovernance.Mesh

open AgentGovernance.Lib AgentGovernance.Compliance
open AgentGovernance.Daemon (MemoryKeyStore)

/-! ## The seed -/

/-- What `new` hashes: `format!("{}:{}", name, org.unwrap_or("default"))`. -/
def didSeed (name : String) (org : Option String) : String :=
  name ++ ":" ++ org.getD "default"

/-- The other name goes on with a colon and the beginning of this organization, and the other
    organization is the rest of it. -/
def ColonMoved (name org otherName otherOrg : String) : Prop :=
  ∃ part, otherName = name ++ ":" ++ part ∧ org = part ++ ":" ++ otherOrg

/-- Two pairs of name and organization that only differ in where the colon is read. -/
def Ambiguous (name : String) (org : Option String) (otherName : String)
    (otherOrg : Option String) : Prop :=
  ColonMoved name (org.getD "default") otherName (otherOrg.getD "default") ∨
    ColonMoved otherName (otherOrg.getD "default") name (org.getD "default")

/-- The two pairs of name and organization are one. -/
def SameAgent (name : String) (org : Option String) (otherName : String)
    (otherOrg : Option String) : Prop :=
  name = otherName ∧ org.getD "default" = otherOrg.getD "default"

variable {name otherName : String} {org otherOrg : Option String}

theorem colonMoved_iff {name org otherName otherOrg : String} :
    ColonMoved name org otherName otherOrg ↔
      ∃ part, otherName.toList = name.toList ++ ':' :: part ∧
        org.toList = part ++ ':' :: otherOrg.toList := by
  constructor
  · rintro ⟨part, rfl, rfl⟩
    exact ⟨part.toList, by simp, by simp⟩
  · -- the characters of the moved part are put back into a string
    rintro ⟨part, hname, horg⟩
    refine ⟨String.ofList part, ?_, ?_⟩
    · rw [← String.toList_inj, hname]
      simp
    · rw [← String.toList_inj, horg]
      simp

/-- **Equal seeds**: the same pair, or the colon is read in another place. -/
theorem didSeed_eq_iff :
    didSeed name org = didSeed otherName otherOrg ↔
      SameAgent name org otherName otherOrg ∨ Ambiguous name org otherName otherOrg := by
  have htext : ∀ (n : String) (o : Option String),
      (didSeed n o).toList = n.toList ++ ':' :: (o.getD "default").toList := by
    intro n o
    simp [didSeed]
  rw [← String.toList_inj, htext, htext, append_separator_eq_iff, SameAgent, Ambiguous,
    colonMoved_iff, colonMoved_iff, String.toList_inj, String.toList_inj]

/-- A pair is not ambiguous with itself. -/
theorem Ambiguous.not_sameAgent (h : Ambiguous name org otherName otherOrg) :
    ¬ SameAgent name org otherName otherOrg := by
  rintro ⟨rfl, -⟩
  -- the longer name would be as long as the other
  rcases h with ⟨part, hname, -⟩ | ⟨part, hname, -⟩
  all_goals
    have hlength := congrArg (fun s : String => s.toList.length) hname
    simp at hlength

/-! ## The DID -/

variable (sha256 : Bytes → Bytes)

/-- The first 32 digits of the digest of a text. -/
def shortDigest (text : String) : String :=
  String.ofList ((hexEncode (sha256 (stringBytes text))).toList.take 32)

/-- The short digest tells the two texts apart, if they are two. -/
def TellsApart (text other : String) : Prop :=
  shortDigest sha256 text = shortDigest sha256 other → text = other

theorem new_eq : AgentDID.new sha256 name org =
    { method := "mesh", uniqueId := shortDigest sha256 (didSeed name org) } := rfl

/-- DIDs of one method print differently. -/
theorem toText_inj_of_method {d e : AgentDID} (h : d.method = e.method) :
    d.toText = e.toText ↔ d = e := by
  refine ⟨fun heq => ?_, fun heq => by rw [heq]⟩
  obtain ⟨method, uniqueId⟩ := d
  obtain ⟨method', uniqueId'⟩ := e
  obtain rfl : method = method' := h
  rw [AgentDID.toText, AgentDID.toText, ← String.toList_inj] at heq
  simpa [String.toList_inj] using heq

variable {sha256}

/-- **Equal DIDs**: equal seeds, where the digest tells them apart. -/
theorem new_eq_new_iff (hapart : TellsApart sha256 (didSeed name org) (didSeed otherName otherOrg)) :
    AgentDID.new sha256 name org = AgentDID.new sha256 otherName otherOrg ↔
      SameAgent name org otherName otherOrg ∨ Ambiguous name org otherName otherOrg := by
  rw [← didSeed_eq_iff, new_eq, new_eq, AgentDID.mk.injEq]
  refine ⟨fun h => hapart h.2, fun h => ⟨rfl, by rw [h]⟩⟩

/-! ## The key store -/

variable (C : Crypto)

/-- A key stored under a DID is still there after a `create` with another DID, and no longer after
    one with this DID and another key. -/
theorem loadKey_created (request : CreateRequest) (store : MemoryKeyStore) (did : AgentDID)
    (hmethod : did.method = "mesh") :
    (KeyedAgent.created C sha256 request store).store.loadKey did.toText =
      if AgentDID.new sha256 request.name request.organization = did then some request.bytes
      else store.loadKey did.toText := by
  -- creating an agent saves its key under the DID it was given
  have hstore : (KeyedAgent.created C sha256 request store).store =
      store.saveKey (AgentDID.new sha256 request.name request.organization).toText
        request.bytes := rfl
  rw [hstore]
  split
  · rename_i heq
    rw [heq, MemoryKeyStore.loadKey_saveKey_self]
  · rename_i hne
    -- two DIDs of the method `mesh` have different texts
    apply MemoryKeyStore.loadKey_saveKey_of_ne
    intro htext
    exact hne ((toText_inj_of_method hmethod).mp htext).symm

/-- A `create` leaves the key of the agent alone, whatever the store holds. -/
def KeepsKey (C : Crypto) (sha256 : Bytes → Bytes) (name : String) (org : Option String)
    (request : CreateRequest) : Prop :=
  ∀ store : MemoryKeyStore,
    (KeyedAgent.created C sha256 request store).store.loadKey
      (AgentDID.new sha256 name org).toText =
        store.loadKey (AgentDID.new sha256 name org).toText

theorem keepsKey_iff_ne (request : CreateRequest) :
    KeepsKey C sha256 name org request ↔
      AgentDID.new sha256 request.name request.organization ≠ AgentDID.new sha256 name org := by
  constructor
  · intro hkeeps heq
    -- the empty store has no key before and one after
    have hempty := hkeeps { keys := ∅ }
    rw [loadKey_created _ _ _ _ rfl, if_pos heq] at hempty
    cases hempty
  · intro hne store
    rw [loadKey_created _ _ _ _ rfl, if_neg hne]

/-- Among different agents, the key is safe exactly where the colon has one place only. -/
theorem keepsKey_iff (request : CreateRequest)
    (hapart : TellsApart sha256 (didSeed name org) (didSeed request.name request.organization))
    (hdiff : ¬ SameAgent name org request.name request.organization) :
    KeepsKey C sha256 name org request ↔
      ¬ Ambiguous name org request.name request.organization := by
  rw [keepsKey_iff_ne, ne_comm, ne_eq, new_eq_new_iff hapart, or_iff_right hdiff]

/-- In a store shared by many agents, the creations of other agents leave an agent's key alone. -/
theorem loadKey_runCreated (C : Crypto) {run : List CreateRequest}
    (hothers : ∀ request ∈ run, ¬ SameAgent name org request.name request.organization)
    (hapart : ∀ request ∈ run, TellsApart sha256 (didSeed name org)
      (didSeed request.name request.organization))
    (hclear : ∀ request ∈ run, ¬ Ambiguous name org request.name request.organization)
    (store : MemoryKeyStore) :
    (runFrom (fun store request => (KeyedAgent.created C sha256 request store).store) store
        run).loadKey (AgentDID.new sha256 name org).toText =
      store.loadKey (AgentDID.new sha256 name org).toText := by
  -- by induction on the agents created, none of which takes this DID
  induction run generalizing store with
  | nil => rfl
  | cons request run ih =>
    rw [List.forall_mem_cons] at hothers hapart hclear
    -- the digests differ, so this creation leaves the key alone
    have hkeeps := (keepsKey_iff C request hapart.1 hothers.1).mpr hclear.1
    rw [runFrom_cons, ih hothers.2 hapart.2 hclear.2, hkeeps store]

/-- **One DID for one agent**, and one key: exactly for the pairs that no other place of the colon
    turns into each other. -/
theorem new_unique_iff (C : Crypto) (sha256 : Bytes → Bytes) (name : String) (org : Option String)
    (request : CreateRequest)
    (hapart : TellsApart sha256 (didSeed name org)
      (didSeed request.name request.organization)) :
    ((AgentDID.new sha256 name org = AgentDID.new sha256 request.name request.organization →
        SameAgent name org request.name request.organization) ↔
      ¬ Ambiguous name org request.name request.organization) ∧
    ((¬ SameAgent name org request.name request.organization →
        KeepsKey C sha256 name org request) ↔
      ¬ Ambiguous name org request.name request.organization) := by
  have hnew := new_eq_new_iff hapart
  -- an ambiguous pair is never one agent, so each part fails for it
  constructor
  · rw [hnew]
    constructor
    · exact fun h hamb => hamb.not_sameAgent (h (.inr hamb))
    · exact fun h hor => hor.resolve_right h
  · constructor
    · exact fun h hamb => (keepsKey_iff C request hapart hamb.not_sameAgent).mp
        (h hamb.not_sameAgent) hamb
    · exact fun h hdiff => (keepsKey_iff C request hapart hdiff).mpr h

/-! ## Two agents with one DID -/

/-- SHA-256 of three seed texts. -/
def seedDigests : List (Bytes × Bytes) :=
  [(stringBytes "billing:eu:acme",
    (Base64.decodeText "oVQxN4QHt0KteRmmYeWQ/aGqDRI9JnJkZhDLx5srLkc=").getD []),
   (stringBytes "billing:acme",
    (Base64.decodeText "lCAbKhYQZBVpHvorSKMG2U6BVlTRacs/MKIK24o/maM=").getD []),
   (stringBytes "billing:default",
    (Base64.decodeText "lvMnEgTNCCai2MYIK5Yylx8DjWKYwTr2K8zzicHJM0w=").getD [])]

def agentOf (name : String) (organization : Option String) (bytes : ByteArr 32) : CreateRequest where
  name := name
  sponsor := "test@example.com"
  capabilities := []
  organization := organization
  bytes := bytes

/-- The agents called billing of an organization and of none keep their keys apart. -/
theorem new_unique_billing :
    let sha256 := digestVectors seedDigests
    AgentDID.new sha256 "billing" (some "acme") ≠ AgentDID.new sha256 "billing" none ∧
      KeepsKey twoKeyPairs sha256 "billing" (some "acme") (agentOf "billing" none secondSeed) := by
  intro sha256
  have hdiff : ¬ SameAgent "billing" (some "acme") "billing" none := by
    rintro ⟨-, horg⟩
    exact absurd horg (by decide)
  have hclear : ¬ Ambiguous "billing" (some "acme") "billing" none := by
    -- without a colon in the name nothing can move across
    rw [Ambiguous, colonMoved_iff, colonMoved_iff]
    rintro (⟨part, hname, -⟩ | ⟨part, hname, -⟩)
    · simp at hname
    · simp at hname
  -- the digests of the two seeds are computed
  have hapart : TellsApart sha256 (didSeed "billing" (some "acme")) (didSeed "billing" none) := by
    intro h
    exact absurd h (by decide +kernel)
  have hunique := new_unique_iff twoKeyPairs sha256 "billing" (some "acme")
    (agentOf "billing" none secondSeed) hapart
  exact ⟨fun heq => hdiff (hunique.1.mpr hclear heq), hunique.2.mpr hclear hdiff⟩

/-- An organization called acme with an agent called billing:eu, and an organization called
    eu:acme with an agent called billing: the second creation replaces the key of the first. -/
theorem new_not_unique :
    let sha256 := digestVectors seedDigests
    let first := agentOf "billing:eu" (some "acme") registrySeed
    let second := agentOf "billing" (some "eu:acme") secondSeed
    ¬ (AgentDID.new sha256 "billing:eu" (some "acme") =
        AgentDID.new sha256 "billing" (some "eu:acme") →
      SameAgent "billing:eu" (some "acme") "billing" (some "eu:acme")) ∧
    (KeyedAgent.created twoKeyPairs sha256 second
      (KeyedAgent.created twoKeyPairs sha256 first { keys := ∅ }).store).store.loadKey
        (AgentDID.new sha256 "billing:eu" (some "acme")).toText = some secondSeed := by
  intro sha256 first second
  -- both seeds are billing:eu:acme
  have hsame : AgentDID.new sha256 "billing" (some "eu:acme") =
      AgentDID.new sha256 "billing:eu" (some "acme") := by
    rw [new_eq, new_eq]
    rfl
  constructor
  · intro h
    exact absurd (h hsame.symm).1 (by decide)
  · rw [loadKey_created _ _ _ _ rfl]
    exact if_pos hsame

end AgentGovernance.Mesh
