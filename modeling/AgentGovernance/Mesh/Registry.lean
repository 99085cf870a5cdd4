import AgentGovernance.Mesh.Attestation
import Mathlib.Data.Finmap

/-!
# The agent registry

`crates/core/mesh/src/identity/registry.rs`.  `AgentRegistry` is what the callers of the
trait object see during one call: its answers, which may be errors.  The registry the
daemon holds in memory is `MemoryAgentRegistry`; `answers` is the trait implementation
for it, at given clock readings.
-/

namespace AgentGovernance.Mesh

open AgentGovernance.Lib

/-- The read half of `trait AgentRegistry`, as the answers given during one call. -/
structure AgentRegistry where
  getAttestation : String → Except String (Option SignedAttestation)
  getRing : String → Except String (Option PrivilegeRing)

/-- `MemoryAgentRegistry`: for each DID its public key text and its ring. -/
structure MemoryAgentRegistry where
  entries : Finmap (fun _ : String => String × PrivilegeRing)
  registryIdentity : ByteArr 32
  registryDid : String

namespace MemoryAgentRegistry

def new (registryIdentity : ByteArr 32) (registryDid : String) : MemoryAgentRegistry where
  entries := ∅
  registryIdentity := registryIdentity
  registryDid := registryDid

/-- `register`: the entry of the identity's DID is set, whatever was there before. -/
def register (r : MemoryAgentRegistry) (identity : AgentIdentity) (ring : PrivilegeRing) :
    MemoryAgentRegistry :=
  { r with entries := r.entries.insert identity.did.toText (identity.publicKey, ring) }

def getRing (r : MemoryAgentRegistry) (did : String) : Option PrivilegeRing :=
  (r.entries.lookup did).map (·.2)

def isRegistered (r : MemoryAgentRegistry) (did : String) : Bool :=
  (r.entries.lookup did).isSome

/-- The claim issued for an entry; `issued_at` and `expires_at` read the clock separately. -/
def claimFor (did pubkeyB64 : String) (issued expiryBase : DateTime) : AttestationClaim where
  subjectDid := did
  publicKeyB64 := pubkeyB64
  issuedAt := issued
  expiresAt := expiryBase + hours 24

variable (C : Crypto)

def getAttestation (r : MemoryAgentRegistry) (did : String) (issued expiryBase : DateTime) :
    Option SignedAttestation :=
  (r.entries.lookup did).map fun e =>
    (claimFor did e.1 issued expiryBase).attest C r.registryIdentity r.registryDid

/-- `impl AgentRegistry for MemoryAgentRegistry`. -/
def answers (r : MemoryAgentRegistry) (issued expiryBase : DateTime) : AgentRegistry where
  getAttestation did := .ok (r.getAttestation C did issued expiryBase)
  getRing did := .ok (r.getRing did)

/-- The text callers pass on as `registry_pubkey`. -/
def pubkey (r : MemoryAgentRegistry) : String :=
  C.pubkeyB64 r.registryIdentity

/-! ## What registering changes -/

@[simp] theorem register_registryIdentity (r : MemoryAgentRegistry) (identity : AgentIdentity)
    (ring : PrivilegeRing) : (r.register identity ring).registryIdentity = r.registryIdentity := rfl

@[simp] theorem lookup_register_self (r : MemoryAgentRegistry) (identity : AgentIdentity)
    (ring : PrivilegeRing) :
    (r.register identity ring).entries.lookup identity.did.toText =
      some (identity.publicKey, ring) :=
  Finmap.lookup_insert _

/-- Registering one DID leaves the entry of every other one alone. -/
theorem lookup_register_of_ne (r : MemoryAgentRegistry) (identity : AgentIdentity)
    (ring : PrivilegeRing) {did : String} (h : did ≠ identity.did.toText) :
    (r.register identity ring).entries.lookup did = r.entries.lookup did :=
  Finmap.lookup_insert_of_ne _ h

theorem isRegistered_register (r : MemoryAgentRegistry) (identity : AgentIdentity)
    (ring : PrivilegeRing) (did : String) :
    (r.register identity ring).isRegistered did =
      (decide (did = identity.did.toText) || r.isRegistered did) := by
  by_cases h : did = identity.did.toText
  · subst h
    simp [isRegistered]
  · simp [isRegistered, r.lookup_register_of_ne identity ring h, h]

/-- The contents that a sequence of `register` calls leads to. -/
def registerAll (r : MemoryAgentRegistry) (calls : List (AgentIdentity × PrivilegeRing)) :
    MemoryAgentRegistry :=
  calls.foldl (fun r call => r.register call.1 call.2) r

@[simp] theorem registerAll_registryIdentity (r : MemoryAgentRegistry)
    (calls : List (AgentIdentity × PrivilegeRing)) :
    (r.registerAll calls).registryIdentity = r.registryIdentity := by
  induction calls generalizing r with
  | nil => rfl
  | cons call calls ih => exact (ih (r.register call.1 call.2)).trans rfl

/-- What the registry issues for a DID passes the check under the registry's own key
    until the attestation expires. -/
theorem verify_getAttestation (r : MemoryAgentRegistry) {did : String}
    {issued expiryBase now : DateTime} {att : SignedAttestation}
    (h : r.getAttestation C did issued expiryBase = some att) :
    att.verify C (r.pubkey C) now = .ok () ↔ now ≤ expiryBase + hours 24 := by
  obtain ⟨e, -, rfl⟩ := Option.map_eq_some_iff.mp h
  exact AttestationClaim.verify_attest C _ _ _ _

end MemoryAgentRegistry

/-! ## Test vectors -/

def agentOneKey : ByteArr 32 :=
  ⟨(Base64.decodeText "iodf/x6zhFFXes1a/uQFRWVo3XyJ4JCGOgVXvHr0nxc=").getD [], by decide +kernel⟩

/-- The registry's signature of the agent's claim at the epoch, as `did:mesh:agent-1`. -/
def agentOneClaimSignature : ByteArr 64 :=
  ⟨(Base64.decodeText
    "dvKIovRnX55VE4Vb78VwTxx9MjuV4zI/etscjGFkWq+Bx8mzymLgsnAO9EJkB9Nnk4e8JB5KeOGfwswURnD4Bg==").getD
      [], by decide +kernel⟩

end AgentGovernance.Mesh
