import AgentGovernance.Daemon.Registration
import AgentGovernance.Daemon.Writes
import AgentGovernance.Lib.Runs

/-!
# A daemon without registered agents

Registration is a request like any other: the middleware and the gRPC services look the
caller up in the registry before `register_agent` or `RegistryService.Register` sees the
message.  In a daemon that starts without registered agents nobody is authenticated, so
nothing is ever registered (`registration_unreachable`).  One registered agent would be enough
to register any other (`registered_of_registered`).
-/

namespace AgentGovernance.Daemon

open AgentGovernance.Lib AgentGovernance.Mesh AgentGovernance.Compliance AgentGovernance.Discovery
open AgentGovernance.McpGovernance AgentGovernance.Runtime

namespace ServerState

variable {C : Crypto} {E : LogEnv} {X : Extractors} {W : GrpcWire} {s : ServerState}

/-! ## Nobody is registered -/

/-- Where nobody is registered, nobody is authenticated. -/
theorem not_calledBy_of_empty (hempty : s.registry.entries = ∅) (did : String)
    (call : DaemonRequest × RequestReads) : ¬ CalledBy C W did s call := by
  intro hcaller
  obtain ⟨ring, hring⟩ := hcaller.registered
  rw [MemoryAgentRegistry.getRing, hempty, Finmap.lookup_empty] at hring
  cases hring

/-- **Step.** So no request is let through to a handler, and nobody gets registered. -/
theorem step_entries_of_empty (hempty : s.registry.entries = ∅)
    (call : DaemonRequest × RequestReads) : (step C E X W s call).registry.entries = ∅ := by
  rcases step_stores_cases E X call with hsame | ⟨did, _, hdid, -⟩
  · have hregistry : (step C E X W s call).registry = s.registry := congrArg Stores.registry hsame
    rw [hregistry, hempty]
  · exact absurd hdid (not_calledBy_of_empty hempty did call)

/-- **Run.** The registry stays empty. -/
theorem runFrom_entries_of_empty (hempty : s.registry.entries = ∅)
    (run : List (DaemonRequest × RequestReads)) :
    (runFrom (step C E X W) s run).registry.entries = ∅ := by
  apply runFrom_keeps (I := fun s : ServerState => s.registry.entries = ∅)
  · exact fun s call h => step_entries_of_empty h call
  · exact hempty

/-- The identity is registered with the ring. -/
def Registered (s : ServerState) (identity : AgentIdentity) (ring : PrivilegeRing) : Prop :=
  s.registry.entries.lookup identity.did.toText = some (identity.publicKey, ring)

theorem not_registered_of_empty (hempty : s.registry.entries = ∅) (identity : AgentIdentity)
    (ring : PrivilegeRing) : ¬ s.Registered identity ring := by
  intro hregistered
  rw [Registered, hempty, Finmap.lookup_empty] at hregistered
  cases hregistered

end ServerState

open ServerState

/-- A signed registration over gRPC, at the epoch. -/
def registerCall (C : Crypto) (W : GrpcWire) (did : String) (key : ByteArr 32)
    (identity : AgentIdentity) (ring : PrivilegeRing) : DaemonRequest × RequestReads :=
  (signedMessage C W did key
    (.register (some (toProtoIdentity identity ring)) (toProtoRing ring)), epochRequestReads)

/-- **One agent is enough**: where an agent is registered with its public key and the daemon knows
    the key of its own registry, one request registers any identity with any ring. -/
theorem registered_of_registered (C : Crypto) (E : LogEnv) (X : Extractors) (W : GrpcWire)
    (s : ServerState) {did : String} {key : ByteArr 32} {ring : PrivilegeRing}
    (hentry : s.registry.entries.lookup did = some (C.pubkeyB64 key, ring))
    (hpubkey : s.registryPubkey = s.registry.pubkey C) (identity : AgentIdentity)
    (newRing : PrivilegeRing) :
    ∃ call, (step C E X W s call).Registered identity newRing := by
  have hlife : epochRequestReads.now 2 ≤ epochRequestReads.now 1 + hours 24 := by decide
  have hcaller : CalledBy C W did s (registerCall C W did key identity newRing) :=
    calledBy_signedMessage hentry hpubkey hlife _
  refine ⟨registerCall C W did key identity newRing, ?_⟩
  have hregistry := congrArg Stores.registry (serve_stores_of_authenticates E X hcaller)
  -- what the message asks for is the registration
  simp only [registerCall, signedMessage, DaemonRequest.mutation, GrpcMessage.mutation,
    fromProtoRegister_toProto, Except.toOption, Option.map_some, Stores.after,
    Mutation.apply] at hregistry
  have hself := MemoryAgentRegistry.lookup_register_self s.registry (overGrpc identity) newRing
  exact (congrArg (fun r => r.entries.lookup identity.did.toText) hregistry).trans hself

/-- **No way in**: whatever key, files and registry text a daemon is started with, if its registry
    is empty then no requests ever register an identity. -/
theorem registration_unreachable (C : Crypto) (E : LogEnv) (X : Extractors) (W : GrpcWire)
    (registryIdentity : ByteArr 32) (registryDid : String) (auditFile : Option Bytes) (disk : Disk)
    (hasExporter : Bool) (registryPubkey : String) (identity : AgentIdentity)
    (ring : PrivilegeRing) :
    ¬ ∃ run, (runFrom (step C E X W) (.start E registryIdentity registryDid [] auditFile disk
      hasExporter registryPubkey) run).Registered identity ring := by
  rintro ⟨run, hregistered⟩
  refine not_registered_of_empty ?_ identity ring hregistered
  apply runFrom_entries_of_empty
  rfl

/-- An agent with the public key of the seed, and what it would be registered as. -/
def firstAgent : AgentIdentity :=
  { identityStub (Base64.encodeText registryKey.val) with
    did := { method := "mesh", uniqueId := "admin" }
    name := "admin"
    status := "active"
    privateKey := some registrySeed }

/-- The first administrator of a fresh daemon is not registered by any requests, although its
    public key is the one of its private key and the daemon knows its own registry. -/
theorem registration_unreachable_admin :
    ¬ ∀ (C : Crypto) (E : LogEnv) (X : Extractors) (W : GrpcWire) (registryIdentity : ByteArr 32)
      (registryDid : String) (auditFile : Option Bytes) (disk : Disk) (hasExporter : Bool)
      (identity : AgentIdentity) (key : ByteArr 32) (ring : PrivilegeRing),
      identity.privateKey = some key → identity.publicKey = C.pubkeyB64 key →
      ∃ run, (runFrom (step C E X W) (.start E registryIdentity registryDid [] auditFile disk
        hasExporter (C.pubkeyB64 registryIdentity)) run).Registered identity ring := by
  intro h
  have hpublic : firstAgent.publicKey =
      (Crypto.ofVectors ⟨registrySeed, registryKey, [], []⟩).pubkeyB64 registrySeed := by
    simp [Crypto.pubkeyB64, Crypto.ofVectors, firstAgent, identityStub]
  -- so some run would register the first agent of an empty registry
  obtain ⟨run, hregistered⟩ := h (.ofVectors ⟨registrySeed, registryKey, [], []⟩) sampleEnv
    rejectingExtractors silentWire registrySeed "did:mesh:registry" none .blank false firstAgent
    registrySeed .system rfl hpublic
  refine not_registered_of_empty ?_ firstAgent .system hregistered
  apply runFrom_entries_of_empty
  rfl

end AgentGovernance.Daemon
