import AgentGovernance.Daemon.Grpc
import AgentGovernance.Daemon.Http
import AgentGovernance.Mesh.RegistryFile

/-!
# Registration on the two transports

`register_agent` in `crates/daemon/src/lib.rs` and `RegistryServiceImpl::register` in
`crates/daemon/src/grpc/registry.rs` are one operation behind two conversions.  Both work on
any `dyn AgentRegistry`, so they are written here over any type of registry;
`registerAgent_eq` and `grpcRegister_eq` say that the handlers of the daemon are instances.

A gRPC message has no place for the status, the parent and the delegation depth of an
identity, and the gRPC service has no discovery manager.  `register_transports_agree_iff`
says that nothing else makes a difference.
-/

namespace AgentGovernance.Daemon

open AgentGovernance.Lib AgentGovernance.Mesh AgentGovernance.Compliance AgentGovernance.Discovery
open AgentGovernance.McpGovernance AgentGovernance.Runtime

/-! ## Conversions to messages -/

def toProtoRing : PrivilegeRing → Int32
  | .system => 1
  | .trusted => 2
  | .standard => 3
  | .sandboxed => 4

def toProtoIdentity (id : AgentIdentity) (ring : PrivilegeRing) : ProtoIdentity where
  did := some id.did
  name := id.name
  publicKeyB64 := id.publicKey
  sponsorEmail := id.sponsorEmail
  capabilities := id.capabilities
  ring := toProtoRing ring

/-- Every ring is read back. -/
@[simp] theorem fromProtoRing_toProtoRing (ring : PrivilegeRing) :
    fromProtoRing (toProtoRing ring) = .ok ring := by
  cases ring <;> rfl

/-- What arrives of an identity that is sent as a message. -/
def overGrpc (id : AgentIdentity) : AgentIdentity :=
  { id with status := "active", parentDid := none, delegationDepth := 0, privateKey := none }

/-- What arrives of an identity that is sent as JSON: `#[serde(skip)]` drops the private key. -/
def overHttp (id : AgentIdentity) : AgentIdentity :=
  { id with privateKey := none }

/-- **Round trip**: a message carries the identity but for three fields and the private key. -/
@[simp] theorem fromProtoRegister_toProto (id : AgentIdentity) (ring : PrivilegeRing) :
    fromProtoRegister (some (toProtoIdentity id ring)) (toProtoRing ring) =
      .ok (overGrpc id, ring) := by
  simp only [fromProtoRegister, fromProtoRing_toProtoRing]
  rfl

/-- The message loses nothing exactly when the three fields have the values it is read with. -/
theorem overHttp_eq_overGrpc_iff (id : AgentIdentity) :
    overHttp id = overGrpc id ↔
      id.status = "active" ∧ id.parentDid = none ∧ id.delegationDepth = 0 := by
  simp [overHttp, overGrpc]

/-! ## The handlers over any registry -/

section
variable {ρ : Type} (register : ρ → AgentIdentity → PrivilegeRing → ρ × Except String Unit)

/-- `register_agent`. -/
def registerAgentOn (registry : ρ) (discovery : DiscoveryManager) (req : RegisterRequest) :
    (ρ × DiscoveryManager) × HttpResult :=
  match register registry req.identity req.ring with
  | (registry, .error e) => ((registry, discovery), .error (.internalServerError, e))
  | (registry, .ok ()) =>
    ((registry, discovery.registerAgent req.identity.did.toText), .ok (.created, .empty))

/-- `RegistryServiceImpl::register`. -/
def grpcRegisterOn (registry : ρ) (identity : Option ProtoIdentity) (ring : Int32) :
    ρ × GrpcResult :=
  match fromProtoRegister identity ring with
  | .error e => (registry, .error e)
  | .ok (identity, ring) =>
    match register registry identity ring with
    | (registry, .error e) => (registry, .error (.internal, e))
    | (registry, .ok ()) => (registry, .ok .registered)

/-- A registry together with the records that are handed to it. -/
def recording (registry : List RegistryRecord × ρ) (identity : AgentIdentity)
    (ring : PrivilegeRing) : (List RegistryRecord × ρ) × Except String Unit :=
  let result := register registry.2 identity ring
  ((registry.1 ++ [{ identity := identity, ring := ring }], result.1), result.2)

end

/-- `register` of the daemon's registry, with what the append to its file answers. -/
def memoryRegister (persisted : Except String Unit) (registry : MemoryAgentRegistry)
    (identity : AgentIdentity) (ring : PrivilegeRing) :
    MemoryAgentRegistry × Except String Unit :=
  (registry.register identity ring, persisted)

namespace ServerState

variable (s : ServerState)

/-- The HTTP handler of the daemon is the handler on its registry. -/
theorem registerAgent_eq (req : RegisterRequest) (reads : RequestReads) :
    s.registerAgent req reads =
      let result := registerAgentOn (memoryRegister reads.persisted) s.registry s.discoveryManager req
      ({ s with registry := result.1.1, discoveryManager := result.1.2 }, result.2) := by
  unfold registerAgent registerAgentOn memoryRegister
  cases reads.persisted <;> rfl

/-- So is the gRPC handler. -/
theorem grpcRegister_eq (identity : Option ProtoIdentity) (ring : Int32) (reads : RequestReads) :
    s.grpcRegister identity ring reads =
      let result := grpcRegisterOn (memoryRegister reads.persisted) s.registry identity ring
      ({ s with registry := result.1 }, result.2) := by
  unfold grpcRegister grpcRegisterOn memoryRegister
  cases fromProtoRegister identity ring with
  | error e => rfl
  | ok r => cases reads.persisted <;> rfl

end ServerState

/-! ## The two transports -/

section
variable {ρ : Type} (register : ρ → AgentIdentity → PrivilegeRing → ρ × Except String Unit)

/-- What an HTTP registration leads to, with the record handed to the registry. -/
theorem registerAgentOn_recording (registry : ρ) (discovery : DiscoveryManager)
    (identity : AgentIdentity) (ring : PrivilegeRing) :
    (registerAgentOn (recording register) ([], registry) discovery
      { identity := identity, ring := ring }).1 =
      (([{ identity := identity, ring := ring }], (register registry identity ring).1),
        match (register registry identity ring).2 with
        | .error _ => discovery
        | .ok () => discovery.registerAgent identity.did.toText) := by
  unfold registerAgentOn recording
  cases hanswer : (register registry identity ring).2 <;> simp [hanswer]

/-- What a gRPC registration leads to. -/
theorem grpcRegisterOn_recording (registry : ρ) (identity : AgentIdentity) (ring : PrivilegeRing) :
    (grpcRegisterOn (recording register) ([], registry) (some (toProtoIdentity identity ring))
      (toProtoRing ring)).1 =
      ([{ identity := overGrpc identity, ring := ring }],
        (register registry (overGrpc identity) ring).1) := by
  unfold grpcRegisterOn recording
  simp only [fromProtoRegister_toProto]
  cases hanswer : (register registry (overGrpc identity) ring).2 <;> simp

/-- Registering is no news to the discovery manager exactly when it does not know the agent. -/
theorem registerAgent_eq_self_iff (m : DiscoveryManager) (did : String) :
    m.registerAgent did = m ↔ m.agents.lookup did = none := by
  unfold DiscoveryManager.registerAgent
  cases m.agents.lookup did with
  | none => simp
  | some agent =>
    simp only [reduceCtorEq, iff_false]
    intro h
    -- an event is sent in any case
    have hsent := congrArg (fun m => m.sent.length) h
    simp at hsent

/-- **One operation, two transports**: for every registry, the HTTP and the gRPC registration of
    an identity hand over the same record and leave the same registry, map and events exactly when
    the identity has the status, the parent and the depth that a message is read with, and the
    agent was not discovered before (or the registry reports an error, so that HTTP does not get
    to the discovery manager). -/
theorem register_transports_agree_iff (registry : ρ) (discovery : DiscoveryManager)
    (identity : AgentIdentity) (ring : PrivilegeRing) :
    (registerAgentOn (recording register) ([], registry) discovery
        { identity := overHttp identity, ring := ring }).1 =
      ((grpcRegisterOn (recording register) ([], registry) (some (toProtoIdentity identity ring))
        (toProtoRing ring)).1, discovery) ↔
    (identity.status = "active" ∧ identity.parentDid = none ∧ identity.delegationDepth = 0) ∧
      ((register registry (overHttp identity) ring).2 = .ok () →
        discovery.agents.lookup identity.did.toText = none) := by
  rw [registerAgentOn_recording, grpcRegisterOn_recording, ← overHttp_eq_overGrpc_iff]
  constructor
  · intro h
    -- the registry is handed the same identity only if gRPC drops nothing
    have hrecord : overHttp identity = overGrpc identity := by
      have hhanded := congrArg (fun p => p.1.1) h
      simpa using hhanded
    refine ⟨hrecord, fun hok => ?_⟩
    -- HTTP tells the discovery manager, which must have nothing to note
    have hdiscovery := congrArg (fun p => p.2) h
    rw [hok] at hdiscovery
    exact (registerAgent_eq_self_iff discovery _).mp hdiscovery
  · rintro ⟨hrecord, hunknown⟩
    rw [← hrecord]
    -- a registry that fails stops both transports
    cases hanswer : (register registry (overHttp identity) ring).2 with
    | error e => rfl
    | ok u =>
      -- the agent is unknown, so the discovery manager is left as it was
      have hsame := (registerAgent_eq_self_iff discovery _).mpr (hunknown hanswer)
      exact Prod.ext rfl hsame

end

/-! ## A delegated agent -/

/-- An agent that was created by another one. -/
def delegatedAgent : AgentIdentity :=
  { identityStub "iodf/x6zhFFXes1a/uQFRWVo3XyJ4JCGOgVXvHr0nxc=" with
    did := { method := "mesh", uniqueId := "worker-1" }
    name := "worker-1"
    status := "active"
    parentDid := some "did:mesh:agent-1"
    delegationDepth := 1 }

/-- In a daemon that has just been started, the registry is handed a worker over HTTP and an agent
    without a parent over gRPC. -/
theorem register_transports_differ :
    ¬ ∀ (identity : AgentIdentity) (ring : PrivilegeRing),
      (registerAgentOn (recording (memoryRegister (.ok ())))
          ([], .new registrySeed "did:mesh:registry") .new
          { identity := overHttp identity, ring := ring }).1 =
        ((grpcRegisterOn (recording (memoryRegister (.ok ())))
          ([], .new registrySeed "did:mesh:registry") (some (toProtoIdentity identity ring))
          (toProtoRing ring)).1, .new) := by
  intro h
  have hsame := h delegatedAgent .standard
  rw [registerAgentOn_recording, grpcRegisterOn_recording] at hsame
  -- over gRPC the delegation depth is lost
  have hdepth := congrArg (fun p => p.1.1.map (·.identity.delegationDepth)) hsame
  exact absurd hdepth (by decide)

end AgentGovernance.Daemon
