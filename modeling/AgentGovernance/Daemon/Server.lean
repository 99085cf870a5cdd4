import AgentGovernance.Daemon.Auth
import AgentGovernance.Daemon.Execute
import AgentGovernance.Discovery.Manager
import AgentGovernance.McpGovernance.Store
import AgentGovernance.Runtime.EscalationManager

/-!
# The state of the daemon

`ServerState` in `crates/daemon/src/lib.rs`, with the stores that the daemon command puts
into it, and what the handlers of both transports share.

A request is served as a whole.  What it gets from outside is in `RequestReads`: clock
readings, a fresh identifier, and the answers of the file system.
-/

namespace AgentGovernance.Daemon

open AgentGovernance.Lib AgentGovernance.Mesh AgentGovernance.Compliance AgentGovernance.Discovery
open AgentGovernance.McpGovernance AgentGovernance.Runtime

/-! ## Stores -/

structure MemoryKeyStore where
  keys : Finmap (fun _ : String => ByteArr 32)

namespace MemoryKeyStore

def saveKey (store : MemoryKeyStore) (agentDid : String) (key : ByteArr 32) : MemoryKeyStore where
  keys := store.keys.insert agentDid key

def loadKey (store : MemoryKeyStore) (agentDid : String) : Option (ByteArr 32) :=
  store.keys.lookup agentDid

def deleteKey (store : MemoryKeyStore) (agentDid : String) : MemoryKeyStore where
  keys := store.keys.erase agentDid

@[simp] theorem loadKey_saveKey_self (store : MemoryKeyStore) (agentDid : String)
    (key : ByteArr 32) : (store.saveKey agentDid key).loadKey agentDid = some key :=
  Finmap.lookup_insert _

theorem loadKey_saveKey_of_ne (store : MemoryKeyStore) (key : ByteArr 32) {agentDid did : String}
    (h : did ≠ agentDid) : (store.saveKey agentDid key).loadKey did = store.loadKey did :=
  Finmap.lookup_insert_of_ne _ h

end MemoryKeyStore

/-! ## The state -/

/-- `ServerState`.  The exporter is the action records it was given. -/
structure ServerState where
  registry : MemoryAgentRegistry
  keyStore : MemoryKeyStore
  policyStore : MemoryPolicyStore
  escalationManager : EscalationManager
  discoveryManager : DiscoveryManager
  complianceVerifier : ComplianceVerifier
  actionLog : FileActionLog
  siemExporter : Option (List ActionLogRecord)
  registryPubkey : String

/-- The state that the daemon command starts with, on a registry file, an audit file and the
    files of the action log. -/
def ServerState.start (E : LogEnv) (registryIdentity : ByteArr 32) (registryDid : String)
    (registered : List (AgentIdentity × PrivilegeRing)) (auditFile : Option Bytes) (disk : Disk)
    (hasExporter : Bool) (registryPubkey : String) : ServerState where
  registry := (MemoryAgentRegistry.new registryIdentity registryDid).registerAll registered
  keyStore := { keys := ∅ }
  policyStore := { policies := ∅ }
  escalationManager := .new auditFile registryPubkey hasExporter
  discoveryManager := .new
  complianceVerifier := .defaultPolicy
  actionLog := .open E disk
  siemExporter := if hasExporter then some [] else none
  registryPubkey := registryPubkey

/-- What a request gets from outside. -/
structure RequestReads where
  /-- The readings of the clock, by the place in the source that takes them: three for the
      authentication, the others for the handler. -/
  now : Nat → DateTime
  /-- `Uuid::new_v4`. -/
  newId : Uuid
  /-- What a registry with a file answers after the append to that file. -/
  persisted : Except String Unit
  auditIo : LineOutcome
  logIo : AppendOutcome

/-- A header or metadata value; it need not be text. -/
inductive HeaderValue where
  | absent
  | notText
  | text (s : String)
  deriving DecidableEq

/-- `headers.get(..).and_then(|h| h.to_str().ok())`. -/
def HeaderValue.toStr : HeaderValue → Option String
  | .text s => some s
  | _ => none

def parseDid (s : String) : Except String AgentDID :=
  match s.toList.splitOn ':' with
  | [scheme, method, uniqueId] =>
    if scheme ≠ "did".toList ∨ method ≠ "mesh".toList then .error "Invalid DID format"
    else .ok { method := "mesh", uniqueId := String.ofList uniqueId }
  | _ => .error "Invalid DID format"

namespace ServerState

variable (C : Crypto) (E : LogEnv) (s : ServerState)

/-- The registry as a handler sees it, after the authentication. -/
def registryAnswers (reads : RequestReads) : AgentRegistry :=
  s.registry.answers C (reads.now 3) (reads.now 4)

/-- `verify_request_signature` on the state's registry. -/
def authenticate (did : String) (signature body : Bytes) (reads : RequestReads) :
    Except String Unit :=
  verifyRequestSignature C did signature body (s.registry.answers C (reads.now 0) (reads.now 1))
    s.registryPubkey (reads.now 2)

/-- `report_presence` of the discovery manager. -/
def present (did : AgentDID) (name address : String) (source : DiscoverySource)
    (reads : RequestReads) : ServerState :=
  { s with
    discoveryManager :=
      s.discoveryManager.reportPresence did name address source (reads.now 3) (reads.now 4) }

/-- What a decision on an escalation request gets from outside. -/
def surroundings (reads : RequestReads) : Surroundings where
  registry := s.registryAnswers C reads
  verifiedAt := reads.now 5
  decidedAt := reads.now 6
  io := reads.auditIo

/-- `EscalationManager::approve` with the state's registry. -/
def approve (eventId : Uuid) (approverDid : String) (signature : Bytes) (reads : RequestReads) :
    ServerState × Except String EscalationEvent :=
  let result := s.escalationManager.approve C (s.surroundings C reads) eventId approverDid signature
  ({ s with escalationManager := result.1 }, result.2)

def deny (eventId : Uuid) (approverDid cause : String) (reads : RequestReads) :
    ServerState × Except String EscalationEvent :=
  let result := s.escalationManager.deny (s.surroundings C reads) eventId approverDid cause
  ({ s with escalationManager := result.1 }, result.2)

/-- `pending_requests`, in no order. -/
def pendingRequests : Multiset (Uuid × EscalationRequest) :=
  s.escalationManager.pending.entries.map fun e => (e.1, e.2)

/-- `execute_action` on the state's log. -/
def execute (header : Option String) (request : ExecuteRequest) (reads : RequestReads) :
    ServerState × Except HttpError ExecuteResponse :=
  let result := executeAction E s.complianceVerifier s.siemExporter.isSome s.actionLog
    { header := header
      request := request
      registry := s.registryAnswers C reads
      now := fun i => reads.now (3 + i)
      recordId := reads.newId
      io := reads.logIo }
  ({ s with
      actionLog := result.log
      siemExporter := s.siemExporter.map (· ++ result.exported.toList) },
    result.response)

end ServerState

end AgentGovernance.Daemon
