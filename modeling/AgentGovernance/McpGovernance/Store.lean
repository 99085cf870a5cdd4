import Mathlib.Data.Finmap

/-!
# Policies and their store

`McpPolicy` of `crates/ext/mcp-governance/src/lib.rs` and the store of `store.rs` that the
daemon and the gateway use.  `PolicyStore` is what a caller of the trait object sees during
one call: its answers, which may be errors.
-/

namespace AgentGovernance.McpGovernance

structure McpPolicy where
  allowedTools : List String
  denylist : List String
  allowUnknownTools : Bool
  maxRequestsPerSecond : UInt32
  deriving DecidableEq

/-- `McpPolicy::default()`; the limit is the default of its type, not the one of the JSON field. -/
def McpPolicy.default : McpPolicy where
  allowedTools := []
  denylist := []
  allowUnknownTools := false
  maxRequestsPerSecond := 0

/-- The read half of `trait PolicyStore`, as the answers given during one call. -/
structure PolicyStore where
  loadPolicy : String → Except String (Option McpPolicy)

structure MemoryPolicyStore where
  policies : Finmap (fun _ : String => McpPolicy)

namespace MemoryPolicyStore

def savePolicy (store : MemoryPolicyStore) (agentDid : String) (policy : McpPolicy) :
    MemoryPolicyStore where
  policies := store.policies.insert agentDid policy

def loadPolicy (store : MemoryPolicyStore) (agentDid : String) : Option McpPolicy :=
  store.policies.lookup agentDid

def deletePolicy (store : MemoryPolicyStore) (agentDid : String) : MemoryPolicyStore where
  policies := store.policies.erase agentDid

def listPolicies (store : MemoryPolicyStore) : Finmap (fun _ : String => McpPolicy) :=
  store.policies

/-- `impl PolicyStore for MemoryPolicyStore`. -/
def answers (store : MemoryPolicyStore) : PolicyStore where
  loadPolicy agentDid := .ok (store.loadPolicy agentDid)

@[simp] theorem loadPolicy_savePolicy_self (store : MemoryPolicyStore) (agentDid : String)
    (policy : McpPolicy) : (store.savePolicy agentDid policy).loadPolicy agentDid = some policy :=
  Finmap.lookup_insert _

theorem loadPolicy_savePolicy_of_ne (store : MemoryPolicyStore) (policy : McpPolicy)
    {agentDid did : String} (h : did ≠ agentDid) :
    (store.savePolicy agentDid policy).loadPolicy did = store.loadPolicy did :=
  Finmap.lookup_insert_of_ne _ h

end MemoryPolicyStore

end AgentGovernance.McpGovernance
