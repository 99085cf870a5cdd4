import AgentGovernance.Daemon.Exchange

/-!
# The directory of a daemon over HTTP

`HttpAgentRegistry` and `HttpKeyStore`, the clients in `crates/core/mesh/src/identity/`, and
`HttpPolicyStore` in `crates/ext/mcp-governance/src/store.rs`, against the routes of the daemon that
they are written for.  The DIDs of the calls are those that a URL carries unchanged (`Segment`).

A call becomes a request (`DirectoryClient.request`), and its answer a reply
(`DirectoryClient.hear`).  With the locked version of the router no request but a registration gets
to a handler: nothing is written (`stores_call`) and nothing is found (`found_nothing`).
-/

namespace AgentGovernance.Daemon

open AgentGovernance.Lib AgentGovernance.Mesh AgentGovernance.Compliance AgentGovernance.Discovery
open AgentGovernance.McpGovernance AgentGovernance.Runtime

/-! ## Bodies -/

/-- The bodies that the clients send. -/
structure RequestBodies where
  register : AgentIdentity → PrivilegeRing → Bytes
  keyB64 : String → Bytes
  policy : McpPolicy → Bytes

/-- What the clients rely on of `serde_json`; the private key of an identity is not sent. -/
structure BodyTexts (B : RequestBodies) (X : Extractors) : Prop where
  register : ∀ identity ring, X.registerRequest (B.register identity ring) =
    .ok { identity := { identity with privateKey := none }, ring := ring }

/-- An attestation, or `null`. -/
def asAttestation : HttpBody → Except String (Option SignedAttestation)
  | .attestation answer => .ok answer
  | _ => .error "error decoding response body"

/-- A ring, or `null`. -/
def asRing : HttpBody → Except String (Option PrivilegeRing)
  | .ring answer => .ok answer
  | _ => .error "error decoding response body"

/-- A key with its attestation, or `null`. -/
def asKey : HttpBody → Except String (Option Mesh.AttestedKeyResponse)
  | .key answer => .ok (answer.map fun a => { keyB64 := a.keyB64, attestation := a.attestation })
  | _ => .error "error decoding response body"

/-- A policy, or `null`. -/
def asPolicy : HttpBody → Except String (Option McpPolicy)
  | .policy answer => .ok answer
  | _ => .error "error decoding response body"

/-! ## The client -/

structure HttpPolicyStore where
  baseUrl : String
  agentDid : String
  signingKey : ByteArr 32

def HttpPolicyStore.signBody (store : HttpPolicyStore) (C : Crypto) (body : Bytes) : String :=
  C.encode64 (C.sign store.signingKey body).val

/-- The three adapters of an agent. -/
structure DirectoryClient where
  registry : HttpAgentRegistry
  keyStore : HttpKeyStore
  policyStore : HttpPolicyStore
  peerAddr : String

inductive DirectoryCall where
  | register (identity : AgentIdentity) (ring : PrivilegeRing)
  | getRing (did : Segment)
  | isRegistered (did : Segment)
  | saveKey (did : Segment) (key : ByteArr 32)
  | loadKey (did : Segment)
  | deleteKey (did : Segment)
  | savePolicy (did : Segment) (policy : McpPolicy)
  | loadPolicy (did : Segment)
  | deletePolicy (did : Segment)
  | listPolicies

inductive DirectoryReply where
  | done
  | ring (answer : Option PrivilegeRing)
  | registered (answer : Bool)
  | key (answer : Option (ByteArr 32))
  | policy (answer : Option McpPolicy)

/-- The clock and the random numbers of the client. -/
structure ClientReads where
  now : DateTime
  jitter : Jitter
  verifiedAt : DateTime

namespace DirectoryClient

variable (c : DirectoryClient) (C : Crypto) (B : RequestBodies)

/-- A request of the registry adapter. -/
def registryPosting (method : HttpMethod) (path : List String) (body : Bytes) : Posting where
  agentDid := c.registry.agentDid
  signature := c.registry.signBody C body
  peerAddr := c.peerAddr
  method := method
  path := path
  json := method = .post
  body := body

/-- A request of the key store adapter. -/
def keyPosting (method : HttpMethod) (path : List String) (body : Bytes) : Posting where
  agentDid := c.keyStore.agentDid
  signature := c.keyStore.signBody C body
  peerAddr := c.peerAddr
  method := method
  path := path
  json := method = .post
  body := body

/-- A request of the policy store adapter, which writes its body without a content type. -/
def policyPosting (method : HttpMethod) (path : List String) (body : Bytes) : Posting where
  agentDid := c.policyStore.agentDid
  signature := c.policyStore.signBody C body
  peerAddr := c.peerAddr
  method := method
  path := path
  json := false
  body := body

/-- The request of a call, if it makes one. -/
def request (own : ClientReads) : DirectoryCall → Option Posting
  | .register identity ring =>
    some (c.registryPosting C .post ["v1", "agents", "register"] (B.register identity ring))
  | .getRing did => some (c.registryPosting C .get ["v1", "agents", did.val, "ring"] [])
  | .isRegistered did =>
    -- a fresh attestation in the cache spares the request
    if (c.registry.cached did.val own.now own.jitter).isSome then none
    else some (c.registryPosting C .get ["v1", "agents", did.val, "attestation"] [])
  | .saveKey did key =>
    some (c.keyPosting C .post ["v1", "agents", did.val, "key"]
      (B.keyB64 (C.encode64 key.val)))
  | .loadKey did => some (c.keyPosting C .get ["v1", "agents", did.val, "key"] [])
  | .savePolicy did policy =>
    some (c.policyPosting C .post ["v1", "agents", did.val, "policy"] (B.policy policy))
  | .loadPolicy did => some (c.policyPosting C .get ["v1", "agents", did.val, "policy"] [])
  | _ => none

/-- What the caller gets for the answer to that request, and the client after it. -/
def hear (own : ClientReads) (answer : HttpAnswer HttpBody) :
    DirectoryCall → DirectoryClient × Except String DirectoryReply
  | .register _ _ =>
    (c, (acknowledged "Failed to register agent: " answer).map fun _ => .done)
  | .getRing _ => (c, (readOr "Registry error: " (decoded asRing answer)).map .ring)
  | .isRegistered did =>
    let result := c.registry.getAttestation C did.val own.now own.jitter
      (fun _ => decoded asAttestation answer) own.verifiedAt
    ({ c with registry := result.1 },
      result.2.map fun attestation => .registered attestation.isSome)
  | .saveKey _ _ => (c, (acknowledged "Failed to save key: " answer).map fun _ => .done)
  | .loadKey did =>
    (c, (c.keyStore.loadKey C did.val (fun _ => decoded asKey answer) own.verifiedAt).map .key)
  | .deleteKey _ => (c, .error "Delete not implemented in HttpKeyStore v1")
  | .savePolicy _ _ => (c, (acknowledged "Failed to save policy: " answer).map fun _ => .done)
  | .loadPolicy _ =>
    (c, (readOr "Failed to load policy: " (decoded asPolicy answer)).map .policy)
  | .deletePolicy _ => (c, .error "Delete not implemented in HttpPolicyStore v1")
  | .listPolicies => (c, .error "List not implemented in HttpPolicyStore v1")

variable (E : LogEnv) (X : Extractors) (ax : Axum)

/-- A call, against a daemon. -/
def call (s : ServerState) (delivery : Delivery) (reads : RequestReads) (own : ClientReads)
    (call : DirectoryCall) : (ServerState × DirectoryClient) × Except String DirectoryReply :=
  match c.request C B own call with
  | none =>
    let heard := c.hear C own (.error "") call
    ((s, heard.1), heard.2)
  | some p =>
    let sent := exchange C E X ax s p reads delivery
    let heard := c.hear C own sent.2 call
    ((sent.1, heard.1), heard.2)

/-- The DIDs that the adapters sign for, with their keys. -/
def signers : List (String × ByteArr 32) :=
  [(c.registry.agentDid, c.registry.signingKey), (c.keyStore.agentDid, c.keyStore.signingKey),
    (c.policyStore.agentDid, c.policyStore.signingKey)]

end DirectoryClient

section
variable {C : Crypto} {E : LogEnv} {X : Extractors} {B : RequestBodies} {ax : Axum}
  {s : ServerState} {c : DirectoryClient} {delivery : Delivery} {reads : RequestReads}
  {own : ClientReads} {call : DirectoryCall} {p : Posting}

/-! ## One call -/

theorem call_of_request (h : c.request C B own call = some p) :
    c.call C B E X ax s delivery reads own call =
      (((exchange C E X ax s p reads delivery).1,
          (c.hear C own (exchange C E X ax s p reads delivery).2 call).1),
        (c.hear C own (exchange C E X ax s p reads delivery).2 call).2) := by
  rw [DirectoryClient.call, h]

/-- A call leaves the daemon as its request does, or alone. -/
theorem call_server :
    (c.call C B E X ax s delivery reads own call).1.1 = s ∨
      ∃ p, c.request C B own call = some p ∧
        (c.call C B E X ax s delivery reads own call).1.1 = (s.receive C E X ax p.arrival reads).1 := by
  cases hrequest : c.request C B own call with
  | none =>
    rw [DirectoryClient.call, hrequest]
    exact .inl rfl
  | some p =>
    rw [call_of_request hrequest]
    exact (exchange_state C E X ax s p reads delivery).imp_right fun h => ⟨p, rfl, h⟩

/-- A call changes nothing of the client but its cache. -/
theorem hear_client (answer : HttpAnswer HttpBody) :
    ∃ cache, (c.hear C own answer call).1 =
      { c with registry := { c.registry with cache := cache } } := by
  cases call with
  | isRegistered did =>
    -- a fetched attestation goes to the cache when it verifies
    simp only [DirectoryClient.hear, HttpAgentRegistry.getAttestation, HttpAgentRegistry.fetch,
      HttpAgentRegistry.accept]
    split
    · exact ⟨c.registry.cache, rfl⟩
    · split
      · exact ⟨c.registry.cache, rfl⟩
      · exact ⟨c.registry.cache, rfl⟩
      · split
        · exact ⟨c.registry.cache, rfl⟩
        · exact ⟨_, rfl⟩
  | register identity ring =>
    -- the other replies are handed to the caller
    exact ⟨c.registry.cache, rfl⟩
  | getRing did => exact ⟨c.registry.cache, rfl⟩
  | saveKey did key => exact ⟨c.registry.cache, rfl⟩
  | loadKey did => exact ⟨c.registry.cache, rfl⟩
  | deleteKey did => exact ⟨c.registry.cache, rfl⟩
  | savePolicy did policy => exact ⟨c.registry.cache, rfl⟩
  | loadPolicy did => exact ⟨c.registry.cache, rfl⟩
  | deletePolicy did => exact ⟨c.registry.cache, rfl⟩
  | listPolicies => exact ⟨c.registry.cache, rfl⟩

/-- A request is signed by one of the adapters. -/
theorem request_signed (h : c.request C B own call = some p) :
    ∃ signer ∈ c.signers, p.agentDid = signer.1 ∧
      p.signature = C.encode64 (C.sign signer.2 p.body).val := by
  -- each adapter signs with its own DID and key
  have hsigned : p.agentDid = c.registry.agentDid ∧ p.signature = c.registry.signBody C p.body ∨
      p.agentDid = c.keyStore.agentDid ∧ p.signature = c.keyStore.signBody C p.body ∨
      p.agentDid = c.policyStore.agentDid ∧ p.signature = c.policyStore.signBody C p.body := by
    cases call with
    | register identity ring =>
      obtain rfl := Option.some.inj h
      exact .inl ⟨rfl, rfl⟩
    | getRing did =>
      obtain rfl := Option.some.inj h
      exact .inl ⟨rfl, rfl⟩
    | isRegistered did =>
      simp only [DirectoryClient.request] at h
      split at h
      · cases h
      · obtain rfl := Option.some.inj h
        exact .inl ⟨rfl, rfl⟩
    | saveKey did key =>
      obtain rfl := Option.some.inj h
      exact .inr (.inl ⟨rfl, rfl⟩)
    | loadKey did =>
      obtain rfl := Option.some.inj h
      exact .inr (.inl ⟨rfl, rfl⟩)
    | savePolicy did policy =>
      obtain rfl := Option.some.inj h
      exact .inr (.inr ⟨rfl, rfl⟩)
    | loadPolicy did =>
      obtain rfl := Option.some.inj h
      exact .inr (.inr ⟨rfl, rfl⟩)
    | deleteKey did =>
      -- these calls send no request
      cases h
    | deletePolicy did => cases h
    | listPolicies => cases h
  rcases hsigned with h | h | h
  · exact ⟨_, List.mem_cons_self, h⟩
  · exact ⟨_, List.mem_cons_of_mem _ List.mem_cons_self, h⟩
  · exact ⟨_, List.mem_cons_of_mem _ (List.mem_cons_of_mem _ List.mem_cons_self), h⟩

/-- Every call but a registration goes to a path of some agent. -/
theorem path_of_request (h : c.request C B own call = some p)
    (hcall : ∀ identity ring, call ≠ .register identity ring) :
    ∃ (did : Segment) (last : String), p.path = ["v1", "agents", did.val, last] := by
  cases call with
  | register identity ring => exact absurd rfl (hcall identity ring)
  | isRegistered did =>
    simp only [DirectoryClient.request] at h
    -- a cached attestation is answered without a request
    split at h
    · cases h
    · obtain rfl := Option.some.inj h
      exact ⟨did, _, rfl⟩
  | getRing did | saveKey did key | loadKey did | savePolicy did policy | loadPolicy did =>
    obtain rfl := Option.some.inj h
    exact ⟨did, _, rfl⟩
  | deleteKey did | deletePolicy did | listPolicies => cases h

/-! ## Paths of agents -/

/-- With literal patterns such a path is not found, so the call writes nothing. -/
theorem stores_call (hax : ax.V07) (hcall : ∀ identity ring, call ≠ .register identity ring) :
    (c.call C B E X ax s delivery reads own call).1.1.stores = s.stores := by
  rcases @call_server C E X B ax s c delivery reads own call with hsame | ⟨p, hp, hreceived⟩
  · rw [hsame]
  · obtain ⟨did, last, hpath⟩ := path_of_request hp hcall
    obtain ⟨reply, hroute, -⟩ := dispatch_agent hax p.method did last
    rw [← hpath] at hroute
    rw [hreceived]
    exact stores_receive_of_unrouted hroute

/-- What the registry adapter returns for an answer is what it reads. -/
theorem read_of_accept {r : HttpAgentRegistry} {did : String}
    {answer : HttpAnswer (Option SignedAttestation)} {now : DateTime}
    {v : Option SignedAttestation} (h : (r.accept C did answer now).2 = .ok v) :
    readOr "Registry error: " answer = .ok v := by
  change HttpAnswer.read answer = .ok v
  unfold HttpAgentRegistry.accept at h
  cases hread : HttpAnswer.read answer with
  | error e =>
    rw [hread] at h
    -- the registry passes a failure on
    cases h
  | ok found =>
    rw [hread] at h
    cases found with
    | none =>
      -- or the attestation that it has verified
      exact h
    | some a =>
      dsimp only at h
      split at h
      · cases h
      · exact h

/-- A reply with nothing in it; a registration is acknowledged. -/
def FindsNothing : DirectoryCall → DirectoryReply → Prop
  | .register _ _, .done => True
  | .getRing _, .ring none => True
  | .isRegistered _, .registered false => True
  | .loadKey _, .key none => True
  | .loadPolicy _, .policy none => True
  | _, _ => False

/-- With nothing in the cache, the registry adapter asks. -/
theorem request_isRegistered (hempty : c.registry.cache = ∅) (did : Segment) :
    c.registry.cached did.val own.now own.jitter = none ∧
      c.request C B own (.isRegistered did) =
        some (c.registryPosting C .get ["v1", "agents", did.val, "attestation"] []) := by
  have hcached : c.registry.cached did.val own.now own.jitter = none := by
    rw [HttpAgentRegistry.cached, hempty, Finmap.lookup_empty]
    rfl
  exact ⟨hcached, by simp [DirectoryClient.request, hcached]⟩

/-- **Any call**: nothing is found, and nothing gets into the cache. -/
theorem found_nothing (hax : ax.V07) (hempty : c.registry.cache = ∅) :
    (∀ reply, (c.call C B E X ax s delivery reads own call).2 = .ok reply →
        FindsNothing call reply) ∧
      (c.call C B E X ax s delivery reads own call).1.2.registry.cache = ∅ := by
  cases call with
  | register identity ring =>
    -- a registration is acknowledged, and finds nothing
    refine ⟨?_, hempty⟩
    intro reply h
    obtain ⟨u, -, rfl⟩ := ok_of_map h
    trivial
  | getRing did =>
    refine ⟨?_, hempty⟩
    intro reply h
    -- the path is not routed, so whatever was read is nothing
    obtain ⟨refusal, hroute, -, hrefusal⟩ := dispatch_agent hax .get did "ring"
    rw [call_of_request rfl] at h
    obtain ⟨found, hread, rfl⟩ := ok_of_map h
    rw [read_of_unrouted hroute hrefusal hread]
    trivial
  | isRegistered did =>
    obtain ⟨hcached, hp⟩ := @request_isRegistered C B c own hempty did
    obtain ⟨refusal, hroute, -, hrefusal⟩ := dispatch_agent hax .get did "attestation"
    rw [call_of_request hp]
    simp only [DirectoryClient.hear, HttpAgentRegistry.getAttestation, hcached]
    refine ⟨?_, ?_⟩
    · intro reply h
      obtain ⟨found, hfound, rfl⟩ := ok_of_map h
      rw [read_of_unrouted hroute hrefusal (read_of_accept hfound)]
      trivial
    · -- nothing was accepted, so nothing was cached
      apply Finmap.ext_lookup
      intro d
      rw [Finmap.lookup_empty]
      apply Option.eq_none_iff_forall_ne_some.mpr
      intro a ha
      -- it was cached before, or it is what the daemon has answered
      rcases HttpAgentRegistry.lookup_accept ha with hold | ⟨-, hnew⟩
      · rw [hempty, Finmap.lookup_empty] at hold
        cases hold
      · cases read_of_unrouted hroute hrefusal (read_of_accept hnew)
  | saveKey did key =>
    refine ⟨?_, hempty⟩
    intro reply h
    obtain ⟨refusal, hroute, -, hrefusal⟩ := dispatch_agent hax .post did "key"
    rw [call_of_request rfl] at h
    obtain ⟨u, hdone, -⟩ := ok_of_map h
    -- a save that was not routed is not acknowledged
    exact absurd hdone (not_acknowledged fun _ => isSuccess_of_unrouted hroute hrefusal)
  | loadKey did =>
    refine ⟨?_, hempty⟩
    intro reply h
    obtain ⟨refusal, hroute, -, hrefusal⟩ := dispatch_agent hax .get did "key"
    rw [call_of_request rfl] at h
    obtain ⟨found, haccepted, rfl⟩ := ok_of_map h
    cases found with
    | none => trivial
    | some key =>
      -- a key would have come with an attestation
      obtain ⟨res, hread, -⟩ := HttpKeyStore.accept_eq_some_iff.mp haccepted
      have hread : readOr "Registry error: " _ = .ok (some res) := hread
      cases read_of_unrouted hroute hrefusal hread
  | savePolicy did policy =>
    refine ⟨?_, hempty⟩
    intro reply h
    obtain ⟨refusal, hroute, -, hrefusal⟩ := dispatch_agent hax .post did "policy"
    rw [call_of_request rfl] at h
    obtain ⟨u, hdone, -⟩ := ok_of_map h
    exact absurd hdone (not_acknowledged fun _ => isSuccess_of_unrouted hroute hrefusal)
  | loadPolicy did =>
    refine ⟨?_, hempty⟩
    intro reply h
    obtain ⟨refusal, hroute, -, hrefusal⟩ := dispatch_agent hax .get did "policy"
    rw [call_of_request rfl] at h
    obtain ⟨found, hread, rfl⟩ := ok_of_map h
    rw [read_of_unrouted hroute hrefusal hread]
    trivial
  | deleteKey did | deletePolicy did | listPolicies =>
    -- not implemented: the adapter answers without asking the daemon
    refine ⟨?_, hempty⟩
    intro reply h
    cases h

end

end AgentGovernance.Daemon
