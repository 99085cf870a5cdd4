import AgentGovernance.Daemon.RemoteDirectory

/-!
# Which calls of a directory client are replied to

A client that is registered with its keys passes the middleware, and its requests get as far as the
router.  There the locked version finds no path of an agent, and the client is told that there is
nothing (`replied_iff_repliable`).
-/

namespace AgentGovernance.Daemon

open AgentGovernance.Lib AgentGovernance.Mesh AgentGovernance.Compliance AgentGovernance.Discovery
open AgentGovernance.McpGovernance AgentGovernance.Runtime

variable {C : Crypto} {E : LogEnv} {X : Extractors} {B : RequestBodies} {ax : Axum}
  {s : ServerState} {c : DirectoryClient} {reads : RequestReads} {own : ClientReads}
  {call : DirectoryCall} {p : Posting}

/-! ## Registered clients -/

/-- The adapters of the client sign with the keys that their DIDs are registered with, and the daemon
    trusts its own registry. -/
structure Enrolled (C : Crypto) (s : ServerState) (c : DirectoryClient) : Prop where
  signers : ∀ signer ∈ c.signers, ∃ ring,
    s.registry.entries.lookup signer.1 = some (C.pubkeyB64 signer.2, ring)
  pubkey : s.registryPubkey = s.registry.pubkey C

/-- The client's DIDs and every signature fit into a header. -/
structure DirectoryClient.HeadersFit (c : DirectoryClient) (C : Crypto) : Prop where
  did : ∀ signer ∈ c.signers, headerValue signer.1 = .ok (.text signer.1)
  signature : ∀ bs, headerValue (C.encode64 bs) = .ok (.text (C.encode64 bs))

/-- The attestation of the caller does not expire before it is checked. -/
def Prompt (reads : RequestReads) : Prop :=
  reads.now 2 ≤ reads.now 1 + hours 24

/-- Such a client, when a call of it goes through in time. -/
structure Connected (C : Crypto) (s : ServerState) (c : DirectoryClient) (reads : RequestReads) :
    Prop where
  enrolled : Enrolled C s c
  fit : c.HeadersFit C
  prompt : Prompt reads

/-- A request of such a client passes the middleware, and its headers can be sent. -/
theorem Connected.middleware (h : Connected C s c reads) (hp : c.request C B own call = some p) :
    s.middleware C p.arrival reads = .ok p.body ∧
      headerValue p.agentDid = .ok (.text p.agentDid) ∧
      headerValue p.signature = .ok (.text p.signature) := by
  obtain ⟨signer, hsigner, hdid, hsignature⟩ := request_signed hp
  obtain ⟨ring, hentry⟩ := h.enrolled.signers signer hsigner
  refine ⟨middleware_signed hsignature (hdid ▸ hentry) h.enrolled.pubkey h.prompt, ?_, ?_⟩
  · rw [hdid]
    exact h.fit.did signer hsigner
  · rw [hsignature]
    exact h.fit.signature _

/-- So it gets to its route, and the response comes back. -/
theorem Connected.hears (h : Connected C s c reads) (call : DirectoryCall)
    (hp : c.request C B own call = some p) {route : HttpRoute}
    (hroute : dispatch ax p.method p.path = .ok route) (hjson : p.json = true) :
    (c.call C B E X ax s .answered reads own call).2 =
      (c.hear C own
        (.ok (responded (s.route C E X (p.arrival.request route) p.body reads).2)) call).2 := by
  obtain ⟨hmiddleware, hdid, hsignature⟩ := h.middleware hp
  rw [call_of_request hp, exchange_routed hroute hjson hmiddleware hdid hsignature]

/-- Without a route, the response of the router comes back. -/
theorem Connected.hears_unrouted (h : Connected C s c reads) (call : DirectoryCall)
    (hp : c.request C B own call = some p) {reply : HttpReply HttpBody}
    (hroute : dispatch ax p.method p.path = .error reply) :
    (c.call C B E X ax s .answered reads own call).2 = (c.hear C own (.ok reply) call).2 := by
  obtain ⟨hmiddleware, hdid, hsignature⟩ := h.middleware hp
  rw [call_of_request hp, exchange_unrouted hroute hmiddleware hdid hsignature]

/-! ## Replies -/

/-- What status 404 is read as. -/
theorem readOr_of_missing {α : Type} {message : String} {decode : HttpBody → Except String (Option α)}
    {reply : HttpReply HttpBody} (hstatus : reply.status = 404) :
    readOr message (decoded decode (.ok reply)) = .ok none := by
  simp [readOr, decoded, HttpReply.isSuccess, hstatus]

theorem acknowledged_of_missing {message : String} {reply : HttpReply HttpBody}
    (hstatus : reply.status = 404) :
    acknowledged message (.ok reply) = .error (message ++ reply.statusText) := by
  simp [acknowledged, HttpReply.isSuccess, hstatus]

def Repliable (reads : RequestReads) : DirectoryCall → Prop
  | .register _ _ => reads.persisted = .ok ()
  | .getRing _ | .isRegistered _ | .loadKey _ | .loadPolicy _ => True
  | _ => False

theorem answered_register (hax : ax.V07) (h : Connected C s c reads) (htexts : BodyTexts B X)
    (identity : AgentIdentity) (ring : PrivilegeRing) :
    (∃ reply, (c.call C B E X ax s .answered reads own (.register identity ring)).2 = .ok reply) ↔
      reads.persisted = .ok () := by
  -- the registration is the one call whose path is literal
  rw [h.hears (.register identity ring) rfl (dispatch_register hax) rfl]
  simp only [ServerState.route, HttpArrival.request, Posting.arrival,
    DirectoryClient.registryPosting, htexts.register, extracted, ServerState.registerAgent]
  cases reads.persisted with
  | error e =>
    -- the daemon could not write its log, and says so
    refine iff_of_false ?_ (fun hok => by cases hok)
    rintro ⟨reply, hreply⟩
    cases hreply
  | ok u => exact iff_of_true ⟨.done, rfl⟩ rfl

/-- **A call of such a client** whose response arrives: what it asks for is said not to be there. -/
theorem replied_iff_repliable (hax : ax.V07) (h : Connected C s c reads) (htexts : BodyTexts B X)
    (hempty : c.registry.cache = ∅) (call : DirectoryCall) :
    (∃ reply, (c.call C B E X ax s .answered reads own call).2 = .ok reply) ↔
      Repliable reads call := by
  cases call with
  | register identity ring => exact answered_register hax h htexts identity ring
  | getRing did =>
    -- the path is not routed, and 404 is read as an agent without a ring
    obtain ⟨refusal, hroute, hstatus, -⟩ := dispatch_agent hax .get did "ring"
    rw [h.hears_unrouted (.getRing did) rfl hroute]
    refine iff_of_true ⟨.ring none, ?_⟩ trivial
    simp only [DirectoryClient.hear, readOr_of_missing hstatus]
    rfl
  | isRegistered did =>
    -- a missing attestation means that the agent is not registered
    obtain ⟨hcached, hp⟩ := @request_isRegistered C B c own hempty did
    obtain ⟨refusal, hroute, hstatus, -⟩ := dispatch_agent hax .get did "attestation"
    rw [h.hears_unrouted _ hp hroute]
    refine iff_of_true ⟨.registered false, ?_⟩ trivial
    have hread : HttpAnswer.read (decoded asAttestation (.ok refusal)) = .ok none :=
      readOr_of_missing hstatus
    simp only [DirectoryClient.hear, HttpAgentRegistry.getAttestation, hcached,
      HttpAgentRegistry.fetch, HttpAgentRegistry.accept, hread]
    rfl
  | saveKey did key =>
    -- a save that gets 404 is an error for the client
    obtain ⟨refusal, hroute, hstatus, -⟩ := dispatch_agent hax .post did "key"
    rw [h.hears_unrouted (.saveKey did key) rfl hroute]
    refine iff_of_false ?_ id
    rintro ⟨reply, hreply⟩
    simp only [DirectoryClient.hear, acknowledged_of_missing hstatus] at hreply
    cases hreply
  | loadKey did =>
    obtain ⟨refusal, hroute, hstatus, -⟩ := dispatch_agent hax .get did "key"
    rw [h.hears_unrouted (.loadKey did) rfl hroute]
    refine iff_of_true ⟨.key none, ?_⟩ trivial
    have hread : HttpAnswer.read (decoded asKey (.ok refusal)) = .ok none :=
      readOr_of_missing hstatus
    simp only [DirectoryClient.hear, HttpKeyStore.loadKey, HttpKeyStore.accept, hread]
    rfl
  | loadPolicy did =>
    obtain ⟨refusal, hroute, hstatus, -⟩ := dispatch_agent hax .get did "policy"
    rw [h.hears_unrouted (.loadPolicy did) rfl hroute]
    refine iff_of_true ⟨.policy none, ?_⟩ trivial
    simp only [DirectoryClient.hear, readOr_of_missing hstatus]
    rfl
  | savePolicy did policy =>
    -- the same for a policy
    obtain ⟨refusal, hroute, hstatus, -⟩ := dispatch_agent hax .post did "policy"
    rw [h.hears_unrouted (.savePolicy did policy) rfl hroute]
    refine iff_of_false ?_ id
    rintro ⟨reply, hreply⟩
    simp only [DirectoryClient.hear, acknowledged_of_missing hstatus] at hreply
    cases hreply
  | deleteKey did | deletePolicy did | listPolicies =>
    -- these calls are not implemented by the client
    refine iff_of_false ?_ id
    rintro ⟨reply, hreply⟩
    cases hreply

end AgentGovernance.Daemon
