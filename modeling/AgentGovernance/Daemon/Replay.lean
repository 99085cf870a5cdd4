import AgentGovernance.Daemon.RemotePolicies

/-!
# Requests that are sent again

What a caller signs holds neither a time nor a number, and the daemon does not remember what it
has served.  So a request that was authenticated once stays good: `replay_authenticates_iff`
says that whether it is authenticated later depends on the key that is then registered for its
caller and on nothing else.  Under the same key it is authenticated again and writes the same
again, such as a policy that has been replaced in the meantime.
-/

namespace AgentGovernance.Daemon

open AgentGovernance.Lib AgentGovernance.Mesh AgentGovernance.Compliance AgentGovernance.Discovery
open AgentGovernance.McpGovernance AgentGovernance.Runtime

/-- The request names the DID and carries a signature of what it sends that the key accepts. -/
def DaemonRequest.SignedUnder (C : Crypto) (W : GrpcWire) (did pubkeyB64 : String) :
    DaemonRequest → Prop
  | .http req => ∃ signatureB64 signature body, req.agentDid.toStr = some did ∧
      req.signature.toStr = some signatureB64 ∧ C.decode64 signatureB64 = .ok signature ∧
      req.body = .ok body ∧ (identityStub pubkeyB64).verifySignature C body signature = true
  | .grpc req => ∃ signature, ServerState.extractGrpcAuth C req = .ok (did, signature) ∧
      (identityStub pubkeyB64).verifySignature C (W.encodeToVec req.message) signature = true

namespace ServerState

variable {C : Crypto} {W : GrpcWire} {s : ServerState}

/-! ## The registry in a run -/

/-- **Run.** Requests that register nobody leave the registry alone. -/
theorem runFrom_registry {E : LogEnv} {X : Extractors} {run : List (DaemonRequest × RequestReads)}
    (h : ∀ call ∈ run, ∀ identity ring,
      call.1.mutation C X W ≠ some (.register identity ring)) (s : ServerState) :
    (runFrom (step C E X W) s run).registry = s.registry := by
  have hunregistered : AllSteps (step C E X W) (fun _ call => ∀ identity ring,
      call.1.mutation C X W ≠ some (.register identity ring)) s run :=
    allSteps_of_forall_mem fun call hcall _ => h call hcall
  -- the registry is kept by every step that registers nobody
  apply AllSteps.keeps (I := fun t : ServerState => t.registry = s.registry) _ hunregistered rfl
  intro t call hcall ht
  rw [← ht]
  rcases step_stores_cases E X (C := C) (W := W) (s := t) call with hsame | ⟨did, m, -, hm, hstores⟩
  · exact congrArg Stores.registry hsame
  · refine (congrArg Stores.registry hstores).trans ?_
    cases m with
    | register identity ring => exact absurd hm (hcall identity ring)
    | savePolicy target policy =>
      -- the other mutations write another store
      rfl
    | saveKey target key => rfl

/-! ## What authentication depends on -/

/-- The signature is checked under the key of the caller's entry. -/
theorem verifies_of_authenticate {did : String} {signature body : Bytes} {reads : RequestReads}
    (h : s.authenticate C did signature body reads = .ok ()) :
    ∃ entry, s.registry.entries.lookup did = some entry ∧
      (identityStub entry.1).verifySignature C body signature = true := by
  obtain ⟨att, hatt, -, hsigned⟩ := (verifyRequestSignature_eq_ok_iff C _ _ _ _ _ _).mp h
  obtain ⟨entry, hentry, rfl⟩ := Option.map_eq_some_iff.mp (Except.ok.inj hatt)
  exact ⟨entry, hentry, hsigned⟩

/-- While the attestation is alive, at a daemon that knows the key of its registry, nothing else is
    checked. -/
theorem authenticate_eq_ok_iff (hpubkey : s.registryPubkey = s.registry.pubkey C)
    {reads : RequestReads} (hlife : reads.now 2 ≤ reads.now 1 + hours 24) (did : String)
    (signature body : Bytes) :
    s.authenticate C did signature body reads = .ok () ↔
      ∃ entry, s.registry.entries.lookup did = some entry ∧
        (identityStub entry.1).verifySignature C body signature = true := by
  refine ⟨verifies_of_authenticate, ?_⟩
  rintro ⟨entry, hentry, hsigned⟩
  -- the daemon attests the registered key, and verifies what it has attested
  have hatt : s.registry.getAttestation C did (reads.now 0) (reads.now 1) = some
      ((MemoryAgentRegistry.claimFor did entry.1 (reads.now 0) (reads.now 1)).attest C
        s.registry.registryIdentity s.registry.registryDid) := by
    rw [MemoryAgentRegistry.getAttestation, hentry]
    rfl
  rw [authenticate, hpubkey]
  apply (verifyRequestSignature_eq_ok_iff C _ _ _ _ _ _).mpr
  exact ⟨_, congrArg Except.ok hatt, (s.registry.verify_getAttestation C hatt).mpr hlife, hsigned⟩

/-- An authenticated request is signed under the key of its caller's entry. -/
theorem signedUnder_of_authenticates {req : DaemonRequest} {reads : RequestReads} {did : String}
    (h : s.Authenticates C W req reads did) :
    ∃ entry, s.registry.entries.lookup did = some entry ∧ req.SignedUnder C W did entry.1 := by
  cases req with
  | http req =>
    obtain ⟨signatureB64, signature, body, hdid, hsignature, hdecode, hbody, hauth⟩ := h
    obtain ⟨entry, hentry, hsigned⟩ := verifies_of_authenticate hauth
    exact ⟨entry, hentry, signatureB64, signature, body, hdid, hsignature, hdecode, hbody, hsigned⟩
  | grpc req =>
    obtain ⟨signature, hextract, hauth⟩ := h
    obtain ⟨entry, hentry, hsigned⟩ := verifies_of_authenticate hauth
    exact ⟨entry, hentry, signature, hextract, hsigned⟩

/-- And the other way round. -/
theorem authenticates_iff_signedUnder (hpubkey : s.registryPubkey = s.registry.pubkey C)
    {reads : RequestReads} (hlife : reads.now 2 ≤ reads.now 1 + hours 24) (req : DaemonRequest)
    (did : String) :
    s.Authenticates C W req reads did ↔
      ∃ entry, s.registry.entries.lookup did = some entry ∧ req.SignedUnder C W did entry.1 := by
  refine ⟨signedUnder_of_authenticates, ?_⟩
  rintro ⟨entry, hentry, hsigned⟩
  cases req with
  | http req =>
    -- the signature stands in the headers, and is of the body
    obtain ⟨signatureB64, signature, body, hdid, hsignature, hdecode, hbody, hverify⟩ := hsigned
    refine ⟨signatureB64, signature, body, hdid, hsignature, hdecode, hbody, ?_⟩
    exact (authenticate_eq_ok_iff hpubkey hlife did signature body).mpr ⟨entry, hentry, hverify⟩
  | grpc req =>
    -- the signature stands in the metadata, and is of the message
    obtain ⟨signature, hextract, hverify⟩ := hsigned
    refine ⟨signature, hextract, ?_⟩
    exact (authenticate_eq_ok_iff hpubkey hlife did signature _).mpr ⟨entry, hentry, hverify⟩

end ServerState

open ServerState in
/-- **Replay**: over every run of the daemon, whatever has been served in it, a request is
    authenticated after it exactly when it is signed under the key that is then registered for its
    caller.  So a request that was authenticated before the run is authenticated again after it
    wherever the caller has the same key, and writes to the stores what it wrote before. -/
theorem replay_authenticates_iff (C : Crypto) (E : LogEnv) (X : Extractors) (W : GrpcWire)
    (s : ServerState) (hpubkey : s.registryPubkey = s.registry.pubkey C)
    (run : List (DaemonRequest × RequestReads)) (req : DaemonRequest) (did : String)
    (reads' : RequestReads) (hlife : reads'.now 2 ≤ reads'.now 1 + hours 24) :
    let t := runFrom (step C E X W) s run
    (t.Authenticates C W req reads' did ↔
      ∃ entry, t.registry.entries.lookup did = some entry ∧ req.SignedUnder C W did entry.1) ∧
    ∀ reads entry entry', s.Authenticates C W req reads did →
      s.registry.entries.lookup did = some entry → t.registry.entries.lookup did = some entry' →
      entry'.1 = entry.1 →
      t.Authenticates C W req reads' did ∧
        (t.step C E X W (req, reads')).stores = t.stores.after (req.mutation C X W) := by
  intro t
  -- the key of the registry never changes
  have hiff := authenticates_iff_signedUnder (W := W)
    (runFrom_pubkey (E := E) (X := X) (W := W) hpubkey run) hlife req did
  refine ⟨hiff, ?_⟩
  intro reads entry entry' hcaptured hentry hentry' hkey
  -- the captured request was signed under the key that is registered still
  obtain ⟨found, hfound, hsigned⟩ := signedUnder_of_authenticates hcaptured
  obtain rfl : entry = found := Option.some.inj (hentry.symm.trans hfound)
  have hagain : t.Authenticates C W req reads' did := hiff.mpr ⟨entry', hentry', hkey ▸ hsigned⟩
  exact ⟨hagain, serve_stores_of_authenticates E X hagain⟩

/-! ## A policy that comes back -/

/-- The client sets the policy of another agent. -/
noncomputable def policyCommand (policy : McpPolicy) : DaemonRequest :=
  signedMessage remoteKeys policyWire "did:mesh:agent-1" agentOneSeed
    (.setPolicy "did:mesh:agent-2" (policyWire.policyToJson policy))

theorem mutation_policyCommand (policy : McpPolicy) :
    (policyCommand policy).mutation remoteKeys rejectingExtractors policyWire =
      some (.savePolicy "did:mesh:agent-2" policy) := by
  rw [policyCommand, signedMessage, DaemonRequest.mutation, GrpcMessage.mutation,
    policyTexts_policyWire.fromJson_toJson]
  rfl

theorem lookup_remoteStart :
    remoteStart.registry.entries.lookup "did:mesh:agent-1" =
      some (remoteKeys.pubkeyB64 agentOneSeed, .standard) :=
  MemoryAgentRegistry.lookup_register_self _ _ _

/-- The two policies are set one after the other. -/
noncomputable def twoPolicies : List (DaemonRequest × RequestReads) :=
  [(policyCommand readLogsPolicy, epochRequestReads),
    (policyCommand restrictedPolicy, epochRequestReads)]

theorem lookup_twoPolicies :
    (runFrom (ServerState.step remoteKeys sampleEnv rejectingExtractors policyWire) remoteStart
        twoPolicies).registry.entries.lookup "did:mesh:agent-1" =
      some (remoteKeys.pubkeyB64 agentOneSeed, .standard) := by
  rw [ServerState.runFrom_registry, lookup_remoteStart]
  simp [twoPolicies, mutation_policyCommand]

theorem authenticates_policyCommand (policy : McpPolicy) :
    remoteStart.Authenticates remoteKeys policyWire (policyCommand policy) epochRequestReads
      "did:mesh:agent-1" :=
  calledBy_signedMessage lookup_remoteStart rfl (by decide) _

/-- The first command, sent again, undoes the second. -/
theorem replay_authenticates_iff_rollback :
    ((runFrom (ServerState.step remoteKeys sampleEnv rejectingExtractors policyWire) remoteStart
        twoPolicies).step remoteKeys sampleEnv rejectingExtractors policyWire
        (policyCommand readLogsPolicy, epochRequestReads)).stores.policyStore.loadPolicy
      "did:mesh:agent-2" = some readLogsPolicy := by
  have hlife : epochRequestReads.now 2 ≤ epochRequestReads.now 1 + hours 24 := by decide
  obtain ⟨-, hstores⟩ := (replay_authenticates_iff remoteKeys sampleEnv rejectingExtractors
    policyWire remoteStart rfl twoPolicies (policyCommand readLogsPolicy) "did:mesh:agent-1"
    epochRequestReads hlife).2 epochRequestReads _ _ (authenticates_policyCommand readLogsPolicy)
    lookup_remoteStart lookup_twoPolicies rfl
  rw [hstores, mutation_policyCommand]
  exact MemoryPolicyStore.loadPolicy_savePolicy_self _ _ _

end AgentGovernance.Daemon
