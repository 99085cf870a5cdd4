import AgentGovernance.Daemon.Writes
import AgentGovernance.Lib.Runs

/-!
# Privileges and other agents' data

What a request of an agent outside the System ring may change: nobody's ring becomes more
privileged, and the registry entry, policy and key of everyone else stay as they are.

The handlers that write take their target and the ring from the path or the message and
never compare them with the caller, so the requests themselves decide.  `privilege_frame`
says for which requests the law holds, and what then holds over a run.
-/

namespace AgentGovernance.Daemon

open AgentGovernance.Lib AgentGovernance.Mesh AgentGovernance.Compliance AgentGovernance.Discovery
open AgentGovernance.McpGovernance AgentGovernance.Runtime

/-! ## Frames -/

/-- No registered agent gets a more privileged ring. -/
def RingsKept (st st' : Stores) : Prop :=
  ∀ e old, st.registry.getRing e = some old → ∃ new, st'.registry.getRing e = some new ∧ old ≤ new

/-- What is stored for an agent stays the same. -/
structure Untouched (e : String) (st st' : Stores) : Prop where
  entry : st'.registry.entries.lookup e = st.registry.entries.lookup e
  policy : st'.policyStore.loadPolicy e = st.policyStore.loadPolicy e
  key : st'.keyStore.loadKey e = st.keyStore.loadKey e

/-- What a request of `did` may change. -/
structure Framed (did : String) (st st' : Stores) : Prop where
  rings : RingsKept st st'
  others : ∀ e, e ≠ did → Untouched e st st'

theorem RingsKept.refl (st : Stores) : RingsKept st st :=
  fun _ old hold => ⟨old, hold, le_rfl⟩

theorem RingsKept.trans {st st' st'' : Stores} (h : RingsKept st st') (h' : RingsKept st' st'') :
    RingsKept st st'' := by
  intro e old hold
  obtain ⟨mid, hmid, hle⟩ := h e old hold
  obtain ⟨new, hnew, hle'⟩ := h' e mid hmid
  exact ⟨new, hnew, hle.trans hle'⟩

theorem Untouched.refl (e : String) (st : Stores) : Untouched e st st :=
  ⟨rfl, rfl, rfl⟩

theorem Untouched.trans {e : String} {st st' st'' : Stores} (h : Untouched e st st')
    (h' : Untouched e st' st'') : Untouched e st st'' :=
  ⟨h'.entry.trans h.entry, h'.policy.trans h.policy, h'.key.trans h.key⟩

theorem Framed.refl (did : String) (st : Stores) : Framed did st st :=
  ⟨.refl st, fun e _ => .refl e st⟩

/-! ## Confined writes -/

/-- The write is about `did` itself and asks for no more privileged ring, or it stores what is
    already stored. -/
def Mutation.Confined (did : String) (st : Stores) : Mutation → Prop
  | .register identity ring =>
    (identity.did.toText = did ∧ ∀ old, st.registry.getRing did = some old → old ≤ ring) ∨
      st.registry.entries.lookup identity.did.toText = some (identity.publicKey, ring)
  | .savePolicy target policy => target = did ∨ st.policyStore.loadPolicy target = some policy
  | .saveKey target key => target = did ∨ st.keyStore.loadKey target = some key

section
variable {did : String} {st : Stores}

/-- Registering touches the entry of the registered DID only. -/
theorem untouched_register {identity : AgentIdentity} {ring : PrivilegeRing} {e : String}
    (h : e ≠ identity.did.toText) :
    Untouched e st ((Mutation.register identity ring).apply st) :=
  ⟨st.registry.lookup_register_of_ne identity ring h, rfl, rfl⟩

/-- Registering again with the stored data changes nothing. -/
theorem untouched_register_stored {identity : AgentIdentity} {ring : PrivilegeRing}
    (h : st.registry.entries.lookup identity.did.toText = some (identity.publicKey, ring))
    (e : String) : Untouched e st ((Mutation.register identity ring).apply st) := by
  by_cases he : e = identity.did.toText
  · subst he
    exact ⟨(st.registry.lookup_register_self identity ring).trans h.symm, rfl, rfl⟩
  · exact untouched_register he

/-- An untouched agent keeps its ring. -/
theorem Untouched.getRing {e : String} {st' : Stores} (h : Untouched e st st') :
    st'.registry.getRing e = st.registry.getRing e := by
  rw [MemoryAgentRegistry.getRing, MemoryAgentRegistry.getRing, h.entry]

/-- Rings are kept where everyone is untouched, but for one agent that asks for no more. -/
theorem ringsKept_of_untouched {target : String} {st' : Stores} {ring : PrivilegeRing}
    (hothers : ∀ e, e ≠ target → Untouched e st st') (hring : st'.registry.getRing target = some ring)
    (hle : ∀ old, st.registry.getRing target = some old → old ≤ ring) : RingsKept st st' := by
  intro e old hold
  by_cases he : e = target
  · subst he
    exact ⟨ring, hring, hle old hold⟩
  · exact ⟨old, by rw [(hothers e he).getRing, hold], le_rfl⟩

theorem framed_register_iff (identity : AgentIdentity) (ring : PrivilegeRing) :
    Framed did st ((Mutation.register identity ring).apply st) ↔
      (Mutation.register identity ring).Confined did st := by
  have hself : (st.registry.register identity ring).getRing identity.did.toText = some ring := by
    rw [MemoryAgentRegistry.getRing, MemoryAgentRegistry.lookup_register_self]
    rfl
  constructor
  · intro h
    -- for its own DID the caller may keep its ring or lower it
    by_cases hdid : identity.did.toText = did
    · left
      refine ⟨hdid, ?_⟩
      intro old hold
      obtain ⟨new, hnew, hle⟩ := h.rings did old hold
      rw [← hdid] at hnew
      obtain rfl := Option.some.inj (hself.symm.trans hnew)
      exact hle
    · -- for another DID nothing may change, so the record was there before
      right
      exact (h.others _ hdid).entry.symm.trans (st.registry.lookup_register_self identity ring)
  · rintro (⟨rfl, hle⟩ | hstored)
    · exact ⟨ringsKept_of_untouched (fun e he => untouched_register he) hself hle,
        fun e he => untouched_register he⟩
    -- what is registered is stored already, so nobody's entry changes
    · have hall := untouched_register_stored hstored
      refine ⟨?_, fun e _ => hall e⟩
      intro e old hold
      exact ⟨old, by rw [(hall e).getRing, hold], le_rfl⟩

theorem framed_savePolicy_iff (target : String) (policy : McpPolicy) :
    Framed did st ((Mutation.savePolicy target policy).apply st) ↔
      (Mutation.savePolicy target policy).Confined did st := by
  constructor
  · intro h
    by_cases hdid : target = did
    · exact .inl hdid
    · -- for another agent the policy was there before
      right
      exact (h.others target hdid).policy.symm.trans
        (st.policyStore.loadPolicy_savePolicy_self target policy)
  · intro h
    refine ⟨RingsKept.refl st, fun e he => ⟨rfl, ?_, rfl⟩⟩
    by_cases htarget : e = target
    · subst htarget
      rcases h with rfl | hstored
      · exact absurd rfl he
      · exact (st.policyStore.loadPolicy_savePolicy_self e policy).trans hstored.symm
    · -- policies of the agents that are not named stay
      exact st.policyStore.loadPolicy_savePolicy_of_ne policy htarget

theorem framed_saveKey_iff (target : String) (key : ByteArr 32) :
    Framed did st ((Mutation.saveKey target key).apply st) ↔
      (Mutation.saveKey target key).Confined did st := by
  constructor
  · intro h
    by_cases hdid : target = did
    · exact .inl hdid
    · -- for another agent the key was there before
      right
      exact (h.others target hdid).key.symm.trans (st.keyStore.loadKey_saveKey_self target key)
  · intro h
    refine ⟨RingsKept.refl st, fun e he => ⟨rfl, rfl, ?_⟩⟩
    by_cases htarget : e = target
    · subst htarget
      rcases h with rfl | hstored
      · exact absurd rfl he
      · exact (st.keyStore.loadKey_saveKey_self e key).trans hstored.symm
    · -- keys of the agents that are not named stay
      exact st.keyStore.loadKey_saveKey_of_ne key htarget

/-- **Writes**: the frame law holds of the confined writes and of no other. -/
theorem framed_apply_iff (m : Mutation) : Framed did st (m.apply st) ↔ m.Confined did st := by
  cases m with
  | register identity ring => exact framed_register_iff identity ring
  | savePolicy target policy => exact framed_savePolicy_iff target policy
  | saveKey target key => exact framed_saveKey_iff target key

theorem framed_after_iff (write : Option Mutation) :
    Framed did st (st.after write) ↔ ∀ m, write = some m → m.Confined did st := by
  cases write with
  | none =>
    -- a request that writes nothing is framed and harmless
    constructor
    · intro _ m hm
      cases hm
    · intro _
      exact Framed.refl did st
  | some m =>
    constructor
    · intro h m' hm'
      obtain rfl := Option.some.inj hm'
      exact (framed_apply_iff m).mp h
    · intro h
      exact (framed_apply_iff m).mpr (h m rfl)

end

/-! ## Requests -/

namespace ServerState

variable (C : Crypto) (E : LogEnv) (X : Extractors) (W : GrpcWire)

/-- The frame law for one request. -/
def Respects (s : ServerState) (call : DaemonRequest × RequestReads) : Prop :=
  ∀ did ring, CalledBy C W did s call → s.registry.getRing did = some ring → ring ≠ .system →
    Framed did s.stores (step C E X W s call).stores

/-- What a caller outside the System ring asks to write is confined to its own data. -/
def Harmless (s : ServerState) (call : DaemonRequest × RequestReads) : Prop :=
  ∀ did ring, CalledBy C W did s call → s.registry.getRing did = some ring → ring ≠ .system →
    ∀ m, call.1.mutation C X W = some m → m.Confined did s.stores

/-- The law holds of a request exactly when the request is harmless. -/
theorem respects_iff_harmless (s : ServerState) (call : DaemonRequest × RequestReads) :
    Respects C E X W s call ↔ Harmless C X W s call := by
  refine forall_congr' fun did => forall_congr' fun ring => forall_congr' fun hcaller => ?_
  refine forall_congr' fun _ => forall_congr' fun _ => ?_
  rw [step, serve_stores_of_authenticates E X hcaller]
  exact framed_after_iff _

variable {C W} {s : ServerState} {call : DaemonRequest × RequestReads}

/-- A harmless request from outside the System ring changes nothing or what its caller may. -/
theorem stores_step (hharmless : Harmless C X W s call) (hsystem : ¬ CalledBySystem C W s call) :
    (step C E X W s call).stores = s.stores ∨
      ∃ did, CalledBy C W did s call ∧ Framed did s.stores (step C E X W s call).stores := by
  rcases step_stores_cases E X call with hsame | ⟨did, _, hdid, -⟩
  · exact .inl hsame
  · right
    obtain ⟨ring, hring⟩ := hdid.registered
    have hne : ring ≠ .system := by
      rintro rfl
      exact hsystem ⟨did, hdid, hring⟩
    exact ⟨did, hdid, (respects_iff_harmless C E X W s call).mpr hharmless did ring hdid hring hne⟩

theorem ringsKept_step (hharmless : Harmless C X W s call)
    (hsystem : ¬ CalledBySystem C W s call) :
    RingsKept s.stores (step C E X W s call).stores := by
  rcases stores_step E X hharmless hsystem with hsame | ⟨did, -, hframed⟩
  · rw [hsame]
    exact RingsKept.refl s.stores
  · exact hframed.rings

theorem untouched_step {e : String} (hharmless : Harmless C X W s call)
    (hsystem : ¬ CalledBySystem C W s call) (hother : ¬ CalledBy C W e s call) :
    Untouched e s.stores (step C E X W s call).stores := by
  rcases stores_step E X hharmless hsystem with hsame | ⟨did, hdid, hframed⟩
  · rw [hsame]
    exact Untouched.refl e s.stores
  · apply hframed.others
    rintro rfl
    exact hother hdid

end ServerState

/-! ## Runs -/

open ServerState

/-- **Privileges**: over every run, each request keeps its caller to its own data and gives
    nobody a more privileged ring exactly when each is harmless.  A run of harmless requests
    from outside the System ring then raises nobody's ring, and changes no data of an agent
    that made none of the requests. -/
theorem privilege_frame (C : Crypto) (E : LogEnv) (X : Extractors) (W : GrpcWire) (s : ServerState)
    (run : List (DaemonRequest × RequestReads)) :
    (AllSteps (step C E X W) (Respects C E X W) s run ↔
      AllSteps (step C E X W) (Harmless C X W) s run) ∧
    (AllSteps (step C E X W) (fun s call => Harmless C X W s call ∧ ¬ CalledBySystem C W s call)
        s run →
      RingsKept s.stores (runFrom (step C E X W) s run).stores ∧
      ∀ e, AllSteps (step C E X W) (fun s call => ¬ CalledBy C W e s call) s run →
        Untouched e s.stores (runFrom (step C E X W) s run).stores) := by
  refine ⟨allSteps_congr (respects_iff_harmless C E X W), ?_⟩
  intro hrun
  constructor
  · -- harmless writes by non-System callers keep every ring, step by step
    apply hrun.relates (R := fun s s' => RingsKept s.stores s'.stores)
    · exact fun s => RingsKept.refl s.stores
    · exact fun _ _ _ h h' => RingsKept.trans h h'
    · exact fun s call h => ringsKept_step E X h.1 h.2
  · intro e hother
    -- and leave alone the agents that made no call
    apply (hrun.and hother).relates (R := fun s s' => Untouched e s.stores s'.stores)
    · exact fun s => Untouched.refl e s.stores
    · exact fun _ _ _ h h' => Untouched.trans h h'
    · exact fun s call h => untouched_step E X h.1.1 h.1.2 h.2

/-! ## An agent that promotes itself -/

/-- An agent of the Standard ring, with the base64 of its public key. -/
def promotedAgent : AgentIdentity :=
  { identityStub "7UkoxijRwsbq6QM4kFmVYSlZJzpcY/k2NsFGFKyHN9E=" with
    did := { method := "mesh", uniqueId := "agent-1" }
    name := "agent-1"
    sponsorEmail := "agent@example.com"
    status := "active" }

/-- The body of its request to be registered in the System ring. -/
def promotionBody : Bytes :=
  stringBytes ("\x7b\"identity\":\x7b\"did\":\x7b\"method\":\"mesh\",\"unique_id\":\"agent-1\"\x7d," ++
    "\"name\":\"agent-1\",\"public_key\":\"7UkoxijRwsbq6QM4kFmVYSlZJzpcY/k2NsFGFKyHN9E=\"," ++
    "\"sponsor_email\":\"agent@example.com\",\"capabilities\":[],\"status\":\"active\"," ++
    "\"parent_did\":null,\"delegation_depth\":0\x7d,\"ring\":\"System\"\x7d")

/-- The public key of the agent. -/
def promotedKey : ByteArr 32 :=
  ⟨(Base64.decodeText "7UkoxijRwsbq6QM4kFmVYSlZJzpcY/k2NsFGFKyHN9E=").getD [], by decide +kernel⟩

/-- The agent's signature of the body. -/
def promotionSignature : ByteArr 64 :=
  ⟨(Base64.decodeText
    "4qoKohBMWCc1xikMj5OeKU3hlmOwmH5WsOYjU4ah1ZRhvVq12qT6FWW4Z+I0F1G3j1A5gOOI+Ew4KcYydqgkDw==").getD
      [], by decide +kernel⟩

/-- Ed25519 on these inputs and on the claim that the registry signs for the agent. -/
def promotionVectors : Vectors where
  seed := registrySeed
  publicKey := registryKey
  signed := [((MemoryAgentRegistry.claimFor "did:mesh:agent-1"
      "7UkoxijRwsbq6QM4kFmVYSlZJzpcY/k2NsFGFKyHN9E=" 0 0).canonicalBytes,
    ⟨(Base64.decodeText
      "bi6TjUo9VTgbDEJQ1CkuZsgYelpyiqqngC4SlA/Feiwls5r7dY2JjIJ5cOjTUnUbFPduKovgpc0t6F4xC7FGBQ==").getD
        [], by decide +kernel⟩)]
  accepted := [(promotedKey, promotionBody, promotionSignature)]

/-- The daemon with the agent in its registry file. -/
noncomputable def promotionStart : ServerState :=
  .start sampleEnv registrySeed "did:mesh:registry" [(promotedAgent, .standard)] none .blank false
    ((Crypto.ofVectors promotionVectors).pubkeyB64 registrySeed)

/-- The register extractor on the body above; no other one is used. -/
def promotionExtractors : Extractors where
  registerRequest _ := .ok { identity := promotedAgent, ring := .system }
  policy _ := .error (.badRequest, "")
  keyB64 _ := .error (.badRequest, "")
  approveRequest _ := .error (.badRequest, "")
  presenceReport _ := .error (.badRequest, "")
  executeRequest _ := .error (.badRequest, "")
  eventId _ := .error (.badRequest, "")

/-- The request, at the epoch. -/
def promotionCall : DaemonRequest × RequestReads :=
  (.http
    { agentDid := .text "did:mesh:agent-1"
      signature := .text
        "4qoKohBMWCc1xikMj5OeKU3hlmOwmH5WsOYjU4ah1ZRhvVq12qT6FWW4Z+I0F1G3j1A5gOOI+Ew4KcYydqgkDw=="
      peerAddr := "127.0.0.1:40000"
      body := .ok promotionBody
      route := .registerAgent },
    { now := fun _ => 0
      newId := .fill 0
      persisted := .ok ()
      auditIo := .ok
      logIo := .ok })

theorem getRing_promotionStart :
    promotionStart.registry.getRing "did:mesh:agent-1" = some .standard := by
  rw [MemoryAgentRegistry.getRing]
  exact congrArg _ (MemoryAgentRegistry.lookup_register_self _ promotedAgent .standard)

/-- The agent's own signature authenticates the request. -/
theorem calledBy_promoted :
    CalledBy (Crypto.ofVectors promotionVectors) silentWire "did:mesh:agent-1" promotionStart
      promotionCall := by
  -- the agent signed the body with its registered key
  have hregistered : RegisteredKeyAccepts (Crypto.ofVectors promotionVectors)
      promotionStart.registry "did:mesh:agent-1" promotionBody promotionSignature.val := by
    refine ⟨promotedAgent.publicKey, .standard,
      MemoryAgentRegistry.lookup_register_self _ promotedAgent .standard, promotedKey, ?_, rfl,
      promotionSignature, tryInto_val _, ?_⟩
    · decide +kernel
    · simp [Crypto.ofVectors, promotionVectors]
  refine ⟨_, promotionSignature.val, promotionBody, rfl, rfl, ?_, rfl, ?_⟩
  · decide +kernel
  · exact (verifyRequestSignature_memory_iff _ _ _ _ _ (by decide)).mpr (.inl hregistered)

/-- A request of a Standard agent can put its caller into the System ring. -/
theorem privilege_frame_promoted :
    ¬ ∀ (C : Crypto) (E : LogEnv) (X : Extractors) (W : GrpcWire) (registryIdentity : ByteArr 32)
      (registryDid : String) (registered : List (AgentIdentity × PrivilegeRing))
      (auditFile : Option Bytes) (disk : Disk) (hasExporter : Bool)
      (run : List (DaemonRequest × RequestReads)) (call : DaemonRequest × RequestReads),
      Respects C E X W
        (runFrom (step C E X W) (.start E registryIdentity registryDid registered auditFile disk
          hasExporter (C.pubkeyB64 registryIdentity)) run) call := by
  intro h
  have hcall : Respects (Crypto.ofVectors promotionVectors) sampleEnv promotionExtractors silentWire
      promotionStart promotionCall :=
    h _ sampleEnv promotionExtractors silentWire registrySeed "did:mesh:registry"
      [(promotedAgent, .standard)] none .blank false [] promotionCall
  have hharmless := (respects_iff_harmless _ sampleEnv promotionExtractors silentWire _ _).mp hcall
  have hconfined := hharmless "did:mesh:agent-1" .standard calledBy_promoted getRing_promotionStart
    (by decide) (.register promotedAgent .system) rfl
  rcases hconfined with ⟨-, hle⟩ | hstored
  · -- the ring of the agent is changed to System
    exact absurd (hle .standard getRing_promotionStart) (by decide)
  · -- nor was it System before
    have hentry := MemoryAgentRegistry.lookup_register_self
      (.new registrySeed "did:mesh:registry") promotedAgent .standard
    cases hentry.symm.trans hstored

end AgentGovernance.Daemon
