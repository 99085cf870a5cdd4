import AgentGovernance.Mesh.Registry

/-!
# Request authentication

`crates/daemon/src/grpc/auth.rs`, used by the HTTP middleware and by every gRPC service:
the registry attests the caller's key, and the request body is checked under that key.

A registered key that is no base64 of 32 bytes should authenticate nobody.  It does when
it is the base64 of some other number of bytes: `verify_signature` then checks the body
under 32 zero bytes, a valid Ed25519 key of order four, for which anyone can make
signatures.  `requestSignature_sound_iff` says that this is the only way to go wrong.
-/

namespace AgentGovernance.Daemon

open AgentGovernance.Lib AgentGovernance.Mesh

variable (C : Crypto)

def verifyRequestSignature (did : String) (signature body : Bytes) (registry : AgentRegistry)
    (registryPubkey : String) (now : DateTime) : Except String Unit :=
  match registry.getAttestation did with
  | .error e => .error e
  | .ok none => .error "Agent not registered"
  | .ok (some attestation) =>
    match attestation.verify C registryPubkey now with
    | .error e => .error ("Registry attestation verification failed: " ++ e.toText)
    | .ok () =>
      if (identityStub attestation.claim.publicKeyB64).verifySignature C body signature then .ok ()
      else .error "Invalid signature"

/-- The check passes with a valid attestation and a signature under the attested key. -/
theorem verifyRequestSignature_eq_ok_iff (did : String) (signature body : Bytes)
    (registry : AgentRegistry) (registryPubkey : String) (now : DateTime) :
    verifyRequestSignature C did signature body registry registryPubkey now = .ok () ↔
      ∃ att, registry.getAttestation did = .ok (some att) ∧
        att.verify C registryPubkey now = .ok () ∧
        (identityStub att.claim.publicKeyB64).verifySignature C body signature = true := by
  unfold verifyRequestSignature
  -- the attestation is fetched, verified, and then its key is used
  cases registry.getAttestation did with
  | error e => simp
  | ok found =>
    cases found with
    | none => simp
    | some att =>
      simp only [Except.ok.injEq, Option.some.injEq, exists_eq_left']
      cases att.verify C registryPubkey now with
      | error e => simp
      | ok u =>
        by_cases hsig : (identityStub att.claim.publicKeyB64).verifySignature C body signature = true
        · simp [hsig]
        · simp [hsig]

/-! ## The registry in memory -/

/-- The DID's registered key is base64 of 32 bytes and a valid key, and accepts the signature. -/
def RegisteredKeyAccepts (r : MemoryAgentRegistry) (did : String) (body signature : Bytes) : Prop :=
  ∃ pubkeyB64 ring, r.entries.lookup did = some (pubkeyB64, ring) ∧
    ∃ key : ByteArr 32, C.decode64 pubkeyB64 = .ok key.val ∧ C.accepts key body signature

/-- The DID's registered key is base64 of some other number of bytes, and the zero key accepts
    the signature. -/
def FallbackAccepts (r : MemoryAgentRegistry) (did : String) (body signature : Bytes) : Prop :=
  ∃ pubkeyB64 ring bs, r.entries.lookup did = some (pubkeyB64, ring) ∧
    C.decode64 pubkeyB64 = .ok bs ∧ bs.length ≠ 32 ∧ C.accepts zeroKey body signature

/-- A decoded key is used when it has the right length, and replaced otherwise. -/
theorem verifySignature_stub_iff (pubkeyB64 : String) (body signature : Bytes) :
    (identityStub pubkeyB64).verifySignature C body signature = true ↔
      (∃ key : ByteArr 32, C.decode64 pubkeyB64 = .ok key.val ∧ C.accepts key body signature) ∨
      (∃ bs, C.decode64 pubkeyB64 = .ok bs ∧ bs.length ≠ 32 ∧ C.accepts zeroKey body signature) := by
  rw [verifySignature_iff]
  constructor
  · rintro ⟨bs, hdec, hacc⟩
    cases hkey : tryInto 32 bs with
    | none =>
      -- key bytes of another length are replaced by 32 zero bytes
      rw [hkey] at hacc
      exact .inr ⟨bs, hdec, tryInto_eq_none.mp hkey, hacc⟩
    | some key =>
      rw [hkey] at hacc
      exact .inl ⟨key, by rw [← tryInto_eq_some.mp hkey]; exact hdec, hacc⟩
  · rintro (⟨key, hdec, hacc⟩ | ⟨bs, hdec, hlen, hacc⟩)
    · exact ⟨key.val, hdec, by rw [tryInto_val]; exact hacc⟩
    · exact ⟨bs, hdec, by rw [tryInto_eq_none.mpr hlen]; exact hacc⟩

/-- Against the registry in memory, within the life of the attestation, the check passes under
    the registered key or under the fallback. -/
theorem verifyRequestSignature_memory_iff (r : MemoryAgentRegistry) (did : String)
    (signature body : Bytes) {issued expiryBase now : DateTime} (hnow : now ≤ expiryBase + hours 24) :
    verifyRequestSignature C did signature body (r.answers C issued expiryBase) (r.pubkey C) now =
        .ok () ↔
      RegisteredKeyAccepts C r did body signature ∨ FallbackAccepts C r did body signature := by
  rw [verifyRequestSignature_eq_ok_iff]
  constructor
  · rintro ⟨att, hatt, -, hsig⟩
    obtain ⟨⟨pubkeyB64, ring⟩, hentry, rfl⟩ := Option.map_eq_some_iff.mp (Except.ok.inj hatt)
    -- the identity built from the claim accepts with the registered key, or through the fallback
    rcases (verifySignature_stub_iff C _ _ _).mp hsig with ⟨key, hkey⟩ | ⟨bs, hbs⟩
    · exact .inl ⟨pubkeyB64, ring, hentry, key, hkey⟩
    · exact .inr ⟨pubkeyB64, ring, bs, hentry, hbs⟩
  · have hissued : ∀ pubkeyB64 ring, r.entries.lookup did = some (pubkeyB64, ring) →
        r.getAttestation C did issued expiryBase =
          some ((MemoryAgentRegistry.claimFor did pubkeyB64 issued expiryBase).attest C
            r.registryIdentity r.registryDid) := by
      intro pubkeyB64 ring hentry
      rw [MemoryAgentRegistry.getAttestation, hentry]
      rfl
    -- the registry attests the key, and its own signature verifies
    rintro (⟨pubkeyB64, ring, hentry, hkey⟩ | ⟨pubkeyB64, ring, bs, hentry, hbs⟩)
    · have hatt := hissued pubkeyB64 ring hentry
      exact ⟨_, congrArg Except.ok hatt, (r.verify_getAttestation C hatt).mpr hnow,
        (verifySignature_stub_iff C _ _ _).mpr (.inl hkey)⟩
    · have hatt := hissued pubkeyB64 ring hentry
      exact ⟨_, congrArg Except.ok hatt, (r.verify_getAttestation C hatt).mpr hnow,
        (verifySignature_stub_iff C _ _ _).mpr (.inr ⟨bs, hbs⟩)⟩

/-- An entry has one key, so the two ways to pass exclude each other. -/
theorem FallbackAccepts.not_registered {C : Crypto} {r : MemoryAgentRegistry} {did : String}
    {body signature : Bytes} (h : FallbackAccepts C r did body signature) :
    ¬ RegisteredKeyAccepts C r did body signature := by
  obtain ⟨pubkeyB64, ring, bs, hentry, hdec, hlen, -⟩ := h
  rintro ⟨pubkeyB64', ring', hentry', key, hdec', -⟩
  rw [hentry] at hentry'
  obtain ⟨rfl, rfl⟩ := Prod.mk.inj (Option.some.inj hentry')
  rw [hdec] at hdec'
  exact hlen (Except.ok.inj hdec' ▸ key.property)

/-- **Request authentication**: over every registry content, the check passes exactly for
    signatures under the DID's registered key, except when the fallback accepts. -/
theorem requestSignature_sound_iff (registryIdentity : ByteArr 32) (registryDid : String)
    (calls : List (AgentIdentity × PrivilegeRing)) (did : String) (signature body : Bytes)
    (issued expiryBase now : DateTime) (hnow : now ≤ expiryBase + hours 24) :
    let r := (MemoryAgentRegistry.new registryIdentity registryDid).registerAll calls
    (verifyRequestSignature C did signature body (r.answers C issued expiryBase)
        (C.pubkeyB64 registryIdentity) now = .ok () ↔
      RegisteredKeyAccepts C r did body signature) ↔
    ¬ FallbackAccepts C r did body signature := by
  intro r
  -- the daemon verifies with the key of its own registry
  have hpub : C.pubkeyB64 registryIdentity = r.pubkey C := by
    rw [MemoryAgentRegistry.pubkey, MemoryAgentRegistry.registerAll_registryIdentity]
    rfl
  rw [hpub, verifyRequestSignature_memory_iff C r did signature body hnow]
  constructor
  · -- the fallback key accepts, and it is nobody's registered key
    intro h hfall
    exact hfall.not_registered (h.mp (.inr hfall))
  · intro hfall
    exact ⟨fun h => h.resolve_right hfall, .inl⟩

/-! ## A forged request -/

/-- An agent with an empty public key, as any `register` request can name one. -/
def keylessAgent : AgentIdentity :=
  { identityStub "" with did := { method := "mesh", uniqueId := "a" } }

/-- The neutral point and a zero scalar: under the zero key this is a signature of every body
    whose challenge is a multiple of four. -/
def forgedSignature : ByteArr 64 :=
  ⟨1 :: List.replicate 63 0, rfl⟩

/-- Ed25519 on the inputs below: the registry's signature of the agent's claim, and the forged
    signature of the body `7`. -/
def forgeryVectors : Vectors where
  seed := registrySeed
  publicKey := registryKey
  signed := [((MemoryAgentRegistry.claimFor "did:mesh:a" "" 0 0).canonicalBytes,
    ⟨(Base64.decodeText
      "2noTRS01/fMg2t/RUGbwVFJAwh9+I0IWe9J8sIkIGCaGufX5oEkhb+YrAkTuXGFNl//uLfEmq6hAeKHi+05dBg==").getD
        [], by decide +kernel⟩)]
  accepted := [(zeroKey, [55], forgedSignature)]

/-- The fallback accepts the forged request. -/
theorem fallbackAccepts_forged :
    FallbackAccepts (Crypto.ofVectors forgeryVectors)
      ((MemoryAgentRegistry.new registrySeed "did:mesh:registry").registerAll
        [(keylessAgent, .standard)]) "did:mesh:a" [55] forgedSignature.val := by
  refine ⟨"", .standard, [], MemoryAgentRegistry.lookup_register_self _ keylessAgent _, rfl,
    by decide, rfl, forgedSignature, tryInto_val _, ?_⟩
  simp [Crypto.ofVectors, forgeryVectors]

/-- The attested claim is not expired at the epoch, and the check of the forged request differs
    from the check under the registered key. -/
theorem requestSignature_sound_iff_forged :
    (0 : DateTime) ≤ 0 + hours 24 ∧
    ((verifyRequestSignature (Crypto.ofVectors forgeryVectors) "did:mesh:a" forgedSignature.val [55]
        (((MemoryAgentRegistry.new registrySeed "did:mesh:registry").registerAll
          [(keylessAgent, .standard)]).answers (Crypto.ofVectors forgeryVectors) 0 0)
        ((Crypto.ofVectors forgeryVectors).pubkeyB64 registrySeed) 0 = .ok () ↔
      RegisteredKeyAccepts (Crypto.ofVectors forgeryVectors)
        ((MemoryAgentRegistry.new registrySeed "did:mesh:registry").registerAll
          [(keylessAgent, .standard)]) "did:mesh:a" [55] forgedSignature.val) ↔
    ¬ FallbackAccepts (Crypto.ofVectors forgeryVectors)
        ((MemoryAgentRegistry.new registrySeed "did:mesh:registry").registerAll
          [(keylessAgent, .standard)]) "did:mesh:a" [55] forgedSignature.val) :=
  ⟨by decide, requestSignature_sound_iff (Crypto.ofVectors forgeryVectors) registrySeed
    "did:mesh:registry" [(keylessAgent, .standard)] "did:mesh:a" forgedSignature.val [55] 0 0 0
    (by decide)⟩

/-- An unregistered key authenticates a request. -/
theorem requestSignature_not_sound :
    ¬ ∀ (C : Crypto) (registryIdentity : ByteArr 32) (registryDid : String)
      (calls : List (AgentIdentity × PrivilegeRing)) (did : String) (signature body : Bytes)
      (issued expiryBase now : DateTime), now ≤ expiryBase + hours 24 →
      (verifyRequestSignature C did signature body
          (((MemoryAgentRegistry.new registryIdentity registryDid).registerAll calls).answers C issued
            expiryBase) (C.pubkeyB64 registryIdentity) now = .ok () ↔
        RegisteredKeyAccepts C
          ((MemoryAgentRegistry.new registryIdentity registryDid).registerAll calls) did body
          signature) := by
  intro h
  have hclaim := h (Crypto.ofVectors forgeryVectors) registrySeed "did:mesh:registry"
    [(keylessAgent, .standard)] "did:mesh:a" forgedSignature.val [55] 0 0 0 (by decide)
  -- the forged signature is accepted, although no registered key accepts it
  refine fallbackAccepts_forged.not_registered (hclaim.mp ?_)
  exact (verifyRequestSignature_memory_iff _ _ _ _ _ (by decide)).mpr (.inr fallbackAccepts_forged)

end AgentGovernance.Daemon
