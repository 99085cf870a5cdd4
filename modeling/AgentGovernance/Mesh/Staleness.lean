import AgentGovernance.Mesh.HttpAdapters

/-!
# How old a trusted attestation can be

The adapters of `registry_http.rs` and `keystore_http.rs` beside the registry that they trust.
Between them is a network that may hold back, repeat and exchange what the registry has issued,
and may answer with anything else; it cannot sign for the registry.

`trusted_recent` bounds the age of what the adapters rely on: the key was registered for the
attested DID at a moment that is at most a day back, and at most 23 hours back when it comes
from the cache.  `rotation_seen` is the consequence for a key that is replaced.
-/

namespace AgentGovernance.Mesh

open AgentGovernance.Lib

/-! ## Canonical bytes -/

/-- The bytes that the registry signs tell the claim. -/
theorem AttestationClaim.canonicalBytes_injective :
    Function.Injective AttestationClaim.canonicalBytes := by
  intro c d h
  have hfields := (utf8.spell _).enc_injective h
  cases c
  cases d
  simp_all

/-! ## The registry and its clients -/

/-- A call of `get_attestation` on the registry, with the registry as it was. -/
structure Issue where
  registry : MemoryAgentRegistry
  did : String
  issuedAt : DateTime
  expiryBase : DateTime

/-- What the call returned. -/
def Issue.attestation (C : Crypto) (i : Issue) : Option SignedAttestation :=
  i.registry.getAttestation C i.did i.issuedAt i.expiryBase

/-- The registry, what it has issued so far, and the adapters of a client. -/
structure AttestedNetwork where
  registry : MemoryAgentRegistry
  issued : List Issue
  adapters : Adapters

/-- A registration, an attestation for anyone who asks, or a step of the client. -/
inductive NetworkEvent where
  | register (identity : AgentIdentity) (ring : PrivilegeRing)
  | issue (did : String) (issuedAt expiryBase : DateTime)
  | client (event : AdapterEvent)

namespace AttestedNetwork

variable (C : Crypto)

/-- Nothing is issued yet. -/
def start (registry : MemoryAgentRegistry) (adapters : Adapters) : AttestedNetwork where
  registry := registry
  issued := []
  adapters := adapters

def step (s : AttestedNetwork) : NetworkEvent → AttestedNetwork
  | .register identity ring => { s with registry := s.registry.register identity ring }
  | .issue did issuedAt expiryBase =>
    { s with issued := s.issued ++ [⟨s.registry, did, issuedAt, expiryBase⟩] }
  | .client event => { s with adapters := s.adapters.step C event }

/-- The registry has issued the claim. -/
def Issued (s : AttestedNetwork) (claim : AttestationClaim) : Prop :=
  ∃ i ∈ s.issued, ∃ a, i.attestation C = some a ∧ a.claim = claim

/-- The attestation in an answer of the network, if there is one. -/
def answer (s : AttestedNetwork) : AdapterEvent → Option SignedAttestation
  | .lookUp _ _ _ => none
  | .answered did server _ =>
    (HttpAnswer.read (server (s.adapters.registry.attestationRequest C did))).toOption.join
  | .loadKey did server _ =>
    (HttpAnswer.read (server (s.adapters.keyStore.keyRequest C did))).toOption.join.map
      (·.attestation)

/-- An attestation in an answer that verifies under the registry's key at any time is signed by the
    registry: it has issued a claim with these bytes. -/
def Unforged (s : AttestedNetwork) : NetworkEvent → Prop
  | .client event =>
    ∀ a t, s.answer C event = some a → a.verify C (s.registry.pubkey C) t = .ok () →
      ∃ claim, s.Issued C claim ∧ claim.canonicalBytes = a.claim.canonicalBytes
  | _ => True

/-- What the client relies on: the attestation that a call returns, or the one with the key that a
    call returns. -/
def Relies (s : AttestedNetwork) : AdapterEvent → SignedAttestation → Prop
  | .lookUp did now jitter, a => s.adapters.registry.cached did now jitter = some a
  | .answered did server now, a =>
    did ∈ s.adapters.waiting ∧ (s.adapters.registry.fetch C did server now).2 = .ok (some a)
  | .loadKey did server now, a =>
    ∃ key res, s.adapters.keyStore.loadKey C did server now = .ok (some key) ∧
      HttpAnswer.read (server (s.adapters.keyStore.keyRequest C did)) = .ok (some res) ∧
      a = res.attestation

end AttestedNetwork

/-- The client's clock in an event. -/
def AdapterEvent.now : AdapterEvent → DateTime
  | .lookUp _ now _ => now
  | .answered _ _ now => now
  | .loadKey _ _ now => now

/-- What is left of an attestation's life at least; an hour in the cache. -/
def AdapterEvent.margin : AdapterEvent → Duration
  | .lookUp _ _ _ => hours 1
  | .answered _ _ _ => 0
  | .loadKey _ _ _ => 0

namespace AttestedNetwork

/-- The DID was registered with the key, at a reading of the registry's clock that is a day back at
    most, less the margin. -/
def HeldRecently (s : AttestedNetwork) (did pubkeyB64 : String) (now : DateTime)
    (margin : Duration) : Prop :=
  ∃ i ∈ s.issued, (∃ ring, i.registry.entries.lookup did = some (pubkeyB64, ring)) ∧
    i.did = did ∧ now + margin ≤ i.expiryBase + hours 24

variable (C : Crypto)

/-- Whatever the client relies on was registered recently. -/
def TrustRecent (s : AttestedNetwork) : NetworkEvent → Prop
  | .client event =>
    ∀ a, s.Relies C event a →
      s.HeldRecently a.claim.subjectDid a.claim.publicKeyB64 event.now event.margin
  | _ => True

/-- The adapters trust this registry, and their cache holds what it has issued. -/
structure Sound (s : AttestedNetwork) : Prop where
  registryKey : s.adapters.registry.registryPubkey = s.registry.pubkey C
  keyStoreKey : s.adapters.keyStore.registryPubkey = s.registry.pubkey C
  cache : ∀ did a, s.adapters.registry.cache.lookup did = some a → s.Issued C a.claim

variable {C} {s : AttestedNetwork}

/-! ## What is issued -/

/-- An issued claim is about an entry of the registry at that time. -/
theorem Issued.held {claim : AttestationClaim} (h : s.Issued C claim) :
    ∃ i ∈ s.issued, (∃ ring, i.registry.entries.lookup claim.subjectDid =
        some (claim.publicKeyB64, ring)) ∧ i.did = claim.subjectDid ∧
      claim.expiresAt = i.expiryBase + hours 24 := by
  obtain ⟨i, hi, a, hissued, rfl⟩ := h
  obtain ⟨⟨pubkeyB64, ring⟩, hentry, rfl⟩ := Option.map_eq_some_iff.mp hissued
  exact ⟨i, hi, ⟨ring, hentry⟩, rfl, rfl⟩

/-- What is issued stays issued. -/
theorem Issued.step {claim : AttestationClaim} (h : s.Issued C claim) (event : NetworkEvent) :
    (s.step C event).Issued C claim := by
  obtain ⟨i, hi, hclaim⟩ := h
  refine ⟨i, ?_, hclaim⟩
  cases event with
  | register identity ring => exact hi
  | issue did issuedAt expiryBase => exact List.mem_append_left _ hi
  | client event => exact hi

/-- An attestation is issued from the entry of the registry. -/
theorem issued_issue {did pubkeyB64 : String} {ring : PrivilegeRing}
    (hentry : s.registry.entries.lookup did = some (pubkeyB64, ring))
    (issuedAt expiryBase : DateTime) :
    (s.step C (.issue did issuedAt expiryBase)).Issued C
      (MemoryAgentRegistry.claimFor did pubkeyB64 issuedAt expiryBase) := by
  refine ⟨⟨s.registry, did, issuedAt, expiryBase⟩, ?_,
    (MemoryAgentRegistry.claimFor did pubkeyB64 issuedAt expiryBase).attest C
      s.registry.registryIdentity s.registry.registryDid, ?_, rfl⟩
  · exact List.mem_append_right _ List.mem_cons_self
  · rw [Issue.attestation, MemoryAgentRegistry.getAttestation, hentry]
    rfl

/-! ## What is relied on -/

/-- An attestation in an answer is one that the registry has issued, when it verifies. -/
theorem issued_of_answer {event : AdapterEvent} {a : SignedAttestation}
    {t : DateTime} (hunforged : s.Unforged C (.client event))
    (hanswer : s.answer C event = some a) (hverify : a.verify C (s.registry.pubkey C) t = .ok ()) :
    s.Issued C a.claim := by
  obtain ⟨claim, hissued, hbytes⟩ := hunforged a t hanswer hverify
  rwa [← AttestationClaim.canonicalBytes_injective hbytes]

/-- **Step.** What the client relies on was issued, and has the margin to live. -/
theorem issued_of_relies (hs : s.Sound C) {event : AdapterEvent} {a : SignedAttestation}
    (hunforged : s.Unforged C (.client event)) (h : s.Relies C event a) :
    s.Issued C a.claim ∧ event.now + event.margin ≤ a.claim.expiresAt := by
  cases event with
  | lookUp did now jitter =>
    -- a cached attestation is served while it has an hour left
    obtain ⟨hlookup, hfresh⟩ := HttpAgentRegistry.cached_eq_some_iff.mp h
    have hhour : now + durationSeconds 3600 < a.claim.expiresAt :=
      SignedAttestation.hour_left hfresh
    exact ⟨hs.cache did a hlookup, hhour.le⟩
  | answered did server now =>
    obtain ⟨-, hfetch⟩ := h
    -- a fetched one has just been verified
    obtain ⟨hread, hverify⟩ := HttpAgentRegistry.accept_eq_some_iff.mp hfetch
    have hlive := SignedAttestation.unexpired_of_verify hverify
    rw [hs.registryKey] at hverify
    refine ⟨issued_of_answer hunforged ?_ hverify, ?_⟩
    · rw [answer, hread]
      rfl
    · exact (Int.add_zero now).le.trans hlive
  | loadKey did server now =>
    obtain ⟨key, res, hload, hread, rfl⟩ := h
    -- the same for the attestation that comes with a key
    obtain ⟨res', hread', hverify, -, -⟩ := HttpKeyStore.accept_eq_some_iff.mp hload
    obtain rfl : res = res' := Option.some.inj (Except.ok.inj (hread.symm.trans hread'))
    have hlive := SignedAttestation.unexpired_of_verify hverify
    rw [hs.keyStoreKey] at hverify
    refine ⟨issued_of_answer hunforged ?_ hverify, ?_⟩
    · rw [answer, hread]
      rfl
    · exact (Int.add_zero now).le.trans hlive

/-- **Step.** So it was registered recently. -/
theorem trustRecent_of_unforged (hs : s.Sound C) (event : NetworkEvent)
    (hunforged : s.Unforged C event) : s.TrustRecent C event := by
  cases event with
  | register identity ring => trivial
  | issue did issuedAt expiryBase => trivial
  | client event =>
    intro a ha
    obtain ⟨hissued, hmargin⟩ := issued_of_relies hs hunforged ha
    obtain ⟨i, hi, hentry, hdid, hexpiry⟩ := hissued.held
    exact ⟨i, hi, hentry, hdid, hexpiry ▸ hmargin⟩

theorem sound_start {registry : MemoryAgentRegistry} {keyStore : HttpKeyStore}
    (hkeyStore : keyStore.registryPubkey = registry.pubkey C) {baseUrl agentDid : String}
    {signingKey : ByteArr 32} :
    Sound C (start registry
      (.start (.new baseUrl (registry.pubkey C) agentDid signingKey) keyStore)) where
  registryKey := rfl
  keyStoreKey := hkeyStore
  cache did a h := by simp [start, Adapters.start, HttpAgentRegistry.new] at h

/-- **Step.** The adapters stay sound. -/
theorem Sound.step (hs : s.Sound C) (event : NetworkEvent) (hunforged : s.Unforged C event) :
    (s.step C event).Sound C := by
  -- what was issued before the event counts as issued after it
  have hkept {did : String} {a : SignedAttestation}
      (h : s.adapters.registry.cache.lookup did = some a) : (s.step C event).Issued C a.claim :=
    (hs.cache did a h).step event
  cases event with
  | register identity ring => exact ⟨hs.registryKey, hs.keyStoreKey, fun did a h => hkept h⟩
  | issue did issuedAt expiryBase =>
    exact ⟨hs.registryKey, hs.keyStoreKey, fun did a h => hkept h⟩
  | client event =>
    cases event with
    | lookUp did now jitter =>
      -- a lookup stores nothing
      simp only [AttestedNetwork.step, Adapters.step]
      split
      · exact ⟨hs.registryKey, hs.keyStoreKey, hs.cache⟩
      · exact ⟨hs.registryKey, hs.keyStoreKey, hs.cache⟩
    | loadKey did server now => exact ⟨hs.registryKey, hs.keyStoreKey, hs.cache⟩
    | answered did server now =>
      simp only [AttestedNetwork.step, Adapters.step]
      split
      next hwaiting =>
        refine ⟨?_, hs.keyStoreKey, ?_⟩
        · rw [← hs.registryKey]
          exact HttpAgentRegistry.accept_registryPubkey
        · intro d a hlookup
          rcases HttpAgentRegistry.lookup_accept hlookup with hold | ⟨-, hnew⟩
          · exact hs.cache d a hold
          · -- what is cached is what the call returns
            exact (issued_of_relies hs hunforged ⟨hwaiting, hnew⟩).1
      next => exact ⟨hs.registryKey, hs.keyStoreKey, hs.cache⟩

end AttestedNetwork

open AttestedNetwork in
/-- **Trusted keys are recent**: over every run of registrations, issued attestations and
    overlapping calls of the client, against a network that answers what it likes but cannot sign
    for the registry, every attestation that the client relies on names a key that was registered
    for its DID within the last day, and within the last 23 hours when it comes from the cache. -/
theorem trusted_recent (C : Crypto) (registry : MemoryAgentRegistry)
    (baseUrl agentDid : String) (signingKey : ByteArr 32) (keyStore : HttpKeyStore)
    (hkeyStore : keyStore.registryPubkey = registry.pubkey C) (run : List NetworkEvent)
    (hunforged : AllSteps (step C) (Unforged C)
      (start registry (.start (.new baseUrl (registry.pubkey C) agentDid signingKey) keyStore)) run) :
    AllSteps (step C) (TrustRecent C)
      (start registry (.start (.new baseUrl (registry.pubkey C) agentDid signingKey) keyStore))
      run := by
  -- the invariant is that the cache holds issued attestations only
  apply AllSteps.of_keeps (I := Sound C)
  · intro s event hevent hs
    exact hs.step event hevent
  · intro s event hevent hs
    exact trustRecent_of_unforged hs event hevent
  · exact sound_start hkeyStore
  · exact hunforged

/-! ## A key that is replaced -/

namespace AttestedNetwork

/-- From a day after the reading on, less the margin, the client relies on no other key for the
    DID. -/
def RotationSeen (C : Crypto) (did pubkeyB64 : String) (replacedAt : DateTime)
    (s : AttestedNetwork) : NetworkEvent → Prop
  | .client event =>
    ∀ a, s.Relies C event a → a.claim.subjectDid = did →
      replacedAt + hours 24 < event.now + event.margin → a.claim.publicKeyB64 = pubkeyB64
  | _ => True

/-- The DID has the key, and had it whenever it was attested after the reading. -/
structure Replaced (did pubkeyB64 : String) (replacedAt : DateTime) (s : AttestedNetwork) :
    Prop where
  current : ∃ ring, s.registry.entries.lookup did = some (pubkeyB64, ring)
  issued : ∀ i ∈ s.issued, i.did = did → replacedAt < i.expiryBase →
    ∃ ring, i.registry.entries.lookup did = some (pubkeyB64, ring)

/-- A registration of the DID is for the same key. -/
def KeepsKey (did pubkeyB64 : String) : NetworkEvent → Prop
  | .register identity _ => identity.did.toText = did → identity.publicKey = pubkeyB64
  | _ => True

variable {C : Crypto} {s : AttestedNetwork} {did pubkeyB64 : String} {replacedAt : DateTime}

/-- **Step.** The new key stays. -/
theorem Replaced.step (h : s.Replaced did pubkeyB64 replacedAt) (event : NetworkEvent)
    (hkeeps : KeepsKey did pubkeyB64 event) : (s.step C event).Replaced did pubkeyB64 replacedAt := by
  cases event with
  | register identity ring =>
    refine ⟨?_, h.issued⟩
    -- a later registration of the DID keeps the new key
    by_cases hdid : identity.did.toText = did
    · subst hdid
      rw [← hkeeps rfl]
      exact ⟨ring, MemoryAgentRegistry.lookup_register_self _ _ _⟩
    · obtain ⟨ring', hentry⟩ := h.current
      refine ⟨ring', ?_⟩
      rw [← hentry]
      exact MemoryAgentRegistry.lookup_register_of_ne _ _ _ (Ne.symm hdid)
  | issue d issuedAt expiryBase =>
    refine ⟨h.current, ?_⟩
    intro i hi hdid hlate
    rcases List.mem_append.mp hi with hold | hnew
    · exact h.issued i hold hdid hlate
    · -- the attestation is made from the entry of now
      obtain rfl := List.mem_singleton.mp hnew
      exact h.current
  | client event =>
    -- the client cannot change the registry
    exact ⟨h.current, h.issued⟩

/-- **Step.** What was registered within the last day is then the new key. -/
theorem rotationSeen_of_unforged (hs : s.Sound C) (h : s.Replaced did pubkeyB64 replacedAt)
    (event : NetworkEvent) (hunforged : s.Unforged C event) :
    s.RotationSeen C did pubkeyB64 replacedAt event := by
  cases event with
  | register identity ring => trivial
  | issue d issuedAt expiryBase => trivial
  | client event =>
    intro a ha hsubject hlate
    -- what is relied on was issued, and not long ago
    obtain ⟨i, hi, ⟨ring, hentry⟩, hdid, hrecent⟩ :=
      trustRecent_of_unforged hs (.client event) hunforged a ha
    have hreading : replacedAt < i.expiryBase :=
      lt_of_add_lt_add_right (hlate.trans_le hrecent)
    -- its margin puts the issue after the replacement
    obtain ⟨ring', hreplaced⟩ := h.issued i hi (hdid.trans hsubject) hreading
    rw [hsubject, hreplaced] at hentry
    exact (Prod.mk.inj (Option.some.inj hentry)).1.symm

/-- What a run has issued. -/
theorem mem_issued_runFrom {adapters : Adapters} {registry : MemoryAgentRegistry}
    (run : List NetworkEvent) :
    ∀ i ∈ (runFrom (step C) (start registry adapters) run).issued,
      .issue i.did i.issuedAt i.expiryBase ∈ run := by
  -- by induction on the run, with what has been issued as the ledger
  apply runFrom_tracks (T := fun past (s : AttestedNetwork) =>
    ∀ i ∈ s.issued, NetworkEvent.issue i.did i.issuedAt i.expiryBase ∈ past)
  · intro i hi
    cases hi
  · intro past event s hpast i hi
    cases event with
    | register identity ring => exact List.mem_append_left _ (hpast i hi)
    | client event => exact List.mem_append_left _ (hpast i hi)
    | issue d issuedAt expiryBase =>
      rcases List.mem_append.mp hi with hold | hnew
      · exact List.mem_append_left _ (hpast i hold)
      · obtain rfl := List.mem_singleton.mp hnew
        exact List.mem_append_right _ List.mem_cons_self

end AttestedNetwork

open AttestedNetwork in
/-- **Replaced keys go out of use**: when the registry replaces the key of a DID, having attested
    it until then at readings up to `replacedAt`, and no other key is registered for the DID later,
    the client relies on no other key from a day after that reading on, and from 23 hours after it
    on when it answers from its cache. -/
theorem rotation_seen (C : Crypto) (registry : MemoryAgentRegistry) (baseUrl agentDid : String)
    (signingKey : ByteArr 32) (keyStore : HttpKeyStore)
    (hkeyStore : keyStore.registryPubkey = registry.pubkey C) (before after : List NetworkEvent)
    (identity : AgentIdentity) (ring : PrivilegeRing) (replacedAt : DateTime)
    (hbefore : ∀ issuedAt expiryBase,
      .issue identity.did.toText issuedAt expiryBase ∈ before → expiryBase ≤ replacedAt)
    (hafter : ∀ event ∈ after, KeepsKey identity.did.toText identity.publicKey event)
    (hunforged : AllSteps (step C) (Unforged C)
      (start registry (.start (.new baseUrl (registry.pubkey C) agentDid signingKey) keyStore))
      (before ++ .register identity ring :: after)) :
    AllSteps (step C) (RotationSeen C identity.did.toText identity.publicKey replacedAt)
      (runFrom (step C)
        (start registry (.start (.new baseUrl (registry.pubkey C) agentDid signingKey) keyStore))
        (before ++ [.register identity ring])) after := by
  obtain ⟨hearly, -, hlate⟩ := allSteps_append.mp hunforged
  rw [runFrom_append, runFrom_cons, runFrom_nil]
  -- at the replacement the adapters are sound, and everything issued is old
  have hsound : Sound C (runFrom (step C)
      (start registry (.start (.new baseUrl (registry.pubkey C) agentDid signingKey) keyStore))
      before) := by
    apply hearly.keeps
    · intro s event hevent hs
      exact hs.step event hevent
    · exact sound_start hkeyStore
  -- only the attestations of `before` exist, and they are old
  have hreplaced : Replaced identity.did.toText identity.publicKey replacedAt
      (step C (runFrom (step C)
        (start registry (.start (.new baseUrl (registry.pubkey C) agentDid signingKey) keyStore))
        before) (.register identity ring)) := by
    refine ⟨⟨ring, MemoryAgentRegistry.lookup_register_self _ _ _⟩, ?_⟩
    intro i hi hdid hreading
    have hissued := mem_issued_runFrom before i hi
    rw [hdid] at hissued
    exact absurd (hbefore _ _ hissued) (not_le.mpr hreading)
  -- from there on both invariants are kept by every step
  apply AllSteps.of_keeps
    (I := fun s => Sound C s ∧ Replaced identity.did.toText identity.publicKey replacedAt s)
    (G := fun s event => Unforged C s event ∧
      KeepsKey identity.did.toText identity.publicKey event)
  · intro s event hevent hs
    exact ⟨hs.1.step event hevent.1, hs.2.step event hevent.2⟩
  · intro s event hevent hs
    exact rotationSeen_of_unforged hs.1 hs.2 event hevent.1
  · exact ⟨hsound.step _ trivial, hreplaced⟩
  · apply hlate.and
    apply allSteps_of_forall_mem
    exact fun event hevent _ => hafter event hevent

/-! ## An attestation and its successor -/

/-- The claim for `did:mesh:agent-1` with its second key, 30 hours after the epoch. -/
def rotatedClaim : AttestationClaim :=
  MemoryAgentRegistry.claimFor "did:mesh:agent-1" (Base64.encodeText secondKey.val) (hours 30)
    (hours 30)

/-- Ed25519 on the registry's signatures of both claims. -/
def rotationVectors : Vectors where
  seed := registrySeed
  publicKey := registryKey
  signed := [(agentOneClaim.canonicalBytes, agentOneClaimSignature),
    (rotatedClaim.canonicalBytes,
      signatureOf 0xbc18ffe877c34d46dc38cc9553512ab3dc98abd49dfcfca1f496f28cb623306a
        0xf569c80ce059b0d672b875a581a750543ea8a0b8fba5af2244a6343d99dfa008)]
  accepted := []

/-- A server that answers with the attestation of a claim, whatever the request. -/
def claimServer (claim : AttestationClaim) (_request : HttpGet) :
    HttpAnswer (Option SignedAttestation) :=
  .ok { status := 200, statusText := "200 OK"
        json := .ok (some (claim.attest (Crypto.ofVectors rotationVectors) registrySeed
          "did:mesh:registry")) }

def rotatingAgent (publicKey : ByteArr 32) : AgentIdentity :=
  { identityStub (Base64.encodeText publicKey.val) with
    did := { method := "mesh", uniqueId := "agent-1" } }

def sampleRegistry : MemoryAgentRegistry :=
  .new registrySeed "did:mesh:registry"

def sampleKeyStore : HttpKeyStore where
  baseUrl := "http://127.0.0.1:8080"
  registryPubkey := sampleRegistry.pubkey (Crypto.ofVectors rotationVectors)
  agentDid := "did:mesh:me"
  signingKey := zeroKey

/-- The agent is registered and attested; the attestation reaches the client. -/
def firstKeyRun : List NetworkEvent :=
  [.register (rotatingAgent agentOneKey) .standard, .issue "did:mesh:agent-1" 0 0,
    .client (.lookUp "did:mesh:agent-1" 0 ⟨3600, by decide⟩),
    .client (.answered "did:mesh:agent-1" (claimServer agentOneClaim) 0)]

/-- After the key is replaced, the client asks again. -/
def secondKeyRun : List NetworkEvent :=
  [.issue "did:mesh:agent-1" (hours 30) (hours 30),
    .client (.lookUp "did:mesh:agent-1" (hours 30) ⟨3600, by decide⟩),
    .client (.answered "did:mesh:agent-1" (claimServer rotatedClaim) (hours 30))]

namespace AttestedNetwork

/-- An answer with a claim that was issued is unforged. -/
theorem unforged_claimServer {s : AttestedNetwork} {claim : AttestationClaim}
    (hissued : s.Issued (Crypto.ofVectors rotationVectors) claim) (did : String) (now : DateTime) :
    s.Unforged (Crypto.ofVectors rotationVectors)
      (.client (.answered did (claimServer claim) now)) := by
  intro a t hanswer _
  obtain rfl : claim.attest (Crypto.ofVectors rotationVectors) registrySeed "did:mesh:registry" = a :=
    Option.some.inj hanswer
  exact ⟨claim, hissued, rfl⟩

theorem unforged_lookUp (s : AttestedNetwork) (C : Crypto) (did : String) (now : DateTime)
    (jitter : Jitter) : s.Unforged C (.client (.lookUp did now jitter)) := by
  intro a t hanswer
  cases hanswer

theorem unforged_rotation :
    AllSteps (step (Crypto.ofVectors rotationVectors))
      (Unforged (Crypto.ofVectors rotationVectors))
      (start sampleRegistry (.start (.new "http://127.0.0.1:8080"
        (sampleRegistry.pubkey (Crypto.ofVectors rotationVectors)) "did:mesh:me" zeroKey)
        sampleKeyStore))
      (firstKeyRun ++ .register (rotatingAgent secondKey) .standard :: secondKeyRun) := by
  refine ⟨trivial, trivial, ?_, ?_, trivial, trivial, ?_, ?_, trivial⟩
  · -- the two lookups ask for nothing that could be forged
    apply unforged_lookUp
  · apply unforged_claimServer
    apply Issued.step
    -- the first key is the registered one when the first attestation is issued
    exact issued_issue (MemoryAgentRegistry.lookup_register_self _ (rotatingAgent agentOneKey) _) 0 0
  · apply unforged_lookUp
  · apply unforged_claimServer
    apply Issued.step
    -- the second key is the registered one afterwards
    exact issued_issue (MemoryAgentRegistry.lookup_register_self _ (rotatingAgent secondKey) _)
      (hours 30) (hours 30)

end AttestedNetwork

/-- In this run everything relied on is recent. -/
theorem trusted_recent_rotation :
    AllSteps (AttestedNetwork.step (Crypto.ofVectors rotationVectors))
      (AttestedNetwork.TrustRecent (Crypto.ofVectors rotationVectors))
      (.start sampleRegistry (.start (.new "http://127.0.0.1:8080"
        (sampleRegistry.pubkey (Crypto.ofVectors rotationVectors)) "did:mesh:me" zeroKey)
        sampleKeyStore))
      (firstKeyRun ++ .register (rotatingAgent secondKey) .standard :: secondKeyRun) :=
  trusted_recent (Crypto.ofVectors rotationVectors) sampleRegistry "http://127.0.0.1:8080"
    "did:mesh:me" zeroKey sampleKeyStore rfl _ AttestedNetwork.unforged_rotation

/-- After the replacement the client relies on the second key. -/
theorem rotation_seen_rotation :
    AllSteps (AttestedNetwork.step (Crypto.ofVectors rotationVectors))
      (AttestedNetwork.RotationSeen (Crypto.ofVectors rotationVectors) "did:mesh:agent-1"
        (Base64.encodeText secondKey.val) 0)
      (runFrom (AttestedNetwork.step (Crypto.ofVectors rotationVectors))
        (.start sampleRegistry (.start (.new "http://127.0.0.1:8080"
          (sampleRegistry.pubkey (Crypto.ofVectors rotationVectors)) "did:mesh:me" zeroKey)
          sampleKeyStore))
        (firstKeyRun ++ [.register (rotatingAgent secondKey) .standard])) secondKeyRun :=
  rotation_seen (Crypto.ofVectors rotationVectors) sampleRegistry "http://127.0.0.1:8080"
    "did:mesh:me" zeroKey sampleKeyStore rfl firstKeyRun secondKeyRun (rotatingAgent secondKey)
    .standard 0 (by
      intro issuedAt expiryBase h
      simp only [firstKeyRun, List.mem_cons, NetworkEvent.issue.injEq, reduceCtorEq, List.not_mem_nil,
        or_false, false_or] at h
      exact h.2.2.le) (by simp [secondKeyRun, AttestedNetwork.KeepsKey])
    AttestedNetwork.unforged_rotation

end AgentGovernance.Mesh
