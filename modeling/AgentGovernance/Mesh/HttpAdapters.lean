import AgentGovernance.Lib.Runs
import AgentGovernance.Mesh.Registry

/-!
# The attested network adapters

`crates/core/mesh/src/identity/registry_http.rs` and `keystore_http.rs`: clients of a registry
that trust an answer when its attestation verifies under the configured key.  The attestations
that verified are cached under the DID that was asked for.

Neither adapter compares the DID in the attestation with the one it asked for.
`adapters_failClosed_iff` says that this is the only way to get a wrong answer.
-/

namespace AgentGovernance.Mesh

open AgentGovernance.Lib

/-! ## Requests and answers -/

/-- A GET request, signed over the empty body. -/
structure HttpGet where
  url : String
  /-- `X-AGT-Signature`. -/
  signature : String
  /-- `X-AGT-Agent-DID`. -/
  agentDid : String

/-- A response: its status with the text that is displayed for it, and its body. -/
structure HttpReply (α : Type) where
  status : Nat
  statusText : String
  /-- `response.json()`. -/
  json : Except String α

def HttpReply.isSuccess {α : Type} (reply : HttpReply α) : Bool :=
  200 ≤ reply.status && reply.status < 300

/-- What `send()` gives. -/
abbrev HttpAnswer (α : Type) := Except String (HttpReply α)

/-- The value in a successful response; no value for status 404. -/
def HttpAnswer.read {α : Type} (answer : HttpAnswer (Option α)) : Except String (Option α) :=
  match answer with
  | .error e => .error e
  | .ok reply =>
    if reply.isSuccess then reply.json
    else if reply.status = 404 then .ok none
    else .error ("Registry error: " ++ reply.statusText)

/-! ## The registry adapter -/

structure HttpAgentRegistry where
  baseUrl : String
  registryPubkey : String
  agentDid : String
  signingKey : ByteArr 32
  cache : Finmap (fun _ : String => SignedAttestation)

/-- What `gen_range(3600..7200)` draws, in seconds. -/
def Jitter : Type := { secs : Int // 3600 ≤ secs ∧ secs < 7200 }

/-- `Duration::seconds`. -/
def durationSeconds (n : Int) : Duration :=
  n * 1000000000

def SignedAttestation.isCacheFresh (attestation : SignedAttestation) (now : DateTime)
    (jitter : Jitter) : Bool :=
  if attestation.claim.expiresAt ≤ now then false
  else now < attestation.claim.expiresAt - durationSeconds jitter.val

namespace HttpAgentRegistry

def new (baseUrl registryPubkey agentDid : String) (signingKey : ByteArr 32) :
    HttpAgentRegistry where
  baseUrl := baseUrl
  registryPubkey := registryPubkey
  agentDid := agentDid
  signingKey := signingKey
  cache := ∅

variable (C : Crypto) (r : HttpAgentRegistry)

def signBody (body : Bytes) : String :=
  C.encode64 (C.sign r.signingKey body).val

/-- The cached attestation, when it is fresh. -/
def cached (did : String) (now : DateTime) (jitter : Jitter) : Option SignedAttestation :=
  (r.cache.lookup did).filter fun attestation => attestation.isCacheFresh now jitter

def attestationRequest (did : String) : HttpGet where
  url := r.baseUrl ++ "/v1/agents/" ++ did ++ "/attestation"
  signature := r.signBody C []
  agentDid := r.agentDid

/-- What becomes of the answer: an attestation is verified and cached. -/
def accept (did : String) (answer : HttpAnswer (Option SignedAttestation)) (now : DateTime) :
    HttpAgentRegistry × Except String (Option SignedAttestation) :=
  match HttpAnswer.read answer with
  | .error e => (r, .error e)
  | .ok none => (r, .ok none)
  | .ok (some a) =>
    match a.verify C r.registryPubkey now with
    | .error e => (r, .error ("Attestation verification failed: " ++ e.toText))
    | .ok () => ({ r with cache := r.cache.insert did a }, .ok (some a))

/-- The second half of `get_attestation`: the server is asked. -/
def fetch (did : String) (server : HttpGet → HttpAnswer (Option SignedAttestation))
    (now : DateTime) : HttpAgentRegistry × Except String (Option SignedAttestation) :=
  r.accept C did (server (r.attestationRequest C did)) now

def getAttestation (did : String) (now : DateTime) (jitter : Jitter)
    (server : HttpGet → HttpAnswer (Option SignedAttestation)) (verifiedAt : DateTime) :
    HttpAgentRegistry × Except String (Option SignedAttestation) :=
  match r.cached did now jitter with
  | some attestation => (r, .ok (some attestation))
  | none => r.fetch C did server verifiedAt

end HttpAgentRegistry

/-! ## The key store adapter -/

/-- `AttestedKeyResponse`, as the client reads it. -/
structure AttestedKeyResponse where
  keyB64 : String
  attestation : SignedAttestation

structure HttpKeyStore where
  baseUrl : String
  registryPubkey : String
  agentDid : String
  signingKey : ByteArr 32

namespace HttpKeyStore

variable (C : Crypto) (store : HttpKeyStore)

def signBody (body : Bytes) : String :=
  C.encode64 (C.sign store.signingKey body).val

def keyRequest (agentDid : String) : HttpGet where
  url := store.baseUrl ++ "/v1/agents/" ++ agentDid ++ "/key"
  signature := store.signBody C []
  agentDid := store.agentDid

/-- What becomes of the answer. -/
def accept (answer : HttpAnswer (Option AttestedKeyResponse)) (now : DateTime) :
    Except String (Option (ByteArr 32)) :=
  match HttpAnswer.read answer with
  | .error e => .error e
  | .ok none => .ok none
  | .ok (some res) =>
    match res.attestation.verify C store.registryPubkey now with
    | .error e => .error ("Registry attestation verification failed: " ++ e.toText)
    | .ok () =>
      match C.decode64 res.keyB64 with
      | .error e => .error e
      | .ok bytes =>
        match tryInto 32 bytes with
        | none => .error "Invalid key length"
        | some signingKey =>
          if C.pubkeyB64 signingKey ≠ res.attestation.claim.publicKeyB64 then
            .error "Key mismatch: private key does not match attested public key"
          else .ok (some signingKey)

def loadKey (agentDid : String) (server : HttpGet → HttpAnswer (Option AttestedKeyResponse))
    (now : DateTime) : Except String (Option (ByteArr 32)) :=
  store.accept C (server (store.keyRequest C agentDid)) now

end HttpKeyStore

/-! ## What is returned -/

/-- An attestation of `did` under the key `pubkey` that has not expired. -/
structure Vouches (C : Crypto) (pubkey did : String) (now : DateTime)
    (a : SignedAttestation) : Prop where
  verifies : a.verify C pubkey now = .ok ()
  unexpired : now ≤ a.claim.expiresAt
  subject : a.claim.subjectDid = did

/-- An attestation that has verified once verifies until it expires. -/
theorem SignedAttestation.verify_until_expiry {C : Crypto} {a : SignedAttestation} {pubkey : String}
    {t now : DateTime} (h : a.verify C pubkey t = .ok ()) (hlive : now ≤ a.claim.expiresAt) :
    a.verify C pubkey now = .ok () := by
  obtain ⟨-, hsigned⟩ := (a.verify_eq_ok_iff C pubkey t).mp h
  exact (a.verify_eq_ok_iff C pubkey now).mpr ⟨hlive, hsigned⟩

theorem SignedAttestation.unexpired_of_verify {C : Crypto} {a : SignedAttestation} {pubkey : String}
    {now : DateTime} (h : a.verify C pubkey now = .ok ()) : now ≤ a.claim.expiresAt :=
  ((a.verify_eq_ok_iff C pubkey now).mp h).1

/-- A fresh attestation has more than an hour to live, whatever the jitter. -/
theorem SignedAttestation.hour_left {a : SignedAttestation} {now : DateTime} {jitter : Jitter}
    (h : a.isCacheFresh now jitter = true) : now + durationSeconds 3600 < a.claim.expiresAt := by
  unfold SignedAttestation.isCacheFresh at h
  split at h
  · cases h
  · have hjitter : 3600 ≤ jitter.val := jitter.property.1
    have hfresh : now < a.claim.expiresAt - durationSeconds jitter.val := of_decide_eq_true h
    have hlong : durationSeconds 3600 ≤ durationSeconds jitter.val :=
      Int.mul_le_mul_of_nonneg_right hjitter (by decide)
    -- the smallest jitter leaves the least
    calc now + durationSeconds 3600 ≤ now + durationSeconds jitter.val := Int.add_le_add_left hlong now
      _ < a.claim.expiresAt := Int.add_lt_of_lt_sub_right hfresh

namespace HttpAgentRegistry

variable {C : Crypto} {r : HttpAgentRegistry} {did : String} {now : DateTime} {jitter : Jitter}
  {a : SignedAttestation} {answer : HttpAnswer (Option SignedAttestation)}

/-- What is served from the cache. -/
theorem cached_eq_some_iff :
    r.cached did now jitter = some a ↔
      r.cache.lookup did = some a ∧ a.isCacheFresh now jitter = true := by
  simp [cached, Option.filter_eq_some_iff]

/-- What is served from an answer: the attestation in it, when it verifies. -/
theorem accept_eq_some_iff :
    (r.accept C did answer now).2 = .ok (some a) ↔
      HttpAnswer.read answer = .ok (some a) ∧ a.verify C r.registryPubkey now = .ok () := by
  unfold accept
  split
  next e he =>
    -- a failed request and an absent agent give no attestation
    simp [he]
  next he => simp [he]
  next b he =>
    split
    next e hv =>
      simp only [he, reduceCtorEq, Except.ok.injEq, Option.some.injEq, false_iff]
      rintro ⟨rfl, hok⟩
      simp [hv] at hok
    next hv =>
      simp only [he, Except.ok.injEq, Option.some.injEq]
      constructor
      · rintro rfl
        exact ⟨rfl, hv⟩
      · exact fun h => h.1

@[simp] theorem accept_registryPubkey :
    (r.accept C did answer now).1.registryPubkey = r.registryPubkey := by
  unfold accept
  split
  · rfl
  · rfl
  · split <;> rfl

/-- What an answer leaves in the cache. -/
theorem lookup_accept {d : String}
    (h : (r.accept C did answer now).1.cache.lookup d = some a) :
    r.cache.lookup d = some a ∨
      d = did ∧ (r.accept C did answer now).2 = .ok (some a) := by
  unfold accept at h ⊢
  split at h
  · exact .inl h
  · exact .inl h
  next b he =>
    -- only a verified attestation is cached, under the DID asked for
    split at h
    next => exact .inl h
    next hv =>
      by_cases hd : d = did
      · subst hd
        rw [Finmap.lookup_insert] at h
        refine .inr ⟨rfl, ?_⟩
        simp only [h]
      · rw [Finmap.lookup_insert_of_ne _ hd] at h
        exact .inl h

end HttpAgentRegistry

/-- What `load_key` returns: a key in the answer, with an attestation that verifies and is for the
    key. -/
theorem HttpKeyStore.accept_eq_some_iff {C : Crypto} {store : HttpKeyStore}
    {answer : HttpAnswer (Option AttestedKeyResponse)} {now : DateTime} {key : ByteArr 32} :
    store.accept C answer now = .ok (some key) ↔
      ∃ res, HttpAnswer.read answer = .ok (some res) ∧
        res.attestation.verify C store.registryPubkey now = .ok () ∧
        C.decode64 res.keyB64 = .ok key.val ∧
        C.pubkeyB64 key = res.attestation.claim.publicKeyB64 := by
  unfold HttpKeyStore.accept
  cases HttpAnswer.read answer with
  | error e => simp
  | ok found =>
    cases found with
    | none => simp
    | some res =>
      simp only [Except.ok.injEq, Option.some.injEq, exists_eq_left']
      cases res.attestation.verify C store.registryPubkey now with
      | error e => simp
      | ok u =>
        cases C.decode64 res.keyB64 with
        | error e => simp
        | ok bytes =>
          simp only [true_and, Except.ok.injEq]
          cases hkey : tryInto 32 bytes with
          | none =>
            -- key bytes of another length are refused
            have hlen := tryInto_eq_none.mp hkey
            simp only [reduceCtorEq, false_iff]
            rintro ⟨rfl, -⟩
            exact hlen key.property
          | some signingKey =>
            -- the decoded bytes are the key, so only the comparison with the claim is left
            obtain rfl := tryInto_eq_some.mp hkey
            rw [← Subtype.ext_iff]
            by_cases hattested :
                C.pubkeyB64 signingKey = res.attestation.claim.publicKeyB64
            · simp only [hattested, ne_eq, not_true_eq_false, if_false, Except.ok.injEq,
                Option.some.injEq]
              constructor
              · rintro rfl
                exact ⟨rfl, hattested⟩
              · exact fun h => h.1
            · simp only [ne_eq, hattested, not_false_eq_true, if_true, reduceCtorEq, false_iff]
              rintro ⟨rfl, h⟩
              exact hattested h

/-! ## Runs of calls -/

/-- The adapters during a run, with the DIDs that a call of `get_attestation` has asked the server
    for and that are not answered yet.  Calls may overlap. -/
structure Adapters where
  registry : HttpAgentRegistry
  keyStore : HttpKeyStore
  waiting : List String

/-- One step of a call, with its clock reading.  A server answers what it likes. -/
inductive AdapterEvent where
  /-- A call of `get_attestation` looks in the cache. -/
  | lookUp (did : String) (now : DateTime) (jitter : Jitter)
  /-- A call of `get_attestation` that waits gets its answer. -/
  | answered (did : String) (server : HttpGet → HttpAnswer (Option SignedAttestation))
      (now : DateTime)
  /-- `load_key`. -/
  | loadKey (did : String) (server : HttpGet → HttpAnswer (Option AttestedKeyResponse)) (now : DateTime)

namespace Adapters

variable (C : Crypto)

/-- The adapters before any call. -/
def start (registry : HttpAgentRegistry) (keyStore : HttpKeyStore) : Adapters where
  registry := registry
  keyStore := keyStore
  waiting := []

def step (s : Adapters) : AdapterEvent → Adapters
  | .lookUp did now jitter =>
    match s.registry.cached did now jitter with
    | some _ => s
    | none => { s with waiting := did :: s.waiting }
  | .answered did server now =>
    if did ∈ s.waiting then
      { s with
        registry := (s.registry.fetch C did server now).1
        waiting := s.waiting.erase did }
    else s
  | .loadKey _ _ _ => s

/-- A call of `get_attestation` that no other overlaps is its two steps. -/
theorem registry_uninterrupted (s : Adapters) {did : String} (h : did ∉ s.waiting) (now : DateTime)
    (jitter : Jitter) (server : HttpGet → HttpAnswer (Option SignedAttestation))
    (verifiedAt : DateTime) :
    (runFrom (step C) s [.lookUp did now jitter, .answered did server verifiedAt]).registry =
      (s.registry.getAttestation C did now jitter server verifiedAt).1 := by
  simp only [runFrom_cons, runFrom_nil, HttpAgentRegistry.getAttestation]
  cases hcached : s.registry.cached did now jitter with
  | some a => simp [step, hcached, h]
  | none => simp [step, hcached]

/-- Whatever the step returns is vouched for. -/
def FailClosed (s : Adapters) : AdapterEvent → Prop
  | .lookUp did now jitter =>
    ∀ a, s.registry.cached did now jitter = some a →
      Vouches C s.registry.registryPubkey did now a ∧
        now + durationSeconds 3600 < a.claim.expiresAt
  | .answered did server now =>
    did ∈ s.waiting → ∀ a, (s.registry.fetch C did server now).2 = .ok (some a) →
      Vouches C s.registry.registryPubkey did now a
  | .loadKey did server now =>
    ∀ key, s.keyStore.loadKey C did server now = .ok (some key) →
      ∃ res, HttpAnswer.read (server (s.keyStore.keyRequest C did)) = .ok (some res) ∧
        Vouches C s.keyStore.registryPubkey did now res.attestation ∧
        res.attestation.claim.publicKeyB64 = C.pubkeyB64 key

/-- An attestation that the server sends is for the DID that was asked for, if it verifies and, with
    a key, is for the key. -/
def SubjectMatches (s : Adapters) : AdapterEvent → Prop
  | .lookUp _ _ _ => True
  | .answered did server now =>
    did ∈ s.waiting → ∀ a,
      HttpAnswer.read (server (s.registry.attestationRequest C did)) = .ok (some a) →
      a.verify C s.registry.registryPubkey now = .ok () → a.claim.subjectDid = did
  | .loadKey did server now =>
    ∀ res (key : ByteArr 32),
      HttpAnswer.read (server (s.keyStore.keyRequest C did)) = .ok (some res) →
      res.attestation.verify C s.keyStore.registryPubkey now = .ok () →
      C.decode64 res.keyB64 = .ok key.val →
      C.pubkeyB64 key = res.attestation.claim.publicKeyB64 →
      res.attestation.claim.subjectDid = did

/-- Every cached attestation is for the DID it is stored under, and has verified. -/
def CacheSound (s : Adapters) : Prop :=
  ∀ did a, s.registry.cache.lookup did = some a →
    a.claim.subjectDid = did ∧ ∃ t, a.verify C s.registry.registryPubkey t = .ok ()

variable {C} {s : Adapters}

theorem cacheSound_start (baseUrl registryPubkey agentDid : String) (signingKey : ByteArr 32)
    (keyStore : HttpKeyStore) :
    CacheSound C (start (.new baseUrl registryPubkey agentDid signingKey) keyStore) := by
  intro did a h
  simp [start, HttpAgentRegistry.new] at h

/-- What a sound cache serves is vouched for, with more than an hour to live. -/
theorem failClosed_lookUp (hs : CacheSound C s) (did : String) (now : DateTime) (jitter : Jitter) :
    FailClosed C s (.lookUp did now jitter) := by
  intro a ha
  obtain ⟨hlookup, hfresh⟩ := HttpAgentRegistry.cached_eq_some_iff.mp ha
  -- it verified when it was cached, and has not expired since
  obtain ⟨hsubject, t, hverified⟩ := hs did a hlookup
  have hhour : now + durationSeconds 3600 < a.claim.expiresAt := SignedAttestation.hour_left hfresh
  have hlive : now ≤ a.claim.expiresAt := by
    refine le_trans ?_ hhour.le
    exact Int.le_add_of_nonneg_right (by decide)
  exact ⟨⟨SignedAttestation.verify_until_expiry hverified hlive, hlive, hsubject⟩, hhour⟩

theorem failClosed_answered_iff (did : String)
    (server : HttpGet → HttpAnswer (Option SignedAttestation)) (now : DateTime) :
    FailClosed C s (.answered did server now) ↔ SubjectMatches C s (.answered did server now) := by
  refine forall_congr' fun hwaiting => forall_congr' fun a => ?_
  rw [HttpAgentRegistry.fetch, HttpAgentRegistry.accept_eq_some_iff]
  constructor
  · exact fun h hread hverified => (h ⟨hread, hverified⟩).subject
  · rintro h ⟨hread, hverified⟩
    exact ⟨hverified, SignedAttestation.unexpired_of_verify hverified, h hread hverified⟩

theorem failClosed_loadKey_iff (did : String) (server : HttpGet → HttpAnswer (Option AttestedKeyResponse))
    (now : DateTime) :
    FailClosed C s (.loadKey did server now) ↔ SubjectMatches C s (.loadKey did server now) := by
  simp only [FailClosed, SubjectMatches, HttpKeyStore.loadKey, HttpKeyStore.accept_eq_some_iff]
  constructor
  · -- a vouched key names the DID asked for
    intro h res key hread hverified hkey hattested
    obtain ⟨res', hread', hvouches, -⟩ := h key ⟨res, hread, hverified, hkey, hattested⟩
    have hres : res = res' := Option.some.inj (Except.ok.inj (hread.symm.trans hread'))
    rw [hres]
    exact hvouches.subject
  · rintro h key ⟨res, hread, hverified, hkey, hattested⟩
    -- the adapter verified the attestation and compared the keys itself
    refine ⟨res, hread, ?_, hattested.symm⟩
    have hsubject : res.attestation.claim.subjectDid = did := h res key hread hverified hkey hattested
    exact ⟨hverified, SignedAttestation.unexpired_of_verify hverified, hsubject⟩

/-- While the cache is sound, a step returns what is vouched for exactly when the server's
    attestation is for the right DID. -/
theorem failClosed_iff (hs : CacheSound C s) (e : AdapterEvent) :
    FailClosed C s e ↔ SubjectMatches C s e := by
  cases e with
  | lookUp did now jitter => exact iff_of_true (failClosed_lookUp hs did now jitter) trivial
  | answered did server now => exact failClosed_answered_iff did server now
  | loadKey did server now => exact failClosed_loadKey_iff did server now

/-- Attestations for the right DID keep the cache sound. -/
theorem cacheSound_step (hs : CacheSound C s) (e : AdapterEvent) (he : SubjectMatches C s e) :
    CacheSound C (step C s e) := by
  cases e with
  | lookUp did now jitter =>
    -- a lookup answers from the cache or begins a request, and stores nothing
    simp only [step]
    split <;> exact hs
  | loadKey did server now => exact hs
  | answered did server now =>
    simp only [step]
    split
    next hwaiting =>
      intro d a hlookup
      simp only [HttpAgentRegistry.fetch, HttpAgentRegistry.accept_registryPubkey]
      -- an entry is an old one or the one just verified
      rcases HttpAgentRegistry.lookup_accept hlookup with hold | ⟨rfl, hnew⟩
      · exact hs d a hold
      · obtain ⟨hread, hverified⟩ := HttpAgentRegistry.accept_eq_some_iff.mp hnew
        exact ⟨he hwaiting a hread hverified, now, hverified⟩
    next => exact hs

end Adapters

open Adapters in
/-- **Attested adapters**: over any run of overlapping calls, against servers that answer what they
    like, everything returned is vouched for exactly when every attestation that verified was for
    the DID asked for. -/
theorem adapters_failClosed_iff (C : Crypto) (baseUrl registryPubkey agentDid : String)
    (signingKey : ByteArr 32) (keyStore : HttpKeyStore) (run : List AdapterEvent) :
    AllSteps (step C) (FailClosed C)
        (start (.new baseUrl registryPubkey agentDid signingKey) keyStore) run ↔
      AllSteps (step C) (SubjectMatches C)
        (start (.new baseUrl registryPubkey agentDid signingKey) keyStore) run := by
  -- the invariant is that whatever is cached was verified for its own DID
  apply allSteps_iff_allSteps (I := CacheSound C)
  · intro s e hs
    exact failClosed_iff hs e
  · intro s e hs he
    exact cacheSound_step hs e he
  · exact cacheSound_start baseUrl registryPubkey agentDid signingKey keyStore

/-! ## A sample answer -/

/-- The claim for `did:mesh:agent-1`. -/
def agentOneClaim : AttestationClaim :=
  MemoryAgentRegistry.claimFor "did:mesh:agent-1" (Base64.encodeText agentOneKey.val) 0 0

/-- Ed25519 on the registry's signature of the claim. -/
def agentOneVectors : Vectors where
  seed := registrySeed
  publicKey := registryKey
  signed := [(agentOneClaim.canonicalBytes, agentOneClaimSignature)]
  accepted := []

/-- A server that answers with the attestation of `did:mesh:agent-1`, whatever the request. -/
def agentOneServer (_request : HttpGet) : HttpAnswer (Option SignedAttestation) :=
  .ok { status := 200, statusText := "200 OK"
        json := .ok (some (agentOneClaim.attest (Crypto.ofVectors agentOneVectors) registrySeed
          "did:mesh:registry")) }

/-- Adapters that trust the registry. -/
def sampleAdapters : Adapters :=
  .start (.new "http://127.0.0.1:8080" ((Crypto.ofVectors agentOneVectors).pubkeyB64 registrySeed)
      "did:mesh:me" zeroKey)
    { baseUrl := "http://127.0.0.1:8080"
      registryPubkey := (Crypto.ofVectors agentOneVectors).pubkeyB64 registrySeed
      agentDid := "did:mesh:me", signingKey := zeroKey }

/-- Asked for `did:mesh:agent-2`, the adapter returns the attestation of `did:mesh:agent-1`. -/
theorem adapters_not_failClosed :
    ¬ AllSteps (Adapters.step (Crypto.ofVectors agentOneVectors))
      (Adapters.FailClosed (Crypto.ofVectors agentOneVectors)) sampleAdapters
      [.lookUp "did:mesh:agent-2" 0 ⟨3600, by decide⟩,
        .answered "did:mesh:agent-2" agentOneServer 0] := by
  rintro ⟨-, hanswered, -⟩
  have hvouches := hanswered (List.mem_cons_self ..)
    (agentOneClaim.attest (Crypto.ofVectors agentOneVectors) registrySeed "did:mesh:registry")
    (HttpAgentRegistry.accept_eq_some_iff.mpr
      ⟨rfl, (AttestationClaim.verify_attest _ _ _ _ _).mpr (by decide)⟩)
  exact absurd hvouches.subject (by decide)

end AgentGovernance.Mesh
