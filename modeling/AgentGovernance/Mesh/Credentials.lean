import AgentGovernance.Compliance.ActionLogJson
import AgentGovernance.Lib.Runs
import Mathlib.Data.Finmap

/-!
# Credentials

`crates/core/mesh/src/identity/credentials.rs`.  A credential is found by the hash of its token
and revoked by its identifier; which tokens are good is a law on the history of calls.
-/

namespace AgentGovernance.Mesh

open AgentGovernance.Lib AgentGovernance.Compliance

/-! ## Credentials -/

inductive CredentialStatus where
  | active
  | rotated
  | revoked
  | expired
  deriving DecidableEq, Repr

structure Credential where
  credentialId : String
  agentDid : String
  tokenHash : String
  capabilities : List String
  resources : List String
  expiresAt : DateTime
  status : CredentialStatus
  deriving DecidableEq

/-- What a credential is issued for, with the random bytes, the fresh uuid and the clock reading
    that go into it. -/
structure IssueRequest where
  agentDid : String
  capabilities : List String
  resources : List String
  tokenBytes : ByteArr 32
  uuid : Uuid
  now : DateTime

def seconds (n : Int) : Duration :=
  n * 1000000000

variable (sha256 : Bytes → Bytes)

/-- The hexadecimal digest that stands for a token. -/
def hashToken (token : String) : String :=
  hexEncode (sha256 (stringBytes token))

theorem hashToken_injective {sha256 : Bytes → Bytes} (hsha : Function.Injective sha256) :
    Function.Injective (hashToken sha256) := by
  intro s t h
  exact stringBytes_injective (hsha (hexEncode_injective h))

namespace Credential

/-- `Credential::issue`.  The source panics where `expires_at` is past the range of chrono. -/
def issue (request : IssueRequest) (ttlSeconds : Int64) : Credential × String :=
  let token := Base64.encodeUrlText request.tokenBytes.val
  ({ credentialId := "cred_" ++ hexEncode request.uuid.bytes
     agentDid := request.agentDid
     tokenHash := hashToken sha256 token
     capabilities := request.capabilities
     resources := request.resources
     expiresAt := request.now + seconds ttlSeconds.toInt
     status := .active }, token)

def isValid (cred : Credential) (now : DateTime) : Bool :=
  cred.status = .active && now < cred.expiresAt

def verifyToken (cred : Credential) (token : String) : Bool :=
  cred.tokenHash = hashToken sha256 token

def revoke (cred : Credential) : Credential :=
  { cred with status := .revoked }

end Credential

/-! ## The manager -/

structure CredentialManager where
  defaultTtl : Int64
  credentials : Finmap (fun _ : String => Credential)

namespace CredentialManager

def new (defaultTtl : Int64) : CredentialManager where
  defaultTtl := defaultTtl
  credentials := ∅

def issue (m : CredentialManager) (request : IssueRequest) :
    CredentialManager × Credential × String :=
  let issued := Credential.issue sha256 request m.defaultTtl
  ({ m with credentials := m.credentials.insert issued.1.credentialId issued.1 }, issued)

/-- An order in which `HashMap::values` visits the map. -/
structure Visit (m : CredentialManager) where
  order : List (Sigma fun _ : String => Credential)
  complete : (order : Multiset _) = m.credentials.entries

instance (m : CredentialManager) : Nonempty m.Visit :=
  ⟨⟨m.credentials.entries.toList, Multiset.coe_toList _⟩⟩

/-- The loop of `validate`.  The clock is read for a credential only after its hash has matched;
    `clock i` is the reading that is taken after `i` others. -/
def scan (token : String) : List Credential → (Nat → DateTime) → Option Credential
  | [], _ => none
  | cred :: rest, clock =>
    if cred.verifyToken sha256 token then
      if cred.isValid (clock 0) then some cred
      else scan token rest fun i => clock (i + 1)
    else scan token rest clock

def validate (m : CredentialManager) (visit : m.Visit) (clock : Nat → DateTime)
    (token : String) : Option Credential :=
  scan sha256 token (visit.order.map (·.2)) clock

def revoke (m : CredentialManager) (credentialId : String) : CredentialManager × Bool :=
  match m.credentials.lookup credentialId with
  | some cred =>
    ({ m with credentials := m.credentials.insert credentialId cred.revoke }, true)
  | none => (m, false)

end CredentialManager

/-! ## Histories of calls -/

/-- A call; `validate` leaves the manager as it is. -/
inductive CredentialCall where
  | issue (request : IssueRequest)
  | validate (token : String)
  | revoke (credentialId : String)

/-- What an `issue` call returns. -/
def CredentialCall.issued (ttl : Int64) : CredentialCall → Option (Credential × String)
  | .issue request => some (Credential.issue sha256 request ttl)
  | _ => none

namespace CredentialManager

/-- The manager after one call. -/
def step (m : CredentialManager) : CredentialCall → CredentialManager
  | .issue request => (m.issue sha256 request).1
  | .validate _ => m
  | .revoke credentialId => (m.revoke credentialId).1

/-- All that the `issue` calls of a history returned. -/
def issued (ttl : Int64) (calls : List CredentialCall) : List (Credential × String) :=
  calls.filterMap (CredentialCall.issued sha256 ttl)

/-- No token and no identifier is drawn twice. -/
structure Fresh (ttl : Int64) (calls : List CredentialCall) : Prop where
  tokens : ((issued sha256 ttl calls).map (·.2)).Nodup
  ids : ((issued sha256 ttl calls).map (·.1.credentialId)).Nodup

/-- An `issue` call returned the credential with the token, and its identifier has not been
    revoked since. -/
def Live (ttl : Int64) (calls : List CredentialCall) (cred : Credential) (token : String) : Prop :=
  ∃ pre request post, calls = pre ++ .issue request :: post ∧
    Credential.issue sha256 request ttl = (cred, token) ∧
      CredentialCall.revoke cred.credentialId ∉ post

/-! ## What one call adds to a history -/

variable {sha256} {ttl : Int64} {calls : List CredentialCall} {cred : Credential} {token : String}

@[simp] theorem issued_issue (request : IssueRequest) :
    issued sha256 ttl (calls ++ [.issue request]) =
      issued sha256 ttl calls ++ [Credential.issue sha256 request ttl] := by
  simp [issued, CredentialCall.issued]

@[simp] theorem issued_validate (token : String) :
    issued sha256 ttl (calls ++ [.validate token]) = issued sha256 ttl calls := by
  simp [issued, CredentialCall.issued]

@[simp] theorem issued_revoke (id : String) :
    issued sha256 ttl (calls ++ [.revoke id]) = issued sha256 ttl calls := by
  simp [issued, CredentialCall.issued]

theorem Fresh.of_append {more : List CredentialCall} (h : Fresh sha256 ttl (calls ++ more)) :
    Fresh sha256 ttl calls := by
  have hsub : (issued sha256 ttl calls).Sublist (issued sha256 ttl (calls ++ more)) := by
    rw [issued, issued, List.filterMap_append]
    exact List.sublist_append_left _ _
  exact ⟨h.tokens.sublist (hsub.map _), h.ids.sublist (hsub.map _)⟩

/-- A token belongs to one credential. -/
theorem Fresh.cred_unique (h : Fresh sha256 ttl calls) {a b : Credential}
    (ha : (a, token) ∈ issued sha256 ttl calls) (hb : (b, token) ∈ issued sha256 ttl calls) :
    a = b := by
  have heq := List.inj_on_of_nodup_map h.tokens ha hb rfl
  exact congrArg Prod.fst heq

theorem Live.mem_issued (h : Live sha256 ttl calls cred token) :
    (cred, token) ∈ issued sha256 ttl calls := by
  obtain ⟨pre, request, post, rfl, hissue, -⟩ := h
  simp [issued, CredentialCall.issued, hissue]

theorem Live.status_eq (h : Live sha256 ttl calls cred token) : cred.status = .active := by
  obtain ⟨pre, request, post, -, hissue, -⟩ := h
  cases hissue
  rfl

theorem Live.tokenHash_eq (h : Live sha256 ttl calls cred token) :
    cred.tokenHash = hashToken sha256 token := by
  obtain ⟨pre, request, post, -, hissue, -⟩ := h
  cases hissue
  rfl

/-- A live credential in terms of the call that issued it. -/
theorem live_iff :
    Live sha256 ttl calls cred token ↔
      ∃ pre call post, calls = pre ++ call :: post ∧
        call.issued sha256 ttl = some (cred, token) ∧
          CredentialCall.revoke cred.credentialId ∉ post := by
  constructor
  · rintro ⟨pre, request, post, hcalls, hissue, hnot⟩
    exact ⟨pre, .issue request, post, hcalls, congrArg some hissue, hnot⟩
  · rintro ⟨pre, call, post, hcalls, hissued, hnot⟩
    -- only `issue` draws a credential
    cases call with
    | issue request => exact ⟨pre, request, post, hcalls, Option.some.inj hissued, hnot⟩
    | validate token => cases hissued
    | revoke id => cases hissued

/-- The last call is the one that issued the credential, or it is one since. -/
theorem live_concat (call : CredentialCall) :
    Live sha256 ttl (calls ++ [call]) cred token ↔
      call.issued sha256 ttl = some (cred, token) ∨
        Live sha256 ttl calls cred token ∧ call ≠ .revoke cred.credentialId := by
  rw [live_iff, exists_split_concat_iff, live_iff]
  apply or_congr
  · simp
  · simp only [List.mem_append, List.mem_singleton, not_or, ← and_assoc, exists_and_right,
      ne_comm (a := call), ne_eq]

/-- Once its identifier is revoked, a credential's token is not live again. -/
theorem not_live_of_revoked {pre post : List CredentialCall} {revoked : Credential}
    (hfresh : Fresh sha256 ttl (pre ++ .revoke revoked.credentialId :: post))
    (hissued : (revoked, token) ∈ issued sha256 ttl pre) :
    ¬ Live sha256 ttl (pre ++ .revoke revoked.credentialId :: post) cred token := by
  induction post using List.reverseRecOn with
  | nil =>
    -- the revocation is the last call
    rw [live_concat]
    rintro (h | ⟨hlive, hne⟩)
    · cases h
    · have hpre : Fresh sha256 ttl pre := hfresh.of_append
      rw [hpre.cred_unique hlive.mem_issued hissued] at hne
      exact hne rfl
  | append_singleton post call ih =>
    -- a later call can bring the token back only by drawing it again
    rw [← List.cons_append, ← List.append_assoc] at hfresh ⊢
    rw [live_concat]
    rintro (hcall | ⟨hlive, -⟩)
    · -- the token was drawn before the revocation, so it is not drawn here
      have hmem : (revoked, token) ∈
          issued sha256 ttl (pre ++ .revoke revoked.credentialId :: post) := by
        rw [issued, List.filterMap_append]
        exact List.mem_append_left _ hissued
      have htokens := hfresh.tokens
      rw [issued, List.filterMap_append, List.map_append] at htokens
      have hdisjoint := List.disjoint_of_nodup_append htokens
      refine hdisjoint (List.mem_map_of_mem hmem) ?_
      simp [hcall]
    · exact ih hfresh.of_append hlive

/-! ## What the map holds -/

variable {m : CredentialManager}

variable (sha256 ttl calls m) in
/-- The map holds what was issued, each credential under its identifier, and those that are active
    are the live ones. -/
structure Tracks : Prop where
  defaultTtl_eq : m.defaultTtl = ttl
  known : ∀ id cred, m.credentials.lookup id = some cred → cred.credentialId = id ∧
    ∃ c token, (c, token) ∈ issued sha256 ttl calls ∧ c.credentialId = id ∧
      cred.tokenHash = hashToken sha256 token
  active_iff : ∀ cred, cred.status = .active →
    (m.credentials.lookup cred.credentialId = some cred ↔
      ∃ token, Live sha256 ttl calls cred token)

theorem tracks_new : Tracks sha256 ttl [] (.new ttl) where
  defaultTtl_eq := rfl
  known id cred h := by simp [new] at h
  active_iff cred _ := by
    have hnone : ∀ token, ¬ Live sha256 ttl [] cred token := by
      intro token h
      exact absurd h.mem_issued List.not_mem_nil
    simp [new, hnone]

theorem Tracks.issue (h : Tracks sha256 ttl calls m) (request : IssueRequest)
    (hfresh : Fresh sha256 ttl (calls ++ [.issue request])) :
    Tracks sha256 ttl (calls ++ [.issue request]) (m.issue sha256 request).1 := by
  have hids := hfresh.ids
  rw [issued_issue, List.map_append] at hids
  have hdisjoint := List.disjoint_of_nodup_append hids
  -- the identifier is drawn for the first time
  have hnew : ∀ {c token}, (c, token) ∈ issued sha256 ttl calls →
      c.credentialId ≠ (Credential.issue sha256 request ttl).1.credentialId := by
    intro c token hmem heq
    exact hdisjoint (List.mem_map_of_mem hmem) (by simp [heq])
  unfold CredentialManager.issue
  rw [h.defaultTtl_eq]
  refine ⟨rfl, ?_, ?_⟩
  · -- the stored credentials are those drawn before and the new one
    intro id cred hlookup
    rw [issued_issue]
    by_cases hid : id = (Credential.issue sha256 request ttl).1.credentialId
    · subst hid
      rw [Finmap.lookup_insert] at hlookup
      obtain rfl := Option.some.inj hlookup
      exact ⟨rfl, _, _, List.mem_append_right _ (List.mem_singleton_self _), rfl, rfl⟩
    · rw [Finmap.lookup_insert_of_ne _ hid] at hlookup
      obtain ⟨hcred, c, token, hmem, hc, hhash⟩ := h.known id cred hlookup
      exact ⟨hcred, c, token, List.mem_append_left _ hmem, hc, hhash⟩
  · -- the new credential is live, and no old one changes
    intro cred hactive
    simp only [live_concat, CredentialCall.issued, Option.some.injEq, reduceCtorEq,
      not_false_eq_true, ne_eq, and_true, exists_or]
    by_cases hid : cred.credentialId = (Credential.issue sha256 request ttl).1.credentialId
    · rw [hid, Finmap.lookup_insert]
      have hnot : ¬ ∃ token, Live sha256 ttl calls cred token := by
        rintro ⟨token, hlive⟩
        exact hnew hlive.mem_issued hid
      simp [hnot, Prod.ext_iff]
    · rw [Finmap.lookup_insert_of_ne _ hid, h.active_iff cred hactive]
      -- the call returned another credential, so the map and the history say what they said
      have hother : ¬ ∃ token, Credential.issue sha256 request ttl = (cred, token) := by
        rintro ⟨token, heq⟩
        exact hid (by rw [heq])
      simp [hother]

theorem Tracks.revoke (h : Tracks sha256 ttl calls m) (id : String) :
    Tracks sha256 ttl (calls ++ [.revoke id]) (m.revoke id).1 := by
  -- the live credentials are as before, but for those under the revoked identifier
  have hactive : ∀ cred, cred.status = .active → ∀ m' : CredentialManager,
      (cred.credentialId = id → m'.credentials.lookup id ≠ some cred) →
      (cred.credentialId ≠ id → m'.credentials.lookup cred.credentialId =
        m.credentials.lookup cred.credentialId) →
      (m'.credentials.lookup cred.credentialId = some cred ↔
        ∃ token, Live sha256 ttl (calls ++ [.revoke id]) cred token) := by
    intro cred hcred m' hsame hother
    simp only [live_concat, CredentialCall.issued, reduceCtorEq, false_or, ne_eq,
      CredentialCall.revoke.injEq, exists_and_right, ← h.active_iff cred hcred]
    by_cases hid : cred.credentialId = id
    · rw [hid]
      simp [hsame hid]
    · simp [hother hid, Ne.symm hid]
  unfold CredentialManager.revoke
  cases hlookup : m.credentials.lookup id with
  | none =>
    -- an unknown identifier leaves the map alone
    refine ⟨h.defaultTtl_eq, by simpa using h.known, fun cred hcred => ?_⟩
    exact hactive cred hcred m (by simp [hlookup]) (fun _ => rfl)
  | some found =>
    refine ⟨h.defaultTtl_eq, ?_, fun cred hcred => hactive cred hcred _ ?_ ?_⟩
    · intro id' cred hcred
      rw [issued_revoke]
      by_cases hid : id' = id
      · subst hid
        rw [Finmap.lookup_insert] at hcred
        obtain rfl := Option.some.inj hcred
        exact h.known id' found hlookup
      · rw [Finmap.lookup_insert_of_ne _ hid] at hcred
        exact h.known id' cred hcred
    · -- what is stored under the revoked identifier is not active
      intro _ heq
      rw [Finmap.lookup_insert] at heq
      rw [← Option.some.inj heq] at hcred
      cases hcred
    · intro hne
      exact Finmap.lookup_insert_of_ne _ hne

theorem Tracks.step (call : CredentialCall)
    (h : Fresh sha256 ttl calls → Tracks sha256 ttl calls m)
    (hfresh : Fresh sha256 ttl (calls ++ [call])) :
    Tracks sha256 ttl (calls ++ [call]) (m.step sha256 call) := by
  have hbefore := h hfresh.of_append
  cases call with
  | issue request => exact hbefore.issue request hfresh
  | validate token =>
    -- validation writes nothing
    show Tracks sha256 ttl (calls ++ [.validate token]) m
    refine ⟨hbefore.defaultTtl_eq, by simpa using hbefore.known, fun cred hcred => ?_⟩
    simp [live_concat, CredentialCall.issued, hbefore.active_iff cred hcred]
  | revoke id => exact hbefore.revoke id

/-! ## Validation -/

/-- Where at most one credential matches the token, the order of the others does not matter. -/
theorem scan_eq_some_iff {creds : List Credential} (clock : Nat → DateTime)
    (hone : creds.Pairwise fun a b =>
      ¬ (a.verifyToken sha256 token = true ∧ b.verifyToken sha256 token = true)) :
    scan sha256 token creds clock = some cred ↔
      cred ∈ creds ∧ cred.verifyToken sha256 token = true ∧ cred.isValid (clock 0) = true := by
  -- by induction on the visiting order
  induction creds generalizing clock with
  | nil => simp [scan]
  | cons c rest ih =>
    obtain ⟨hfirst, hrest⟩ := List.pairwise_cons.mp hone
    rw [scan]
    by_cases hc : c.verifyToken sha256 token = true
    · rw [if_pos hc]
      -- no later credential matches
      have hlater : ∀ b ∈ rest, ¬ b.verifyToken sha256 token = true := by
        intro b hb hmatch
        exact hfirst b hb ⟨hc, hmatch⟩
      by_cases hvalid : c.isValid (clock 0) = true
      · rw [if_pos hvalid]
        constructor
        · intro h
          obtain rfl := Option.some.inj h
          exact ⟨List.mem_cons_self, hc, hvalid⟩
        · rintro ⟨hmem, hmatch, -⟩
          rcases List.mem_cons.mp hmem with rfl | hmem
          · rfl
          · exact absurd hmatch (hlater cred hmem)
      · -- a match that is not valid ends the scan without an answer
        rw [if_neg hvalid, ih _ hrest]
        constructor
        · rintro ⟨hmem, hmatch, -⟩
          exact absurd hmatch (hlater cred hmem)
        · rintro ⟨hmem, hmatch, hcred⟩
          rcases List.mem_cons.mp hmem with rfl | hmem
          · exact absurd hcred hvalid
          · exact absurd hmatch (hlater cred hmem)
    · rw [if_neg hc, ih _ hrest, List.mem_cons]
      constructor
      · rintro ⟨hmem, hmatch⟩
        exact ⟨.inr hmem, hmatch⟩
      · rintro ⟨rfl | hmem, hmatch⟩
        · exact absurd hmatch.1 hc
        · exact ⟨hmem, hmatch⟩

theorem Visit.mem_iff (visit : m.Visit) (id : String) (cred : Credential) :
    ⟨id, cred⟩ ∈ visit.order ↔ m.credentials.lookup id = some cred := by
  rw [Finmap.lookup_eq_some_iff, ← visit.complete, Multiset.mem_coe]

/-- The map is visited one key at a time. -/
theorem Visit.nodup_keys (visit : m.Visit) : (visit.order.map (·.1)).Nodup := by
  have h := m.credentials.nodupKeys
  rw [← visit.complete] at h
  exact h

/-- At most one credential of the map has the hash of a token. -/
theorem Tracks.one_match (hsha : Function.Injective sha256) (h : Tracks sha256 ttl calls m)
    (hfresh : Fresh sha256 ttl calls) (visit : m.Visit) (token : String) :
    (visit.order.map (·.2)).Pairwise fun a b =>
      ¬ (a.verifyToken sha256 token = true ∧ b.verifyToken sha256 token = true) := by
  rw [List.pairwise_map]
  have hkeys := List.pairwise_map.mp visit.nodup_keys
  refine hkeys.imp_of_mem ?_
  rintro ⟨i, a⟩ ⟨j, b⟩ ha hb hne ⟨hamatch, hbmatch⟩
  apply hne
  obtain ⟨-, c, s, hc, hci, hahash⟩ := h.known i a ((visit.mem_iff i a).mp ha)
  obtain ⟨-, d, t, hd, hdj, hbhash⟩ := h.known j b ((visit.mem_iff j b).mp hb)
  -- equal hashes come from equal tokens, and a token was issued once
  have hs : s = token :=
    hashToken_injective hsha (hahash.symm.trans (of_decide_eq_true hamatch))
  have ht : t = token :=
    hashToken_injective hsha (hbhash.symm.trans (of_decide_eq_true hbmatch))
  subst hs ht
  show i = j
  rw [← hci, ← hdj, hfresh.cred_unique hc hd]

theorem Tracks.validate_eq_some_iff (hsha : Function.Injective sha256)
    (h : Tracks sha256 ttl calls m) (hfresh : Fresh sha256 ttl calls) (visit : m.Visit)
    (clock : Nat → DateTime) :
    m.validate sha256 visit clock token = some cred ↔
      Live sha256 ttl calls cred token ∧ clock 0 < cred.expiresAt := by
  rw [validate, scan_eq_some_iff clock (h.one_match hsha hfresh visit token), List.mem_map]
  constructor
  · rintro ⟨⟨⟨id, _⟩, hmem, rfl⟩, hmatch, hvalid⟩
    obtain ⟨hactive, hbefore⟩ := Bool.and_eq_true_iff.mp hvalid
    have hlookup := (visit.mem_iff id _).mp hmem
    obtain ⟨rfl, -⟩ := h.known id _ hlookup
    obtain ⟨t, hlive⟩ := (h.active_iff _ (of_decide_eq_true hactive)).mp hlookup
    -- the hash tells the token of this credential
    have ht : t = token :=
      hashToken_injective hsha (hlive.tokenHash_eq.symm.trans (of_decide_eq_true hmatch))
    exact ⟨ht ▸ hlive, of_decide_eq_true hbefore⟩
  · -- a live credential is stored, active and visited
    rintro ⟨hlive, hbefore⟩
    have hlookup := (h.active_iff cred hlive.status_eq).mpr ⟨token, hlive⟩
    refine ⟨⟨⟨cred.credentialId, cred⟩, (visit.mem_iff _ _).mpr hlookup, rfl⟩, ?_, ?_⟩
    · exact decide_eq_true hlive.tokenHash_eq
    · simp [Credential.isValid, hlive.status_eq, hbefore]

/-- The manager after a history. -/
theorem tracks_run (hfresh : Fresh sha256 ttl calls) :
    Tracks sha256 ttl calls (runFrom (step sha256) (.new ttl) calls) :=
  runFrom_tracks (T := fun past m => Fresh sha256 ttl past → Tracks sha256 ttl past m)
    (fun _ => tracks_new) (fun _ call _ h => Tracks.step call h) hfresh

/-- **A token is good exactly when its credential was issued, not revoked since and not yet
    expired**, in whatever order the map is visited; and after a revocation it never is again. -/
theorem validate_law (sha256 : Bytes → Bytes) (hsha : Function.Injective sha256) (ttl : Int64)
    (calls : List CredentialCall) (hfresh : Fresh sha256 ttl calls) (token : String)
    (visit : (runFrom (step sha256) (.new ttl) calls).Visit) (clock : Nat → DateTime) :
    (∀ cred, validate sha256 _ visit clock token = some cred ↔
      Live sha256 ttl calls cred token ∧ clock 0 < cred.expiresAt) ∧
    (∀ pre cred post, calls = pre ++ .revoke cred.credentialId :: post →
      (cred, token) ∈ issued sha256 ttl pre → validate sha256 _ visit clock token = none) := by
  -- the first half, from the invariant at the end of the calls
  have hlaw : ∀ cred, validate sha256 _ visit clock token = some cred ↔
      Live sha256 ttl calls cred token ∧ clock 0 < cred.expiresAt := fun cred =>
    (tracks_run hfresh).validate_eq_some_iff hsha hfresh visit clock
  refine ⟨hlaw, ?_⟩
  intro pre cred post hcalls hissued
  rw [Option.eq_none_iff_forall_ne_some]
  intro found hfound
  have hlive : Live sha256 ttl calls found token := ((hlaw found).mp hfound).1
  rw [hcalls] at hlive hfresh
  exact not_live_of_revoked hfresh hissued hlive

/-! ## Two tokens -/

/-- A request whose random bytes are all equal. -/
def sampleIssue (b : UInt8) : IssueRequest where
  agentDid := "did:mesh:test-agent"
  capabilities := []
  resources := []
  tokenBytes := ⟨List.replicate 32 b, List.length_replicate⟩
  uuid := .fill b
  now := 0

/-- SHA-256 of the tokens of two such requests. -/
def tokenDigests : List (Bytes × Bytes) :=
  [(stringBytes "AQEBAQEBAQEBAQEBAQEBAQEBAQEBAQEBAQEBAQEBAQE",
      (Base64.decodeText "VtX6czP210fbQsI5QH5dpMMvTHnzXQkrE0/TWkAtnFw=").getD []),
    (stringBytes "AgICAgICAgICAgICAgICAgICAgICAgICAgICAgICAgI",
      (Base64.decodeText "bB1ju9q0N8VDaMu9iIaohqea2XcpfiZe6/H19fAVM7k=").getD [])]

theorem tokenDigests_injective : Function.Injective (digestVectors tokenDigests) :=
  digestVectors_injective (by decide +kernel) (by decide +kernel)

/-- Two credentials, of which the first is revoked. -/
def sampleCalls : List CredentialCall :=
  [.issue (sampleIssue 1), .issue (sampleIssue 2), .revoke ("cred_" ++ hexEncode (.replicate 16 1))]

theorem fresh_sampleCalls : Fresh (digestVectors tokenDigests) 900 sampleCalls :=
  ⟨by decide +kernel, by decide +kernel⟩

/-- The token of the second is still good after a minute, and that of the first is not. -/
theorem validate_law_two_tokens :
    let sha256 := digestVectors tokenDigests
    ∀ visit : (runFrom (step sha256) (.new 900) sampleCalls).Visit,
      validate sha256 _ visit (fun _ => seconds 60) "AgICAgICAgICAgICAgICAgICAgICAgICAgICAgICAgI" =
        some (Credential.issue sha256 (sampleIssue 2) 900).1 ∧
      validate sha256 _ visit (fun _ => seconds 60) "AQEBAQEBAQEBAQEBAQEBAQEBAQEBAQEBAQEBAQEBAQE" =
        none := by
  intro sha256 visit
  have hlaw := fun token => validate_law sha256 tokenDigests_injective 900 sampleCalls
    fresh_sampleCalls token visit fun _ => seconds 60
  have htoken : ∀ b, (Credential.issue sha256 (sampleIssue b) 900).2 =
      Base64.encodeUrlText (List.replicate 32 b) := fun _ => rfl
  constructor
  · -- the second token is live
    refine ((hlaw _).1 _).mpr
      ⟨⟨[.issue (sampleIssue 1)], sampleIssue 2, _, rfl, Prod.ext rfl ?_, ?_⟩, by decide⟩
    · rw [htoken]
      decide +kernel
    · rw [List.mem_singleton, CredentialCall.revoke.injEq]
      decide +kernel
  · -- the first one was revoked last
    refine (hlaw _).2 [.issue (sampleIssue 1), .issue (sampleIssue 2)]
      (Credential.issue sha256 (sampleIssue 1) 900).1 [] rfl ?_
    refine List.mem_cons.mpr (.inl (Prod.ext rfl ?_))
    rw [htoken]
    decide +kernel

end CredentialManager

end AgentGovernance.Mesh
