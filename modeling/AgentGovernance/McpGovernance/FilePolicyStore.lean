import AgentGovernance.Compliance.ActionLogJson
import AgentGovernance.Lib.Directory
import AgentGovernance.Lib.PrettyJson
import AgentGovernance.Lib.Runs
import AgentGovernance.McpGovernance.Store

/-!
# Policies on disk

`FilePolicyStore` in `crates/ext/mcp-governance/src/store.rs`: one JSON file for each agent,
named after the hash of its DID.

It answers as `MemoryPolicyStore` does, except that a listing has the hashes where the other one
has the DIDs: `answers_agree`.
-/

namespace AgentGovernance.McpGovernance

open AgentGovernance.Lib

/-- What the store uses from outside. -/
structure PolicyFileEnv where
  /-- `Sha256::digest`. -/
  sha256 : Bytes → Bytes
  /-- `serde_json::to_string_pretty`. -/
  encode : McpPolicy → Bytes
  /-- `fs::read_to_string` and `serde_json::from_str`. -/
  readFile : Bytes → JsonRead McpPolicy
  readFile_encode : ∀ policy, readFile (encode policy) = .value policy
  /-- The error of a rename without a source. -/
  notFound : String

/-- `FilePolicyStore`, with the files of its directory. -/
structure FilePolicyStore where
  files : Directory Bytes

/-- A call of `trait PolicyStore`. -/
inductive PolicyCall where
  | savePolicy (agentDid : String) (policy : McpPolicy)
  | loadPolicy (agentDid : String)
  | deletePolicy (agentDid : String)
  | listPolicies

/-- What a call returns when it succeeds. -/
inductive PolicyReply where
  | done
  | loaded (policy : Option McpPolicy)
  | listed (policies : Finmap (fun _ : String => McpPolicy))

/-- `MemoryPolicyStore` as a `dyn PolicyStore`. -/
def MemoryPolicyStore.call (store : MemoryPolicyStore) :
    PolicyCall → MemoryPolicyStore × Except String PolicyReply
  | .savePolicy agentDid policy => (store.savePolicy agentDid policy, .ok .done)
  | .loadPolicy agentDid => (store, .ok (.loaded (store.loadPolicy agentDid)))
  | .deletePolicy agentDid => (store.deletePolicy agentDid, .ok .done)
  | .listPolicies => (store, .ok (.listed store.listPolicies))

namespace FilePolicyStore

variable (E : PolicyFileEnv)

/-! ## The store -/

/-- `FilePolicyStore::new` on a directory that does not exist. -/
def new : FilePolicyStore where
  files := ∅

def getPath (agentDid : String) : FileName :=
  hashedName E.sha256 agentDid "json"

def savePolicy (store : FilePolicyStore) (agentDid : String) (policy : McpPolicy) :
    FilePolicyStore × Except String Unit :=
  let path := getPath E agentDid
  let tmpPath := path.withExtension "tmp"
  let files : Directory Bytes := store.files.insert tmpPath (E.encode policy)
  match files.rename tmpPath path with
  -- the temporary file would have to be gone by now
  | none => ({ files := files }, .error E.notFound)
  | some files => ({ files := files }, .ok ())

def loadPolicy (store : FilePolicyStore) (agentDid : String) : Except String (Option McpPolicy) :=
  match store.files.lookup (getPath E agentDid) with
  | none => .ok none
  | some content =>
    match E.readFile content with
    | .unreadable e => .error e
    | .malformed e => .error e
    | .value policy => .ok (some policy)

def deletePolicy (store : FilePolicyStore) (agentDid : String) : FilePolicyStore where
  files := store.files.remove (getPath E agentDid)

/-- The loop of `list_policies`: files that do not parse are passed over. -/
def listEntries (policies : Finmap (fun _ : String => McpPolicy)) :
    List (Σ _ : FileName, Bytes) → Except String (Finmap (fun _ : String => McpPolicy))
  | [] => .ok policies
  | ⟨name, content⟩ :: entries =>
    if name.extension = "json" then
      match E.readFile content with
      | .unreadable e => .error e
      | .malformed _ => listEntries policies entries
      -- the key is the stem of the file's name, not the DID
      | .value policy => listEntries (policies.insert name.stem policy) entries
    else listEntries policies entries

def listPolicies (store : FilePolicyStore) : Except String (Finmap (fun _ : String => McpPolicy)) :=
  listEntries E ∅ store.files.entries

/-- `FilePolicyStore` as a `dyn PolicyStore`. -/
def call (store : FilePolicyStore) : PolicyCall → FilePolicyStore × Except String PolicyReply
  | .savePolicy agentDid policy =>
    ((store.savePolicy E agentDid policy).1,
      (store.savePolicy E agentDid policy).2.map fun _ => .done)
  | .loadPolicy agentDid => (store, (store.loadPolicy E agentDid).map .loaded)
  | .deletePolicy agentDid => (store.deletePolicy E agentDid, .ok .done)
  | .listPolicies => (store, (store.listPolicies E).map .listed)

/-! ## The map in the directory -/

/-- The text of a file is that of a policy. -/
def Stands (content : Bytes) (policy : McpPolicy) : Prop :=
  content = E.encode policy

/-- The directory has the policies of the map and no other files. -/
structure Mirrors (store : FilePolicyStore) (memory : MemoryPolicyStore) : Prop where
  keeps : Directory.Keeps (getPath E) (Stands E) store.files memory.policies
  covered : ∀ name ∈ store.files, ∃ agentDid, name = getPath E agentDid

/-- The hash that stands for a DID in a listing. -/
def listedKey (agentDid : String) : String :=
  (getPath E agentDid).stem

/-- A listing with the hashes in place of the DIDs. -/
structure Rekeyed (byHash byDid : Finmap (fun _ : String => McpPolicy)) : Prop where
  lookup : ∀ agentDid, byHash.lookup (listedKey E agentDid) = byDid.lookup agentDid
  keys : ∀ key ∈ byHash, ∃ agentDid, key = listedKey E agentDid

/-- Equal answers, but for the keys of a listing. -/
def Agree : Except String PolicyReply → Except String PolicyReply → Prop
  | .ok (.listed byHash), .ok (.listed byDid) => Rekeyed E byHash byDid
  | a, b => a = b

variable {E}

theorem getPath_ne_tmp (did did' : String) :
    getPath E did ≠ (getPath E did').withExtension "tmp" := by
  apply FileName.ne_withExtension
  simp [getPath, hashedName]

theorem savePolicy_eq (store : FilePolicyStore) (agentDid : String) (policy : McpPolicy) :
    store.savePolicy E agentDid policy =
      ({ files := store.files.put ((getPath E agentDid).withExtension "tmp") (getPath E agentDid)
          (E.encode policy) }, .ok ()) := by
  simp only [savePolicy, Directory.rename_insert]

/-- Loading reads the map. -/
theorem Mirrors.loadPolicy {store : FilePolicyStore} {memory : MemoryPolicyStore}
    (h : Mirrors E store memory) (agentDid : String) :
    store.loadPolicy E agentDid = .ok (memory.loadPolicy agentDid) := by
  rcases h.keeps.lookup_cases agentDid with
    ⟨hfile, hpolicy⟩ | ⟨content, policy, hfile, hpolicy, rfl⟩
  · simp only [FilePolicyStore.loadPolicy, MemoryPolicyStore.loadPolicy, hfile, hpolicy]
  · simp only [FilePolicyStore.loadPolicy, MemoryPolicyStore.loadPolicy, hfile, hpolicy,
      E.readFile_encode]

/-! ## A listing -/

variable (E) in
/-- The text of a file can be read. -/
def Readable (content : Bytes) : Prop :=
  ∀ e, E.readFile content ≠ .unreadable e

variable (E) in
def policyIn (content : Bytes) : Option McpPolicy :=
  match E.readFile content with
  | .value policy => some policy
  | _ => none

theorem policyIn_encode (policy : McpPolicy) : policyIn E (E.encode policy) = some policy := by
  rw [policyIn, E.readFile_encode]

theorem readable_encode (policy : McpPolicy) : Readable E (E.encode policy) := by
  intro e h
  rw [E.readFile_encode] at h
  cases h

/-- The loop collects the policies of the files, under the stems of their names. -/
theorem listEntries_eq {entries : List (Σ _ : FileName, Bytes)} (hnodup : entries.NodupKeys)
    (hread : ∀ e ∈ entries, e.1.extension = "json" → Readable E e.2)
    (policies : Finmap (fun _ : String => McpPolicy)) :
    ∃ listed, listEntries E policies entries = .ok listed ∧
      ∀ stem, listed.lookup stem =
        ((entries.dlookup ⟨stem, "json"⟩).bind (policyIn E)).or (policies.lookup stem) := by
  induction entries generalizing policies with
  | nil => exact ⟨policies, rfl, fun _ => rfl⟩
  | cons entry entries ih =>
    obtain ⟨⟨stem₀, extension⟩, content⟩ := entry
    obtain ⟨hfirst, hrest⟩ := List.nodupKeys_cons.mp hnodup
    obtain ⟨hhead, htail⟩ := List.forall_mem_cons.mp hread
    by_cases hext : extension = "json"
    · subst hext
      -- no later file has this name
      have hlater (p : Option McpPolicy) :
          ((entries.dlookup ⟨stem₀, "json"⟩).bind (policyIn E)).or p = p := by
        rw [List.dlookup_eq_none.mpr hfirst]
        rfl
      rw [listEntries, if_pos rfl]
      cases hcontent : E.readFile content with
      | unreadable e => exact absurd hcontent (hhead rfl e)
      | malformed e =>
        -- a malformed file is skipped, so its stem keeps what was listed before
        obtain ⟨listed, hlisted, hlookup⟩ := ih hrest htail policies
        refine ⟨listed, hlisted, fun stem => ?_⟩
        rw [hlookup]
        by_cases hstem : stem = stem₀
        · subst hstem
          rw [hlater, List.dlookup_cons_eq]
          simp [policyIn, hcontent]
        · rw [List.dlookup_cons_ne _ _ (by simp [hstem])]
      | value policy =>
        obtain ⟨listed, hlisted, hlookup⟩ := ih hrest htail (policies.insert stem₀ policy)
        refine ⟨listed, hlisted, fun stem => ?_⟩
        rw [hlookup]
        -- the file just listed answers for its own stem only
        by_cases hstem : stem = stem₀
        · subst hstem
          rw [hlater, List.dlookup_cons_eq, Finmap.lookup_insert]
          simp [policyIn, hcontent]
        · rw [List.dlookup_cons_ne _ _ (by simp [hstem]), Finmap.lookup_insert_of_ne _ hstem]
    · -- another extension, such as that of a temporary file
      obtain ⟨listed, hlisted, hlookup⟩ := ih hrest htail policies
      refine ⟨listed, ?_, fun stem => ?_⟩
      · rw [listEntries, if_neg hext]
        exact hlisted
      · rw [hlookup, List.dlookup_cons_ne _ _ (by simp [Ne.symm hext])]

/-- A file that cannot be read ends the loop. -/
theorem listEntries_error {entries : List (Σ _ : FileName, Bytes)}
    (hread : ∃ e ∈ entries, e.1.extension = "json" ∧ ¬ Readable E e.2)
    (policies : Finmap (fun _ : String => McpPolicy)) :
    ∃ e, listEntries E policies entries = .error e := by
  induction entries generalizing policies with
  | nil => simp at hread
  | cons entry entries ih =>
    rw [listEntries]
    obtain ⟨file, hmem, hext, hunread⟩ := hread
    -- the unreadable file is this one, or the scan reaches it later
    rcases List.mem_cons.mp hmem with rfl | hmem
    · obtain ⟨e, he⟩ : ∃ e, E.readFile file.2 = .unreadable e := by
        simpa [Readable] using hunread
      exact ⟨e, by rw [if_pos hext, he]⟩
    · have hrest : ∃ e ∈ entries, e.1.extension = "json" ∧ ¬ Readable E e.2 :=
        ⟨file, hmem, hext, hunread⟩
      -- whatever this entry adds, the scan goes on
      split
      · cases E.readFile entry.2 with
        | unreadable e => exact ⟨e, rfl⟩
        | malformed e => exact ih hrest _
        | value policy => exact ih hrest _
      · exact ih hrest _

/-- **A listing** has the policies of all files when every file can be read. -/
theorem listPolicies_eq {store : FilePolicyStore}
    (hread : ∀ stem content, store.files.lookup ⟨stem, "json"⟩ = some content → Readable E content) :
    ∃ listed, store.listPolicies E = .ok listed ∧
      ∀ stem, listed.lookup stem = (store.files.lookup ⟨stem, "json"⟩).bind (policyIn E) := by
  have hfiles : ∀ e ∈ store.files.entries, e.1.extension = "json" → Readable E e.2 := by
    rintro ⟨⟨stem, extension⟩, content⟩ he rfl
    exact hread stem content (AList.mem_lookup_iff.mpr he)
  obtain ⟨listed, hlisted, hlookup⟩ := listEntries_eq store.files.nodupKeys hfiles ∅
  refine ⟨listed, hlisted, fun stem => ?_⟩
  rw [hlookup, Finmap.lookup_empty, Option.or_none]
  rfl

/-- It fails when some file cannot be read. -/
theorem listPolicies_error {store : FilePolicyStore} {stem : String} {content : Bytes}
    (hfile : store.files.lookup ⟨stem, "json"⟩ = some content) (hunread : ¬ Readable E content) :
    ∃ e, store.listPolicies E = .error e :=
  listEntries_error ⟨_, AList.mem_lookup_iff.mp hfile, rfl, hunread⟩ ∅

/-- Every file of the directory is that of a policy in the map. -/
theorem Mirrors.stands {store : FilePolicyStore} {memory : MemoryPolicyStore}
    (h : Mirrors E store memory) {name : FileName} {content : Bytes}
    (hfile : store.files.lookup name = some content) : ∃ policy, Stands E content policy := by
  obtain ⟨agentDid, rfl⟩ := h.covered name (AList.lookup_isSome.mp (by rw [hfile]; rfl))
  rcases h.keeps.lookup_cases agentDid with ⟨hnone, -⟩ | ⟨content', policy, hsome, -, hstands⟩
  · cases hnone.symm.trans hfile
  · obtain rfl : content' = content := Option.some.inj (hsome.symm.trans hfile)
    exact ⟨policy, hstands⟩

/-- Listing reads the map, but for the keys. -/
theorem Mirrors.listPolicies {store : FilePolicyStore} {memory : MemoryPolicyStore}
    (h : Mirrors E store memory) :
    ∃ listed, store.listPolicies E = .ok listed ∧ Rekeyed E listed memory.listPolicies := by
  -- every listed file holds the text of a policy of the memory store
  have hread : ∀ stem content, store.files.lookup ⟨stem, "json"⟩ = some content →
      Readable E content := by
    intro stem content hfile
    obtain ⟨policy, rfl⟩ := h.stands hfile
    exact readable_encode policy
  obtain ⟨listed, hlisted, hlookup⟩ := listPolicies_eq hread
  refine ⟨listed, hlisted, ?_, ?_⟩
  · intro agentDid
    have hkey : listed.lookup (listedKey E agentDid) =
        (store.files.lookup (getPath E agentDid)).bind (policyIn E) := hlookup _
    show _ = memory.policies.lookup agentDid
    rcases h.keeps.lookup_cases agentDid with ⟨hfile, hpolicy⟩ | ⟨content, policy, hfile, hpolicy, rfl⟩
    · rw [hkey, hfile, hpolicy]
      rfl
    · rw [hkey, hfile, hpolicy]
      exact policyIn_encode policy
  · intro key hkey
    by_contra hno
    -- a listed key is the stem of a file
    have habsent : store.files.lookup ⟨key, "json"⟩ = none := by
      refine AList.lookup_eq_none.mpr ?_
      intro hmem
      obtain ⟨agentDid, hname⟩ := h.covered _ hmem
      exact hno ⟨agentDid, congrArg FileName.stem hname⟩
    have hnone := hlookup key
    rw [habsent] at hnone
    exact Finmap.lookup_eq_none.mp hnone hkey

/-! ## Calls -/

/-- Saving writes the map. -/
theorem Mirrors.savePolicy {store : FilePolicyStore} {memory : MemoryPolicyStore}
    (h : Mirrors E store memory) (hpath : Function.Injective (getPath E)) (agentDid : String)
    (policy : McpPolicy) :
    Mirrors E (store.savePolicy E agentDid policy).1 (memory.savePolicy agentDid policy) := by
  rw [savePolicy_eq]
  refine ⟨h.keeps.put hpath (fun k => getPath_ne_tmp k agentDid) rfl agentDid, ?_⟩
  -- the temporary file does not stay behind, so there is one file more at most
  intro name hname
  rcases Directory.mem_put _ hname with rfl | hold
  · exact ⟨agentDid, rfl⟩
  · exact h.covered name hold

/-- Deleting removes from the map. -/
theorem Mirrors.deletePolicy {store : FilePolicyStore} {memory : MemoryPolicyStore}
    (h : Mirrors E store memory) (hpath : Function.Injective (getPath E)) (agentDid : String) :
    Mirrors E (store.deletePolicy E agentDid) (memory.deletePolicy agentDid) :=
  ⟨h.keeps.remove hpath agentDid, fun name hname => h.covered name (Directory.mem_remove hname)⟩

/-- **Step.** A call gets agreeing answers and keeps directory and map together. -/
theorem Mirrors.call {store : FilePolicyStore} {memory : MemoryPolicyStore}
    (h : Mirrors E store memory) (hpath : Function.Injective (getPath E)) (c : PolicyCall) :
    Mirrors E (store.call E c).1 (memory.call c).1 ∧ Agree E (store.call E c).2 (memory.call c).2 := by
  cases c with
  | savePolicy agentDid policy =>
    refine ⟨h.savePolicy hpath agentDid policy, ?_⟩
    simp only [FilePolicyStore.call, savePolicy_eq]
    rfl
  | loadPolicy agentDid =>
    -- a load changes neither store
    refine ⟨h, ?_⟩
    simp only [FilePolicyStore.call, h.loadPolicy]
    rfl
  | deletePolicy agentDid => exact ⟨h.deletePolicy hpath agentDid, rfl⟩
  | listPolicies =>
    obtain ⟨listed, hlisted, hrekeyed⟩ := h.listPolicies
    refine ⟨h, ?_⟩
    simp only [FilePolicyStore.call, hlisted]
    exact hrekeyed

theorem mirrors_new : Mirrors E new { policies := ∅ } where
  keeps := Directory.keeps_empty
  covered _ hname := absurd hname (AList.notMem_empty _)

variable (E)

/-- **Policy stores.** From a fresh directory on, the store on disk gives the same answers as the
    one in memory to every sequence of calls, except that its listings have the hash of a DID
    where the others have the DID. -/
theorem answers_agree (hpath : Function.Injective (getPath E)) (calls : List PolicyCall) :
    List.Forall₂ (Agree E) (Lib.answers (call E) new calls)
      (Lib.answers MemoryPolicyStore.call { policies := ∅ } calls) :=
  forall₂_answers (fun _ _ c h => h.call hpath c) mirrors_new calls

end FilePolicyStore

/-! ## The serde text of a policy -/

/-- `serde_json::to_string_pretty` of `McpPolicy`; the closing brace is on its own line. -/
def policyJson : PrefixCode Char McpPolicy :=
  ((((prettyArray jsonString 2).tagged (prettyKey '{' 2 "allowed_tools")).pair
    (((prettyArray jsonString 2).tagged (prettyKey ',' 2 "denylist")).pair
    ((jsonBool.tagged (prettyKey ',' 2 "allow_unknown_tools")).pair
    (((number 0 '\n' rfl).comap UInt32.toNat (fun _ _ => UInt32.toNat_inj.mp)).tagged
      (prettyKey ',' 2 "max_requests_per_second"))))).ended ['}']).comap
    (fun p => (p.allowedTools, p.denylist, p.allowUnknownTools, p.maxRequestsPerSecond))
    (fun p q h => by
      cases p
      cases q
      simp_all)

/-- The environment with serde's texts. -/
noncomputable def PolicyFileEnv.serde (sha256 : Bytes → Bytes) : PolicyFileEnv where
  sha256 := sha256
  encode := (utf8.spell policyJson).enc
  readFile := policyJson.readFile
  readFile_encode := policyJson.readFile_enc
  notFound := "No such file or directory (os error 2)"

/-! ## One saved policy -/

namespace FilePolicyStore

open Compliance (digestVectors digestVectors_injective)

/-- SHA-256 of the DIDs of two agents. -/
def didDigests : List (Bytes × Bytes) :=
  [(stringBytes "did:mesh:agent-1",
      (Base64.decodeText "jheB9IJ4kjjyqHYMTSY7UtxQiC5CWsb3N1nAXYQsOnw=").getD []),
    (stringBytes "did:mesh:agent-2",
      (Base64.decodeText "CICDrH8ItK4HMzIcRcV5BeEycS3jO3FvF4HrtY+NuzE=").getD [])]

theorem didDigests_injective : Function.Injective (digestVectors didDigests) :=
  digestVectors_injective (by decide +kernel) (by decide +kernel)

/-- The environment with the recorded digests. -/
noncomputable def sampleFiles : PolicyFileEnv :=
  .serde (digestVectors didDigests)

theorem getPath_sampleFiles_injective : Function.Injective (getPath sampleFiles) :=
  hashedName_injective didDigests_injective "json"

def readerPolicy : McpPolicy where
  allowedTools := ["tool1"]
  denylist := ["tool2"]
  allowUnknownTools := false
  maxRequestsPerSecond := 10

/-- A policy is saved, replaced, listed and deleted. -/
def sampleCalls : List PolicyCall :=
  [.savePolicy "did:mesh:agent-1" McpPolicy.default, .savePolicy "did:mesh:agent-1" readerPolicy,
    .loadPolicy "did:mesh:agent-1", .listPolicies, .deletePolicy "did:mesh:agent-1",
    .loadPolicy "did:mesh:agent-2"]

theorem answers_agree_sample :
    List.Forall₂ (Agree sampleFiles) (Lib.answers (call sampleFiles) new sampleCalls)
      (Lib.answers MemoryPolicyStore.call { policies := ∅ } sampleCalls) :=
  answers_agree sampleFiles getPath_sampleFiles_injective sampleCalls

/-- After one policy was saved the listings differ. -/
theorem listing_differs :
    ¬ ∀ E : PolicyFileEnv, Function.Injective (getPath E) → ∀ calls : List PolicyCall,
      Lib.answers (call E) new calls =
        Lib.answers MemoryPolicyStore.call { policies := ∅ } calls := by
  intro h
  have hsame := h sampleFiles getPath_sampleFiles_injective
    [.savePolicy "did:mesh:agent-1" readerPolicy, .listPolicies]
  have hmirrors := mirrors_new.savePolicy getPath_sampleFiles_injective "did:mesh:agent-1"
    readerPolicy
  obtain ⟨listed, hlisted, hrekeyed⟩ := hmirrors.listPolicies
  simp only [Lib.answers, call, hlisted, MemoryPolicyStore.call, List.cons.injEq, Except.map,
    Except.ok.injEq, PolicyReply.listed.injEq] at hsame
  obtain ⟨-, hkeys, -⟩ := hsame
  -- the listing in memory has the DID itself as a key
  have hmem : "did:mesh:agent-1" ∈ listed := by
    rw [hkeys, MemoryPolicyStore.listPolicies, MemoryPolicyStore.savePolicy]
    simp
  obtain ⟨agentDid, hhex⟩ := hrekeyed.keys _ hmem
  exact hexEncode_ne (by decide) hhex.symm

end FilePolicyStore

end AgentGovernance.McpGovernance
