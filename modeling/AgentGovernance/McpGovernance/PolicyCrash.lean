import AgentGovernance.Lib.AtomicReplace
import AgentGovernance.McpGovernance.FilePolicyStore

/-!
# Killing the process inside a save of a policy

`save_policy` in `crates/ext/mcp-governance/src/store.rs` writes a temporary file and renames it.
The process may stop anywhere in between, in a directory where earlier crashes have left
temporary files behind.  `load_policy` and `list_policies` look at the renamed files only.
-/

namespace AgentGovernance.McpGovernance.FilePolicyStore

open AgentGovernance.Lib
open Directory (ReplacedOrNot)
open Section (perform)

variable (E : PolicyFileEnv)

/-- The store of a process that is killed in `save_policy`, behind a number of its steps. -/
def killedInSave (store : FilePolicyStore) (agentDid : String) (policy : McpPolicy) (steps : Nat) :
    FilePolicyStore where
  files := Directory.killed ((getPath E agentDid).withExtension "tmp") (getPath E agentDid)
    (E.encode policy) steps store.files

/-- What is found after an interrupted `save_policy`. -/
structure SavedOrNot (before : FilePolicyStore) (agentDid : String) (policy : McpPolicy)
    (after : FilePolicyStore) : Prop where
  own : after.loadPolicy E agentDid = before.loadPolicy E agentDid ∨
    after.loadPolicy E agentDid = .ok (some policy)
  others : ∀ other, other ≠ agentDid → after.loadPolicy E other = before.loadPolicy E other
  /-- A listing has the same other entries. -/
  listed : ∀ policies, before.listPolicies E = .ok policies →
    ∃ policies', after.listPolicies E = .ok policies' ∧
      (∀ key, key ≠ listedKey E agentDid → policies'.lookup key = policies.lookup key) ∧
      (policies'.lookup (listedKey E agentDid) = policies.lookup (listedKey E agentDid) ∨
        policies'.lookup (listedKey E agentDid) = some policy)
  /-- A listing that failed still does, unless it was for the file that is saved. -/
  unlisted : ∀ e, before.listPolicies E = .error e →
    (∃ e', after.listPolicies E = .error e') ∨ ∃ e', before.loadPolicy E agentDid = .error e'
  /-- The save can be repeated. -/
  again : (after.savePolicy E agentDid policy).2 = .ok () ∧
    (after.savePolicy E agentDid policy).1.loadPolicy E agentDid = .ok (some policy)

variable {E} {before after : FilePolicyStore} {agentDid : String} {policy : McpPolicy}

/-- All steps together are `save_policy`. -/
theorem savePolicy_files (store : FilePolicyStore) (agentDid : String) (policy : McpPolicy) :
    (store.savePolicy E agentDid policy).1.files =
      perform (Directory.replaceSteps ((getPath E agentDid).withExtension "tmp")
        (getPath E agentDid) (E.encode policy)) store.files := by
  rw [savePolicy_eq, Directory.perform_replaceSteps]

/-! ## Loading -/

/-- Loading looks at one file. -/
theorem loadPolicy_congr {other : FilePolicyStore}
    (h : other.files.lookup (getPath E agentDid) = before.files.lookup (getPath E agentDid)) :
    other.loadPolicy E agentDid = before.loadPolicy E agentDid := by
  rw [loadPolicy, loadPolicy, h]

theorem loadPolicy_of_encode
    (h : after.files.lookup (getPath E agentDid) = some (E.encode policy)) :
    after.loadPolicy E agentDid = .ok (some policy) := by
  simp only [loadPolicy, h, E.readFile_encode]

theorem loadPolicy_of_unreadable {content : Bytes}
    (h : before.files.lookup (getPath E agentDid) = some content) (hunread : ¬ Readable E content) :
    ∃ e, before.loadPolicy E agentDid = .error e := by
  obtain ⟨e, he⟩ : ∃ e, E.readFile content = .unreadable e := by
    simpa [Readable] using hunread
  exact ⟨e, by simp only [loadPolicy, h, he]⟩

theorem loadPolicy_savePolicy (store : FilePolicyStore) (agentDid : String) (policy : McpPolicy) :
    (store.savePolicy E agentDid policy).1.loadPolicy E agentDid = .ok (some policy) := by
  apply loadPolicy_of_encode
  rw [savePolicy_eq]
  exact Directory.lookup_put_self _ _ _ _

/-! ## Listing -/

/-- A listing that succeeds has read every file. -/
theorem readable_of_listPolicies {policies : Finmap fun _ : String => McpPolicy}
    (h : before.listPolicies E = .ok policies) {stem : String} {content : Bytes}
    (hfile : before.files.lookup ⟨stem, "json"⟩ = some content) : Readable E content := by
  by_contra hunread
  obtain ⟨e, he⟩ := listPolicies_error hfile hunread
  cases h.symm.trans he

/-- A listing that fails has met a file that cannot be read. -/
theorem exists_unreadable_of_listPolicies {e : String} (h : before.listPolicies E = .error e) :
    ∃ stem content, before.files.lookup ⟨stem, "json"⟩ = some content ∧ ¬ Readable E content := by
  by_contra hno
  have hread : ∀ stem content, before.files.lookup ⟨stem, "json"⟩ = some content →
      Readable E content := by
    intro stem content hfile
    by_contra hunread
    exact hno ⟨stem, content, hfile, hunread⟩
  obtain ⟨policies, hlisted, -⟩ := listPolicies_eq hread
  cases h.symm.trans hlisted

section Replaced

variable (h : ReplacedOrNot ((getPath E agentDid).withExtension "tmp") (getPath E agentDid)
  (E.encode policy) before.files after.files)
include h

/-- A listed file is the one that is saved, or it is as it was. -/
theorem lookup_json_cases (stem : String) :
    stem = listedKey E agentDid ∨
      after.files.lookup ⟨stem, "json"⟩ = before.files.lookup ⟨stem, "json"⟩ := by
  by_cases hstem : stem = listedKey E agentDid
  · exact .inl hstem
  · refine .inr (h.others _ ?_ ?_)
    · intro hname
      exact hstem (congrArg FileName.stem hname)
    · apply FileName.ne_withExtension
      show "json" ≠ "tmp"
      decide

/-- **Listings** before and after. -/
theorem listPolicies_replaced {policies : Finmap fun _ : String => McpPolicy}
    (hbefore : before.listPolicies E = .ok policies) :
    ∃ policies', after.listPolicies E = .ok policies' ∧
      (∀ key, key ≠ listedKey E agentDid → policies'.lookup key = policies.lookup key) ∧
      (policies'.lookup (listedKey E agentDid) = policies.lookup (listedKey E agentDid) ∨
        policies'.lookup (listedKey E agentDid) = some policy) := by
  have hread : ∀ stem content, before.files.lookup ⟨stem, "json"⟩ = some content →
      Readable E content := fun _ _ hfile => readable_of_listPolicies hbefore hfile
  -- the own file is the old one or the one just encoded
  have hown : after.files.lookup ⟨listedKey E agentDid, "json"⟩ =
        before.files.lookup ⟨listedKey E agentDid, "json"⟩ ∨
      after.files.lookup ⟨listedKey E agentDid, "json"⟩ = some (E.encode policy) := h.own
  -- the new file can be read as well
  have hread' : ∀ stem content, after.files.lookup ⟨stem, "json"⟩ = some content →
      Readable E content := by
    intro stem content hfile
    rcases lookup_json_cases h stem with rfl | hsame
    · rcases hown with hold | hnew
      · exact hread _ content (hold.symm.trans hfile)
      · obtain rfl : E.encode policy = content := Option.some.inj (hnew.symm.trans hfile)
        exact readable_encode policy
    · exact hread stem content (hsame.symm.trans hfile)
  obtain ⟨listed, hlisted, hlookup⟩ := listPolicies_eq hread
  obtain ⟨listed', hlisted', hlookup'⟩ := listPolicies_eq hread'
  -- the first listing is the one that was given
  obtain rfl : listed = policies := Except.ok.inj (hlisted.symm.trans hbefore)
  refine ⟨listed', hlisted', ?_, ?_⟩
  · intro key hkey
    rw [hlookup, hlookup', (lookup_json_cases h key).resolve_left hkey]
  · rw [hlookup, hlookup']
    rcases hown with hold | hnew
    · exact .inl (by rw [hold])
    · exact .inr (by rw [hnew]; exact policyIn_encode policy)

theorem listPolicies_replaced_error {e : String} (hbefore : before.listPolicies E = .error e) :
    (∃ e', after.listPolicies E = .error e') ∨
      ∃ e', before.loadPolicy E agentDid = .error e' := by
  obtain ⟨stem, content, hfile, hunread⟩ := exists_unreadable_of_listPolicies hbefore
  rcases lookup_json_cases h stem with rfl | hsame
  · exact .inr (loadPolicy_of_unreadable hfile hunread)
  · exact .inl (listPolicies_error (hsame.trans hfile) hunread)

/-- **Saved or not**, and everything else as it was. -/
theorem savedOrNot_of_replaced (hpath : Function.Injective (getPath E)) :
    SavedOrNot E before agentDid policy after where
  own := h.own.imp loadPolicy_congr loadPolicy_of_encode
  others other hother :=
    loadPolicy_congr (h.others _ (hpath.ne hother) (getPath_ne_tmp other agentDid))
  listed _ hbefore := listPolicies_replaced h hbefore
  unlisted _ hbefore := listPolicies_replaced_error h hbefore
  again := ⟨by rw [savePolicy_eq], loadPolicy_savePolicy after agentDid policy⟩

end Replaced

/-! ## Interrupted saves -/

/-- Wherever the process is killed. -/
theorem savedOrNot_killedInSave (hpath : Function.Injective (getPath E)) (store : FilePolicyStore)
    (agentDid : String) (policy : McpPolicy) (steps : Nat) :
    SavedOrNot E store agentDid policy (store.killedInSave E agentDid policy steps) :=
  savedOrNot_of_replaced
    (store.files.replacedOrNot_killed (E.encode policy) (getPath_ne_tmp agentDid agentDid) steps)
    hpath

/-- A save and the number of its steps that are taken. -/
structure CutSave where
  agentDid : String
  policy : McpPolicy
  steps : Nat

/-- **Crashes on crashes**: behind any number of interrupted saves, an agent has its first policy
    or one that was saved for it. -/
theorem loadPolicy_cutSaves (hpath : Function.Injective (getPath E)) (store : FilePolicyStore)
    (agentDid : String) (run : List CutSave) :
    let after := runFrom (fun store save =>
      killedInSave E store save.agentDid save.policy save.steps) store run
    after.loadPolicy E agentDid = store.loadPolicy E agentDid ∨
      ∃ save ∈ run, save.agentDid = agentDid ∧
        after.loadPolicy E agentDid = .ok (some save.policy) := by
  have hsaved (s : FilePolicyStore) (save : CutSave) :=
    savedOrNot_killedInSave hpath s save.agentDid save.policy save.steps
  -- by induction on the run, since each cut save spares the policies of other agents
  apply read_runFrom
  · exact fun s save => (hsaved s save).own
  · exact fun s save => (hsaved s save).others

end AgentGovernance.McpGovernance.FilePolicyStore
