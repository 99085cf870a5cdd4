import AgentGovernance.McpGovernance.PolicyCrash
import AgentGovernance.Mesh.FileKeyStore

/-!
# Killing the process inside a save of a key

`FileKeyStore::save_key` in `crates/core/mesh/src/identity/keystore.rs` replaces its file as
`FilePolicyStore::save_policy` does: under a temporary name, and by a rename.  A crash inside a
save leaves either store with the old file or the new one.
-/

namespace AgentGovernance.Mesh

open AgentGovernance.Lib AgentGovernance.McpGovernance

namespace FileKeyStore

open Directory (ReplacedOrNot)
open Section (perform)

variable (E : KeyFileEnv)

/-- The store of a process that is killed in `save_key`, behind a number of the steps that follow
    the encryption. -/
def killedInSave (store : FileKeyStore) (agentDid : String) (key : ByteArr 32) (salt : ByteArr 16)
    (nonce : ByteArr 24) (steps : Nat) : FileKeyStore :=
  match E.cipher.encrypt store.kek nonce key.val with
  | .error _ => store
  | .ok ciphertext =>
    { store with
      files := Directory.killed ((getPath E agentDid).withExtension "tmp") (getPath E agentDid)
        (E.encode (keyFile salt nonce ciphertext)) steps store.files }

/-- What is found after an interrupted `save_key`. -/
structure SavedOrNot (before : FileKeyStore) (agentDid : String) (key : ByteArr 32)
    (after : FileKeyStore) : Prop where
  own : after.loadKey E agentDid = before.loadKey E agentDid ∨
    after.loadKey E agentDid = .loaded (some key)
  others : ∀ other, other ≠ agentDid → after.loadKey E other = before.loadKey E other
  /-- The passphrase opens the directory that is left as the store with these files. -/
  reopened : ∀ passphrase, Opened E passphrase before → Opened E passphrase after
  /-- The save can be repeated, with new random bytes. -/
  again : ∀ salt nonce, (after.saveKey E agentDid key salt nonce).2 = .ok () ∧
    (after.saveKey E agentDid key salt nonce).1.loadKey E agentDid = .loaded (some key)

variable {E} {before after : FileKeyStore} {agentDid : String} {key : ByteArr 32}

/-- All steps together are `save_key`. -/
theorem saveKey_files (store : FileKeyStore) (agentDid : String) (key : ByteArr 32)
    (salt : ByteArr 16) (nonce : ByteArr 24) :
    ∃ ciphertext, E.cipher.encrypt store.kek nonce key.val = .ok ciphertext ∧
      (store.saveKey E agentDid key salt nonce).1.files =
        perform (Directory.replaceSteps ((getPath E agentDid).withExtension "tmp")
          (getPath E agentDid) (E.encode (keyFile salt nonce ciphertext))) store.files := by
  obtain ⟨ciphertext, hencrypt, heq⟩ := saveKey_eq (E := E) store agentDid key salt nonce
  exact ⟨ciphertext, hencrypt, by rw [heq, Directory.perform_replaceSteps]⟩

/-- Loading looks at one file. -/
theorem loadKey_congr {other : FileKeyStore} (hkek : other.kek = before.kek)
    (h : other.files.lookup (getPath E agentDid) = before.files.lookup (getPath E agentDid)) :
    other.loadKey E agentDid = before.loadKey E agentDid := by
  rw [loadKey, loadKey, h, hkek]

theorem loadKey_of_keyFile {salt : ByteArr 16} {nonce : ByteArr 24} {ciphertext : Bytes}
    (hencrypt : E.cipher.encrypt after.kek nonce key.val = .ok ciphertext)
    (h : after.files.lookup (getPath E agentDid) =
      some (E.encode (keyFile salt nonce ciphertext))) :
    after.loadKey E agentDid = .loaded (some key) := by
  simp only [loadKey, h]
  exact openKeyFile_keyFile salt hencrypt

theorem loadKey_saveKey (store : FileKeyStore) (agentDid : String) (key : ByteArr 32)
    (salt : ByteArr 16) (nonce : ByteArr 24) :
    (store.saveKey E agentDid key salt nonce).2 = .ok () ∧
      (store.saveKey E agentDid key salt nonce).1.loadKey E agentDid = .loaded (some key) := by
  obtain ⟨ciphertext, hencrypt, heq⟩ := saveKey_eq (E := E) store agentDid key salt nonce
  rw [heq]
  exact ⟨rfl, loadKey_of_keyFile hencrypt (Directory.lookup_put_self _ _ _ _)⟩

/-- **Saved or not**, and everything else as it was. -/
theorem savedOrNot_killedInSave (hpath : Function.Injective (getPath E)) (store : FileKeyStore)
    (agentDid : String) (key : ByteArr 32) (salt : ByteArr 16) (nonce : ByteArr 24)
    (steps : Nat) :
    SavedOrNot E store agentDid key (store.killedInSave E agentDid key salt nonce steps) := by
  obtain ⟨ciphertext, hencrypt⟩ := E.cipher.encrypt_key store.kek nonce key
  -- behind the encryption it is a save of a text
  have hreplaced := store.files.replacedOrNot_killed (E.encode (keyFile salt nonce ciphertext))
    (getPath_ne_tmp (E := E) agentDid agentDid) steps
  have hafter : store.killedInSave E agentDid key salt nonce steps =
      { store with
        files := Directory.killed ((getPath E agentDid).withExtension "tmp") (getPath E agentDid)
          (E.encode (keyFile salt nonce ciphertext)) steps store.files } := by
    simp only [killedInSave, hencrypt]
  rw [hafter]
  refine ⟨?_, ?_, ?_, ?_⟩
  · exact hreplaced.own.imp (loadKey_congr rfl) (loadKey_of_keyFile hencrypt)
  · intro other hother
    exact loadKey_congr rfl (hreplaced.others _ (hpath.ne hother) (getPath_ne_tmp other agentDid))
  -- the key of the store does not come from its files
  · exact fun passphrase hopened => hopened.withFiles _
  · exact loadKey_saveKey _ agentDid key

/-- A save and the number of its steps that are taken. -/
structure CutSave where
  agentDid : String
  key : ByteArr 32
  salt : ByteArr 16
  nonce : ByteArr 24
  steps : Nat

/-- **Crashes on crashes**: behind any number of interrupted saves, an agent has its first key or
    one that was saved for it. -/
theorem loadKey_cutSaves (hpath : Function.Injective (getPath E)) (store : FileKeyStore)
    (agentDid : String) (run : List CutSave) :
    let after := runFrom (fun store save =>
      killedInSave E store save.agentDid save.key save.salt save.nonce save.steps) store run
    after.loadKey E agentDid = store.loadKey E agentDid ∨
      ∃ save ∈ run, save.agentDid = agentDid ∧
        after.loadKey E agentDid = .loaded (some save.key) := by
  have hsaved (s : FileKeyStore) (save : CutSave) :=
    savedOrNot_killedInSave hpath s save.agentDid save.key save.salt save.nonce save.steps
  -- by induction on the run, since each cut save spares the keys of other agents
  apply read_runFrom
  · exact fun s save => (hsaved s save).own
  · exact fun s save => (hsaved s save).others

end FileKeyStore

/-! ## Both stores -/

/-- **A save is atomic.**  In any directory and wherever the process is killed inside a save, the
    agent has its old entry or the new one, the other agents and the listing are not affected, and
    the save can be repeated. -/
theorem killedInSave_atomic (E : PolicyFileEnv) (F : KeyFileEnv)
    (hpolicies : Function.Injective (FilePolicyStore.getPath E))
    (hkeys : Function.Injective (FileKeyStore.getPath F)) :
    (∀ (store : FilePolicyStore) (agentDid : String) (policy : McpPolicy) (steps : Nat),
      FilePolicyStore.SavedOrNot E store agentDid policy
        (store.killedInSave E agentDid policy steps)) ∧
    ∀ (store : FileKeyStore) (agentDid : String) (key : ByteArr 32) (salt : ByteArr 16)
      (nonce : ByteArr 24) (steps : Nat),
      FileKeyStore.SavedOrNot F store agentDid key
        (store.killedInSave F agentDid key salt nonce steps) :=
  ⟨FilePolicyStore.savedOrNot_killedInSave hpolicies,
    FileKeyStore.savedOrNot_killedInSave hkeys⟩

/-- A policy is replaced over the temporary file of an earlier crash, and the first key is saved. -/
theorem killedInSave_atomic_sample :
    let E := FilePolicyStore.sampleFiles
    let F := FileKeyStore.sampleKeyFiles
    let crashed := FilePolicyStore.new.killedInSave E "did:mesh:agent-1" McpPolicy.default 5
    FilePolicyStore.SavedOrNot E crashed "did:mesh:agent-1" FilePolicyStore.readerPolicy
        (crashed.killedInSave E "did:mesh:agent-1" FilePolicyStore.readerPolicy 7) ∧
      FileKeyStore.SavedOrNot F FileKeyStore.sampleStore "did:mesh:agent-1"
        (FileKeyStore.sampleKey 7)
        (FileKeyStore.sampleStore.killedInSave F "did:mesh:agent-1" (FileKeyStore.sampleKey 7)
          FileKeyStore.sampleSalt (FileKeyStore.sampleNonce 1) 7) := by
  intro E F crashed
  -- the temporary file of the crash is still there in the second save
  have hatomic := killedInSave_atomic E F FilePolicyStore.getPath_sampleFiles_injective
    FileKeyStore.getPath_sampleKeyFiles_injective
  exact ⟨hatomic.1 _ _ _ _, hatomic.2 _ _ _ _ _ _⟩

end AgentGovernance.Mesh
