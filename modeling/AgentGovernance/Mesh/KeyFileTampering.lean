import AgentGovernance.Mesh.FileKeyStore

/-!
# Key files in the hands of others

The directory of a `FileKeyStore`, changed between the calls by someone who cannot make a
ciphertext under the store's key.

The ciphertext of `save_key` is not bound to the DID: `load_key` returns only keys that were saved
for the DID exactly as long as nobody puts the ciphertext of another agent's key under its name,
`loadedKeys_saved_iff`.
-/

namespace AgentGovernance.Mesh

open AgentGovernance.Lib

/-! ## Runs -/

/-- What `save_key` was called with, and the nonce that it drew. -/
structure SavedKey where
  agentDid : String
  key : ByteArr 32
  nonce : ByteArr 24

/-- A store with the keys that were saved so far. -/
structure WatchedStore where
  store : FileKeyStore
  saves : List SavedKey

/-- A call, or someone else's work on the files, which may leave any directory. -/
inductive DiskEvent where
  | call (c : KeyCall)
  | tamper (files : Directory Bytes)

def KeyCall.saves : KeyCall → List SavedKey
  | .saveKey agentDid key _ nonce => [{ agentDid := agentDid, key := key, nonce := nonce }]
  | .loadKey _ => []
  | .deleteKey _ => []
  | .reopen => []

namespace WatchedStore

variable (E : KeyFileEnv) (passphrase : String)

/-- A store that was just opened. -/
def opened (store : FileKeyStore) : WatchedStore where
  store := store
  saves := []

def step (s : WatchedStore) : DiskEvent → WatchedStore
  | .call c => { store := (s.store.call E passphrase c).1, saves := s.saves ++ c.saves }
  | .tamper files => { s with store := { s.store with files := files } }

def SavedFor (s : WatchedStore) (agentDid : String) (key : ByteArr 32) : Prop :=
  ∃ save ∈ s.saves, save.agentDid = agentDid ∧ save.key = key

/-- A ciphertext that `save_key` made of a key. -/
def Issued (s : WatchedStore) (nonce : ByteArr 24) (ciphertext : Bytes) (key : ByteArr 32) : Prop :=
  (∃ save ∈ s.saves, save.nonce = nonce ∧ save.key = key) ∧
    E.cipher.encrypt s.store.kek nonce key.val = .ok ciphertext

/-- Every key that can be loaded was saved for this DID. -/
def OnlySaved (s : WatchedStore) : Prop :=
  ∀ agentDid key, s.store.loadKey E agentDid = .loaded (some key) → s.SavedFor agentDid key

/-- Nothing that decrypts was made by anyone else. -/
def Unforged (s : WatchedStore) : DiskEvent → Prop
  | .call _ => True
  | .tamper files => ∀ name content nonce ciphertext plaintext, files.lookup name = some content →
      FileKeyStore.parseKeyFile E content = .ok (Subtype.val nonce, ciphertext) →
      E.cipher.decrypt s.store.kek nonce ciphertext = .ok plaintext →
      ∃ key, s.Issued E nonce ciphertext key

/-- No ciphertext comes under the name of a DID that its key was not saved for. -/
def Untransplanted (s : WatchedStore) : DiskEvent → Prop
  | .call _ => True
  | .tamper files => ∀ agentDid content nonce ciphertext key,
      files.lookup (FileKeyStore.getPath E agentDid) = some content →
      FileKeyStore.parseKeyFile E content = .ok (Subtype.val nonce, ciphertext) →
      s.Issued E nonce ciphertext key → s.SavedFor agentDid key

/-! ## One event -/

variable {E passphrase} {s : WatchedStore}

theorem SavedFor.call {agentDid : String} {key : ByteArr 32} (h : s.SavedFor agentDid key)
    (c : KeyCall) : (s.step E passphrase (.call c)).SavedFor agentDid key := by
  obtain ⟨save, hmem, hsave⟩ := h
  exact ⟨save, List.mem_append_left _ hmem, hsave⟩

/-- An issued ciphertext decrypts to its key and to nothing else. -/
theorem Issued.decrypt {nonce : ByteArr 24} {ciphertext : Bytes} {key : ByteArr 32}
    (h : s.Issued E nonce ciphertext key) :
    E.cipher.decrypt s.store.kek nonce ciphertext = .ok key.val :=
  E.cipher.decrypt_encrypt _ _ _ _ h.2

/-- Every event leaves a store that its passphrase opens. -/
theorem opened_step (h : FileKeyStore.Opened E passphrase s.store) (event : DiskEvent) :
    FileKeyStore.Opened E passphrase (s.step E passphrase event).store := by
  cases event with
  | tamper files =>
    -- whatever is done to the files, the key-encryption key was derived when the store was opened
    exact h.withFiles files
  | call c =>
    cases c with
    | saveKey agentDid key salt nonce =>
      obtain ⟨ciphertext, -, heq⟩ := FileKeyStore.saveKey_eq (E := E) s.store agentDid key salt nonce
      simp only [step, FileKeyStore.call, heq]
      exact h.withFiles _
    | loadKey agentDid => exact h
    | deleteKey agentDid => exact h.withFiles _
    | reopen =>
      simp only [step, h.reopen]
      exact h

/-- The store's own calls load only what was saved. -/
theorem OnlySaved.call (h : s.OnlySaved E) (hopened : FileKeyStore.Opened E passphrase s.store)
    (hpath : Function.Injective (FileKeyStore.getPath E)) (c : KeyCall) :
    (s.step E passphrase (.call c)).OnlySaved E := by
  intro did key hload
  cases c with
  | saveKey agentDid k salt nonce =>
    obtain ⟨ciphertext, henc, heq⟩ := FileKeyStore.saveKey_eq (E := E) s.store agentDid k salt nonce
    simp only [step, FileKeyStore.call, heq, FileKeyStore.loadKey] at hload
    by_cases hdid : did = agentDid
    · -- the file that was just written
      subst hdid
      rw [Directory.lookup_put_self] at hload
      dsimp only at hload
      rw [FileKeyStore.openKeyFile_keyFile salt henc] at hload
      obtain rfl : k = key := Option.some.inj (KeyOutcome.loaded.inj hload)
      exact ⟨_, List.mem_append_right _ List.mem_cons_self, rfl, rfl⟩
    · -- the file of another DID, which is as it was
      rw [Directory.lookup_put_of_ne _ _ (hpath.ne hdid) (FileKeyStore.getPath_ne_tmp _ _)] at hload
      exact (h did key hload).call _
  | loadKey agentDid => exact (h did key hload).call _
  | deleteKey agentDid =>
    simp only [step, FileKeyStore.call, FileKeyStore.deleteKey, FileKeyStore.loadKey] at hload
    by_cases hdid : did = agentDid
    · subst hdid
      rw [Directory.lookup_remove_self] at hload
      cases hload
    · rw [Directory.lookup_remove_of_ne _ (hpath.ne hdid)] at hload
      exact (h did key hload).call _
  | reopen =>
    simp only [step, hopened.reopen] at hload
    exact (h did key hload).call _

/-- Someone else's files load only what was saved when no ciphertext was transplanted, and only
    then. -/
theorem onlySaved_tamper_iff {files : Directory Bytes} (hunforged : s.Unforged E (.tamper files)) :
    (s.step E passphrase (.tamper files)).OnlySaved E ↔ s.Untransplanted E (.tamper files) := by
  constructor
  · -- an issued ciphertext under a name is a key that is loaded for it
    intro h agentDid content nonce ciphertext key hfile hparse hissued
    apply h agentDid key
    simp only [step, FileKeyStore.loadKey, hfile]
    exact FileKeyStore.openKeyFile_eq_loaded_iff.mpr ⟨nonce, ciphertext, hparse, hissued.decrypt⟩
  · intro h agentDid key hload
    simp only [step, FileKeyStore.loadKey] at hload
    split at hload
    · cases hload
    next content hfile =>
      obtain ⟨nonce, ciphertext, hparse, hdec⟩ := FileKeyStore.openKeyFile_eq_loaded_iff.mp hload
      -- what decrypts was issued, so it decrypts to the key it was made of
      obtain ⟨k, hissued⟩ := hunforged _ content nonce ciphertext key.val hfile hparse hdec
      obtain rfl : k = key := Subtype.ext (Except.ok.inj (hissued.decrypt.symm.trans hdec))
      exact h agentDid content nonce ciphertext k hfile hparse hissued

/-- **Step.** An event keeps loads to what was saved exactly when it transplants nothing. -/
theorem onlySaved_step_iff (h : s.OnlySaved E) (hopened : FileKeyStore.Opened E passphrase s.store)
    (hpath : Function.Injective (FileKeyStore.getPath E)) {event : DiskEvent}
    (hunforged : s.Unforged E event) :
    (s.step E passphrase event).OnlySaved E ↔ s.Untransplanted E event := by
  cases event with
  | call c => exact ⟨fun _ => trivial, fun _ => h.call hopened hpath c⟩
  | tamper files => exact onlySaved_tamper_iff hunforged

theorem onlySaved_opened {store : FileKeyStore} (hfiles : store.files = ∅) :
    (opened store).OnlySaved E := by
  intro agentDid key hload
  simp only [opened, FileKeyStore.loadKey, hfiles, AList.lookup_empty] at hload
  cases hload

/-! ## Every run -/

variable (E)

/-- **Loaded keys.** In a run in which nobody else can encrypt, all keys that can be loaded for a
    DID were saved for it exactly when no file under its name was given the ciphertext of a key
    that was not saved for it. -/
theorem loadedKeys_saved_iff {store : FileKeyStore}
    (hnew : FileKeyStore.new E ∅ passphrase = .ok store)
    (hpath : Function.Injective (FileKeyStore.getPath E)) {run : List DiskEvent}
    (hunforged : AllSteps (step E passphrase) (Unforged E) (opened store) run) :
    (∀ pre, pre <+: run → (runFrom (step E passphrase) (opened store) pre).OnlySaved E) ↔
      AllSteps (step E passphrase) (Untransplanted E) (opened store) run := by
  obtain ⟨hfiles, hopened⟩ := FileKeyStore.opened_of_new hnew
  -- by induction on the run, with the invariant that the store was opened under this passphrase
  apply forall_prefix_iff_allSteps_of (I := fun s => FileKeyStore.Opened E passphrase s.store)
    (G := Unforged E)
  · exact fun s event _ h => opened_step h event
  · exact fun s event hG hI hP => onlySaved_step_iff hP hI hpath hG
  · exact hopened
  · exact onlySaved_opened hfiles
  · exact hunforged

/-! ## A file under another name -/

open FileKeyStore (sampleKeyFiles sampleStore sampleKey sampleNonce sampleSalt sampleKek
  secondSeal new_sampleKeyFiles getPath_sampleKeyFiles_injective)

/-- The keys of two agents are saved. -/
def savesOfTwo : List DiskEvent :=
  [.call (.saveKey "did:mesh:agent-1" (sampleKey 7) sampleSalt (sampleNonce 1)),
    .call (.saveKey "did:mesh:agent-2" (sampleKey 9) sampleSalt (sampleNonce 2))]

/-- The directory with the second agent's file under the name of the first. -/
noncomputable def movedFiles : Directory Bytes :=
  (∅ : Directory Bytes).insert (FileKeyStore.getPath sampleKeyFiles "did:mesh:agent-1")
    (sampleKeyFiles.encode
      (FileKeyStore.keyFile sampleSalt (sampleNonce 2) secondSeal.ciphertext))

/-- The file is moved after the keys were saved. -/
noncomputable def moveRun : List DiskEvent :=
  savesOfTwo ++ [.tamper movedFiles]

/-- The store after the two keys were saved. -/
noncomputable def afterSaves : WatchedStore :=
  runFrom (step sampleKeyFiles "correct-passphrase") (opened sampleStore) savesOfTwo

theorem issued_afterSaves :
    afterSaves.Issued sampleKeyFiles (sampleNonce 2) secondSeal.ciphertext (sampleKey 9) := by
  refine ⟨⟨_, List.mem_append_right _ List.mem_cons_self, rfl, rfl⟩, ?_⟩
  have hkek : afterSaves.store.kek = sampleKek := by
    simp only [afterSaves, savesOfTwo, runFrom_cons, runFrom_nil, step, FileKeyStore.call,
      FileKeyStore.saveKey_kek]
    rfl
  rw [hkek]
  exact FileKeyStore.encrypt_secondSeal

/-- The one file was written by the store. -/
theorem unforged_movedFiles : afterSaves.Unforged sampleKeyFiles (.tamper movedFiles) := by
  intro name content nonce ciphertext plaintext hfile hparse _
  obtain rfl : name = FileKeyStore.getPath sampleKeyFiles "did:mesh:agent-1" := by
    by_contra hne
    rw [movedFiles, AList.lookup_insert_ne hne, AList.lookup_empty] at hfile
    cases hfile
  rw [movedFiles, AList.lookup_insert] at hfile
  rw [← Option.some.inj hfile, FileKeyStore.parseKeyFile_keyFile] at hparse
  obtain ⟨hnonce, rfl⟩ := Prod.mk.inj (Except.ok.inj hparse)
  obtain rfl : sampleNonce 2 = nonce := Subtype.ext hnonce
  exact ⟨sampleKey 9, issued_afterSaves⟩

theorem unforged_moveRun :
    AllSteps (step sampleKeyFiles "correct-passphrase") (Unforged sampleKeyFiles)
      (opened sampleStore) moveRun :=
  allSteps_append.mpr ⟨⟨trivial, trivial, trivial⟩, unforged_movedFiles, trivial⟩

theorem loadedKeys_saved_sample :
    (∀ pre, pre <+: moveRun →
      (runFrom (step sampleKeyFiles "correct-passphrase") (opened sampleStore) pre).OnlySaved
        sampleKeyFiles) ↔
      AllSteps (step sampleKeyFiles "correct-passphrase") (Untransplanted sampleKeyFiles)
        (opened sampleStore) moveRun :=
  loadedKeys_saved_iff sampleKeyFiles new_sampleKeyFiles getPath_sampleKeyFiles_injective
    unforged_moveRun

/-- After the move the key of the second agent is loaded for the first. -/
theorem loadedKey_of_another :
    ¬ ∀ (E : KeyFileEnv) (passphrase : String) (store : FileKeyStore) (run : List DiskEvent),
      FileKeyStore.new E ∅ passphrase = .ok store →
      Function.Injective (FileKeyStore.getPath E) →
      AllSteps (step E passphrase) (Unforged E) (opened store) run →
      (runFrom (step E passphrase) (opened store) run).OnlySaved E := by
  intro h
  have hsaved := h sampleKeyFiles "correct-passphrase" sampleStore moveRun new_sampleKeyFiles
    getPath_sampleKeyFiles_injective unforged_moveRun
  rw [moveRun, runFrom_append] at hsaved
  have hlast : (afterSaves.step sampleKeyFiles "correct-passphrase"
      (.tamper movedFiles)).OnlySaved sampleKeyFiles := hsaved
  have hkept := (onlySaved_tamper_iff unforged_movedFiles).mp hlast
  -- the moved ciphertext is that of a key which was saved for the second agent only
  obtain ⟨save, hmem, hdid, hkey⟩ := hkept "did:mesh:agent-1" _ (sampleNonce 2) _ (sampleKey 9)
    (AList.lookup_insert _) (FileKeyStore.parseKeyFile_keyFile _ _ _) issued_afterSaves
  have hall : ∀ save ∈ afterSaves.saves,
      ¬ (save.agentDid = "did:mesh:agent-1" ∧ save.key = sampleKey 9) := by
    decide
  exact hall save hmem ⟨hdid, hkey⟩

end WatchedStore

end AgentGovernance.Mesh
