import AgentGovernance.Mesh.FileKeyStore

/-!
# Key stores with different passphrases on one directory

The files of a `FileKeyStore` are named by agents alone, so stores that were opened with different
passphrases share them.

`shared_answers`: together they are one map from agents to keys, where each key has an owner, the
passphrase it was saved under last.  Saving replaces and deleting removes whoever's key it is; only
loading looks at the owner, and fails for another passphrase.
-/

namespace AgentGovernance.Mesh

open AgentGovernance.Lib

/-! ## One map -/

/-- The signing key of each agent, with the key-encryption key that it is kept under. -/
structure OwnedKeys where
  keys : Finmap (fun _ : String => ByteArr 32 × ByteArr 32)

namespace FileKeyStore

variable (E : KeyFileEnv)

/-- The key-encryption key of a passphrase. -/
def deriveKek (passphrase : String) : Except String (ByteArr 32) :=
  match E.argon2 (stringBytes passphrase) stableSalt with
  | .error e => .error ("KDF failure: " ++ e)
  | .ok kek => .ok kek

/-- A call by the store that is opened on the directory with a passphrase. -/
def callOn (files : Directory Bytes) (c : String × KeyCall) : Directory Bytes × KeyOutcome :=
  match new E files c.1 with
  | .error e => (files, .failed e)
  | .ok store => ((store.call E c.1 c.2).1.files, (store.call E c.1 c.2).2)

/-- The same call on the map.  `refused` is the answer about a key of another owner. -/
def ownedCall (refused : String) (owned : OwnedKeys) (c : String × KeyCall) :
    OwnedKeys × KeyOutcome :=
  match deriveKek E c.1 with
  | .error e => (owned, .failed e)
  | .ok kek =>
    match c.2 with
    | .saveKey agentDid key _ _ => (⟨owned.keys.insert agentDid (kek, key)⟩, .done)
    | .loadKey agentDid =>
      match owned.keys.lookup agentDid with
      | none => (owned, .loaded none)
      | some (owner, key) =>
        if owner = kek then (owned, .loaded (some key)) else (owned, .failed refused)
    | .deleteKey agentDid => (⟨owned.keys.erase agentDid⟩, .done)
    | .reopen => (owned, .done)

/-- What the calls save is refused, with the same error, to every other passphrase that they use. -/
def RefusesOthers (aeadError : String) (calls : List (String × KeyCall)) : Prop :=
  ∀ c ∈ calls, ∀ c' ∈ calls, ∀ agentDid key salt nonce kek kek' ciphertext,
    c.2 = .saveKey agentDid key salt nonce → deriveKek E c.1 = .ok kek →
    deriveKek E c'.1 = .ok kek' → kek ≠ kek' →
    E.cipher.encrypt kek nonce key.val = .ok ciphertext →
    E.cipher.decrypt kek' nonce ciphertext = .error aeadError

/-! ## Files of an owner -/

variable {E}

theorem new_eq (files : Directory Bytes) (passphrase : String) :
    new E files passphrase = (deriveKek E passphrase).map fun kek => { files := files, kek := kek } := by
  unfold new deriveKek
  cases E.argon2 (stringBytes passphrase) stableSalt <;> rfl

variable (E) in
/-- The file has the key of an owner, and is closed to the others. -/
def StandsFor (aeadError : String) (calls : List (String × KeyCall)) (content : Bytes)
    (owned : ByteArr 32 × ByteArr 32) : Prop :=
  openKeyFile E owned.1 content = .loaded (some owned.2) ∧
    ∀ c ∈ calls, ∀ kek, deriveKek E c.1 = .ok kek → owned.1 ≠ kek →
      openKeyFile E kek content = .failed ("Decryption failure: " ++ aeadError)

variable (E) in
/-- The directory has the owned keys. -/
def MirrorsOwned (aeadError : String) (calls : List (String × KeyCall)) (files : Directory Bytes)
    (owned : OwnedKeys) : Prop :=
  Directory.Keeps (getPath E) (StandsFor E aeadError calls) files owned.keys

variable {aeadError : String} {calls : List (String × KeyCall)}

/-- A file that a call has written. -/
theorem standsFor_saved (hrefuses : RefusesOthers E aeadError calls) {c : String × KeyCall}
    (hc : c ∈ calls) {agentDid : String} {key : ByteArr 32} {salt : ByteArr 16} {nonce : ByteArr 24}
    {kek : ByteArr 32} {ciphertext : Bytes} (hcall : c.2 = .saveKey agentDid key salt nonce)
    (hkek : deriveKek E c.1 = .ok kek)
    (hencrypt : E.cipher.encrypt kek nonce key.val = .ok ciphertext) :
    StandsFor E aeadError calls (E.encode (keyFile salt nonce ciphertext)) (kek, key) := by
  refine ⟨openKeyFile_keyFile salt hencrypt, ?_⟩
  intro c' hc' kek' hkek' hne
  have hrefused := hrefuses c hc c' hc' agentDid key salt nonce kek kek' ciphertext hcall hkek hkek'
    hne hencrypt
  simp only [openKeyFile, parseKeyFile_keyFile, openKey, tryInto_val, hrefused]

/-! ## Calls -/

/-- The store behind a call. -/
theorem callOn_eq {passphrase : String} {kek : ByteArr 32} (hkek : deriveKek E passphrase = .ok kek)
    (files : Directory Bytes) (c : KeyCall) :
    callOn E files (passphrase, c) =
      ((FileKeyStore.call E passphrase { files := files, kek := kek } c).1.files,
        (FileKeyStore.call E passphrase { files := files, kek := kek } c).2) := by
  simp only [callOn, new_eq, hkek, Except.map]

/-- A key is loaded by its owner. -/
theorem MirrorsOwned.loadKey {files : Directory Bytes} {owned : OwnedKeys}
    (h : MirrorsOwned E aeadError calls files owned) {c : String × KeyCall} (hc : c ∈ calls)
    {kek : ByteArr 32} (hkek : deriveKek E c.1 = .ok kek) (agentDid : String) :
    FileKeyStore.loadKey E { files := files, kek := kek } agentDid =
      match owned.keys.lookup agentDid with
      | none => .loaded none
      | some (owner, key) =>
        if owner = kek then .loaded (some key)
        else .failed ("Decryption failure: " ++ aeadError) := by
  rcases h.lookup_cases agentDid with
    ⟨hfile, hkey⟩ | ⟨content, ⟨owner, key⟩, hfile, hkey, hopens, hcloses⟩
  · simp only [FileKeyStore.loadKey, hfile, hkey]
  · simp only [FileKeyStore.loadKey, hfile, hkey]
    -- the owner's passphrase opens the file, and every other one is refused
    by_cases howner : owner = kek
    · subst howner
      rw [if_pos rfl]
      exact hopens
    · rw [if_neg howner]
      exact hcloses c hc kek hkek howner

/-- **Step.** A call gets the answer of the map, and the directory goes on holding it. -/
theorem MirrorsOwned.call (hpath : Function.Injective (getPath E))
    (hrefuses : RefusesOthers E aeadError calls) {files : Directory Bytes} {owned : OwnedKeys}
    (h : MirrorsOwned E aeadError calls files owned) {c : String × KeyCall} (hc : c ∈ calls) :
    MirrorsOwned E aeadError calls (callOn E files c).1
        (ownedCall E ("Decryption failure: " ++ aeadError) owned c).1 ∧
      (callOn E files c).2 = (ownedCall E ("Decryption failure: " ++ aeadError) owned c).2 := by
  cases hkek : deriveKek E c.1 with
  | error e =>
    -- the passphrase derives no key, so neither side does anything
    simp only [callOn, ownedCall, new_eq, hkek, Except.map]
    exact ⟨h, trivial⟩
  | ok kek =>
    obtain ⟨passphrase, c⟩ := c
    rw [callOn_eq hkek]
    simp only [ownedCall, hkek]
    cases c with
    | saveKey agentDid key salt nonce =>
      obtain ⟨ciphertext, hencrypt, hsaved⟩ :=
        saveKey_eq (E := E) { files := files, kek := kek } agentDid key salt nonce
      simp only [FileKeyStore.call, hsaved]
      refine ⟨?_, rfl⟩
      apply Directory.Keeps.put h hpath (fun k => getPath_ne_tmp k agentDid)
      -- the new file opens for its owner and closes for everybody else
      exact standsFor_saved hrefuses hc rfl hkek hencrypt
    | loadKey agentDid =>
      simp only [FileKeyStore.call, h.loadKey hc hkek]
      split
      · exact ⟨h, rfl⟩
      · split <;> exact ⟨h, rfl⟩
    | deleteKey agentDid => exact ⟨Directory.Keeps.remove h hpath agentDid, rfl⟩
    | reopen =>
      simp only [FileKeyStore.call, new_eq, hkek, Except.map]
      exact ⟨h, trivial⟩

/-- **Shared directory**: from a fresh directory on, stores with any passphrases answer every
    sequence of calls as one map of owned keys does. -/
theorem shared_answers (E : KeyFileEnv) (hpath : Function.Injective (getPath E)) (aeadError : String)
    (calls : List (String × KeyCall)) (hrefuses : RefusesOthers E aeadError calls) :
    Lib.answers (callOn E) ∅ calls =
      Lib.answers (ownedCall E ("Decryption failure: " ++ aeadError)) ⟨∅⟩ calls := by
  apply answers_eq_of (R := MirrorsOwned E aeadError calls) (G := (· ∈ calls))
  · exact fun files owned c hc h => h.call hpath hrefuses hc
  · exact Directory.keeps_empty
  · exact fun c hc => hc

/-! ## A wrong passphrase -/

/-- The key that Argon2id derives from another passphrase. -/
def wrongKek : ByteArr 32 :=
  (tryInto 32 ((Base64.decodeText "hXsLYioyVtf6Sa9riujDg0D+65edRqFWNEBNp5mMPv8=").getD [])).getD
    zeroKey

/-- The environment of the samples with both passphrases. -/
noncomputable def sharedKeyFiles : KeyFileEnv :=
  { sampleKeyFiles with
    argon2 := fun passphrase salt =>
      if passphrase = stringBytes "wrong-passphrase" ∧ salt = stableSalt then .ok wrongKek
      else sampleArgon2 passphrase salt }

/-- A key is saved; another passphrase cannot load it, but deletes it. -/
def sharedCalls : List (String × KeyCall) :=
  [("correct-passphrase", .saveKey "did:mesh:agent-1" (sampleKey 7) sampleSalt (sampleNonce 1)),
    ("wrong-passphrase", .loadKey "did:mesh:agent-1"),
    ("correct-passphrase", .loadKey "did:mesh:agent-1"),
    ("wrong-passphrase", .deleteKey "did:mesh:agent-1"),
    ("correct-passphrase", .loadKey "did:mesh:agent-1")]

theorem deriveKek_correct : deriveKek sharedKeyFiles "correct-passphrase" = .ok sampleKek := by
  rfl

theorem deriveKek_wrong : deriveKek sharedKeyFiles "wrong-passphrase" = .ok wrongKek := by
  rfl

theorem refusesOthers_sharedCalls : RefusesOthers sharedKeyFiles "aead::Error" sharedCalls := by
  intro c hc c' hc' agentDid key salt nonce kek kek' ciphertext hcall hkek hkek' hne hencrypt
  -- one call saves a key
  obtain ⟨rfl, rfl, rfl⟩ : sampleKek = kek ∧ sampleKey 7 = key ∧ sampleNonce 1 = nonce := by
    simp only [sharedCalls, List.mem_cons, List.not_mem_nil, or_false] at hc
    rcases hc with rfl | rfl | rfl | rfl | rfl
    · obtain ⟨-, hkey, -, hnonce⟩ := KeyCall.saveKey.inj hcall
      exact ⟨Except.ok.inj (deriveKek_correct.symm.trans hkek), hkey, hnonce⟩
    all_goals cases hcall
  obtain rfl : wrongKek = kek' := by
    simp only [sharedCalls, List.mem_cons, List.not_mem_nil, or_false] at hc'
    rcases hc' with rfl | rfl | rfl | rfl | rfl
    · exact absurd (Except.ok.inj (deriveKek_correct.symm.trans hkek')) hne
    · exact Except.ok.inj (deriveKek_wrong.symm.trans hkek')
    · exact absurd (Except.ok.inj (deriveKek_correct.symm.trans hkek')) hne
    · exact Except.ok.inj (deriveKek_wrong.symm.trans hkek')
    · exact absurd (Except.ok.inj (deriveKek_correct.symm.trans hkek')) hne
  obtain rfl : firstSeal.ciphertext = ciphertext := Except.ok.inj hencrypt
  rfl

/-- The witness. -/
theorem shared_answers_wrong :
    Lib.answers (callOn sharedKeyFiles) ∅ sharedCalls =
      [.done, .failed "Decryption failure: aead::Error", .loaded (some (sampleKey 7)), .done,
        .loaded none] := by
  rw [shared_answers sharedKeyFiles getPath_sampleKeyFiles_injective "aead::Error" sharedCalls
    refusesOthers_sharedCalls]
  have hne : sampleKek ≠ wrongKek := by decide +kernel
  simp [sharedCalls, Lib.answers, ownedCall, deriveKek_correct, deriveKek_wrong, hne]

end FileKeyStore

end AgentGovernance.Mesh
