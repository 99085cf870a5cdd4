import AgentGovernance.Mesh.FileKeyStore

/-!
# Corrupted key files

`FileKeyStore::load_key` in `crates/core/mesh/src/identity/keystore.rs` passes the text of a file
through UTF-8, JSON and base64 to the decryption.  Every decoder on the way returns its error; the
nonce is the exception, as `XNonce::from_slice` panics on a slice of another length than 24.
-/

namespace AgentGovernance.Mesh

open AgentGovernance.Lib

/-- A call of `load_key` returned, with a result or with an error. -/
def KeyOutcome.Returned (outcome : KeyOutcome) : Prop :=
  (∃ e, outcome = .failed e) ∨ ∃ key, outcome = .loaded key

namespace FileKeyStore

variable {E : KeyFileEnv}

/-! ## The decoders -/

/-- A file is decoded when it holds a key file whose nonce and ciphertext are base64. -/
theorem parseKeyFile_eq_ok_iff {content nonceBytes ciphertext : Bytes} :
    parseKeyFile E content = .ok (nonceBytes, ciphertext) ↔
      ∃ keyFile, E.readFile content = .value keyFile ∧
        Base64.decodeText keyFile.nonce = some nonceBytes ∧
        Base64.decodeText keyFile.ciphertext = some ciphertext := by
  unfold parseKeyFile
  -- the text is parsed before its two fields are decoded
  cases E.readFile content with
  | unreadable e => simp
  | malformed e => simp
  | value keyFile =>
    simp only [JsonRead.value.injEq, exists_eq_left']
    cases Base64.decodeText keyFile.nonce with
    | none => simp
    | some nonce =>
      cases Base64.decodeText keyFile.ciphertext with
      | none => simp
      | some sealed => simp

/-- Decryption is reached with a nonce of 24 bytes, and then whatever it says is returned. -/
theorem openKey_returned_iff (kek : ByteArr 32) (nonceBytes ciphertext : Bytes) :
    (openKey E kek nonceBytes ciphertext).Returned ↔ nonceBytes.length = 24 := by
  unfold openKey
  cases hnonce : tryInto 24 nonceBytes with
  -- `from_slice` panics
  | none => simp [KeyOutcome.Returned, tryInto_eq_none.mp hnonce]
  | some nonce =>
    have hlength : nonceBytes.length = 24 := by
      rw [tryInto_eq_some.mp hnonce]
      exact nonce.property
    refine ⟨fun _ => hlength, fun _ => ?_⟩
    dsimp only
    cases E.cipher.decrypt kek nonce ciphertext with
    | error e => exact .inl ⟨_, rfl⟩
    | ok plaintext =>
      dsimp only
      -- a plaintext that is no key is an error and not a panic
      cases tryInto 32 plaintext with
      | none => exact .inl ⟨_, rfl⟩
      | some key => exact .inr ⟨_, rfl⟩

/-! ## Any content -/

variable (E) in
/-- A key file that can be decoded, with a nonce of another length. -/
def HasOddNonce (content : Bytes) : Prop :=
  ∃ keyFile nonceBytes ciphertext, E.readFile content = .value keyFile ∧
    Base64.decodeText keyFile.nonce = some nonceBytes ∧
    Base64.decodeText keyFile.ciphertext = some ciphertext ∧ nonceBytes.length ≠ 24

theorem hasOddNonce_iff {content : Bytes} :
    HasOddNonce E content ↔ ∃ nonceBytes ciphertext,
      parseKeyFile E content = .ok (nonceBytes, ciphertext) ∧ nonceBytes.length ≠ 24 := by
  simp only [parseKeyFile_eq_ok_iff]
  constructor
  · rintro ⟨keyFile, nonceBytes, ciphertext, hread, hnonce, hcipher, hlength⟩
    exact ⟨nonceBytes, ciphertext, ⟨keyFile, hread, hnonce, hcipher⟩, hlength⟩
  · rintro ⟨nonceBytes, ciphertext, ⟨keyFile, hread, hnonce, hcipher⟩, hlength⟩
    exact ⟨keyFile, nonceBytes, ciphertext, hread, hnonce, hcipher, hlength⟩

/-- **One file**: opening it returns exactly if it has no such nonce. -/
theorem openKeyFile_returned_iff (kek : ByteArr 32) (content : Bytes) :
    (openKeyFile E kek content).Returned ↔ ¬ HasOddNonce E content := by
  rw [hasOddNonce_iff, openKeyFile]
  cases parseKeyFile E content with
  | error e => simp [KeyOutcome.Returned]
  | ok parsed =>
    obtain ⟨nonceBytes, ciphertext⟩ := parsed
    dsimp only
    rw [openKey_returned_iff]
    simp

/-- A file that `save_key` wrote opens without a panic, under any key. -/
theorem not_hasOddNonce_keyFile (salt : ByteArr 16) (nonce : ByteArr 24) (ciphertext : Bytes) :
    ¬ HasOddNonce E (E.encode (keyFile salt nonce ciphertext)) := by
  rw [hasOddNonce_iff, parseKeyFile_keyFile]
  rintro ⟨nonceBytes, sealed, hparse, hlength⟩
  cases hparse
  exact hlength nonce.property

/-- **Loading returns** exactly if the file of the agent, when there is one, has no nonce of
    another length than 24 bytes. -/
theorem loadKey_returned_iff (E : KeyFileEnv) (store : FileKeyStore) (agentDid : String) :
    (store.loadKey E agentDid).Returned ↔
      ∀ content, store.files.lookup (getPath E agentDid) = some content →
        ¬ HasOddNonce E content := by
  unfold loadKey
  cases store.files.lookup (getPath E agentDid) with
  | none => simp [KeyOutcome.Returned]
  | some content => simp [openKeyFile_returned_iff]

/-! ## A file cut short -/

/-- The key file of the first key, with three bytes left of its nonce. -/
def cutKeyFile : EncryptedKeyFile where
  salt := Base64.encodeText sampleSalt.val
  nonce := "AQEB"
  ciphertext := Base64.encodeText firstSeal.ciphertext

/-- The text of this file is well-formed JSON, and its fields are well-formed base64. -/
theorem hasOddNonce_cutKeyFile :
    HasOddNonce sampleKeyFiles (sampleKeyFiles.encode cutKeyFile) :=
  ⟨cutKeyFile, [1, 1, 1], firstSeal.ciphertext, sampleKeyFiles.readFile_encode _,
    by decide +kernel, Base64.decodeText_encodeText _, by decide⟩

noncomputable def cutStore : FileKeyStore where
  files := (∅ : Directory Bytes).insert (getPath sampleKeyFiles "did:mesh:agent-1")
    (sampleKeyFiles.encode cutKeyFile)
  kek := sampleKek

/-- Loading the key panics. -/
theorem loadKey_not_returned :
    ¬ ∀ (E : KeyFileEnv) (store : FileKeyStore) (agentDid : String),
      (store.loadKey E agentDid).Returned := by
  intro h
  have hreturned := h sampleKeyFiles cutStore "did:mesh:agent-1"
  have hlookup : cutStore.files.lookup (getPath sampleKeyFiles "did:mesh:agent-1") =
      some (sampleKeyFiles.encode cutKeyFile) := AList.lookup_insert _
  rw [loadKey, hlookup] at hreturned
  -- the decryption is never asked
  exact (openKeyFile_returned_iff _ _).mp hreturned hasOddNonce_cutKeyFile

end FileKeyStore

end AgentGovernance.Mesh
