import AgentGovernance.Daemon.Server
import AgentGovernance.Lib.Runs
import AgentGovernance.McpGovernance.FilePolicyStore

/-!
# Signing keys on disk

`FileKeyStore` in `crates/core/mesh/src/identity/keystore.rs`: one JSON file for each agent, with
the key encrypted under a key that is derived from the passphrase.

It answers as `MemoryKeyStore` does, also when it is dropped and opened again:
`answers_as_memory`.
-/

namespace AgentGovernance.Mesh

open AgentGovernance.Lib
open AgentGovernance.Daemon (MemoryKeyStore)

/-! ## What the store uses -/

/-- `XChaCha20Poly1305`: a key, a nonce and a text. -/
structure KeyCipher where
  /-- `encrypt`, with the text of its error. -/
  encrypt : ByteArr 32 → ByteArr 24 → Bytes → Except String Bytes
  /-- `decrypt`, with the text of its error. -/
  decrypt : ByteArr 32 → ByteArr 24 → Bytes → Except String Bytes
  /-- A signing key is short enough to be encrypted. -/
  encrypt_key : ∀ kek nonce (key : ByteArr 32), ∃ ciphertext,
    encrypt kek nonce key.val = .ok ciphertext
  decrypt_encrypt : ∀ kek nonce plaintext ciphertext,
    encrypt kek nonce plaintext = .ok ciphertext → decrypt kek nonce ciphertext = .ok plaintext

structure EncryptedKeyFile where
  salt : String
  nonce : String
  ciphertext : String

/-- What the store uses from outside. -/
structure KeyFileEnv where
  /-- `Sha256::digest`. -/
  sha256 : Bytes → Bytes
  /-- `Argon2::hash_password_into` of a passphrase and a salt, with the text of its error. -/
  argon2 : Bytes → Bytes → Except String (ByteArr 32)
  cipher : KeyCipher
  /-- `serde_json::to_string_pretty`. -/
  encode : EncryptedKeyFile → Bytes
  /-- `fs::read_to_string` and `serde_json::from_str`. -/
  readFile : Bytes → JsonRead EncryptedKeyFile
  readFile_encode : ∀ keyFile, readFile (encode keyFile) = .value keyFile
  /-- The error of base64 on a text that it does not decode. -/
  decodeError : String → String
  /-- The error of a rename without a source. -/
  notFound : String

/-- `FileKeyStore`, with the files of its directory. -/
structure FileKeyStore where
  files : Directory Bytes
  kek : ByteArr 32

/-- A call of `trait KeyStore` with the random bytes it draws, or dropping the store and opening
    it again on the same directory. -/
inductive KeyCall where
  | saveKey (agentDid : String) (key : ByteArr 32) (salt : ByteArr 16) (nonce : ByteArr 24)
  | loadKey (agentDid : String)
  | deleteKey (agentDid : String)
  | reopen

/-- How a call ends. -/
inductive KeyOutcome where
  /-- A slice has the wrong length for a nonce. -/
  | panicked
  | failed (e : String)
  | done
  | loaded (key : Option (ByteArr 32))

/-- A call that returns nothing. -/
def KeyOutcome.ofUnit : Except String Unit → KeyOutcome
  | .error e => .failed e
  | .ok () => .done

/-- `MemoryKeyStore` as a `dyn KeyStore`; there is nothing to reopen. -/
def MemoryKeyStore.call (store : MemoryKeyStore) : KeyCall → MemoryKeyStore × KeyOutcome
  | .saveKey agentDid key _ _ => (store.saveKey agentDid key, .done)
  | .loadKey agentDid => (store, .loaded (store.loadKey agentDid))
  | .deleteKey agentDid => (store.deleteKey agentDid, .done)
  | .reopen => (store, .done)

namespace FileKeyStore

variable (E : KeyFileEnv)

/-! ## The store -/

/-- The fixed salt of `new`. -/
def stableSalt : Bytes :=
  stringBytes "microsoft-agt-rust-stable-salt-01"

/-- `new` on a directory. -/
def new (files : Directory Bytes) (passphrase : String) : Except String FileKeyStore :=
  match E.argon2 (stringBytes passphrase) stableSalt with
  | .error e => .error ("KDF failure: " ++ e)
  | .ok kek => .ok { files := files, kek := kek }

def getPath (agentDid : String) : FileName :=
  hashedName E.sha256 agentDid "json"

/-- The file that `save_key` writes around a ciphertext. -/
def keyFile (salt : ByteArr 16) (nonce : ByteArr 24) (ciphertext : Bytes) : EncryptedKeyFile where
  salt := Base64.encodeText salt.val
  nonce := Base64.encodeText nonce.val
  ciphertext := Base64.encodeText ciphertext

def saveKey (store : FileKeyStore) (agentDid : String) (key : ByteArr 32) (salt : ByteArr 16)
    (nonce : ByteArr 24) : FileKeyStore × Except String Unit :=
  let path := getPath E agentDid
  match E.cipher.encrypt store.kek nonce key.val with
  | .error e => (store, .error ("Encryption failure: " ++ e))
  | .ok ciphertext =>
    -- the salt is stored beside the ciphertext, but the key is derived without it
    let tmpPath := path.withExtension "tmp"
    let files : Directory Bytes := store.files.insert tmpPath
      (E.encode (keyFile salt nonce ciphertext))
    match files.rename tmpPath path with
    | none => ({ store with files := files }, .error E.notFound)
    | some files => ({ store with files := files }, .ok ())

/-- The first half of `load_key`: the nonce and the ciphertext of a file. -/
def parseKeyFile (content : Bytes) : Except String (Bytes × Bytes) :=
  match E.readFile content with
  | .unreadable e => .error e
  | .malformed e => .error e
  | .value keyFile =>
    -- the salt of the file is not looked at
    match Base64.decodeText keyFile.nonce with
    | none => .error (E.decodeError keyFile.nonce)
    | some nonceBytes =>
      match Base64.decodeText keyFile.ciphertext with
      | none => .error (E.decodeError keyFile.ciphertext)
      | some ciphertext => .ok (nonceBytes, ciphertext)

/-- The second half of `load_key`: decryption. -/
def openKey (kek : ByteArr 32) (nonceBytes ciphertext : Bytes) : KeyOutcome :=
  match tryInto 24 nonceBytes with
  -- `XNonce::from_slice` asserts the length
  | none => .panicked
  | some nonce =>
    match E.cipher.decrypt kek nonce ciphertext with
    | .error e => .failed ("Decryption failure: " ++ e)
    | .ok plaintext =>
      match tryInto 32 plaintext with
      | none => .failed "Invalid key length"
      | some key => .loaded (some key)

/-- `load_key` on the text of a file. -/
def openKeyFile (kek : ByteArr 32) (content : Bytes) : KeyOutcome :=
  match parseKeyFile E content with
  | .error e => .failed e
  | .ok (nonceBytes, ciphertext) => openKey E kek nonceBytes ciphertext

def loadKey (store : FileKeyStore) (agentDid : String) : KeyOutcome :=
  match store.files.lookup (getPath E agentDid) with
  | none => .loaded none
  | some content => openKeyFile E store.kek content

def deleteKey (store : FileKeyStore) (agentDid : String) : FileKeyStore :=
  { store with files := store.files.remove (getPath E agentDid) }

/-- `FileKeyStore` as a `dyn KeyStore`, opened with a passphrase. -/
def call (passphrase : String) (store : FileKeyStore) : KeyCall → FileKeyStore × KeyOutcome
  | .saveKey agentDid key salt nonce =>
    ((store.saveKey E agentDid key salt nonce).1,
      .ofUnit (store.saveKey E agentDid key salt nonce).2)
  | .loadKey agentDid => (store, store.loadKey E agentDid)
  | .deleteKey agentDid => (store.deleteKey E agentDid, .done)
  | .reopen =>
    match new E store.files passphrase with
    | .error e => (store, .failed e)
    | .ok store => (store, .done)

/-! ## One file -/

variable {E}

@[simp] theorem parseKeyFile_keyFile (salt : ByteArr 16) (nonce : ByteArr 24)
    (ciphertext : Bytes) :
    parseKeyFile E (E.encode (keyFile salt nonce ciphertext)) = .ok (nonce.val, ciphertext) := by
  simp only [parseKeyFile, E.readFile_encode, keyFile, Base64.decodeText_encodeText]

/-- What was encrypted is decrypted. -/
theorem openKey_encrypt {kek key : ByteArr 32} {nonce : ByteArr 24} {ciphertext : Bytes}
    (h : E.cipher.encrypt kek nonce key.val = .ok ciphertext) :
    openKey E kek nonce.val ciphertext = .loaded (some key) := by
  simp only [openKey, tryInto_val, E.cipher.decrypt_encrypt _ _ _ _ h]

/-- A file that was written around an encrypted key opens to this key. -/
theorem openKeyFile_keyFile {kek key : ByteArr 32} (salt : ByteArr 16) {nonce : ByteArr 24}
    {ciphertext : Bytes} (h : E.cipher.encrypt kek nonce key.val = .ok ciphertext) :
    openKeyFile E kek (E.encode (keyFile salt nonce ciphertext)) = .loaded (some key) := by
  simp only [openKeyFile, parseKeyFile_keyFile, openKey_encrypt h]

/-- A file opens to the key that its ciphertext decrypts to. -/
theorem openKeyFile_eq_loaded_iff {kek key : ByteArr 32} {content : Bytes} :
    openKeyFile E kek content = .loaded (some key) ↔
      ∃ nonce ciphertext, parseKeyFile E content = .ok (Subtype.val nonce, ciphertext) ∧
        E.cipher.decrypt kek nonce ciphertext = .ok key.val := by
  constructor
  · -- going through the branches of the source, only the last one loads
    intro h
    unfold openKeyFile at h
    split at h
    · cases h
    next nonceBytes ciphertext hparse =>
      unfold openKey at h
      split at h
      · cases h
      next nonce hnonce =>
        split at h
        · cases h
        next plaintext hdec =>
          split at h
          · cases h
          next k hk =>
            obtain rfl : k = key := Option.some.inj (KeyOutcome.loaded.inj h)
            refine ⟨nonce, ciphertext, ?_, ?_⟩
            · rw [← tryInto_eq_some.mp hnonce]
              exact hparse
            · rw [← tryInto_eq_some.mp hk]
              exact hdec
  · rintro ⟨nonce, ciphertext, hparse, hdec⟩
    simp only [openKeyFile, hparse, openKey, tryInto_val, hdec]

/-- Saving puts a file that opens to the key. -/
theorem saveKey_eq (store : FileKeyStore) (agentDid : String) (key : ByteArr 32)
    (salt : ByteArr 16) (nonce : ByteArr 24) :
    ∃ ciphertext, E.cipher.encrypt store.kek nonce key.val = .ok ciphertext ∧
      store.saveKey E agentDid key salt nonce =
        ({ store with
            files := store.files.put ((getPath E agentDid).withExtension "tmp")
              (getPath E agentDid) (E.encode (keyFile salt nonce ciphertext)) }, .ok ()) := by
  obtain ⟨ciphertext, henc⟩ := E.cipher.encrypt_key store.kek nonce key
  refine ⟨ciphertext, henc, ?_⟩
  simp only [saveKey, henc, Directory.rename_insert]

@[simp] theorem saveKey_kek (store : FileKeyStore) (agentDid : String) (key : ByteArr 32)
    (salt : ByteArr 16) (nonce : ByteArr 24) :
    (store.saveKey E agentDid key salt nonce).1.kek = store.kek := by
  obtain ⟨_, -, heq⟩ := saveKey_eq (E := E) store agentDid key salt nonce
  rw [heq]

variable (E) in
/-- The store is what opening its directory with the passphrase gives. -/
def Opened (passphrase : String) (store : FileKeyStore) : Prop :=
  new E store.files passphrase = .ok store

theorem opened_of_new {passphrase : String} {files : Directory Bytes} {store : FileKeyStore}
    (h : new E files passphrase = .ok store) : store.files = files ∧ Opened E passphrase store := by
  have hfiles : store.files = files := by
    unfold new at h
    split at h
    · cases h
    · cases h
      rfl
  refine ⟨hfiles, ?_⟩
  rw [Opened, hfiles]
  exact h

/-- The derived key depends on the passphrase alone. -/
theorem Opened.withFiles {passphrase : String} {store : FileKeyStore} (h : Opened E passphrase store)
    (files : Directory Bytes) : Opened E passphrase { store with files := files } := by
  unfold Opened new at h ⊢
  dsimp only
  split at h
  · cases h
  next kek _ =>
    have hkek : kek = store.kek := congrArg FileKeyStore.kek (Except.ok.inj h)
    rw [hkek]

/-- Reopening a store changes nothing. -/
theorem Opened.reopen {passphrase : String} {store : FileKeyStore} (h : Opened E passphrase store) :
    store.call E passphrase .reopen = (store, .done) := by
  simp only [FileKeyStore.call]
  rw [h]

/-! ## The map in the directory -/

/-- A file that opens to a key. -/
def Stands (kek : ByteArr 32) (content : Bytes) (key : ByteArr 32) : Prop :=
  openKeyFile E kek content = .loaded (some key)

variable (E) in
/-- The directory has the keys of the map. -/
structure Mirrors (passphrase : String) (store : FileKeyStore) (memory : MemoryKeyStore) :
    Prop where
  opened : Opened E passphrase store
  keeps : Directory.Keeps (getPath E) (Stands (E := E) store.kek) store.files memory.keys

theorem getPath_ne_tmp (did did' : String) :
    getPath E did ≠ (getPath E did').withExtension "tmp" := by
  apply FileName.ne_withExtension
  simp [getPath, hashedName]

theorem Mirrors.loadKey {passphrase : String} {store : FileKeyStore} {memory : MemoryKeyStore}
    (h : Mirrors E passphrase store memory) (agentDid : String) :
    store.loadKey E agentDid = .loaded (memory.loadKey agentDid) := by
  rcases h.keeps.lookup_cases agentDid with ⟨hfile, hkey⟩ | ⟨content, key, hfile, hkey, hstands⟩
  · simp only [FileKeyStore.loadKey, MemoryKeyStore.loadKey, hfile, hkey]
  · simp only [FileKeyStore.loadKey, MemoryKeyStore.loadKey, hfile, hkey]
    exact hstands

/-- Saving writes the map, whatever the random bytes are. -/
theorem Mirrors.saveKey {passphrase : String} {store : FileKeyStore} {memory : MemoryKeyStore}
    (h : Mirrors E passphrase store memory) (hpath : Function.Injective (getPath E))
    (agentDid : String) (key : ByteArr 32) (salt : ByteArr 16) (nonce : ByteArr 24) :
    Mirrors E passphrase (store.saveKey E agentDid key salt nonce).1
        (memory.saveKey agentDid key) ∧
      (store.saveKey E agentDid key salt nonce).2 = .ok () := by
  obtain ⟨ciphertext, henc, heq⟩ := saveKey_eq (E := E) store agentDid key salt nonce
  -- which ciphertext it is does not matter, as it decrypts to the key
  have hstands : Stands (E := E) store.kek (E.encode (keyFile salt nonce ciphertext)) key :=
    openKeyFile_keyFile salt henc
  rw [heq]
  refine ⟨⟨h.opened.withFiles _, ?_⟩, rfl⟩
  exact h.keeps.put hpath (fun k => getPath_ne_tmp k agentDid) hstands agentDid

theorem Mirrors.deleteKey {passphrase : String} {store : FileKeyStore} {memory : MemoryKeyStore}
    (h : Mirrors E passphrase store memory) (hpath : Function.Injective (getPath E))
    (agentDid : String) :
    Mirrors E passphrase (store.deleteKey E agentDid) (memory.deleteKey agentDid) :=
  ⟨h.opened.withFiles _, h.keeps.remove hpath agentDid⟩

/-! ## Calls -/

/-- **Step.** A call gets the same answer and keeps directory and map together. -/
theorem Mirrors.call {passphrase : String} {store : FileKeyStore} {memory : MemoryKeyStore}
    (h : Mirrors E passphrase store memory) (hpath : Function.Injective (getPath E)) (c : KeyCall) :
    Mirrors E passphrase (store.call E passphrase c).1 (MemoryKeyStore.call memory c).1 ∧
      (store.call E passphrase c).2 = (MemoryKeyStore.call memory c).2 := by
  cases c with
  | saveKey agentDid key salt nonce =>
    obtain ⟨hnext, hok⟩ := h.saveKey hpath agentDid key salt nonce
    refine ⟨hnext, ?_⟩
    simp only [FileKeyStore.call, hok]
    rfl
  | loadKey agentDid => exact ⟨h, h.loadKey agentDid⟩
  | deleteKey agentDid => exact ⟨h.deleteKey hpath agentDid, rfl⟩
  | reopen =>
    -- reopening finds the same salt, so the same key-encryption key
    rw [h.opened.reopen]
    exact ⟨h, rfl⟩

theorem mirrors_new {passphrase : String} {store : FileKeyStore}
    (hnew : new E ∅ passphrase = .ok store) : Mirrors E passphrase store { keys := ∅ } := by
  obtain ⟨hfiles, hopened⟩ := opened_of_new hnew
  refine ⟨hopened, ?_⟩
  rw [hfiles]
  exact Directory.keeps_empty

variable (E)

/-- **Key stores.** From a fresh directory on, the store on disk gives the same answers as the one
    in memory to every sequence of calls, also when it is opened again in between. -/
theorem answers_as_memory {passphrase : String} {store : FileKeyStore}
    (hnew : new E ∅ passphrase = .ok store) (hpath : Function.Injective (getPath E))
    (calls : List KeyCall) :
    Lib.answers (call E passphrase) store calls =
      Lib.answers MemoryKeyStore.call { keys := ∅ } calls :=
  answers_eq (R := Mirrors E passphrase) (fun _ _ c h => h.call hpath c) (mirrors_new hnew) calls

end FileKeyStore

/-! ## The serde text of a key file -/

/-- `serde_json::to_string_pretty` of `EncryptedKeyFile`. -/
def keyFileJson : PrefixCode Char EncryptedKeyFile :=
  (((jsonString.tagged (prettyKey '{' 2 "salt")).pair
    ((jsonString.tagged (prettyKey ',' 2 "nonce")).pair
    (jsonString.tagged (prettyKey ',' 2 "ciphertext")))).ended (newLine 0 ++ ['}'])).comap
    (fun f => (f.salt, f.nonce, f.ciphertext))
    (fun f g h => by
      cases f
      cases g
      simp_all)

/-- The environment with serde's texts. -/
noncomputable def KeyFileEnv.serde (sha256 : Bytes → Bytes)
    (argon2 : Bytes → Bytes → Except String (ByteArr 32)) (cipher : KeyCipher) : KeyFileEnv where
  sha256 := sha256
  argon2 := argon2
  cipher := cipher
  encode := (utf8.spell keyFileJson).enc
  readFile := keyFileJson.readFile
  readFile_encode := keyFileJson.readFile_enc
  decodeError _ := "Invalid padding"
  notFound := "No such file or directory (os error 2)"

/-! ## Recorded ciphertexts -/

/-- A recorded encryption of a signing key. -/
structure SealVector where
  kek : ByteArr 32
  nonce : ByteArr 24
  plaintext : Bytes
  ciphertext : Bytes
  deriving DecidableEq

/-- What stands before a text whose encryption was not recorded. -/
def sealMark : Bytes :=
  List.replicate 49 0

/-- The cipher of a table of recorded encryptions.  Any other text gets a ciphertext that is
    longer than every recorded one. -/
def sealVectors (table : List SealVector) (hlen : ∀ v ∈ table, v.ciphertext.length = 48)
    (hnodup : (table.map SealVector.ciphertext).Nodup) : KeyCipher where
  encrypt kek nonce plaintext :=
    match table.find? fun v => v.kek = kek ∧ v.nonce = nonce ∧ v.plaintext = plaintext with
    | some v => .ok v.ciphertext
    | none => .ok (sealMark ++ plaintext)
  decrypt kek nonce ciphertext :=
    match table.find? fun v => v.kek = kek ∧ v.nonce = nonce ∧ v.ciphertext = ciphertext with
    | some v => .ok v.plaintext
    | none =>
      if sealMark <+: ciphertext then .ok (ciphertext.drop sealMark.length)
      else .error "aead::Error"
  encrypt_key kek nonce key := by
    split
    · exact ⟨_, rfl⟩
    · exact ⟨_, rfl⟩
  decrypt_encrypt kek nonce plaintext ciphertext h := by
    split at h
    next v hv =>
      -- a recorded text: its entry is the only one with this ciphertext
      obtain rfl : v.ciphertext = ciphertext := Except.ok.inj h
      have hmem : v ∈ table := List.mem_of_find?_eq_some hv
      have hfound := List.find?_some hv
      obtain ⟨hkek, hnonce, hplain⟩ := of_decide_eq_true hfound
      split
      next w hw =>
        have hfound := List.find?_some hw
        obtain ⟨-, -, hsame⟩ := of_decide_eq_true hfound
        obtain rfl : w = v :=
          List.inj_on_of_nodup_map hnodup (List.mem_of_find?_eq_some hw) hmem hsame
        rw [hplain]
      next hnone =>
        have hno := List.find?_eq_none.mp hnone v hmem
        simp [hkek, hnonce] at hno
    next =>
      obtain rfl : sealMark ++ plaintext = ciphertext := Except.ok.inj h
      split
      next w hw =>
        -- a marked text is too long for the table
        have hfound := List.find?_some hw
        obtain ⟨-, -, hsame⟩ := of_decide_eq_true hfound
        have hshort := hlen w (List.mem_of_find?_eq_some hw)
        rw [hsame] at hshort
        simp [sealMark] at hshort
      next =>
        rw [if_pos (List.prefix_append _ _), List.drop_left]

namespace FileKeyStore

open Compliance (digestVectors)
open McpGovernance.FilePolicyStore (didDigests didDigests_injective)

/-- The key that Argon2id derives from the passphrase of the sample. -/
def sampleKek : ByteArr 32 :=
  (tryInto 32 ((Base64.decodeText "uS1M0quVdzzep4ev3VRHPi41e3sstDUTKY1JrLs243I=").getD [])).getD
    zeroKey

def sampleKey (n : UInt8) : ByteArr 32 :=
  .fill n

def sampleNonce (n : UInt8) : ByteArr 24 :=
  .fill n

def sampleSalt : ByteArr 16 :=
  .fill 3

/-- XChaCha20-Poly1305 of the first key. -/
def firstSeal : SealVector where
  kek := sampleKek
  nonce := sampleNonce 1
  plaintext := (sampleKey 7).val
  ciphertext := (Base64.decodeText
    "otyqAJmDOpqn8yctXWPW9OampWdb2skQ0NFPhEBa6oIKKOwT/FXEeHU4eQnejdMS").getD []

/-- XChaCha20-Poly1305 of the second key. -/
def secondSeal : SealVector where
  kek := sampleKek
  nonce := sampleNonce 2
  plaintext := (sampleKey 9).val
  ciphertext := (Base64.decodeText
    "hvjnYUSXSXd2eEHpdwE7fRrH8Nj4rC3xcLbFfBDwFNmdYZT24vjSEq6LDBnStqB6").getD []

def sampleCipher : KeyCipher :=
  sealVectors [firstSeal, secondSeal] (by decide +kernel) (by decide +kernel)

theorem encrypt_secondSeal :
    sampleCipher.encrypt sampleKek (sampleNonce 2) (sampleKey 9).val = .ok secondSeal.ciphertext := by
  rfl

/-- The recorded derivation; any other passphrase is given the zero key. -/
def sampleArgon2 (passphrase salt : Bytes) : Except String (ByteArr 32) :=
  if passphrase = stringBytes "correct-passphrase" ∧ salt = stableSalt then .ok sampleKek
  else .ok zeroKey

/-- The environment with the recorded digests, derivation and ciphertexts. -/
noncomputable def sampleKeyFiles : KeyFileEnv :=
  .serde (digestVectors didDigests) sampleArgon2 sampleCipher

theorem getPath_sampleKeyFiles_injective : Function.Injective (getPath sampleKeyFiles) :=
  hashedName_injective didDigests_injective "json"

/-- The store that is opened with the passphrase of the sample. -/
def sampleStore : FileKeyStore where
  files := ∅
  kek := sampleKek

theorem new_sampleKeyFiles : new sampleKeyFiles ∅ "correct-passphrase" = .ok sampleStore :=
  rfl

/-- A key is saved, read by a store that was opened again, replaced and deleted. -/
def sampleCalls : List KeyCall :=
  [.saveKey "did:mesh:agent-1" (sampleKey 7) sampleSalt (sampleNonce 1), .reopen,
    .loadKey "did:mesh:agent-1",
    .saveKey "did:mesh:agent-1" (sampleKey 9) sampleSalt (sampleNonce 2),
    .loadKey "did:mesh:agent-1", .deleteKey "did:mesh:agent-1", .loadKey "did:mesh:agent-1",
    .loadKey "did:mesh:agent-2"]

theorem answers_as_memory_sample :
    Lib.answers (call sampleKeyFiles "correct-passphrase") sampleStore sampleCalls =
      Lib.answers MemoryKeyStore.call { keys := ∅ } sampleCalls :=
  answers_as_memory sampleKeyFiles new_sampleKeyFiles getPath_sampleKeyFiles_injective sampleCalls

end FileKeyStore

end AgentGovernance.Mesh
