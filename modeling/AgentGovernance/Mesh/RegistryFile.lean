import AgentGovernance.Mesh.Registry

/-!
# The registry on disk

`FileAgentRegistry` in `crates/core/mesh/src/identity/registry.rs`: a `MemoryAgentRegistry` whose
registrations are also appended to a file, one JSON line each, and read again by `open`.

`reopen_agrees` says that the file and the memory are two forms of one history.
-/

namespace AgentGovernance.Mesh

open AgentGovernance.Lib

/-! ## Records -/

structure RegistryRecord where
  identity : AgentIdentity
  ring : PrivilegeRing

/-- A record as the file holds it: `#[serde(skip)]` drops the private key. -/
abbrev StoredRecord := { record : RegistryRecord // record.identity.privateKey = none }

namespace RegistryRecord

/-- What is written of a record. -/
def stored (record : RegistryRecord) : StoredRecord :=
  ⟨{ record with identity := { record.identity with privateKey := none } }, rfl⟩

/-- The key of the record in the registry. -/
def did (record : RegistryRecord) : String :=
  record.identity.did.toText

/-- What the registry keeps of the record. -/
def entry (record : RegistryRecord) : String × PrivilegeRing :=
  (record.identity.publicKey, record.ring)

end RegistryRecord

/-- What the registry uses from outside: `serde_json` and the texts of errors. -/
structure RegistryEnv where
  records : TextCodec StoredRecord
  /-- A record is written as an object. -/
  encode_object : ∀ r, ∃ text, records.encode r = openBrace :: text
  /-- Nothing but whitespace may follow a record on its line. -/
  decode_trailing : ∀ a b rest, records.decode (records.encode a ++ records.encode b ++ rest) = none
  /-- The error of a line that does not parse. -/
  parseError : Bytes → String
  /-- The error of a file that cannot be written. -/
  writeError : String

/-! ## Opening and registering -/

/-- `FileAgentRegistry`, with the content of the file at its path. -/
structure FileAgentRegistry where
  memory : MemoryAgentRegistry
  file : Option Bytes

/-- How the append to the file ends. -/
inductive PersistOutcome where
  | ok
  | notOpened
  | failedAfter (n : Nat)

namespace FileAgentRegistry

variable (E : RegistryEnv)

/-- The loop of `open` over the lines. -/
def replay : List Bytes → MemoryAgentRegistry → Except String MemoryAgentRegistry
  | [], memory => .ok memory
  | line :: rest, memory =>
    if isBlank line then replay rest memory
    else
      match E.records.decode line with
      | none => .error (E.parseError line)
      | some record => replay rest (memory.register record.val.identity record.val.ring)

end FileAgentRegistry

/-- `FileAgentRegistry::open`; `none` is a path where no file exists. -/
def FileAgentRegistry.open (E : RegistryEnv) (file : Option Bytes) (registryIdentity : ByteArr 32)
    (registryDid : String) : Except String FileAgentRegistry :=
  match file with
  | none => .ok { memory := .new registryIdentity registryDid, file := none }
  | some bytes =>
    (replay E (lines bytes) (.new registryIdentity registryDid)).map fun memory =>
      { memory := memory, file := some bytes }

namespace FileAgentRegistry

variable (E : RegistryEnv)

/-- The first half of `register`: the memory. -/
def remember (r : FileAgentRegistry) (record : RegistryRecord) : FileAgentRegistry :=
  { r with memory := r.memory.register record.identity record.ring }

/-- Bytes are appended to the file, which is created if it does not exist. -/
def appendBytes (r : FileAgentRegistry) (bytes : Bytes) : FileAgentRegistry :=
  { r with file := some (r.file.getD [] ++ bytes) }

/-- `register`.  The text and the line feed are two writes. -/
def register (r : FileAgentRegistry) (record : RegistryRecord) (o : PersistOutcome) :
    FileAgentRegistry × Except String Unit :=
  let r := r.remember record
  let json := E.records.encode record.stored
  match o with
  | .ok => ((r.appendBytes json).appendBytes [newline], .ok ())
  | .notOpened => (r, .error E.writeError)
  | .failedAfter n => (r.appendBytes ((json ++ [newline]).take n), .error E.writeError)

def getRing (r : FileAgentRegistry) (did : String) : Option PrivilegeRing :=
  r.memory.getRing did

def isRegistered (r : FileAgentRegistry) (did : String) : Bool :=
  r.memory.isRegistered did

def getAttestation (C : Crypto) (r : FileAgentRegistry) (did : String)
    (issued expiryBase : DateTime) : Option SignedAttestation :=
  r.memory.getAttestation C did issued expiryBase

/-- The public key in `get_attestation`. -/
def attestedKey (C : Crypto) (r : FileAgentRegistry) (did : String)
    (issued expiryBase : DateTime) : Option String :=
  (r.getAttestation C did issued expiryBase).map (·.claim.publicKeyB64)

/-- Two registries give the same answers about a DID, whenever they are asked. -/
structure SameAnswers (r r' : FileAgentRegistry) (did : String) : Prop where
  ring : r.getRing did = r'.getRing did
  registered : r.isRegistered did = r'.isRegistered did
  publicKey : ∀ C issued expiryBase issued' expiryBase',
    r.attestedKey C did issued expiryBase = r'.attestedKey C did issued' expiryBase'

theorem attestedKey_eq (C : Crypto) (r : FileAgentRegistry) (did : String)
    (issued expiryBase : DateTime) :
    r.attestedKey C did issued expiryBase = (r.memory.entries.lookup did).map (·.1) := by
  unfold attestedKey getAttestation MemoryAgentRegistry.getAttestation
  rw [Option.map_map]
  rfl

/-- What `open` gives for a path without a file. -/
def fresh (registryIdentity : ByteArr 32) (registryDid : String) : FileAgentRegistry where
  memory := .new registryIdentity registryDid
  file := none

/-- The answers are those of the entry. -/
theorem sameAnswers_of_lookup {r r' : FileAgentRegistry} {did : String}
    (h : r.memory.entries.lookup did = r'.memory.entries.lookup did) : SameAnswers r r' did where
  ring := by simp only [getRing, MemoryAgentRegistry.getRing, h]
  registered := by simp only [isRegistered, MemoryAgentRegistry.isRegistered, h]
  publicKey C issued expiryBase issued' expiryBase' := by
    rw [attestedKey_eq, attestedKey_eq, h]

/-- The answers tell the entry. -/
theorem lookup_of_sameAnswers {r r' : FileAgentRegistry} {did : String} (h : SameAnswers r r' did) :
    r.memory.entries.lookup did = r'.memory.entries.lookup did := by
  -- the ring and the key make up the entry
  have hring : (r.memory.entries.lookup did).map (·.2) = (r'.memory.entries.lookup did).map (·.2) :=
    h.ring
  have hkey := h.publicKey (.ofVectors ⟨registrySeed, registryKey, [], []⟩) 0 0 0 0
  rw [attestedKey_eq, attestedKey_eq] at hkey
  cases hl : r.memory.entries.lookup did with
  | none => cases hl' : r'.memory.entries.lookup did <;> simp_all
  | some e =>
    cases hl' : r'.memory.entries.lookup did with
    | none => simp_all
    | some e' =>
      simp only [hl, hl', Option.map_some, Option.some.injEq] at hring hkey
      rw [Prod.ext hkey hring]

end FileAgentRegistry

/-! ## The last registration of a DID -/

/-- The entry of the last of the records with the DID. -/
def lastRegistration (did : String) : List RegistryRecord → Option (String × PrivilegeRing)
  | [] => none
  | record :: rest =>
    (lastRegistration did rest).or (if record.did = did then some record.entry else none)

def MemoryAgentRegistry.registerRecords (memory : MemoryAgentRegistry)
    (records : List RegistryRecord) : MemoryAgentRegistry :=
  memory.registerAll (records.map fun record => (record.identity, record.ring))

namespace MemoryAgentRegistry

@[simp] theorem registerRecords_nil (memory : MemoryAgentRegistry) :
    memory.registerRecords [] = memory := rfl

@[simp] theorem registerRecords_cons (memory : MemoryAgentRegistry) (record : RegistryRecord)
    (records : List RegistryRecord) :
    memory.registerRecords (record :: records) =
      (memory.register record.identity record.ring).registerRecords records := rfl

theorem registerRecords_append (memory : MemoryAgentRegistry)
    (records more : List RegistryRecord) :
    memory.registerRecords (records ++ more) =
      (memory.registerRecords records).registerRecords more := by
  simp only [registerRecords, registerAll, List.map_append, List.foldl_append]

theorem lookup_register (memory : MemoryAgentRegistry) (record : RegistryRecord) (did : String) :
    (memory.register record.identity record.ring).entries.lookup did =
      (if record.did = did then some record.entry else none).or (memory.entries.lookup did) := by
  by_cases h : record.did = did
  · subst h
    rw [if_pos rfl, Option.some_or]
    exact lookup_register_self memory record.identity record.ring
  · rw [if_neg h, Option.none_or]
    exact lookup_register_of_ne memory record.identity record.ring (Ne.symm h)

/-- Registrations leave the last one of each DID. -/
theorem lookup_registerRecords (memory : MemoryAgentRegistry) (records : List RegistryRecord)
    (did : String) :
    (memory.registerRecords records).entries.lookup did =
      (lastRegistration did records).or (memory.entries.lookup did) := by
  induction records generalizing memory with
  | nil => rfl
  | cons record rest ih =>
    rw [registerRecords_cons, ih, lookup_register, lastRegistration, Option.or_assoc]

end MemoryAgentRegistry

/-- There is a last registration when there is one. -/
theorem lastRegistration_isSome_iff (did : String) (records : List RegistryRecord) :
    (lastRegistration did records).isSome = true ↔ ∃ record ∈ records, record.did = did := by
  induction records with
  | nil => simp [lastRegistration]
  | cons record rest ih =>
    rw [lastRegistration, Option.isSome_or, Bool.or_eq_true, ih]
    by_cases h : record.did = did
    · simp [h]
    · simp [h]

/-- The last registration in two histories, one after the other. -/
theorem lastRegistration_append (did : String) (records more : List RegistryRecord) :
    lastRegistration did (records ++ more) =
      (lastRegistration did more).or (lastRegistration did records) := by
  induction records with
  | nil => simp [lastRegistration]
  | cons record rest ih =>
    rw [List.cons_append, lastRegistration, ih, lastRegistration, Option.or_assoc]

namespace FileAgentRegistry

variable (E : RegistryEnv)

/-! ## Reading whole lines -/

def fileOf (records : List RegistryRecord) : Bytes :=
  E.records.encodeLines (records.map RegistryRecord.stored)

theorem fileOf_concat (records : List RegistryRecord) (record : RegistryRecord) :
    fileOf E (records ++ [record]) =
      fileOf E records ++ E.records.encode record.stored ++ [newline] := by
  rw [fileOf, List.map_append]
  exact E.records.encodeLines_concat _ _

theorem not_isBlank_encode (record : StoredRecord) (more : Bytes) :
    isBlank (E.records.encode record ++ more) = false := by
  obtain ⟨text, htext⟩ := E.encode_object record
  rw [htext]
  exact not_isBlank_brace _

/-- The lines of a history are registered one by one, then comes the rest of the file. -/
theorem replay_fileOf (records : List RegistryRecord) (rest : Bytes)
    (memory : MemoryAgentRegistry) :
    replay E (lines (fileOf E records ++ rest)) memory =
      replay E (lines rest) (memory.registerRecords records) := by
  rw [fileOf, TextCodec.lines_encodeLines_append]
  induction records generalizing memory with
  | nil => rfl
  | cons record records ih =>
    -- a record is an object, so its line is not passed over
    have hblank := not_isBlank_encode E record.stored []
    rw [List.append_nil] at hblank
    simp only [List.map_cons, List.cons_append, replay, hblank, Bool.false_eq_true, if_false,
      E.records.decode_encode]
    exact ih _

theorem open_eq (file : Option Bytes) (registryIdentity : ByteArr 32) (registryDid : String) :
    FileAgentRegistry.open E file registryIdentity registryDid =
      (replay E (lines (file.getD [])) (.new registryIdentity registryDid)).map fun memory =>
        { memory := memory, file := file } := by
  cases file <;> rfl

/-- The file and the memory hold the same history. -/
structure Recorded (records : List RegistryRecord) (r : FileAgentRegistry) : Prop where
  file : r.file.getD [] = fileOf E records
  lookup : ∀ did, r.memory.entries.lookup did = lastRegistration did records

variable {E} {records : List RegistryRecord} {r : FileAgentRegistry}

theorem recorded_fresh (registryIdentity : ByteArr 32) (registryDid : String) :
    Recorded E [] (fresh registryIdentity registryDid) where
  file := rfl
  lookup _ := rfl

/-- **Replay**: opening the file of a history gives the history. -/
theorem open_fileOf {file : Option Bytes} (hfile : file.getD [] = fileOf E records)
    (registryIdentity : ByteArr 32) (registryDid : String) :
    ∃ r, FileAgentRegistry.open E file registryIdentity registryDid = .ok r ∧
      Recorded E records r := by
  -- replaying the lines registers their records in order
  have hreplay := replay_fileOf E records [] (.new registryIdentity registryDid)
  rw [List.append_nil] at hreplay
  refine ⟨⟨(MemoryAgentRegistry.new registryIdentity registryDid).registerRecords records, file⟩,
    ?_, ?_⟩
  · rw [open_eq, hfile, hreplay]
    rfl
  · refine ⟨hfile, fun did => ?_⟩
    rw [MemoryAgentRegistry.lookup_registerRecords]
    exact Option.or_none

/-- A line that does not parse makes `open` fail. -/
theorem open_ne_ok {file : Option Bytes} {rest line : Bytes} {ls : List Bytes}
    (hfile : file.getD [] = fileOf E records ++ rest) (hline : lines rest = line :: ls)
    (hblank : isBlank line = false) (hbad : E.records.decode line = none)
    (registryIdentity : ByteArr 32) (registryDid : String) (r : FileAgentRegistry) :
    FileAgentRegistry.open E file registryIdentity registryDid ≠ .ok r := by
  rw [open_eq, hfile, replay_fileOf, hline]
  simp only [replay, hblank, hbad, Bool.false_eq_true, if_false]
  exact nofun

/-! ## Runs -/

/-- The state after a `register` that meets no failure. -/
theorem register_ok (r : FileAgentRegistry) (record : RegistryRecord) :
    r.register E record .ok = (((r.remember record).appendBytes
      (E.records.encode record.stored)).appendBytes [newline], .ok ()) := rfl

/-- Registering extends the history by one record. -/
theorem Recorded.register (h : Recorded E records r) (record : RegistryRecord) :
    Recorded E (records ++ [record]) (r.register E record .ok).1 where
  file := by
    rw [register_ok, fileOf_concat, ← h.file]
    rfl
  lookup did := by
    rw [register_ok, lastRegistration_append, ← h.lookup did]
    simp only [lastRegistration, Option.none_or]
    exact r.memory.lookup_register record did

/-- Registrations one after another, without I/O failure. -/
def registerEach (E : RegistryEnv) (r : FileAgentRegistry) (records : List RegistryRecord) :
    FileAgentRegistry :=
  records.foldl (fun r record => (r.register E record .ok).1) r

theorem Recorded.registerEach (h : Recorded E records r) (more : List RegistryRecord) :
    Recorded E (records ++ more) (r.registerEach E more) := by
  induction more generalizing records r with
  | nil =>
    rw [List.append_nil]
    exact h
  | cons record more ih =>
    have htail := ih (h.register record)
    rw [List.append_assoc, List.singleton_append] at htail
    exact htail

end FileAgentRegistry

/-- What happens to a registry file. -/
inductive RegistryOp where
  | register (record : RegistryRecord)
  /-- The file is opened again, with the key and the DID of the registry. -/
  | reopen (registryIdentity : ByteArr 32) (registryDid : String)

def registrations (ops : List RegistryOp) : List RegistryRecord :=
  ops.filterMap fun
    | .register record => some record
    | .reopen _ _ => none

theorem registrations_append (ops more : List RegistryOp) :
    registrations (ops ++ more) = registrations ops ++ registrations more :=
  List.filterMap_append

namespace FileAgentRegistry

variable (E : RegistryEnv)

/-- One operation, without I/O failure. -/
def perform (r : FileAgentRegistry) : RegistryOp → Except String FileAgentRegistry
  | .register record => .ok (r.register E record .ok).1
  | .reopen registryIdentity registryDid =>
    FileAgentRegistry.open E r.file registryIdentity registryDid

/-- Operations one after another. -/
def performAll (r : FileAgentRegistry) : List RegistryOp → Except String FileAgentRegistry
  | [] => .ok r
  | op :: ops =>
    match perform E r op with
    | .error e => .error e
    | .ok r => performAll r ops

variable {E} {records : List RegistryRecord} {r : FileAgentRegistry}

/-- **Step.** An operation succeeds and keeps file and memory together. -/
theorem Recorded.perform (h : Recorded E records r) (op : RegistryOp) :
    ∃ r', FileAgentRegistry.perform E r op = .ok r' ∧
      Recorded E (records ++ registrations [op]) r' := by
  cases op with
  | register record => exact ⟨_, rfl, h.register record⟩
  | reopen registryIdentity registryDid =>
    obtain ⟨r', hopen, hrecorded⟩ := open_fileOf h.file registryIdentity registryDid
    refine ⟨r', hopen, ?_⟩
    rw [show registrations [.reopen registryIdentity registryDid] = [] from rfl, List.append_nil]
    exact hrecorded

/-- **Run.** So do any number of operations. -/
theorem Recorded.performAll (h : Recorded E records r) (ops : List RegistryOp) :
    ∃ r', FileAgentRegistry.performAll E r ops = .ok r' ∧
      Recorded E (records ++ registrations ops) r' := by
  induction ops generalizing records r with
  | nil =>
    refine ⟨r, rfl, ?_⟩
    rw [show registrations [] = [] from rfl, List.append_nil]
    exact h
  | cons op ops ih =>
    -- the first operation extends the history, the others extend it further
    obtain ⟨r₁, hstep, h₁⟩ := h.perform op
    obtain ⟨r₂, hrun, h₂⟩ := ih h₁
    refine ⟨r₂, ?_, ?_⟩
    · rw [FileAgentRegistry.performAll, hstep]
      exact hrun
    · rw [List.append_assoc, ← registrations_append] at h₂
      exact h₂

end FileAgentRegistry

open FileAgentRegistry in
/-- **File and memory**: after any registrations and reopenings, opening the file again succeeds
    and answers as before about every DID, with its last registration. -/
theorem reopen_agrees (E : RegistryEnv) (registryIdentity : ByteArr 32) (registryDid : String)
    (ops : List RegistryOp) :
    ∃ r₀ r, FileAgentRegistry.open E none registryIdentity registryDid = .ok r₀ ∧
      performAll E r₀ ops = .ok r ∧
      ∀ (registryIdentity' : ByteArr 32) (registryDid' : String),
        ∃ r', FileAgentRegistry.open E r.file registryIdentity' registryDid' = .ok r' ∧
          ∀ did, SameAnswers r' r did ∧
            r'.getRing did = (lastRegistration did (registrations ops)).map (·.2) ∧
            r'.isRegistered did = (lastRegistration did (registrations ops)).isSome ∧
            ∀ C issued expiryBase, r'.attestedKey C did issued expiryBase =
              (lastRegistration did (registrations ops)).map (·.1) := by
  -- the file holds the registrations made, in order
  obtain ⟨r, hrun, h⟩ := (recorded_fresh registryIdentity registryDid).performAll (E := E) ops
  refine ⟨fresh registryIdentity registryDid, r, rfl, hrun, ?_⟩
  intro registryIdentity' registryDid'
  -- so the reopened registry has registered the same ones
  obtain ⟨r', hopen, h'⟩ := open_fileOf h.file registryIdentity' registryDid'
  refine ⟨r', hopen, ?_⟩
  intro did
  have hlast : r'.memory.entries.lookup did = lastRegistration did (registrations ops) :=
    h'.lookup did
  -- both sides are the last registration of the DID
  refine ⟨sameAnswers_of_lookup (hlast.trans (h.lookup did).symm), ?_, ?_, ?_⟩
  · rw [getRing, MemoryAgentRegistry.getRing, hlast]
  · rw [isRegistered, MemoryAgentRegistry.isRegistered, hlast]
  · intro C issued expiryBase
    rw [attestedKey_eq, hlast]

end AgentGovernance.Mesh
