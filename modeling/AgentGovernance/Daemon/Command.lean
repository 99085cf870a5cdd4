import AgentGovernance.Daemon.Requests
import AgentGovernance.Lib.Runs
import AgentGovernance.Mesh.RegistryJson

/-!
# The daemon command

`Commands::Daemon` in `crates/cli/src/main.rs`.  The registry signs its attestations with a
key that is generated at each start, its entries are read from a file, and the key that
the attestations are verified with is a text from the environment.

`daemon_trusts_iff` says when these three fit together, over any number of starts.
-/

namespace AgentGovernance.Daemon

open AgentGovernance.Lib AgentGovernance.Mesh AgentGovernance.Compliance AgentGovernance.Discovery
open AgentGovernance.McpGovernance AgentGovernance.Runtime

/-! ## What the log records -/

namespace RegistryLog

variable (R : RegistryEnv)

/-- The records on the lines of a log. -/
def recordsOn (ls : List Bytes) : List RegistryRecord :=
  ls.filterMap fun line =>
    if isBlank line then none else (R.records.decode line).map Subtype.val

def recordsIn (file : Option Bytes) : List RegistryRecord :=
  recordsOn R (lines (file.getD []))

/-- Every line of a log is blank or a record. -/
def Readable (file : Option Bytes) : Prop :=
  ∀ line ∈ lines (file.getD []), isBlank line = false → (R.records.decode line).isSome = true

/-- The lines can be replayed when all of them are blank or records, and the entry of a DID is then
    the one of its last record. -/
theorem replay_spec (ls : List Bytes) (memory : MemoryAgentRegistry) :
    (∃ e, FileAgentRegistry.replay R ls memory = .error e ∧
      ¬ ∀ line ∈ ls, isBlank line = false → (R.records.decode line).isSome = true) ∨
    ∃ memory', FileAgentRegistry.replay R ls memory = .ok memory' ∧
      (∀ line ∈ ls, isBlank line = false → (R.records.decode line).isSome = true) ∧
      memory' = memory.registerRecords (recordsOn R ls) := by
  -- by induction on the lines
  induction ls generalizing memory with
  | nil => exact .inr ⟨memory, rfl, by simp, rfl⟩
  | cons line rest ih =>
    simp only [FileAgentRegistry.replay, recordsOn, List.filterMap_cons, List.forall_mem_cons]
    -- a blank line is skipped
    cases hblank : isBlank line with
    | true => simpa [recordsOn] using ih memory
    | false =>
      cases hdecode : R.records.decode line with
      | none =>
        -- the first line without a record ends the replay
        exact .inl ⟨_, rfl, by simp⟩
      | some record => simpa [recordsOn] using ih (memory.register record.val.identity record.val.ring)

/-- A log can be opened exactly when it is readable, and then holds what it records. -/
theorem open_ok_iff (file : Option Bytes) (registryIdentity : ByteArr 32) (registryDid : String)
    (r : FileAgentRegistry) :
    FileAgentRegistry.open R file registryIdentity registryDid = .ok r ↔
      Readable R file ∧
      r = ⟨(MemoryAgentRegistry.new registryIdentity registryDid).registerRecords
        (recordsIn R file), file⟩ := by
  rw [FileAgentRegistry.open_eq]
  rcases replay_spec R (lines (file.getD [])) (.new registryIdentity registryDid) with
    ⟨e, hreplay, hbad⟩ | ⟨memory, hreplay, hgood, rfl⟩
  · rw [hreplay]
    -- a line that is no record makes the opening fail
    refine iff_of_false nofun ?_
    exact fun h => hbad h.1
  · rw [hreplay]
    constructor
    · intro h
      exact ⟨hgood, (Except.ok.inj h).symm⟩
    · rintro ⟨-, rfl⟩
      rfl

/-- A log that was written registration by registration records them all, without private keys. -/
theorem recordsIn_fileOf {file : Option Bytes} {records : List RegistryRecord}
    (hfile : file.getD [] = FileAgentRegistry.fileOf R records) :
    recordsIn R file = records.map fun record => record.stored.val := by
  have hlines := R.records.lines_encodeLines_append (records.map RegistryRecord.stored) []
  rw [List.append_nil, lines_nil, List.append_nil] at hlines
  rw [recordsIn, hfile, FileAgentRegistry.fileOf, hlines, recordsOn, List.map_map,
    List.filterMap_map, ← List.filterMap_eq_map]
  apply List.filterMap_congr
  intro record _
  -- the text of a record is not blank and is read back
  have hblank := FileAgentRegistry.not_isBlank_encode R record.stored []
  rw [List.append_nil] at hblank
  simp [hblank, R.records.decode_encode]

end RegistryLog

/-! ## The command -/

/-- The environment variables of the command. -/
structure EnvVars where
  /-- `AGT_REGISTRY_PUBKEY`. -/
  registryPubkey : Option String
  /-- `AGT_REGISTRY_DID`. -/
  registryDid : Option String

namespace EnvVars

/-- `registry_pubkey`. -/
def pubkey (vars : EnvVars) : String :=
  vars.registryPubkey.getD "placeholder-replace-me"

/-- `registry_did`. -/
def did (vars : EnvVars) : String :=
  vars.registryDid.getD "did:mesh:registry"

end EnvVars

/-- The arguments of the command, with the files at their paths. -/
structure DaemonArgs where
  auditLog : Option Bytes
  actionLog : Disk
  registryLog : Option (Option Bytes)
  hasExporter : Bool
  init : Bool

/-- What the command draws at random. -/
structure Draws where
  /-- `generate_signing_key`. -/
  signingKey : ByteArr 32
  newId : Uuid

inductive DaemonStart where
  /-- The values of a new key pair are printed; the private key is lost. -/
  | initialized (registryDid registryPubkey : String)
  | failed (e : String)
  | serving (state : ServerState)

section
variable (C : Crypto) (E : LogEnv) (R : RegistryEnv)

/-- `Commands::Daemon`, up to the start of the server. -/
def daemonCommand (vars : EnvVars) (args : DaemonArgs) (draws : Draws) : DaemonStart :=
  if args.init then
    .initialized ("did:mesh:registry-" ++ String.ofList (hexDigits (draws.newId.bytes.take 4)))
      (C.pubkeyB64 draws.signingKey)
  else
    let state := ServerState.start E draws.signingKey vars.did [] args.auditLog args.actionLog
      args.hasExporter vars.pubkey
    match args.registryLog with
    | none => .serving state
    | some file =>
      match FileAgentRegistry.open R file draws.signingKey vars.did with
      | .error e => .failed e
      | .ok r => .serving { state with registry := r.memory }

/-- A start of the daemon on a registry log, and what is registered until it stops. -/
structure Launch where
  vars : EnvVars
  draws : Draws
  auditLog : Option Bytes
  actionLog : Disk
  hasExporter : Bool
  registrations : List (RegistryRecord × PersistOutcome)

def Launch.command (l : Launch) (file : Option Bytes) : DaemonStart :=
  daemonCommand C E R l.vars
    { auditLog := l.auditLog
      actionLog := l.actionLog
      registryLog := some file
      hasExporter := l.hasExporter
      init := false } l.draws

/-- The log after the daemon has stopped. -/
def session (file : Option Bytes) (l : Launch) : Option Bytes :=
  match FileAgentRegistry.open R file l.draws.signingKey l.vars.did with
  | .error _ => file
  | .ok r => (l.registrations.foldl (fun r call => (r.register R call.1 call.2).1) r).file

/-! ## Trust -/

/-- What a daemon owes the agents of its log: its attestations verify, and a request signed with
    the key that the log records is accepted. -/
structure Trusts (state : ServerState) (records : List RegistryRecord) : Prop where
  attestations : ∀ did issued expiryBase now att,
    state.registry.getAttestation C did issued expiryBase = some att →
    now ≤ expiryBase + hours 24 → att.verify C state.registryPubkey now = .ok ()
  requests : ∀ did pubkeyB64 ring (key : ByteArr 32) body signature issued expiryBase now,
    lastRegistration did records = some (pubkeyB64, ring) →
    C.decode64 pubkeyB64 = .ok key.val → C.accepts key body signature →
    now ≤ expiryBase + hours 24 →
    verifyRequestSignature C did signature body (state.registry.answers C issued expiryBase)
      state.registryPubkey now = .ok ()

/-- The daemon trusts the agents of the log, if it starts. -/
def StartTrusts (file : Option Bytes) (l : Launch) : Prop :=
  ∀ state, l.command C E R file = .serving state → Trusts C state (RegistryLog.recordsIn R file)

/-- The configured key is the public key of the generated one (or no agent is in the log). -/
def KeyConfigured (file : Option Bytes) (l : Launch) : Prop :=
  RegistryLog.Readable R file → RegistryLog.recordsIn R file ≠ [] →
    C.decode64 l.vars.pubkey = .ok (C.verifyingKey l.draws.signingKey).val

end

section
variable {C : Crypto} {E : LogEnv} {R : RegistryEnv} {file : Option Bytes} {l : Launch}

/-- The registry that a launch reads from its log. -/
def Launch.registry (R : RegistryEnv) (l : Launch) (file : Option Bytes) : MemoryAgentRegistry :=
  (MemoryAgentRegistry.new l.draws.signingKey l.vars.did).registerRecords
    (RegistryLog.recordsIn R file)

@[simp] theorem Launch.registry_registryIdentity :
    (l.registry R file).registryIdentity = l.draws.signingKey :=
  MemoryAgentRegistry.registerAll_registryIdentity _ _

theorem Launch.lookup_registry (did : String) :
    (l.registry R file).entries.lookup did =
      lastRegistration did (RegistryLog.recordsIn R file) := by
  rw [Launch.registry, MemoryAgentRegistry.lookup_registerRecords]
  exact Option.or_none

/-- The registry attests the key that its log records last for an agent. -/
theorem Launch.getAttestation_registry {did : String} {entry : String × PrivilegeRing}
    (h : lastRegistration did (RegistryLog.recordsIn R file) = some entry)
    (issued expiryBase : DateTime) :
    (l.registry R file).getAttestation C did issued expiryBase =
      some ((MemoryAgentRegistry.claimFor did entry.1 issued expiryBase).attest C
        (l.registry R file).registryIdentity (l.registry R file).registryDid) := by
  rw [MemoryAgentRegistry.getAttestation, Launch.lookup_registry, h]
  rfl

/-- The daemon starts exactly on a readable log, with its entries and the configured text. -/
theorem command_eq_serving {state : ServerState} (h : l.command C E R file = .serving state) :
    RegistryLog.Readable R file ∧ state.registry = l.registry R file ∧
      state.registryPubkey = l.vars.pubkey := by
  simp only [Launch.command, daemonCommand, Bool.false_eq_true, if_false] at h
  -- a log that cannot be opened ends the command
  cases hopen : FileAgentRegistry.open R file l.draws.signingKey l.vars.did with
  | error e =>
    rw [hopen] at h
    cases h
  | ok r =>
    rw [hopen] at h
    obtain ⟨hreadable, rfl⟩ := (RegistryLog.open_ok_iff R file _ _ r).mp hopen
    obtain rfl := DaemonStart.serving.inj h
    exact ⟨hreadable, rfl, rfl⟩

theorem command_of_readable (h : RegistryLog.Readable R file) :
    ∃ state, l.command C E R file = .serving state := by
  have hopen := (RegistryLog.open_ok_iff R file l.draws.signingKey l.vars.did _).mpr ⟨h, rfl⟩
  simp only [Launch.command, daemonCommand, Bool.false_eq_true, if_false, hopen]
  exact ⟨_, rfl⟩

/-- An attestation of the registry verifies under the text of a key when that key accepts what the
    registry's key signs. -/
theorem verify_getAttestation_iff {r : MemoryAgentRegistry} {did : String}
    {issued expiryBase now : DateTime} {att : SignedAttestation}
    (h : r.getAttestation C did issued expiryBase = some att) (pubkey : String) :
    att.verify C pubkey now = .ok () ↔ now ≤ expiryBase + hours 24 ∧
      ∃ key : ByteArr 32, C.decode64 pubkey = .ok key.val ∧ C.checkKey key = .ok () ∧
        C.verify key att.claim.canonicalBytes
          (C.sign r.registryIdentity att.claim.canonicalBytes) = true := by
  obtain ⟨e, -, rfl⟩ := Option.map_eq_some_iff.mp h
  rw [SignedAttestation.verify_eq_ok_iff]
  refine and_congr_right fun _ => exists_congr fun key => and_congr_right fun _ => ?_
  constructor
  · rintro ⟨signature, hdecode, hcheck, sig, hsig, hverify⟩
    -- the decoded signature is the one that was made
    obtain rfl := Except.ok.inj ((C.decode64_encode64 _).symm.trans hdecode)
    obtain rfl := Option.some.inj ((tryInto_val _).symm.trans hsig)
    exact ⟨hcheck, hverify⟩
  · rintro ⟨hcheck, hverify⟩
    exact ⟨_, C.decode64_encode64 _, hcheck, _, tryInto_val _, hverify⟩

/-- **Configured**: with the public key of the generated key everybody in the log is trusted. -/
theorem KeyConfigured.startTrusts (h : KeyConfigured C R file l) : StartTrusts C E R file l := by
  intro state hstart
  obtain ⟨hreadable, hregistry, hpubkey⟩ := command_eq_serving hstart
  have hverify : ∀ did issued expiryBase now att,
      state.registry.getAttestation C did issued expiryBase = some att →
      now ≤ expiryBase + hours 24 → att.verify C state.registryPubkey now = .ok () := by
    intro did issued expiryBase now att hatt hnow
    -- whoever is attested is in the log
    have hrecords : RegistryLog.recordsIn R file ≠ [] := by
      intro hnil
      obtain ⟨e, hentry, -⟩ := Option.map_eq_some_iff.mp hatt
      rw [hregistry, Launch.lookup_registry, hnil] at hentry
      cases hentry
    rw [verify_getAttestation_iff hatt, hpubkey]
    refine ⟨hnow, C.verifyingKey l.draws.signingKey, h hreadable hrecords, ?_, ?_⟩
    · exact C.checkKey_verifyingKey _
    · rw [hregistry, Launch.registry_registryIdentity]
      exact C.verify_sign _ _
  refine ⟨hverify, ?_⟩
  intro did pubkeyB64 ring key body signature issued expiryBase now hlast hdecode haccepts hnow
  -- the registry attests the recorded key, and the signature is checked under that key
  have hatt := Launch.getAttestation_registry (C := C) (l := l) hlast issued expiryBase
  rw [← hregistry] at hatt
  apply (verifyRequestSignature_eq_ok_iff C _ _ _ _ _ _).mpr
  refine ⟨_, congrArg Except.ok hatt, hverify did issued expiryBase now _ hatt hnow, ?_⟩
  exact (verifySignature_stub_iff C _ _ _).mpr (.inl ⟨key, hdecode, haccepts⟩)

/-- **Trusted**: where a signature verifies under no key but its own, nothing else is enough. -/
theorem StartTrusts.keyConfigured
    (hown : ∀ key k data, C.verify key data (C.sign k data) = true → key = C.verifyingKey k)
    (h : StartTrusts C E R file l) : KeyConfigured C R file l := by
  intro hreadable hrecords
  obtain ⟨state, hstart⟩ := command_of_readable (C := C) (E := E) (l := l) hreadable
  obtain ⟨-, hregistry, hpubkey⟩ := command_eq_serving hstart
  -- some agent is in the log, and its attestation verifies under the configured key
  obtain ⟨record, hmem⟩ := List.exists_mem_of_ne_nil _ hrecords
  obtain ⟨entry, hentry⟩ := Option.isSome_iff_exists.mp
    ((lastRegistration_isSome_iff record.did _).mpr ⟨record, hmem, rfl⟩)
  have hatt := Launch.getAttestation_registry (C := C) (l := l) hentry 0 0
  rw [← hregistry] at hatt
  have hverify := (h state hstart).attestations record.did 0 0 0 _ hatt (by decide)
  obtain ⟨-, key, hdecode, -, hkey⟩ := (verify_getAttestation_iff hatt _).mp hverify
  rw [hregistry, Launch.registry_registryIdentity] at hkey
  rw [← hpubkey, hdecode, hown _ _ _ hkey]

end

/-- **Trust over restarts**: on any log, in any sequence of starts, each start trusts the agents
    of its log if at each of them the configured key is the public key of the key that this very
    start generates.  Where a signature verifies under no key but its own, only then. -/
theorem daemon_trusts_iff (C : Crypto) (E : LogEnv) (R : RegistryEnv) (file : Option Bytes)
    (launches : List Launch) :
    (AllSteps (session R) (KeyConfigured C R) file launches →
      AllSteps (session R) (StartTrusts C E R) file launches) ∧
    ((∀ key k data, C.verify key data (C.sign k data) = true → key = C.verifyingKey k) →
      AllSteps (session R) (StartTrusts C E R) file launches →
      AllSteps (session R) (KeyConfigured C R) file launches) := by
  constructor
  · -- each start is looked at on its own
    apply AllSteps.mono
    exact fun _ _ h => h.startTrusts
  · intro hown
    apply AllSteps.mono
    exact fun _ _ h => h.keyConfigured hown

/-! ## A start with a printed key -/

/-- A start with the public key of another key pair, as `agt daemon --init` prints one. -/
def printedLaunch : Launch where
  vars :=
    { registryPubkey := some "gTl3Dqh9F19Wo1Rmw0x+zMuNipG07jeiXfYPW4/Js5Q="
      registryDid := none }
  draws := { signingKey := registrySeed, newId := .fill 0 }
  auditLog := none
  actionLog := .blank
  hasExporter := false
  registrations := []

/-- The printed key does not accept the signature of the key that the start generated. -/
theorem not_verify_secondKey :
    (Crypto.ofVectors emptyBody.vectors).verify secondKey
      (MemoryAgentRegistry.claimFor "did:mesh:agent-1" emptyBody.agent.publicKey 0 0).canonicalBytes
      ((Crypto.ofVectors emptyBody.vectors).sign registrySeed
        (MemoryAgentRegistry.claimFor "did:mesh:agent-1" emptyBody.agent.publicKey 0
          0).canonicalBytes) = false := by
  decide +kernel

/-- A log in which an earlier daemon has recorded an agent. -/
noncomputable def recordedLog : Option Bytes :=
  some (FileAgentRegistry.fileOf .serde [{ identity := emptyBody.agent, ring := .standard }])

theorem recordedLog_entries :
    RegistryLog.Readable .serde recordedLog ∧
      lastRegistration "did:mesh:agent-1" (RegistryLog.recordsIn .serde recordedLog) =
        some (emptyBody.agent.publicKey, .standard) := by
  have hfile : recordedLog.getD [] = FileAgentRegistry.fileOf .serde
      [{ identity := emptyBody.agent, ring := .standard }] := rfl
  obtain ⟨r, hopen, -⟩ := FileAgentRegistry.open_fileOf hfile registrySeed "did:mesh:registry"
  refine ⟨((RegistryLog.open_ok_iff _ _ _ _ r).mp hopen).1, ?_⟩
  rw [RegistryLog.recordsIn_fileOf _ hfile]
  rfl

/-- The text from the environment is the printed key. -/
theorem decode_printed :
    (Crypto.ofVectors emptyBody.vectors).decode64 printedLaunch.vars.pubkey = .ok secondKey.val := by
  decide +kernel

/-- A start with the printed key on that log rejects the agent's request. -/
theorem not_trusts_printed {state : ServerState}
    (hstart : printedLaunch.command (.ofVectors emptyBody.vectors) sampleEnv .serde
      recordedLog = .serving state) :
    ¬ Trusts (.ofVectors emptyBody.vectors) state (RegistryLog.recordsIn .serde recordedLog) := by
  intro htrusts
  obtain ⟨-, hregistry, hpubkey⟩ := command_eq_serving hstart
  have hatt := Launch.getAttestation_registry (C := .ofVectors emptyBody.vectors)
    (l := printedLaunch) recordedLog_entries.2 0 0
  rw [← hregistry] at hatt
  have haccepted := htrusts.requests "did:mesh:agent-1" _ _ agentOneKey []
    emptyBody.signature.val 0 0 0 recordedLog_entries.2
    ((Crypto.ofVectors emptyBody.vectors).decode64_encode64 _)
    ⟨rfl, _, tryInto_val _, by simp [Crypto.ofVectors, SignedBody.vectors, emptyBody]⟩ (by decide)
  -- an accepted request has a verified attestation
  obtain ⟨att, hissued, hverify, -⟩ := (verifyRequestSignature_eq_ok_iff _ _ _ _ _ _ _).mp haccepted
  obtain rfl := Option.some.inj (hatt.symm.trans (Except.ok.inj hissued))
  obtain ⟨-, key, hdecode, -, hkey⟩ := (verify_getAttestation_iff hatt _).mp hverify
  rw [hpubkey] at hdecode
  obtain rfl : secondKey = key := Subtype.ext (Except.ok.inj (decode_printed.symm.trans hdecode))
  rw [hregistry, Launch.registry_registryIdentity] at hkey
  exact absurd (not_verify_secondKey.symm.trans hkey) (by decide)

/-- A start with the printed key does not trust the agent of its log. -/
theorem daemon_not_trusting :
    ¬ ∀ (C : Crypto) (E : LogEnv) (R : RegistryEnv) (file : Option Bytes) (launches : List Launch),
      RegistryLog.Readable R file → AllSteps (session R) (StartTrusts C E R) file launches := by
  intro h
  obtain ⟨htrusts, -⟩ := h (.ofVectors emptyBody.vectors) sampleEnv .serde recordedLog
    [printedLaunch] recordedLog_entries.1
  obtain ⟨state, hstart⟩ := command_of_readable (C := .ofVectors emptyBody.vectors)
    (E := sampleEnv) (l := printedLaunch) recordedLog_entries.1
  exact not_trusts_printed hstart (htrusts state hstart)

end AgentGovernance.Daemon
