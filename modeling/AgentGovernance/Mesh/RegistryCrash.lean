import AgentGovernance.Mesh.RegistryJson

/-!
# Registrations that do not come through

`register` writes the text of the record and then its line feed, and `open` reads every line or
fails.  So a file whose last line was cut short cannot be opened, and a whole text without its
line feed runs into the next record.

The memory is updated before the file.  When the write fails, the caller gets an error and the
registry answers as if it had not.
-/

namespace AgentGovernance.Mesh

open AgentGovernance.Lib

namespace FileAgentRegistry

variable (E : RegistryEnv)

/-- Where in `register` the process is killed. -/
inductive KillPoint where
  /-- Before the file is opened. -/
  | beforeOpen
  /-- After a number of bytes of the line were written. -/
  | written (n : Nat)

def lineOf (record : RegistryRecord) : Bytes :=
  E.records.encode record.stored ++ [newline]

/-- The file that a killed process leaves. -/
def kill (r : FileAgentRegistry) (record : RegistryRecord) : KillPoint → Option Bytes
  | .beforeOpen => r.file
  | .written n => (r.appendBytes ((lineOf E record).take n)).file

/-- The file can be opened, now and after any further operations, and has the acknowledged
    registrations.  The interrupted one may be there. -/
def Recovers (acknowledged : List RegistryRecord) (record : RegistryRecord)
    (file : Option Bytes) : Prop :=
  ∃ kept, (kept = acknowledged ∨ kept = acknowledged ++ [record]) ∧
    ∀ (registryIdentity : ByteArr 32) (registryDid : String),
      ∃ r, FileAgentRegistry.open E file registryIdentity registryDid = .ok r ∧
        (∀ did, r.memory.entries.lookup did = lastRegistration did kept) ∧
        ∀ further : List RegistryOp, ∃ r₁ r₂, performAll E r further = .ok r₁ ∧
          FileAgentRegistry.open E r₁.file registryIdentity registryDid = .ok r₂ ∧
          ∀ did, r₂.memory.entries.lookup did =
            lastRegistration did (kept ++ registrations further)

/-- Nothing of the line was written, or all of it. -/
def KillPoint.Safe (record : RegistryRecord) : KillPoint → Prop
  | .beforeOpen => True
  | .written n => n = 0 ∨ (lineOf E record).length ≤ n

variable {E} {records : List RegistryRecord} {record : RegistryRecord} {file : Option Bytes}

/-! ## Whole lines and bad lines -/

/-- A file of whole lines recovers. -/
theorem recovers_of_fileOf {kept : List RegistryRecord}
    (hkept : kept = records ∨ kept = records ++ [record]) (hfile : file.getD [] = fileOf E kept) :
    Recovers E records record file := by
  refine ⟨kept, hkept, ?_⟩
  intro registryIdentity registryDid
  obtain ⟨r, hopen, h⟩ := open_fileOf hfile registryIdentity registryDid
  refine ⟨r, hopen, h.lookup, ?_⟩
  intro further
  -- the file stays one of whole lines
  obtain ⟨r₁, hrun, h₁⟩ := h.performAll further
  obtain ⟨r₂, hopen₂, h₂⟩ := open_fileOf h₁.file registryIdentity registryDid
  exact ⟨r₁, r₂, hrun, hopen₂, h₂.lookup⟩

/-- Opening does not change the file. -/
theorem file_of_open {registryIdentity : ByteArr 32} {registryDid : String} {r : FileAgentRegistry}
    (h : FileAgentRegistry.open E file registryIdentity registryDid = .ok r) : r.file = file := by
  rw [open_eq] at h
  cases hreplay : replay E (lines (file.getD [])) (.new registryIdentity registryDid) with
  | error e =>
    rw [hreplay] at h
    cases h
  | ok memory =>
    rw [hreplay] at h
    cases h
    rfl

/-- The beginning of a text is not blank. -/
theorem not_isBlank_beginning {stored : StoredRecord} {p : Bytes}
    (hp : p <+: E.records.encode stored) (hne : p ≠ []) : isBlank p = false := by
  obtain ⟨text, htext⟩ := E.encode_object stored
  obtain ⟨b, q, rfl⟩ := List.exists_cons_of_ne_nil hne
  rw [htext] at hp
  obtain ⟨rfl, -⟩ := List.cons_prefix_cons.mp hp
  exact not_isBlank_brace q

/-! ## A torn last line -/

/-- **A torn line** cannot be read. -/
theorem not_recovers_of_torn {p : Bytes} (hp : p <+: E.records.encode record.stored)
    (hne : p ≠ []) (hlt : p ≠ E.records.encode record.stored)
    (hfile : file.getD [] = fileOf E records ++ p) : ¬ Recovers E records record file := by
  rintro ⟨kept, -, h⟩
  obtain ⟨r, hopen, -⟩ := h zeroKey ""
  -- the torn text is the last line, and is neither blank nor a record
  have hsafe : LineSafe p := (E.records.encode_lineSafe _).mono hp
  exact open_ne_ok hfile (lines_of_lineSafe p hsafe hne) (not_isBlank_beginning hp hne)
    (E.records.decode_truncated _ p hp hlt) zeroKey "" r hopen

/-- **A whole text without its line feed** is read, but not after the next registration. -/
theorem not_recovers_of_unended
    (hfile : file.getD [] = fileOf E records ++ E.records.encode record.stored) :
    ¬ Recovers E records record file := by
  rintro ⟨kept, -, h⟩
  obtain ⟨r, hopen, -, hfurther⟩ := h zeroKey ""
  -- one more registration is enough
  obtain ⟨r₁, r₂, hrun, hopen₂, -⟩ := hfurther [.register record]
  obtain rfl : (r.register E record .ok).1 = r₁ := Except.ok.inj hrun
  -- the two texts share a line
  have hfile₁ : ((r.register E record .ok).1).file.getD [] = fileOf E records ++
      (E.records.encode record.stored ++ E.records.encode record.stored ++ newline :: []) := by
    show (r.file.getD [] ++ _) ++ _ = _
    rw [file_of_open hopen, hfile]
    simp only [List.append_assoc]
  have hsafe := E.records.encode_lineSafe record.stored
  refine open_ne_ok hfile₁ (lines_line _ [] (hsafe.append hsafe)) ?_ ?_ zeroKey "" r₂ hopen₂
  · exact not_isBlank_encode E record.stored _
  · exact E.records.decode_joined _ _

/-! ## Every kill point -/

/-- The kill points of a registration on a recorded history. -/
theorem Recorded.recovers_iff {r : FileAgentRegistry} (h : Recorded E records r)
    (record : RegistryRecord) (point : KillPoint) :
    Recovers E records record (r.kill E record point) ↔ point.Safe E record := by
  cases point with
  | beforeOpen => exact iff_of_true (recovers_of_fileOf (.inl rfl) h.file) trivial
  | written n =>
    have hfile : (r.kill E record (.written n)).getD [] =
        fileOf E records ++ (lineOf E record).take n := by
      rw [← h.file]
      rfl
    have hlen : (lineOf E record).length = (E.records.encode record.stored).length + 1 := by
      rw [lineOf, List.length_append, List.length_singleton]
    rcases Nat.eq_zero_or_pos n with rfl | hpos
    · -- nothing was written
      refine iff_of_true (recovers_of_fileOf (.inl rfl) ?_) (.inl rfl)
      rw [hfile, List.take_zero, List.append_nil]
    · rcases Nat.lt_or_ge n (lineOf E record).length with hlt | hge
      · -- the line feed is missing
        refine iff_of_false ?_ ?_
        · rw [lineOf, List.take_append_of_le_length (by omega)] at hfile
          by_cases hwhole : (E.records.encode record.stored).take n = E.records.encode record.stored
          · rw [hwhole] at hfile
            exact not_recovers_of_unended hfile
          · refine not_recovers_of_torn (List.take_prefix _ _) ?_ hwhole hfile
            intro hnil
            rcases List.take_eq_nil_iff.mp hnil with hzero | hempty
            · exact hpos.ne' hzero
            · exact E.records.encode_ne_nil _ hempty
        · rintro (hzero | hend)
          · exact hpos.ne' hzero
          · exact absurd hend (Nat.not_le.mpr hlt)
      · -- the whole line was written
        refine iff_of_true (recovers_of_fileOf (.inr rfl) ?_) (.inr hge)
        rw [hfile, List.take_of_length_le hge, fileOf_concat, lineOf, List.append_assoc]

end FileAgentRegistry

open FileAgentRegistry in
/-- **Crash recovery**: whatever was registered before, the file recovers exactly when the process
    was not killed inside the line. -/
theorem registry_recovers_iff (E : RegistryEnv) (registryIdentity : ByteArr 32)
    (registryDid : String) (ops : List RegistryOp) :
    ∃ r₀ r, FileAgentRegistry.open E none registryIdentity registryDid = .ok r₀ ∧
      performAll E r₀ ops = .ok r ∧
      ∀ (record : RegistryRecord) (point : KillPoint),
        Recovers E (registrations ops) record (r.kill E record point) ↔ point.Safe E record := by
  obtain ⟨r, hrun, h⟩ := (recorded_fresh registryIdentity registryDid).performAll (E := E) ops
  exact ⟨fresh registryIdentity registryDid, r, rfl, hrun, h.recovers_iff⟩

open FileAgentRegistry in
/-- Killed behind the text of the first record and before its line feed. -/
theorem registry_not_recovering :
    ¬ Recovers .serde [] (sampleRegistration "agent-1" .standard)
      ((⟨.new registrySeed "did:mesh:registry", none⟩ : FileAgentRegistry).kill .serde
        (sampleRegistration "agent-1" .standard)
        (.written (RegistryEnv.serde.records.encode
          (sampleRegistration "agent-1" .standard).stored).length)) := by
  refine not_recovers_of_unended ?_
  rw [kill, lineOf, List.take_append_of_le_length le_rfl, List.take_length]
  rfl

/-! ## Registrations that fail -/

namespace FileAgentRegistry

/-- However the append ends, the memory has the registration. -/
theorem register_memory (E : RegistryEnv) (r : FileAgentRegistry) (record : RegistryRecord)
    (o : PersistOutcome) :
    (r.register E record o).1.memory = r.memory.register record.identity record.ring := by
  cases o <;> rfl

/-- A registration changes no answer exactly when the registry has the entry already. -/
theorem register_sameAnswers_iff (E : RegistryEnv) (r : FileAgentRegistry)
    (record : RegistryRecord) (o : PersistOutcome) :
    (∀ did, SameAnswers (r.register E record o).1 r did) ↔
      r.memory.entries.lookup record.did = some record.entry := by
  constructor
  · intro hsame
    -- the registration is read back at its own DID
    have hself := lookup_of_sameAnswers (hsame record.did)
    rw [register_memory, MemoryAgentRegistry.lookup_register, if_pos rfl, Option.some_or] at hself
    exact hself.symm
  · intro hentry did
    apply sameAnswers_of_lookup
    rw [register_memory, MemoryAgentRegistry.lookup_register]
    -- the entry is the one that was there, so nothing changes
    by_cases hdid : record.did = did
    · rw [if_pos hdid, Option.some_or, ← hdid, hentry]
    · rw [if_neg hdid, Option.none_or]

end FileAgentRegistry

open FileAgentRegistry in
/-- **Failed registrations.** An error of `register` leaves every answer as it was exactly if the
    append succeeds, so that there is none, or the registry held this key and this ring for the
    DID already. -/
theorem failed_register_keeps_iff (E : RegistryEnv) (r : FileAgentRegistry) (record : RegistryRecord)
    (o : PersistOutcome) :
    ((∃ e, (r.register E record o).2 = .error e) →
        ∀ did, SameAnswers (r.register E record o).1 r did) ↔
      o = .ok ∨ r.memory.entries.lookup record.did = some record.entry := by
  rw [register_sameAnswers_iff]
  cases o with
  | ok => simp [register]
  | notOpened => simp [register]
  | failedAfter n => simp [register]

open FileAgentRegistry in
/-- The file cannot be opened, and the agent is registered all the same. -/
theorem failed_register_not_keeping :
    ¬ ∀ (E : RegistryEnv) (r : FileAgentRegistry) (record : RegistryRecord) (o : PersistOutcome),
      (∃ e, (r.register E record o).2 = .error e) →
        ∀ did, SameAnswers (r.register E record o).1 r did := by
  intro h
  have hsame := h .serde (fresh registrySeed "did:mesh:registry")
    (sampleRegistration "agent-1" .standard) .notOpened ⟨_, rfl⟩
  rw [register_sameAnswers_iff] at hsame
  cases hsame

end AgentGovernance.Mesh
