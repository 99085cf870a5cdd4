import AgentGovernance.Compliance.LogRuns

/-!
# Tampering with the action log

What `verify_chain` notices of a changed log file.  Lines of the log in another order,
dropped or repeated are noticed, unless a prefix of the log is left.  That exception is the
weak spot: the verifier compares neither `last_hash` nor the checkpoint with the end of the
file, so a log that lost its last records, or whose last record has other contents, still
counts as intact.
-/

namespace AgentGovernance.Compliance

open AgentGovernance.Lib AgentGovernance.Mesh

namespace FileActionLog

variable (E : LogEnv)

/-- What verification says of a file written from records. -/
theorem verifyChain_encodeLines (rs : List ActionLogRecord) :
    verifyChain E (some (E.records.encodeLines rs)) = .ok (violationsFrom E 0 genesis rs) := by
  have hparse : parseLines E (lines (E.records.encodeLines rs)) = .ok rs := by
    rw [parseLines_eq_ok_iff]
    exact E.records.decodeLines_encodeLines rs
  simp [verifyChain, verifyLoop_eq, hparse, Except.map]

theorem verifyChain_encodeLines_eq_nil_iff (rs : List ActionLogRecord) :
    verifyChain E (some (E.records.encodeLines rs)) = .ok [] ↔
      (recordChain E.sha256).Linked genesis rs := by
  rw [verifyChain_encodeLines, ← violationsFrom_eq_nil_iff E 0]
  simp

/-- The file of a log that nobody is writing to has linked records. -/
theorem linked_of_reachable {w : Section FileActionLog LogOp}
    (h : Section.Reachable (opSteps E) (FileActionLog.open E .blank) w) (hfree : w.holder = none)
    {rs : List ActionLogRecord} (hfile : w.shared.writer.file = E.records.encodeLines rs) :
    (recordChain E.sha256).Linked genesis rs := by
  have hverify := (log_serialized E w h hfree).1
  rw [disk, hfile] at hverify
  exact (verifyChain_encodeLines_eq_nil_iff E rs).mp hverify

/-- Every sequence of appends and reopenings leads to such a log. -/
theorem exists_log (ops : List LogOp) : ∃ w : Section FileActionLog LogOp,
    Section.Reachable (opSteps E) (FileActionLog.open E .blank) w ∧ w.holder = none ∧
      w.shared.writer.file =
        E.records.encodeLines ((recordChain E.sha256).chain genesis (appendedRecords ops)) :=
  ⟨_, Section.reachable_runJobs (opSteps E) _ ops, rfl, ((synced_blank E).runJobs ops).file⟩

/-! ## Rearranged lines -/

/-- **Rearranged lines.** Take any lines of a log whose records have different hashes, in any
    order, some left out and some repeated: the file is accepted exactly when it is a prefix of
    the log. -/
theorem verifyChain_rearranged_iff (w : Section FileActionLog LogOp)
    (h : Section.Reachable (opSteps E) (FileActionLog.open E .blank) w) (hfree : w.holder = none)
    {rs : List ActionLogRecord} (hfile : w.shared.writer.file = E.records.encodeLines rs)
    (hhashes : (rs.map (·.computeHash E.sha256)).Nodup) (ls : List Bytes)
    (hls : ∀ line ∈ ls, line ∈ lines w.shared.writer.file) :
    verifyChain E (some (unlines ls)) = .ok [] ↔ unlines ls <+: w.shared.writer.file := by
  have hlinked := linked_of_reachable E h hfree hfile
  -- no record has the genesis text as its hash, so each link has one place
  have hnodup : (genesis :: rs.map (recordChain E.sha256).tagOf).Nodup := by
    refine List.nodup_cons.mpr ⟨?_, hhashes⟩
    intro hgenesis
    obtain ⟨r, -, hr⟩ := List.mem_map.mp hgenesis
    exact r.computeHash_ne_genesis E.sha256 hr
  rw [hfile, E.records.lines_encodeLines] at hls
  obtain ⟨ss, rfl, hss⟩ := E.records.exists_values_of_lines hls
  show verifyChain E (some (E.records.encodeLines ss)) = .ok [] ↔
    E.records.encodeLines ss <+: w.shared.writer.file
  -- the lines that are left are records of the log, and they must be linked from genesis
  rw [verifyChain_encodeLines_eq_nil_iff, hfile, E.records.encodeLines_prefix_iff]
  exact (recordChain E.sha256).linked_prefix_iff hlinked hnodup hss

/-- The first of two stored records. -/
noncomputable def firstStored : ActionLogRecord :=
  { sampleRecord 1 "read" with prevHash := genesis }

/-- The record after it, for some action. -/
noncomputable def secondStored (action : String) : ActionLogRecord :=
  { sampleRecord 2 action with
    prevHash := (sampleRecord 1 "read").computeHash sampleEnv.sha256 }

/-- Two records as the log stores them. -/
theorem chain_two (sha256 : Bytes → Bytes) (r s : ActionLogRecord) :
    (recordChain sha256).chain genesis [r, s] =
      [{ r with prevHash := genesis }, { s with prevHash := r.computeHash sha256 }] := rfl

/-- Two appends leave the two records in the file. -/
theorem exists_sampleLog : ∃ w : Section FileActionLog LogOp,
    Section.Reachable (opSteps sampleEnv) (FileActionLog.open sampleEnv .blank) w ∧
      w.holder = none ∧ w.shared.writer.file =
        sampleEnv.records.encodeLines [firstStored, secondStored "read"] := by
  obtain ⟨w, h, hfree, hfile⟩ := exists_log sampleEnv
    [.append (sampleRecord 1 "read"), .append (sampleRecord 2 "read")]
  exact ⟨w, h, hfree, hfile.trans (congrArg sampleEnv.records.encodeLines (chain_two _ _ _))⟩

theorem stored_hashes :
    ([firstStored, secondStored "read"].map (·.computeHash sampleEnv.sha256)).Nodup := by
  have hne : firstStored.computeHash sampleEnv.sha256 ≠
      (secondStored "read").computeHash sampleEnv.sha256 := by
    refine (collisionFree_sampleDigests.computeHash_eq_iff _ _).not.mpr ?_
    intro h
    have hid : (Uuid.fill 1 : Uuid) = Uuid.fill 2 := congrArg HashableRecord.recordId h
    exact absurd hid (by decide)
  simp [hne]

/-- Of a log of two records, the first line alone is accepted and the two lines in the other
    order are not. -/
theorem verifyChain_rearranged_sample :
    ∃ (l : FileActionLog) (first second : Bytes), lines l.writer.file = [first, second] ∧
      verifyChain sampleEnv (some (unlines [first])) = .ok [] ∧
      verifyChain sampleEnv (some (unlines [second, first])) ≠ .ok [] := by
  obtain ⟨w, h, hfree, hfile⟩ := exists_sampleLog
  have hiff := verifyChain_rearranged_iff sampleEnv w h hfree hfile stored_hashes
  have hlines : lines w.shared.writer.file =
      [sampleEnv.records.encode firstStored, sampleEnv.records.encode (secondStored "read")] := by
    rw [hfile, TextCodec.lines_encodeLines]
    rfl
  refine ⟨w.shared, _, _, hlines, (hiff _ ?_).mpr ?_, (hiff _ ?_).not.mpr ?_⟩
  · simp [hlines]
  · show sampleEnv.records.encodeLines [firstStored] <+: w.shared.writer.file
    rw [hfile, TextCodec.encodeLines_prefix_iff]
    simp
  · simp [hlines]
  · -- the second record cannot be the first one of the file
    show ¬ sampleEnv.records.encodeLines [secondStored "read", firstStored] <+:
      w.shared.writer.file
    rw [hfile, TextCodec.encodeLines_prefix_iff, List.cons_prefix_cons]
    intro hprefix
    have hid : (Uuid.fill 2 : Uuid) = Uuid.fill 1 := congrArg (fun r => r.recordId) hprefix.1
    exact absurd hid (by decide)

/-! ## The end of the log -/

/-- What an attacker does to the end of a log of records. -/
inductive TailTampering (rs : List ActionLogRecord) where
  /-- Everything after the first `keep` records is removed. -/
  | remove (keep : Nat) (hkeep : keep < rs.length)
  /-- The last record gets another content. -/
  | alter (front : List ActionLogRecord) (last altered : ActionLogRecord)
      (hrs : rs = front ++ [last]) (hne : altered ≠ last)

namespace TailTampering

variable {rs : List ActionLogRecord}

/-- The records that are left in the file. -/
def records : TailTampering rs → List ActionLogRecord
  | remove keep _ => rs.take keep
  | alter front _ altered _ _ => front ++ [altered]

/-- The tampering changes the link of the last record. -/
def BreaksLink : TailTampering rs → Prop
  | remove _ _ => False
  | alter _ last altered _ _ => altered.prevHash ≠ last.prevHash

end TailTampering

/-- The handle with another content of its file; hash and checkpoint stay. -/
def withFile (l : FileActionLog) (file : Bytes) : FileActionLog :=
  { l with writer := .new file }

/-- Verification reports at least one violation. -/
def Reports (log : Option Bytes) : Prop :=
  ∃ violation violations, verifyChain E log = .ok (violation :: violations)

/-- The changed file is reported, on the handle and after opening the log again. -/
def TamperingReported (l : FileActionLog) (file : Bytes) : Prop :=
  Reports E (l.withFile file).disk.log ∧
    Reports E (FileActionLog.open E (l.withFile file).drop).disk.log

/-- Neither `last_hash` nor the checkpoint plays a part in verification. -/
theorem tamperingReported_iff (l : FileActionLog) (rs : List ActionLogRecord) :
    TamperingReported E l (E.records.encodeLines rs) ↔
      ¬ (recordChain E.sha256).Linked genesis rs := by
  have hopen : (FileActionLog.open E (l.withFile (E.records.encodeLines rs)).drop).disk.log =
      some (E.records.encodeLines rs) := by
    simp [FileActionLog.open, drop, withFile, disk, BufWriter.new, BufWriter.contents]
  rw [TamperingReported, hopen]
  show Reports E (some (E.records.encodeLines rs)) ∧ Reports E (some (E.records.encodeLines rs)) ↔ _
  -- both reports are about the same file, and are empty for a linked one
  rw [and_self, Reports, verifyChain_encodeLines, ← violationsFrom_eq_nil_iff E 0]
  cases violationsFrom E 0 genesis rs with
  | nil => simp
  | cons v vs => simp

/-- **Tampered end.** Of all ways to remove records from the end of a log or to alter its last
    record, the verifier reports those that alter the link of the last record, and no others. -/
theorem tailTampering_reported_iff (w : Section FileActionLog LogOp)
    (h : Section.Reachable (opSteps E) (FileActionLog.open E .blank) w) (hfree : w.holder = none)
    {rs : List ActionLogRecord} (hfile : w.shared.writer.file = E.records.encodeLines rs)
    (t : TailTampering rs) :
    TamperingReported E w.shared (E.records.encodeLines t.records) ↔ t.BreaksLink := by
  have hlinked := linked_of_reachable E h hfree hfile
  rw [tamperingReported_iff]
  cases t with
  | remove keep hkeep =>
    -- a prefix of a linked log is linked
    have hprefix : (recordChain E.sha256).Linked genesis (rs.take keep) := by
      rw [← List.take_append_drop keep rs, LinkedRecords.linked_append] at hlinked
      exact hlinked.1
    exact iff_of_false (not_not_intro hprefix) id
  | alter front last altered hrs hne =>
    rw [hrs, LinkedRecords.linked_concat] at hlinked
    obtain ⟨hfront, hlast⟩ := hlinked
    show ¬ (recordChain E.sha256).Linked genesis (front ++ [altered]) ↔
      altered.prevHash ≠ last.prevHash
    rw [LinkedRecords.linked_concat, and_iff_right hfront, ← hlast]
    exact Iff.rfl

/-- The last of two records is removed, or altered with its link kept: both go unreported. -/
theorem tailTampering_sample : ∃ l : FileActionLog,
    ¬ TamperingReported sampleEnv l (sampleEnv.records.encodeLines [firstStored]) ∧
      ¬ TamperingReported sampleEnv l
        (sampleEnv.records.encodeLines [firstStored, secondStored "delete"]) := by
  obtain ⟨w, h, hfree, hfile⟩ := exists_sampleLog
  have hiff := tailTampering_reported_iff sampleEnv w h hfree hfile
  refine ⟨w.shared, (hiff (.remove 1 (by simp))).not.mpr id, ?_⟩
  have hne : secondStored "delete" ≠ secondStored "read" := by
    intro h
    have haction : "delete" = "read" := congrArg (fun r => r.action) h
    exact absurd haction (by decide)
  -- both changes leave a linked file
  exact (hiff (.alter [firstStored] _ _ rfl hne)).not.mpr (not_not_intro rfl)

/-- The verifier does not notice that the last of two records is gone. -/
theorem removal_not_reported :
    ¬ ∀ E : LogEnv, CollisionFree E.sha256 → ∀ w : Section FileActionLog LogOp,
      Section.Reachable (opSteps E) (FileActionLog.open E .blank) w → w.holder = none →
      ∀ rs : List ActionLogRecord, w.shared.writer.file = E.records.encodeLines rs →
      ∀ t : TailTampering rs, TamperingReported E w.shared (E.records.encodeLines t.records) := by
  intro hclaim
  obtain ⟨w, h, hfree, hfile⟩ := exists_sampleLog
  have hreported := hclaim sampleEnv collisionFree_sampleDigests w h hfree _ hfile
    (.remove 1 (by simp))
  rw [tamperingReported_iff] at hreported
  apply hreported
  -- the first record alone is a linked file
  show (recordChain sampleEnv.sha256).Linked genesis [firstStored]
  exact ⟨rfl, trivial⟩

end FileActionLog

end AgentGovernance.Compliance
