import AgentGovernance.Compliance.LogRuns

/-!
# Killing the process inside an append

`chaos_test.sh` kills the daemon while it writes and expects the log to verify after a
restart.  The process may stop after any number of the steps of an append.  Opening the
log again trusts the checkpoint and does not look at the log file, so it recovers only
before the first byte of the line is written and after the last byte of the checkpoint,
or when the checkpoint was not touched yet and the new record happens to have the hash
that it names.
-/

namespace AgentGovernance.Compliance

open AgentGovernance.Lib AgentGovernance.Mesh

namespace FileActionLog

open Section (perform perform_append)

variable (E : LogEnv)

/-- Appends without failure. -/
def appendAll (l : FileActionLog) (records : List ActionLogRecord) : FileActionLog :=
  records.foldl (fun l record => (l.append E record .ok).1) l

/-- After opening the files again and any appends, the chain is intact and the history is read. -/
def Recovers (d : Disk) : Prop :=
  ∀ further : List ActionLogRecord,
    FileActionLog.verifyChain E ((FileActionLog.open E d).appendAll E further).disk.log = .ok [] ∧
    ∀ agentDid, ∃ history,
      loadHistory E ((FileActionLog.open E d).appendAll E further).disk.log agentDid = .ok history

/-- The files after a process was killed behind the given number of steps of an append. -/
def crash (l : FileActionLog) (record : ActionLogRecord) (steps : Nat) : Disk :=
  (perform ((l.appendSteps E record).take steps) l).disk

variable {E} {rs : List ActionLogRecord} {l : FileActionLog}

theorem Synced.appendAll (h : Synced E rs l) (further : List ActionLogRecord) :
    Synced E (rs ++ further) (l.appendAll E further) := by
  induction further generalizing rs l with
  | nil =>
    rw [List.append_nil]
    exact h
  | cons record further ih =>
    have hstep : Synced E (rs ++ [record]) (l.append E record .ok).1 := by
      rw [append_ok]
      exact h.appended record
    -- one record goes to the other side of the append
    have htail := ih hstep
    rw [List.append_assoc, List.singleton_append] at htail
    exact htail

theorem Synced.loadHistory (h : Synced E rs l) (agentDid : String) :
    FileActionLog.loadHistory E l.disk.log agentDid =
      .ok (((recordChain E.sha256).chain genesis rs).filterMap (historyEntry agentDid)) := by
  rw [disk, h.file]
  exact (loadHistory_eq_ok_iff E _ _ _).mpr ⟨_, E.records.decodeLines_encodeLines _, rfl⟩

/-! ## Files with whole lines -/

/-- **Whole lines** recover exactly when the checkpoint names the hash of the last record. -/
theorem recovers_iff_of_lines {d : Disk}
    (hfile : d.log = some (E.records.encodeLines ((recordChain E.sha256).chain genesis rs))) :
    Recovers E d ↔ checkpointHash E d.checkpoint = (recordChain E.sha256).head genesis rs := by
  have hopen : (FileActionLog.open E d).writer =
      .new (E.records.encodeLines ((recordChain E.sha256).chain genesis rs)) := by
    rw [FileActionLog.open, hfile]
    rfl
  constructor
  · intro h
    -- the next record is linked to the checkpoint's hash, which must be the last record's
    have hnext := (h [sampleRecord 1 "read"]).1
    have hlog : ((FileActionLog.open E d).appendAll E [sampleRecord 1 "read"]).disk.log =
        some (E.records.encodeLines ((recordChain E.sha256).chain genesis rs ++
          [(FileActionLog.open E d).stored (sampleRecord 1 "read")])) := by
      show ((FileActionLog.open E d).append E _ .ok).1.disk.log = _
      rw [append_ok, TextCodec.encodeLines_concat]
      simp [disk, FileActionLog.appended, hopen, lineOf, BufWriter.new, BufWriter.contents]
    rw [hlog, verifyChain_eq_nil_iff] at hnext
    obtain ⟨ss, hss, hlinked⟩ := hnext
    rw [TextCodec.decodeLines_encodeLines] at hss
    obtain rfl := Option.some.inj hss
    have hlink := ((recordChain E.sha256).linked_concat _ _ _).mp hlinked
    rw [LinkedRecords.head_chain] at hlink
    exact hlink.2
  · -- with the right hash in the checkpoint, the opened log is in step with its records
    intro h further
    have hsync : Synced E rs (FileActionLog.open E d) := by
      refine ⟨?_, ?_, h, rfl⟩
      · rw [hopen]
        rfl
      · rw [hopen]
        rfl
    exact ⟨(hsync.appendAll further).verifyChain,
      fun agentDid => ⟨_, (hsync.appendAll further).loadHistory agentDid⟩⟩

/-! ## Files that end inside a line -/

/-- **A torn line** never recovers: it does not parse, and a whole text without its line feed runs
    into the next record. -/
theorem not_recovers_of_torn {d : Disk} (rs : List ActionLogRecord) (r : ActionLogRecord) (p : Bytes)
    (hp : p <+: E.records.encode r) (hne : p ≠ [])
    (hfile : d.log = some (E.records.encodeLines rs ++ p)) : ¬ Recovers E d := by
  intro h
  have hopen : (FileActionLog.open E d).writer = .new (E.records.encodeLines rs ++ p) := by
    rw [FileActionLog.open, hfile]
    rfl
  by_cases hwhole : p = E.records.encode r
  -- a whole text without its line feed shares the line of the next record
  · have hnext := (h [r]).1
    have hlog : ((FileActionLog.open E d).appendAll E [r]).disk.log =
        some (E.records.encodeLines rs ++ (E.records.encode r ++
          E.records.encode ((FileActionLog.open E d).stored r) ++ newline :: [])) := by
      show ((FileActionLog.open E d).append E r .ok).1.disk.log = _
      rw [append_ok]
      simp [disk, FileActionLog.appended, hopen, lineOf, BufWriter.new, BufWriter.contents, hwhole]
    rw [hlog] at hnext
    exact verifyChain_ne_ok E (E.records.decodeLines_joined rs r _ []) [] hnext
  -- a shorter text does not parse as it stands
  · have hnow := (h []).1
    have hlog : ((FileActionLog.open E d).appendAll E []).disk.log =
        some (E.records.encodeLines rs ++ p) := by
      show (FileActionLog.open E d).disk.log = _
      rw [disk, hopen]
      rfl
    rw [hlog] at hnow
    exact verifyChain_ne_ok E (E.records.decodeLines_torn rs r p hp hne hwhole) [] hnow

/-! ## Crash points -/

/-- Killed while the line is written. -/
theorem crash_line (l : FileActionLog) (record : ActionLogRecord) {k : Nat}
    (hk : k ≤ (l.lineOf E record).length) :
    l.crash E record k = ⟨some (l.writer.file ++ (l.lineOf E record).take k), l.checkpointFile⟩ := by
  rw [crash, appendSteps, List.take_append_of_le_length (by rw [List.length_map]; exact hk),
    ← List.map_take, perform_putByte]
  rfl

/-- Killed between the line and the checkpoint. -/
theorem crash_hash (l : FileActionLog) (record : ActionLogRecord) :
    l.crash E record ((l.lineOf E record).length + 1) =
      ⟨some (l.writer.file ++ l.lineOf E record), l.checkpointFile⟩ := by
  rw [crash, appendSteps, List.take_append, List.length_map, Nat.add_sub_cancel_left,
    List.take_of_length_le (by rw [List.length_map]; omega), perform_append, perform_putByte]
  rfl

/-- Killed while the checkpoint is written. -/
theorem crash_checkpoint (l : FileActionLog) (record : ActionLogRecord) (j : Nat) :
    l.crash E record ((l.lineOf E record).length + 2 + j) =
      ⟨some (l.writer.file ++ l.lineOf E record), some ((l.checkpointOf E record).take j)⟩ := by
  rw [crash, appendSteps, List.take_append, List.length_map,
    show (l.lineOf E record).length + 2 + j - (l.lineOf E record).length = j + 2 by omega,
    List.take_of_length_le (by rw [List.length_map]; omega), perform_append, perform_putByte,
    List.take_succ_cons, List.take_succ_cons, ← List.map_take]
  show (perform (((l.checkpointOf E record).take j).map putCheckpointByte) (truncateCheckpoint
    (setLastHash (record.computeHash E.sha256) _))).disk = _
  rw [perform_putCheckpointByte _ [] _ rfl]
  rfl

theorem length_appendSteps (l : FileActionLog) (record : ActionLogRecord) :
    (l.appendSteps E record).length =
      (l.lineOf E record).length + 2 + (l.checkpointOf E record).length := by
  simp [appendSteps]
  omega

/-- A checkpoint that was cut short counts as none. -/
theorem checkpointHash_take (l : FileActionLog) (record : ActionLogRecord) {j : Nat}
    (hj : j < (l.checkpointOf E record).length) :
    checkpointHash E (some ((l.checkpointOf E record).take j)) = genesis := by
  have hne : (l.checkpointOf E record).take j ≠ l.checkpointOf E record := by
    intro h
    have hlen := congrArg List.length h
    rw [List.length_take] at hlen
    omega
  have hnone : E.checkpoints.decode ((l.checkpointOf E record).take j) = none :=
    E.checkpoints.decode_truncated _ _ (List.take_prefix _ _) hne
  simp [checkpointHash, hnone]

/-- The file of a log in step, with the whole new line. -/
theorem Synced.file_line (h : Synced E rs l) (record : ActionLogRecord) :
    l.writer.file ++ l.lineOf E record =
      E.records.encodeLines ((recordChain E.sha256).chain genesis (rs ++ [record])) := by
  have happ := (h.appended record).file
  rw [FileActionLog.appended, h.contents] at happ
  exact happ

/-- The crash points that reopening recovers from: before the first byte of the line, after the
    last byte of the checkpoint, or between the two files with a record of the old last hash. -/
def SafePoint (E : LogEnv) (l : FileActionLog) (record : ActionLogRecord) (k : Nat) : Prop :=
  k = 0 ∨ (l.appendSteps E record).length ≤ k ∨
    ((k = (l.lineOf E record).length ∨ k = (l.lineOf E record).length + 1) ∧
      record.computeHash E.sha256 = l.lastHash)

/-- When the line is whole, the checkpoint decides. -/
theorem Synced.recovers_line_iff (h : Synced E rs l) (record : ActionLogRecord)
    (cp : Option Bytes) :
    Recovers E ⟨some (l.writer.file ++ l.lineOf E record), cp⟩ ↔
      checkpointHash E cp = record.computeHash E.sha256 := by
  rw [h.file_line record, recovers_iff_of_lines rfl, LinkedRecords.head_concat]
  rfl

/-- A crash before the line is whole is recovered from when nothing was written. -/
theorem Synced.recovers_iff_of_lt (h : Synced E rs l) (record : ActionLogRecord) {k : Nat}
    (hk : k < (l.lineOf E record).length) : Recovers E (l.crash E record k) ↔ k = 0 := by
  have hline : (l.lineOf E record).length = (E.records.encode (l.stored record)).length + 1 := by
    rw [lineOf, List.length_append, List.length_singleton]
  rw [crash_line l record hk.le]
  rcases Nat.eq_zero_or_pos k with rfl | hpos
  · refine iff_of_true ?_ rfl
    rw [List.take_zero, List.append_nil]
    exact (recovers_iff_of_lines (by rw [h.file])).mpr (h.checkpoint.trans h.lastHash)
  · -- the file ends inside the line
    refine iff_of_false ?_ (Nat.ne_of_gt hpos)
    apply not_recovers_of_torn ((recordChain E.sha256).chain genesis rs) (l.stored record)
      ((E.records.encode (l.stored record)).take k) (List.take_prefix _ _)
    · intro hnil
      have hlen := congrArg List.length hnil
      rw [List.length_take, List.length_nil] at hlen
      omega
    · rw [h.file, lineOf, List.take_append_of_le_length (by omega)]

/-- Between the line and the checkpoint, the old checkpoint has to name the new record. -/
theorem Synced.recovers_iff_of_between (h : Synced E rs l) (record : ActionLogRecord) {k : Nat}
    (hk : k = (l.lineOf E record).length ∨ k = (l.lineOf E record).length + 1) :
    Recovers E (l.crash E record k) ↔ record.computeHash E.sha256 = l.lastHash := by
  have hcrash : l.crash E record k =
      ⟨some (l.writer.file ++ l.lineOf E record), l.checkpointFile⟩ := by
    rcases hk with rfl | rfl
    · rw [crash_line l record le_rfl, List.take_length]
    · rw [crash_hash]
  rw [hcrash, h.recovers_line_iff, h.checkpoint]
  exact eq_comm

/-- A crash after the checkpoint was truncated is recovered from when it is whole again. -/
theorem Synced.recovers_iff_of_checkpoint (h : Synced E rs l) (record : ActionLogRecord) (j : Nat) :
    Recovers E (l.crash E record ((l.lineOf E record).length + 2 + j)) ↔
      (l.checkpointOf E record).length ≤ j := by
  rw [crash_checkpoint, h.recovers_line_iff]
  rcases Nat.lt_or_ge j (l.checkpointOf E record).length with hj | hj
  · refine iff_of_false ?_ (Nat.not_le.mpr hj)
    rw [checkpointHash_take l record hj]
    exact (record.computeHash_ne_genesis E.sha256).symm
  · refine iff_of_true ?_ hj
    rw [List.take_of_length_le hj]
    exact checkpointHash_text E _ _

/-- The crash points of a log in step. -/
theorem Synced.recovers_iff (h : Synced E rs l) (record : ActionLogRecord) (k : Nat) :
    Recovers E (l.crash E record k) ↔ SafePoint E l record k := by
  -- the two writes are not empty, which tells the kill points apart
  have hline : 0 < (l.lineOf E record).length := by
    rw [lineOf, List.length_append, List.length_singleton]
    omega
  have hcp : 0 < (l.checkpointOf E record).length :=
    List.length_pos_iff.mpr (E.checkpoints.encode_ne_nil _)
  have hsteps := l.length_appendSteps (E := E) record
  -- before the line is whole, between the two files, and inside the checkpoint
  rw [SafePoint, hsteps]
  rcases Nat.lt_or_ge k (l.lineOf E record).length with hlt | hge
  · rw [h.recovers_iff_of_lt record hlt]
    omega
  · rcases Nat.lt_or_ge k ((l.lineOf E record).length + 2) with hk | hk
    · rw [h.recovers_iff_of_between record (by omega)]
      constructor
      · intro heq
        exact .inr (.inr ⟨by omega, heq⟩)
      · rintro (hzero | hend | ⟨-, heq⟩)
        · omega
        · omega
        · exact heq
    · obtain ⟨j, rfl⟩ := Nat.exists_eq_add_of_le hk
      rw [h.recovers_iff_of_checkpoint record j]
      omega

variable (E)

/-- **Crash recovery**: for every log that appends and reopens lead to and every point inside the
    next append, reopening recovers exactly from the safe points. -/
theorem crash_recovers_iff (ops : List LogOp) (record : ActionLogRecord) (k : Nat) :
    Recovers E ((Section.runJobs (opSteps E) (FileActionLog.open E .blank) ops).crash E record k) ↔
      SafePoint E (Section.runJobs (opSteps E) (FileActionLog.open E .blank) ops) record k :=
  ((synced_blank E).runJobs ops).recovers_iff record k

/-- Killed between the flush of the first line and the write of the checkpoint. -/
noncomputable def killedBeforeCheckpoint : Nat :=
  ((FileActionLog.open sampleEnv .blank).lineOf sampleEnv (sampleRecord 1 "read")).length + 1

/-- The log does not recover from that point. -/
theorem crash_not_recovering :
    ¬ ∀ (E : LogEnv) (ops : List LogOp) (record : ActionLogRecord) (k : Nat),
      Recovers E
        ((Section.runJobs (opSteps E) (FileActionLog.open E .blank) ops).crash E record k) := by
  intro h
  have hsafe := ((synced_blank sampleEnv).recovers_iff (sampleRecord 1 "read")
    killedBeforeCheckpoint).mp (h sampleEnv [] (sampleRecord 1 "read") killedBeforeCheckpoint)
  rcases hsafe with hzero | hend | ⟨-, heq⟩
  · -- the kill point is neither at the beginning nor at the end
    rw [killedBeforeCheckpoint] at hzero
    omega
  · rw [length_appendSteps, killedBeforeCheckpoint] at hend
    omega
  · exact (sampleRecord 1 "read").computeHash_ne_genesis _ heq

end FileActionLog

end AgentGovernance.Compliance
