import AgentGovernance.Compliance.HashChain
import AgentGovernance.Lib.CriticalSection

/-!
# Runs of the action log

Any number of threads append to the live handle, and the log is opened again after the
handle was dropped.  `append` holds the `last_hash` lock throughout, so its steps on the
files are the actions of one critical section: the bytes of the line one by one, the hash
in memory, then the truncated checkpoint and its bytes.

`Synced` is the invariant: file, memory and checkpoint agree on what was appended.
-/

namespace AgentGovernance.Compliance

open AgentGovernance.Lib AgentGovernance.Mesh

namespace FileActionLog

variable (E : LogEnv)

/-! ## One append, step by step -/

/-- A byte of the line reaches the file. -/
def putByte (b : UInt8) (l : FileActionLog) : FileActionLog :=
  { l with writer := { l.writer with file := l.writer.file ++ [b] } }

/-- `*lh = record.compute_hash()`. -/
def setLastHash (h : String) (l : FileActionLog) : FileActionLog :=
  { l with lastHash := h }

/-- `std::fs::write` empties the checkpoint file. -/
def truncateCheckpoint (l : FileActionLog) : FileActionLog :=
  { l with checkpointFile := some [] }

/-- A byte of the checkpoint reaches its file. -/
def putCheckpointByte (b : UInt8) (l : FileActionLog) : FileActionLog :=
  { l with checkpointFile := l.checkpointFile.map (· ++ [b]) }

/-- The line of a record on a log with the given last hash. -/
def lineOf (l : FileActionLog) (record : ActionLogRecord) : Bytes :=
  E.records.encode (l.stored record) ++ [newline]

/-- The checkpoint that goes with a record. -/
def checkpointOf (l : FileActionLog) (record : ActionLogRecord) : Bytes :=
  checkpointText E (record.computeHash E.sha256) (l.writer.file.length + (l.lineOf E record).length)

/-- The steps of an append that meets no failure. -/
def appendSteps (l : FileActionLog) (record : ActionLogRecord) :
    List (FileActionLog → FileActionLog) :=
  (l.lineOf E record).map putByte ++
    (setLastHash (record.computeHash E.sha256) :: truncateCheckpoint ::
      (l.checkpointOf E record).map putCheckpointByte)

open Section (perform perform_append)

theorem perform_putByte (bs : Bytes) (l : FileActionLog) :
    perform (bs.map putByte) l =
      { l with writer := { l.writer with file := l.writer.file ++ bs } } := by
  induction bs generalizing l with
  | nil => simp [perform]
  | cons b bs ih =>
    show perform (bs.map putByte) (putByte b l) = _
    rw [ih]
    simp [putByte]

theorem perform_putCheckpointByte (bs old : Bytes) (l : FileActionLog)
    (h : l.checkpointFile = some old) :
    perform (bs.map putCheckpointByte) l = { l with checkpointFile := some (old ++ bs) } := by
  induction bs generalizing l old with
  | nil => simp [perform, ← h]
  | cons b bs ih =>
    show perform (bs.map putCheckpointByte) (putCheckpointByte b l) = _
    rw [ih (old ++ [b]) _ (by simp [putCheckpointByte, h])]
    simp [putCheckpointByte]

/-- The hash of a stored record is that of the record given to `append`. -/
theorem computeHash_stored (l : FileActionLog) (record : ActionLogRecord) :
    (l.stored record).computeHash E.sha256 = record.computeHash E.sha256 :=
  (recordChain E.sha256).tagOf_setLink l.lastHash record

/-- The state after an append that meets no failure. -/
def appended (l : FileActionLog) (record : ActionLogRecord) : FileActionLog where
  writer := .new (l.writer.contents ++ l.lineOf E record)
  checkpointFile := some (checkpointText E (record.computeHash E.sha256)
    (l.writer.contents.length + (l.lineOf E record).length))
  lastHash := record.computeHash E.sha256

/-- **Append without failure**: the line is in the file, and hash and checkpoint are the record's. -/
theorem append_ok (l : FileActionLog) (record : ActionLogRecord) :
    l.append E record .ok = (l.appended E record, .ok ()) := by
  simp [append, AppendOutcome.ok, BufWriter.writeLine_done, writeCheckpoint, appended, lineOf,
    computeHash_stored, BufWriter.new]

/-- The steps of `append` are `append`. -/
theorem perform_appendSteps (l : FileActionLog) (record : ActionLogRecord)
    (hbuf : l.writer.buf = []) : perform (l.appendSteps E record) l = l.appended E record := by
  rw [appendSteps, perform_append, perform_putByte]
  show perform ((l.checkpointOf E record).map putCheckpointByte) (truncateCheckpoint (setLastHash
    (record.computeHash E.sha256) _)) = _
  rw [perform_putCheckpointByte _ [] _ rfl]
  simp [truncateCheckpoint, setLastHash, appended, checkpointOf, BufWriter.new, BufWriter.contents,
    hbuf]

/-! ## Runs -/

inductive LogOp where
  /-- The handle is dropped and the log is opened again. -/
  | reopen
  | append (record : ActionLogRecord)

/-- The actions of an operation inside the critical section. -/
def opSteps : LogOp → FileActionLog → List (FileActionLog → FileActionLog)
  | .reopen, _ => [fun l => FileActionLog.open E l.drop]
  | .append record, l => l.appendSteps E record

/-- The records that were appended, in lock order. -/
def appendedRecords (ops : List LogOp) : List ActionLogRecord :=
  ops.filterMap fun
    | .append record => some record
    | .reopen => none

/-- File, memory and checkpoint agree on the records appended so far. -/
structure Synced (rs : List ActionLogRecord) (l : FileActionLog) : Prop where
  buffer : l.writer.buf = []
  file : l.writer.file = E.records.encodeLines ((recordChain E.sha256).chain genesis rs)
  lastHash : l.lastHash = (recordChain E.sha256).head genesis rs
  checkpoint : checkpointHash E l.checkpointFile = l.lastHash

theorem checkpointHash_text (h : String) (n : Nat) :
    checkpointHash E (some (checkpointText E h n)) = h := by
  simp [checkpointHash, checkpointText, E.checkpoints.decode_encode]

theorem synced_blank : Synced E [] (FileActionLog.open E .blank) where
  buffer := rfl
  file := rfl
  lastHash := rfl
  checkpoint := rfl

variable {E} {rs : List ActionLogRecord} {l : FileActionLog}

theorem Synced.contents (h : Synced E rs l) : l.writer.contents = l.writer.file := by
  rw [BufWriter.contents, h.buffer, List.append_nil]

/-- Opening the log again changes nothing. -/
theorem Synced.open_drop (h : Synced E rs l) : FileActionLog.open E l.drop = l := by
  obtain ⟨⟨file, buf⟩, checkpointFile, lastHash⟩ := l
  obtain rfl : buf = [] := h.buffer
  have hcp : checkpointHash E checkpointFile = lastHash := h.checkpoint
  simp [FileActionLog.open, drop, BufWriter.new, BufWriter.contents, hcp]

/-- An append extends the records by one. -/
theorem Synced.appended (h : Synced E rs l) (record : ActionLogRecord) :
    Synced E (rs ++ [record]) (l.appended E record) where
  buffer := rfl
  file := by
    rw [LinkedRecords.chain_concat, TextCodec.encodeLines_concat, ← h.file, ← h.lastHash]
    simp only [FileActionLog.appended, BufWriter.new, h.contents, lineOf, List.append_assoc]
    rfl
  lastHash := ((recordChain E.sha256).head_concat genesis rs record).symm
  checkpoint := checkpointHash_text E _ _

/-- **Step.** A whole operation keeps the log in step with the appended records. -/
theorem Synced.runJob (h : Synced E rs l) (op : LogOp) :
    Synced E (rs ++ appendedRecords [op]) (Section.runJob (opSteps E) l op) := by
  cases op with
  | reopen =>
    show Synced E (rs ++ []) (FileActionLog.open E l.drop)
    rw [List.append_nil, h.open_drop]
    exact h
  | append record =>
    show Synced E (rs ++ [record]) (perform (l.appendSteps E record) l)
    rw [perform_appendSteps E l record h.buffer]
    exact h.appended record

/-- **Run.** So do any number of operations. -/
theorem Synced.runJobs (h : Synced E rs l) (ops : List LogOp) :
    Synced E (rs ++ appendedRecords ops) (Section.runJobs (opSteps E) l ops) := by
  induction ops using List.reverseRecOn with
  | nil =>
    rw [show appendedRecords [] = [] from rfl, List.append_nil]
    exact h
  | append_singleton ops op ih =>
    rw [Section.runJobs_concat, show appendedRecords (ops ++ [op]) =
      appendedRecords ops ++ appendedRecords [op] from List.filterMap_append, ← List.append_assoc]
    exact ih.runJob op

/-- A log in step with its records is accepted. -/
theorem Synced.verifyChain (h : Synced E rs l) : verifyChain E l.disk.log = .ok [] := by
  rw [disk, h.file]
  exact verifyChain_chain E rs

variable (E)

/-- **Serialized log.** From no files, whatever threads append in whatever lock order and however
    often the log is opened again: the chain is intact, memory and a reopened handle have the hash
    of the last record, and the file is the appended records in lock order with their links
    filled in. -/
theorem log_serialized (w : Section FileActionLog LogOp)
    (h : Section.Reachable (opSteps E) (FileActionLog.open E .blank) w) (hfree : w.holder = none) :
    FileActionLog.verifyChain E w.shared.disk.log = .ok [] ∧
    ∃ rs, w.shared.disk.log = some (E.records.encodeLines rs) ∧
      E.records.decodeLines (E.records.encodeLines rs) = some rs ∧
      w.shared.lastHash = (rs.getLast?.map (·.computeHash E.sha256)).getD genesis ∧
      (FileActionLog.open E w.shared.drop).lastHash = w.shared.lastHash ∧
      rs.map (·.toHashableRecord) = (appendedRecords w.order).map (·.toHashableRecord) := by
  have hw := Section.serialized_of_reachable (opSteps E) _ w h
  rw [Section.Serialized, hfree] at hw
  -- nobody holds the lock, so the log is what the finished calls have made in their order
  have hsync : Synced E (appendedRecords w.order) w.shared := by
    rw [hw]
    exact (synced_blank E).runJobs w.order
  refine ⟨hsync.verifyChain, (recordChain E.sha256).chain genesis (appendedRecords w.order), ?_,
    E.records.decodeLines_encodeLines _, ?_, ?_, ?_⟩
  · rw [disk, hsync.file]
  · rw [hsync.lastHash, ← LinkedRecords.head_chain, LinkedRecords.head_eq_getLast?]
    rfl
  · rw [hsync.open_drop]
  · exact (recordChain E.sha256).map_content_chain genesis _

/-- Two appends with the log opened again in between. -/
theorem log_serialized_sample :
    ∃ l : FileActionLog, FileActionLog.verifyChain sampleEnv l.disk.log = .ok [] ∧
      ∃ rs, l.disk.log = some (sampleEnv.records.encodeLines rs) ∧
        rs.map (·.toHashableRecord) =
          [(sampleRecord 1 "read").toHashableRecord, (sampleRecord 2 "read").toHashableRecord] := by
  obtain ⟨hverify, rs, hfile, -, -, -, hrs⟩ := log_serialized sampleEnv _
    (Section.reachable_runJobs (opSteps sampleEnv) _
      [.append (sampleRecord 1 "read"), .reopen, .append (sampleRecord 2 "read")]) rfl
  exact ⟨_, hverify, rs, hfile, hrs⟩

end FileActionLog

end AgentGovernance.Compliance
