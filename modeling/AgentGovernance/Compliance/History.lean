import AgentGovernance.Compliance.LogRuns
import AgentGovernance.Compliance.Rules

/-!
# What the log tells about an agent

`Stored` says that the log file holds certain records, whatever their links; an append
adds one.  `load_history` then delivers the agent's own permitted records and nothing
else, which is all that the rules see of the past.
-/

namespace AgentGovernance.Compliance

open AgentGovernance.Lib AgentGovernance.Mesh

/-- A permitted record of the agent. -/
def IsOwn (did : String) (record : ActionLogRecord) : Prop :=
  record.agentDid = did ∧ record.outcome = .permitted

instance (did : String) (record : ActionLogRecord) : Decidable (IsOwn did record) :=
  inferInstanceAs (Decidable (_ ∧ _))

namespace FileActionLog

/-- The log file is exactly the given records, and nothing waits in the writer. -/
structure Stored (E : LogEnv) (rs : List ActionLogRecord) (l : FileActionLog) : Prop where
  buffer : l.writer.buf = []
  file : l.writer.file = E.records.encodeLines rs

variable {E : LogEnv} {rs : List ActionLogRecord} {l : FileActionLog}

/-- A log that is opened on an empty or missing file. -/
theorem stored_open (d : Disk) (hempty : d.log.getD [] = []) :
    Stored E [] (FileActionLog.open E d) where
  buffer := rfl
  file := hempty

theorem Synced.stored (h : Synced E rs l) :
    Stored E ((recordChain E.sha256).chain genesis rs) l where
  buffer := h.buffer
  file := h.file

theorem Stored.decodeLines (h : Stored E rs l) :
    E.records.decodeLines l.writer.file = some rs := by
  rw [h.file, E.records.decodeLines_encodeLines]

/-- The number of lines of the log file. -/
def lineCount (l : FileActionLog) : Nat :=
  (lines l.writer.file).length

theorem Stored.lineCount (h : Stored E rs l) : l.lineCount = rs.length := by
  have hlines := E.records.lines_encodeLines_append rs []
  rw [List.append_nil, lines_nil, List.append_nil] at hlines
  rw [FileActionLog.lineCount, h.file, hlines, List.length_map]

/-- The checkpoint is another file. -/
@[simp] theorem writer_writeCheckpoint (l : FileActionLog) (o : CheckpointOutcome) :
    (l.writeCheckpoint E o).2.writer = l.writer := by
  unfold writeCheckpoint
  cases o with
  | done => rfl
  | notOpened => rfl
  | failedAfter n =>
    dsimp only
    split <;> rfl

/-- A written line is in the file, whatever becomes of the checkpoint. -/
theorem writer_append (l : FileActionLog) (record : ActionLogRecord) {io : AppendOutcome}
    (hio : io.line = .ok) :
    (l.append E record io).1.writer = .new (l.writer.contents ++ l.lineOf E record) := by
  simp only [FileActionLog.append, hio, BufWriter.writeLine_done, lineOf, List.append_assoc,
    Bool.not_true, Bool.false_eq_true, if_false]
  split
  · rfl
  · split <;> exact writer_writeCheckpoint _ _

/-- An append whose line is written adds the record with its link filled in. -/
theorem Stored.append_line (h : Stored E rs l) (record : ActionLogRecord) {io : AppendOutcome}
    (hio : io.line = .ok) : Stored E (rs ++ [l.stored record]) (l.append E record io).1 := by
  refine ⟨by rw [writer_append l record hio]; rfl, ?_⟩
  rw [writer_append l record hio]
  show l.writer.contents ++ l.lineOf E record = _
  rw [BufWriter.contents, h.buffer, List.append_nil, h.file, E.records.encodeLines_concat, lineOf,
    List.append_assoc]

/-- An append adds the record with its link filled in. -/
theorem Stored.append (h : Stored E rs l) (record : ActionLogRecord) :
    Stored E (rs ++ [l.stored record]) (l.append E record .ok).1 :=
  h.append_line record rfl

/-- **History**: reading delivers the agent's permitted records in their order. -/
theorem Stored.loadHistory (h : Stored E rs l) (did : String) :
    FileActionLog.loadHistory E l.disk.log did = .ok (rs.filterMap (historyEntry did)) := by
  have hparse := (parseLines_eq_ok_iff E _ rs).mpr h.decodeLines
  simp only [FileActionLog.loadHistory, disk, hparse, Except.map]

/-- **Replay**: reading delivers the records that are not older. -/
theorem Stored.replaySince (h : Stored E rs l) (since : DateTime) :
    FileActionLog.replaySince E l.disk.log since = .ok (rs.filter (since ≤ ·.timestamp)) := by
  have hparse := (parseLines_eq_ok_iff E _ rs).mpr h.decodeLines
  simp only [FileActionLog.replaySince, disk, hparse, Except.map]

theorem historyEntry_of_isOwn {did : String} {record : ActionLogRecord} (h : IsOwn did record) :
    historyEntry did record =
      some ⟨record.action, record.timestamp, record.resourceCategory⟩ :=
  if_pos h

theorem historyEntry_of_not_isOwn {did : String} {record : ActionLogRecord}
    (h : ¬ IsOwn did record) : historyEntry did record = none :=
  if_neg h

/-- Records of other agents, denied records and discovery events are not part of a history. -/
theorem filterMap_historyEntry_filter (did : String) (rs : List ActionLogRecord) :
    (rs.filter (IsOwn did ·)).filterMap (historyEntry did) = rs.filterMap (historyEntry did) := by
  induction rs with
  | nil => rfl
  | cons record rs ih =>
    by_cases hown : IsOwn did record
    · rw [List.filter_cons_of_pos (by simpa using hown), List.filterMap_cons, List.filterMap_cons,
        historyEntry_of_isOwn hown, ih]
    · rw [List.filter_cons_of_neg (by simpa using hown), List.filterMap_cons,
        historyEntry_of_not_isOwn hown, ih]

/-- What holds of every entry of a history holds of every permitted record of the agent. -/
theorem forall_mem_history (did : String) (rs : List ActionLogRecord)
    (P : DataCategory → String → DateTime → Prop) :
    (∀ r ∈ rs.filterMap (historyEntry did), P r.resourceCategory r.action r.timestamp) ↔
      ∀ w ∈ rs, IsOwn did w → P w.resourceCategory w.action w.timestamp := by
  constructor
  · intro h w hw hown
    exact h _ (List.mem_filterMap.mpr ⟨w, hw, historyEntry_of_isOwn hown⟩)
  · intro h r hr
    obtain ⟨w, hw, hentry⟩ := List.mem_filterMap.mp hr
    -- only the agent's own permitted records become entries
    by_cases hown : IsOwn did w
    · rw [historyEntry_of_isOwn hown] at hentry
      obtain rfl := Option.some.inj hentry
      exact h w hw hown
    · rw [historyEntry_of_not_isOwn hown] at hentry
      cases hentry

/-- No permitted write of the agent to financial or audit data after the given time. -/
def NoWriteAfter (did : String) (cutoff : DateTime) (rs : List ActionLogRecord) : Prop :=
  ∀ w ∈ rs, IsOwn did w → IsLedgerWrite w.resourceCategory w.action → w.timestamp ≤ cutoff

end FileActionLog

end AgentGovernance.Compliance
