import AgentGovernance.Compliance.Crash
import AgentGovernance.Lib.Runs

/-!
# Appends that fail

`append` has five steps that can fail behind an in-memory hash that is set in between, and the
buffer of the writer survives an error.  A log stays exact when it holds the records whose append
returned `Ok`, linked and nothing else, also after further appends.

`append_failures_iff`: a failed append leaves the log exact only when its text is too large for
the buffer and the file refuses its first byte.  In any other case the record of the failed append
is in the file already, or comes out of the buffer with the next one, or is torn.
-/

namespace AgentGovernance.Compliance

open AgentGovernance.Lib AgentGovernance.Mesh

/-! ## Runs with failures -/

inductive LogEvent where
  /-- An append, with what the files do. -/
  | append (record : ActionLogRecord) (io : AppendOutcome)
  /-- The handle is dropped and the log is opened again. -/
  | reopen

/-- A log with the records whose append returned `Ok`. -/
structure Ledger where
  log : FileActionLog
  accepted : List ActionLogRecord

/-- `std::fs::write` takes a checkpoint of the given size. -/
def CheckpointOutcome.Takes (o : CheckpointOutcome) (size : Nat) : Prop :=
  match o with
  | .done => True
  | .notOpened => False
  | .failedAfter n => size ≤ n

namespace FileActionLog

variable (E : LogEnv)

/-- No write of the append is cut short, and the metadata are read. -/
def Undisturbed (l : FileActionLog) (record : ActionLogRecord) (io : AppendOutcome) : Prop :=
  BufWriter.LineTaken (E.records.encode (l.stored record)).length io.line ∧
    io.metadata = true ∧ io.checkpoint.Takes (l.checkpointOf E record).length

/-- The text is as large as the buffer, and the file refuses its first byte. -/
def Refused (l : FileActionLog) (record : ActionLogRecord) (io : AppendOutcome) : Prop :=
  BufWriter.capacity ≤ (E.records.encode (l.stored record)).length ∧
    io.line.text = .failedAfter 0

end FileActionLog

namespace Ledger

open FileActionLog

variable (E : LogEnv)

/-- A handle on no files. -/
def start : Ledger where
  log := FileActionLog.open E .blank
  accepted := []

def step (s : Ledger) : LogEvent → Ledger
  | .append record io =>
    match s.log.append E record io with
    | (log, .ok ()) => { log := log, accepted := s.accepted ++ [record] }
    | (log, .error _) => { s with log := log }
  | .reopen => { s with log := FileActionLog.open E s.log.drop }

/-- An append that returns `Ok`. -/
def Succeeds (s : Ledger) (event : LogEvent) : Prop :=
  ∃ record io, event = .append record io ∧ (s.log.append E record io).2 = .ok ()

/-- `verify_chain` reports no violation, and the file has the accepted records and no others. -/
def Exact (s : Ledger) : Prop :=
  verifyChain E s.log.disk.log = .ok [] ∧
    ∃ rs, E.records.decodeLines s.log.writer.file = some rs ∧
      rs.map (·.toHashableRecord) = s.accepted.map (·.toHashableRecord)

/-- The log is exact, and stays so through any successful appends. -/
def Intact (s : Ledger) : Prop :=
  ∀ further, AllSteps (step E) (Succeeds E) s further → Exact E (runFrom (step E) s further)

/-- An append goes through, or is refused before anything is written. -/
def Clean (s : Ledger) : LogEvent → Prop
  | .append record io => Undisturbed E s.log record io ∨ Refused E s.log record io
  | .reopen => True

end Ledger

namespace FileActionLog

variable {E : LogEnv} {rs : List ActionLogRecord} {l : FileActionLog}

/-! ## One append -/

/-- The log when the line is in the file and the hash is set. -/
def lineWritten (E : LogEnv) (l : FileActionLog) (record : ActionLogRecord) : FileActionLog :=
  { l with
    writer := .new (l.writer.contents ++ l.lineOf E record)
    lastHash := record.computeHash E.sha256 }

/-- The text of the checkpoint behind the line. -/
def nextCheckpoint (E : LogEnv) (l : FileActionLog) (record : ActionLogRecord) : Bytes :=
  checkpointText E (record.computeHash E.sha256)
    (l.writer.contents.length + (l.lineOf E record).length)

/-- The checkpoint is written as far as its file takes it; the log file is left alone. -/
theorem writeCheckpoint_lineWritten (record : ActionLogRecord) (o : CheckpointOutcome) :
    (o.Takes (l.nextCheckpoint E record).length ∧
      (l.lineWritten E record).writeCheckpoint E o = (true, l.appended E record)) ∨
    (¬ o.Takes (l.nextCheckpoint E record).length ∧
      ∃ l', (l.lineWritten E record).writeCheckpoint E o = (false, l') ∧
        l'.writer = .new (l.writer.contents ++ l.lineOf E record)) := by
  have htext : checkpointText E (l.lineWritten E record).lastHash
      (l.lineWritten E record).writer.file.length = l.nextCheckpoint E record := by
    simp [lineWritten, nextCheckpoint, BufWriter.new]
  unfold writeCheckpoint
  rw [htext]
  cases o with
  | done => exact .inl ⟨trivial, rfl⟩
  | notOpened => exact .inr ⟨id, _, rfl, rfl⟩
  | failedAfter n =>
    -- a write that fails behind the end of the text has written all of it
    by_cases hn : n < (l.nextCheckpoint E record).length
    · simp only [if_pos hn]
      exact .inr ⟨Nat.not_le_of_lt hn, _, rfl, rfl⟩
    · simp only [if_neg hn]
      exact .inl ⟨Nat.le_of_not_lt hn, rfl⟩

/-- An append whose line does not go out leaves the hash and the checkpoint alone. -/
theorem append_of_line_failed {record : ActionLogRecord} {io : AppendOutcome}
    (h : (l.writer.writeLine (E.records.encode (l.stored record)) io.line).1 = false) :
    l.append E record io =
      ({ l with writer := (l.writer.writeLine (E.records.encode (l.stored record)) io.line).2 },
        .error E.writeError) := by
  simp [append, h]

/-- An append whose line goes out reads the metadata and writes the checkpoint. -/
theorem append_of_line {record : ActionLogRecord} {io : AppendOutcome}
    (h : (l.writer.writeLine (E.records.encode (l.stored record)) io.line).1 = true) :
    l.append E record io =
      if !io.metadata then (l.lineWritten E record, .error E.writeError)
      else
        match (l.lineWritten E record).writeCheckpoint E io.checkpoint with
        | (written, l) => if !written then (l, .error E.writeError) else (l, .ok ()) := by
  unfold append
  simp only [BufWriter.writeLine_ok _ _ _ h, computeHash_stored, lineWritten, lineOf,
    List.append_assoc, Bool.not_true, Bool.false_eq_true, if_false]
  rfl

/-- **One append**: it goes through, or it fails with the line in the file, or the line fails. -/
theorem append_cases (l : FileActionLog) (record : ActionLogRecord) (io : AppendOutcome) :
    ((l.writer.writeLine (E.records.encode (l.stored record)) io.line).1 = true ∧
      io.metadata = true ∧ io.checkpoint.Takes (l.nextCheckpoint E record).length ∧
      l.append E record io = (l.appended E record, .ok ())) ∨
    ((l.writer.writeLine (E.records.encode (l.stored record)) io.line).1 = true ∧
      ¬ (io.metadata = true ∧ io.checkpoint.Takes (l.nextCheckpoint E record).length) ∧
      ∃ l', l.append E record io = (l', .error E.writeError) ∧
        l'.writer = .new (l.writer.contents ++ l.lineOf E record)) ∨
    ((l.writer.writeLine (E.records.encode (l.stored record)) io.line).1 = false ∧
      l.append E record io =
        ({ l with writer := (l.writer.writeLine (E.records.encode (l.stored record)) io.line).2 },
          .error E.writeError)) := by
  by_cases hline : (l.writer.writeLine (E.records.encode (l.stored record)) io.line).1 = true
  · -- the line is in the file; what is left can fail at the metadata or at the checkpoint
    rw [append_of_line hline]
    cases hmeta : io.metadata with
    | false => exact .inr (.inl ⟨hline, by simp, _, rfl, rfl⟩)
    | true =>
      rcases l.writeCheckpoint_lineWritten (E := E) record io.checkpoint with
        ⟨htakes, heq⟩ | ⟨htakes, l', heq, hwriter⟩
      · rw [heq]
        exact .inl ⟨hline, rfl, htakes, rfl⟩
      · rw [heq]
        exact .inr (.inl ⟨hline, fun h => htakes h.2, l', rfl, hwriter⟩)
  · -- without the line nothing else is touched
    rw [Bool.not_eq_true] at hline
    exact .inr (.inr ⟨hline, append_of_line_failed hline⟩)

/-- A successful append is one without failures. -/
theorem append_of_ok {record : ActionLogRecord} {io : AppendOutcome}
    (h : (l.append E record io).2 = .ok ()) :
    l.append E record io = (l.appended E record, .ok ()) := by
  rcases l.append_cases (E := E) record io with ⟨-, -, -, heq⟩ | ⟨-, -, l', heq, -⟩ | ⟨-, heq⟩
  · exact heq
  · rw [heq] at h
    cases h
  · rw [heq] at h
    cases h

/-! ## A log in step -/

/-- The writer of a log in step has nothing in its buffer. -/
theorem Synced.writer_eq (h : Synced E rs l) : l.writer = .new l.writer.file := by
  rw [BufWriter.new, ← h.buffer]

/-- What a failed append may leave behind: a writer that accepted the whole line, or a torn text. -/
def Spoiled (E : LogEnv) (l l' : FileActionLog) (record : ActionLogRecord) : Prop :=
  l'.writer.contents = l.writer.file ++ l.lineOf E record ∨
    ∃ n, 0 < n ∧ n < (E.records.encode (l.stored record)).length ∧
      l'.writer = .new (l.writer.file ++ (E.records.encode (l.stored record)).take n)

/-- **Append**: it goes through undisturbed, is refused without a trace, or spoils the log. -/
theorem Synced.append_cases (h : Synced E rs l) (record : ActionLogRecord) (io : AppendOutcome) :
    (Undisturbed E l record io ∧ l.append E record io = (l.appended E record, .ok ())) ∨
    (Refused E l record io ∧ ∃ e, l.append E record io = (l, .error e)) ∨
    (¬ Undisturbed E l record io ∧ ¬ Refused E l record io ∧
      ∃ l' e, l.append E record io = (l', .error e) ∧ Spoiled E l l' record) := by
  have hcp : l.nextCheckpoint E record = l.checkpointOf E record := by
    rw [nextCheckpoint, h.contents, checkpointOf]
  have hw : l.writer.writeLine (E.records.encode (l.stored record)) io.line =
      (BufWriter.new l.writer.file).writeLine (E.records.encode (l.stored record)) io.line := by
    rw [← h.writer_eq]
  -- in step with its records, the log writes from an empty buffer
  have hsplit := l.append_cases (E := E) record io
  rw [hcp, h.contents, hw] at hsplit
  rcases hsplit with ⟨hwritten, hmeta, htakes, heq⟩ | ⟨hwritten, hrest, l', heq, hwriter⟩ |
    ⟨hfailed, heq⟩
  · exact .inl ⟨⟨(BufWriter.writeLine_new_fst_iff _ _ _).mp hwritten, hmeta, htakes⟩, heq⟩
  · -- the line is in the file, so its text was not refused
    refine .inr (.inr ⟨fun hund => hrest hund.2, ?_, l', _, heq, .inl ?_⟩)
    · rintro ⟨hbig, htext⟩
      rw [BufWriter.writeLine_new_of_refused _ _ _ hbig htext] at hwritten
      exact Bool.false_ne_true hwritten
    · rw [hwriter, BufWriter.contents_new]
  · -- a line that failed has left nothing, all of it, or a part
    have hund : ¬ Undisturbed E l record io := by
      intro hund
      rw [(BufWriter.writeLine_new_fst_iff _ _ _).mpr hund.1] at hfailed
      exact Bool.false_ne_true hfailed.symm
    by_cases href : Refused E l record io
    · refine .inr (.inl ⟨href, E.writeError, ?_⟩)
      rw [heq, BufWriter.writeLine_new_of_refused _ _ _ href.1 href.2, ← h.writer_eq]
    · refine .inr (.inr ⟨hund, href, _, _, heq, ?_⟩)
      rcases BufWriter.writeLine_new_cases l.writer.file (E.records.encode (l.stored record)) io.line
        with hcontents | ⟨hbig, n, hn, htext, hcut⟩
      · refine .inl ?_
        rw [lineOf, ← List.append_assoc]
        exact hcontents
      · refine .inr ⟨n, Nat.pos_of_ne_zero ?_, hn, hcut⟩
        -- a first byte was written, or the text would have been refused
        rintro rfl
        exact href ⟨hbig, htext⟩

end FileActionLog

namespace Ledger

open FileActionLog

/-! ## Runs -/

variable {E : LogEnv} {s : Ledger}

/-- A log in step with the accepted records is exact. -/
theorem exact_of_synced (h : Synced E s.accepted s.log) : Exact E s := by
  refine ⟨h.verifyChain, (recordChain E.sha256).chain genesis s.accepted, ?_, ?_⟩
  · rw [h.file]
    exact E.records.decodeLines_encodeLines _
  · exact (recordChain E.sha256).map_content_chain genesis s.accepted

/-- A successful append keeps it in step. -/
theorem synced_step_of_succeeds {event : LogEvent} (hevent : Succeeds E s event)
    (h : Synced E s.accepted s.log) :
    Synced E (step E s event).accepted (step E s event).log := by
  obtain ⟨record, io, rfl, hok⟩ := hevent
  simp only [step, append_of_ok hok]
  exact h.appended record

theorem intact_of_synced (h : Synced E s.accepted s.log) : Intact E s := by
  intro further hall
  apply exact_of_synced
  exact hall.keeps (I := fun s => Synced E s.accepted s.log)
    (fun s event => synced_step_of_succeeds) h

/-- A spoiled log is not intact: the record is in the file, or comes out with the next one, or a
    line of the file does not parse. -/
theorem not_intact_of_spoiled {rs : List ActionLogRecord} {l l' : FileActionLog}
    (h : Synced E rs l) {record : ActionLogRecord} (hspoiled : Spoiled E l l' record) :
    ¬ Intact E { log := l', accepted := rs } := by
  intro hintact
  rcases hspoiled with hcontents | ⟨n, hpos, hn, hwriter⟩
  · -- one more append finds two records more in the file
    have hexact := hintact [.append record .ok] ⟨⟨record, .ok, rfl, by rw [append_ok]⟩, trivial⟩
    obtain ⟨-, ss, hss, hmap⟩ := hexact
    simp only [runFrom_cons, runFrom_nil, step, append_ok] at hss hmap
    have hfile : (l'.appended E record).writer.file = E.records.encodeLines
        ((recordChain E.sha256).chain genesis (rs ++ [record]) ++ [l'.stored record]) := by
      rw [TextCodec.encodeLines_concat, ← h.file_line record, ← hcontents]
      simp [FileActionLog.appended, BufWriter.new, lineOf]
    rw [hfile, TextCodec.decodeLines_encodeLines] at hss
    have hlength := congrArg List.length hmap
    rw [← Option.some.inj hss] at hlength
    simp at hlength
  · -- part of a line stays in the file, so no record can be read any more
    obtain ⟨-, ss, hss, -⟩ := hintact [] trivial
    have htorn : E.records.decodeLines l'.writer.file = none := by
      rw [hwriter, BufWriter.new, h.file]
      refine E.records.decodeLines_torn _ (l.stored record) _ (List.take_prefix _ _) ?_ ?_
      · intro hnil
        have hlength := congrArg List.length hnil
        rw [List.length_take, List.length_nil] at hlength
        omega
      · intro hwhole
        have hlength := congrArg List.length hwhole
        rw [List.length_take] at hlength
        omega
    have hsome : E.records.decodeLines l'.writer.file = some ss := hss
    rw [htorn] at hsome
    cases hsome

/-- A clean event keeps the log in step. -/
theorem synced_step_of_clean {event : LogEvent} (h : Synced E s.accepted s.log)
    (hclean : Clean E s event) : Synced E (step E s event).accepted (step E s event).log := by
  cases event with
  | reopen =>
    simp only [step, h.open_drop]
    exact h
  | append record io =>
    -- an undisturbed append adds its record, and a refused one leaves the log alone
    rcases h.append_cases record io with ⟨-, heq⟩ | ⟨-, e, heq⟩ | ⟨hund, href, -⟩
    · simp only [step, heq]
      exact h.appended record
    · simp only [step, heq]
      exact h
    · rcases hclean with hclean | hclean
      · exact absurd hclean hund
      · exact absurd hclean href

/-- Any other event spoils it. -/
theorem not_intact_step {event : LogEvent} (h : Synced E s.accepted s.log)
    (hclean : ¬ Clean E s event) : ¬ Intact E (step E s event) := by
  cases event with
  | reopen => exact absurd trivial hclean
  | append record io =>
    rcases h.append_cases record io with ⟨hund, -⟩ | ⟨href, -⟩ | ⟨-, -, l', e, heq, hspoiled⟩
    · exact absurd (.inl hund) hclean
    · exact absurd (.inr href) hclean
    · simp only [step, heq]
      exact not_intact_of_spoiled h hspoiled

variable (E) in
/-- **Failed appends**: in a run of appends and reopens from no files, the log is intact in every
    state exactly when every append goes through undisturbed or is refused before the first byte
    of a text that is too large for the buffer. -/
theorem append_failures_iff (events : List LogEvent) :
    (∀ pre, pre <+: events → Intact E (runFrom (step E) (start E) pre)) ↔
      AllSteps (step E) (Clean E) (start E) events :=
  forall_prefix_iff_allSteps_of_keeps (I := fun s => Synced E s.accepted s.log)
    (G := fun _ _ => True) (fun _ h => intact_of_synced h)
    (fun _ _ _ h hclean => synced_step_of_clean h hclean) (fun _ _ _ h => not_intact_step h)
    (synced_blank E) (allSteps_of_forall fun _ _ => trivial)

/-- An append that goes through except that the metadata of the log file are not read. -/
def noMetadata : AppendOutcome :=
  { AppendOutcome.ok with metadata := false }

/-- The first append fails at the metadata, and its record is in the file. -/
theorem append_failures_not_intact :
    ¬ ∀ (E : LogEnv) (events : List LogEvent),
      Intact E (runFrom (step E) (start E) events) := by
  intro h
  have hintact := h sampleEnv [.append (sampleRecord 1 "read") noMetadata]
  rw [runFrom_cons, runFrom_nil] at hintact
  -- the line is written but the size of the file is not read, so the caller gets an error
  have hclean : ¬ Clean sampleEnv (start sampleEnv)
      (.append (sampleRecord 1 "read") noMetadata) := by
    rintro (⟨-, hmeta, -⟩ | ⟨-, htext⟩)
    · exact Bool.false_ne_true hmeta
    · cases htext
  exact not_intact_step (synced_blank sampleEnv) hclean hintact

end Ledger

end AgentGovernance.Compliance
