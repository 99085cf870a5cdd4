import AgentGovernance.Lib.Lines

/-!
# Buffered appends to a file

Rust's `std::io::BufWriter<File>` over a file opened in append mode, with the
outcome of every write to the file made explicit.  A failed write may have put
any part of its bytes in the file; what it did not write stays in the buffer and
goes out with a later flush.

`writeLine` is the idiom of every line log: the text, the line feed, a flush,
stopping at the first error.  Its specification `writeLine_ok` says that a
reported success means everything is in the file and the buffer is empty.
-/

namespace AgentGovernance.Lib

/-- What the file does with one `write_all`: it takes everything, or fails after some bytes. -/
inductive WriteOutcome where
  | done
  | failedAfter (n : Nat)
  deriving DecidableEq, Repr

/-- The file takes all bytes of a write of the given size. -/
def WriteOutcome.Takes (o : WriteOutcome) (size : Nat) : Prop :=
  match o with
  | .done => True
  | .failedAfter n => size ≤ n

/-- The file's answers while one line is written. -/
structure LineOutcome where
  textFlush : WriteOutcome
  text : WriteOutcome
  feedFlush : WriteOutcome
  feed : WriteOutcome
  flush : WriteOutcome
  deriving DecidableEq, Repr

/-- No write fails. -/
def LineOutcome.ok : LineOutcome where
  textFlush := .done
  text := .done
  feedFlush := .done
  feed := .done
  flush := .done

/-- A buffered writer and the content of the file under it. -/
structure BufWriter where
  file : Bytes
  buf : Bytes
  deriving DecidableEq, Repr

namespace BufWriter

/-- The default buffer size of `BufWriter::new`. -/
def capacity : Nat := 8192

/-- A writer just put on a file. -/
def new (file : Bytes) : BufWriter where
  file := file
  buf := []

/-- Everything accepted so far, written out or not. -/
def contents (w : BufWriter) : Bytes :=
  w.file ++ w.buf

/-- Write bytes straight to the file: success flag, new file content, bytes left over.
    An outcome that fails behind the last byte is a success. -/
def emit (file data : Bytes) : WriteOutcome → Bool × Bytes × Bytes
  | .done => (true, file ++ data, [])
  | .failedAfter n =>
    if n < data.length then (false, file ++ data.take n, data.drop n)
    else (true, file ++ data, [])

/-- `flush_buf`: empty the buffer into the file. -/
def flush (w : BufWriter) (o : WriteOutcome) : Bool × BufWriter :=
  ((emit w.file w.buf o).1, { file := (emit w.file w.buf o).2.1, buf := (emit w.file w.buf o).2.2 })

/-- The `?` operator: go on with the writer after a success, stop after an error. -/
def andThen (r : Bool × BufWriter) (k : BufWriter → Bool × BufWriter) : Bool × BufWriter :=
  if r.1 then k r.2 else r

/-- Flush first when the bytes do not fit in the rest of the buffer. -/
def makeRoom (w : BufWriter) (n : Nat) (o : WriteOutcome) : Bool × BufWriter :=
  if capacity - w.buf.length < n then w.flush o else (true, w)

/-- Bytes larger than the whole buffer go straight to the file. -/
def put (w : BufWriter) (data : Bytes) (o : WriteOutcome) : Bool × BufWriter :=
  if capacity ≤ data.length then
    ((emit w.file data o).1, { w with file := (emit w.file data o).2.1 })
  else (true, { w with buf := w.buf ++ data })

def writeAll (w : BufWriter) (data : Bytes) (oFlush oWrite : WriteOutcome) : Bool × BufWriter :=
  if data.length < capacity - w.buf.length then (true, { w with buf := w.buf ++ data })
  else andThen (w.makeRoom data.length oFlush) (fun w => w.put data oWrite)

/-- `write_all(text)?; write_all(b"\n")?; flush()?`. -/
def writeLine (w : BufWriter) (text : Bytes) (o : LineOutcome) : Bool × BufWriter :=
  andThen (w.writeAll text o.textFlush o.text) fun w =>
    andThen (w.writeAll [newline] o.feedFlush o.feed) fun w =>
      w.flush o.flush

/-! ## Successful writes -/

@[simp] theorem contents_new (file : Bytes) : (new file).contents = file := by
  simp [contents, new]

/-- A sequence that succeeded went through both of its parts. -/
theorem andThen_ok {r : Bool × BufWriter} {k : BufWriter → Bool × BufWriter}
    (h : (andThen r k).1 = true) : r.1 = true ∧ andThen r k = k r.2 := by
  unfold andThen at h ⊢
  by_cases hr : r.1 = true
  · exact ⟨hr, if_pos hr⟩
  · rw [if_neg hr] at h
    exact absurd h hr

theorem andThen_of_ok {r : Bool × BufWriter} (k : BufWriter → Bool × BufWriter)
    (h : r.1 = true) : andThen r k = k r.2 :=
  if_pos h

theorem emit_ok (file data : Bytes) (o : WriteOutcome) (h : (emit file data o).1 = true) :
    emit file data o = (true, file ++ data, []) := by
  cases o with
  | done => rfl
  | failedAfter n =>
    by_cases hn : n < data.length
    · simp [emit, hn] at h
    · simp [emit, hn]

theorem flush_ok (w : BufWriter) (o : WriteOutcome) (h : (w.flush o).1 = true) :
    w.flush o = (true, new w.contents) := by
  unfold flush at h ⊢
  rw [emit_ok _ _ _ h]
  rfl

theorem makeRoom_ok (w : BufWriter) (n : Nat) (o : WriteOutcome)
    (h : (w.makeRoom n o).1 = true) :
    (w.makeRoom n o).2.contents = w.contents ∧
      (capacity ≤ n → (w.makeRoom n o).2.buf = []) := by
  unfold makeRoom at h ⊢
  by_cases hroom : capacity - w.buf.length < n
  · rw [if_pos hroom] at h ⊢
    rw [flush_ok w o h]
    exact ⟨contents_new _, fun _ => rfl⟩
  · -- nothing was flushed, so a text as large as the buffer found it empty
    rw [if_neg hroom]
    have hcap : 0 < capacity := by decide
    exact ⟨rfl, fun hn => List.length_eq_zero_iff.mp (by show w.buf.length = 0; omega)⟩

theorem put_ok (w : BufWriter) (data : Bytes) (o : WriteOutcome)
    (hbuf : capacity ≤ data.length → w.buf = []) (h : (w.put data o).1 = true) :
    (w.put data o).2.contents = w.contents ++ data := by
  unfold put at h ⊢
  by_cases hbig : capacity ≤ data.length
  · rw [if_pos hbig] at h ⊢
    rw [emit_ok _ _ _ h]
    simp [contents, hbuf hbig]
  · rw [if_neg hbig]
    simp [contents]

theorem writeAll_ok (w : BufWriter) (data : Bytes) (oFlush oWrite : WriteOutcome)
    (h : (w.writeAll data oFlush oWrite).1 = true) :
    (w.writeAll data oFlush oWrite).2.contents = w.contents ++ data := by
  unfold writeAll at h ⊢
  by_cases hfit : data.length < capacity - w.buf.length
  · rw [if_pos hfit]
    simp [contents]
  · -- what does not fit flushes the buffer first, and a success of the whole is one of both parts
    rw [if_neg hfit] at h ⊢
    obtain ⟨hroom, heq⟩ := andThen_ok h
    obtain ⟨hcontents, hbuf⟩ := makeRoom_ok w _ _ hroom
    rw [heq] at h ⊢
    rw [put_ok _ _ _ hbuf h, hcontents]

/-- **A reported success is on disk**: the line follows everything accepted before. -/
theorem writeLine_ok (w : BufWriter) (text : Bytes) (o : LineOutcome)
    (h : (w.writeLine text o).1 = true) :
    w.writeLine text o = (true, new (w.contents ++ text ++ [newline])) := by
  unfold writeLine at h ⊢
  obtain ⟨htext, heq⟩ := andThen_ok h
  rw [heq] at h ⊢
  obtain ⟨hfeed, heq⟩ := andThen_ok h
  rw [heq] at h ⊢
  rw [flush_ok _ _ h, writeAll_ok _ _ _ _ hfeed, writeAll_ok _ _ _ _ htext]

/-! ## Runs without failures -/

theorem makeRoom_done (w : BufWriter) (n : Nat) : (w.makeRoom n .done).1 = true := by
  unfold makeRoom
  split <;> rfl

theorem put_done (w : BufWriter) (data : Bytes) : (w.put data .done).1 = true := by
  unfold put
  split <;> rfl

theorem writeAll_done (w : BufWriter) (data : Bytes) :
    (w.writeAll data .done .done).1 = true := by
  unfold writeAll
  split
  · rfl
  · rw [andThen_of_ok _ (w.makeRoom_done _)]
    exact put_done _ _

/-- Without a write failure the line goes out. -/
theorem writeLine_done (w : BufWriter) (text : Bytes) :
    w.writeLine text .ok = (true, new (w.contents ++ text ++ [newline])) := by
  refine writeLine_ok w text .ok ?_
  simp only [writeLine, LineOutcome.ok]
  rw [andThen_of_ok _ (w.writeAll_done text), andThen_of_ok _ (writeAll_done _ _)]
  rfl

/-! ## One line on an empty buffer -/

theorem emit_fst_iff (file data : Bytes) (o : WriteOutcome) :
    (emit file data o).1 = true ↔ o.Takes data.length := by
  cases o with
  | done => simp [emit, WriteOutcome.Takes]
  | failedAfter n =>
    by_cases hn : n < data.length
    · simp [emit, hn, WriteOutcome.Takes]
    · simp [emit, hn, WriteOutcome.Takes, Nat.le_of_not_lt hn]

/-- Nothing is lost in a flush, whether it fails or not. -/
@[simp] theorem contents_flush (w : BufWriter) (o : WriteOutcome) :
    (w.flush o).2.contents = w.contents := by
  cases o with
  | done => simp [flush, emit, contents]
  | failedAfter n =>
    by_cases hn : n < w.buf.length
    · simp [flush, emit, hn, contents]
    · simp [flush, emit, hn, contents]

/-- A text smaller than the buffer stays in it. -/
theorem writeAll_new_of_lt (file text : Bytes) (oFlush oWrite : WriteOutcome)
    (h : text.length < capacity) :
    (new file).writeAll text oFlush oWrite = (true, ⟨file, text⟩) := by
  rw [writeAll, if_pos (by simpa [new] using h)]
  simp [new]

/-- A text as large as the buffer goes straight to the file. -/
theorem writeAll_new_of_le (file text : Bytes) (oFlush oWrite : WriteOutcome)
    (h : capacity ≤ text.length) :
    (new file).writeAll text oFlush oWrite =
      ((emit file text oWrite).1, new (emit file text oWrite).2.1) := by
  have hroom : (new file).makeRoom text.length oFlush = (true, new file) := by
    unfold makeRoom
    split
    · -- the flush has nothing to write
      cases oFlush <;> simp [flush, emit, new]
    · rfl
  rw [writeAll, if_neg (by simpa [new] using h), hroom, andThen_of_ok _ rfl, put, if_pos h]
  rfl

/-- The line feed finds room behind a text that is in the buffer. -/
theorem writeAll_feed (w : BufWriter) (oFlush oWrite : WriteOutcome)
    (h : w.buf.length < capacity) :
    w.writeAll [newline] oFlush oWrite = (true, { w with buf := w.buf ++ [newline] }) := by
  unfold writeAll
  split
  · rfl
  · have hfull : ¬ capacity - w.buf.length < [newline].length := by
      rw [List.length_singleton]
      omega
    rw [makeRoom, if_neg hfull, andThen_of_ok _ rfl, put, if_neg (by decide)]

/-- A line whose text is smaller than the buffer goes out in the last flush. -/
theorem writeLine_new_of_lt (file text : Bytes) (o : LineOutcome) (h : text.length < capacity) :
    (new file).writeLine text o = flush ⟨file, text ++ [newline]⟩ o.flush := by
  rw [writeLine, writeAll_new_of_lt file text _ _ h, andThen_of_ok _ rfl, writeAll_feed _ _ _ h,
    andThen_of_ok _ rfl]

/-- A line with a larger text stops in its text or goes on to flush the line feed. -/
theorem writeLine_new_of_le (file text : Bytes) (o : LineOutcome) (h : capacity ≤ text.length) :
    (new file).writeLine text o =
      if (emit file text o.text).1 then flush ⟨file ++ text, [newline]⟩ o.flush
      else (false, new (emit file text o.text).2.1) := by
  rw [writeLine, writeAll_new_of_le file text _ _ h]
  by_cases htext : (emit file text o.text).1 = true
  · -- the text goes past the empty buffer, which then has room for the newline
    have hempty : (new (file ++ text)).buf.length < capacity := Nat.succ_pos 8191
    rw [if_pos htext, andThen_of_ok _ htext, emit_ok _ _ _ htext, writeAll_feed _ _ _ hempty,
      andThen_of_ok _ rfl]
    rfl
  · rw [if_neg htext, andThen, if_neg htext]
    simp only [htext]

/-- A large text whose first byte is refused leaves no trace. -/
theorem writeLine_new_of_refused (file text : Bytes) (o : LineOutcome)
    (h : capacity ≤ text.length) (htext : o.text = .failedAfter 0) :
    (new file).writeLine text o = (false, new file) := by
  have hpos : 0 < text.length := Nat.lt_of_lt_of_le (by decide) h
  rw [writeLine_new_of_le file text o h]
  simp [htext, emit, hpos]

/-- The file takes what it sees of a line: all of it at once, or a large text and the line feed. -/
def LineTaken (size : Nat) (o : LineOutcome) : Prop :=
  if capacity ≤ size then o.text.Takes size ∧ o.flush.Takes 1 else o.flush.Takes (size + 1)

/-- A line is written when the file takes what it sees. -/
theorem writeLine_new_fst_iff (file text : Bytes) (o : LineOutcome) :
    ((new file).writeLine text o).1 = true ↔ LineTaken text.length o := by
  unfold LineTaken
  by_cases h : capacity ≤ text.length
  · -- a text of the size of the buffer is written at once, the newline by the flush
    rw [writeLine_new_of_le file text o h, if_pos h]
    by_cases htext : (emit file text o.text).1 = true
    · rw [if_pos htext]
      simp only [flush, emit_fst_iff, List.length_singleton]
      rw [← emit_fst_iff file text, htext]
      simp
    · rw [if_neg htext]
      rw [← emit_fst_iff file text]
      simp [htext]
  · rw [writeLine_new_of_lt file text o (Nat.lt_of_not_le h), if_neg h]
    -- a shorter one waits in the buffer with its newline
    simp only [flush, emit_fst_iff, List.length_append, List.length_singleton]

/-- **A line that may fail** is in the file or still in the buffer, or its text is large and was
    cut. -/
theorem writeLine_new_cases (file text : Bytes) (o : LineOutcome) :
    ((new file).writeLine text o).2.contents = file ++ text ++ [newline] ∨
      capacity ≤ text.length ∧ ∃ n < text.length, o.text = .failedAfter n ∧
        ((new file).writeLine text o).2 = new (file ++ text.take n) := by
  by_cases hbig : capacity ≤ text.length
  · rw [writeLine_new_of_le file text o hbig]
    by_cases htext : (emit file text o.text).1 = true
    · refine .inl ?_
      rw [if_pos htext, contents_flush]
      simp [contents]
    · -- only a text that goes past the buffer can be cut off without its rest being kept
      refine .inr ⟨hbig, ?_⟩
      rw [if_neg htext]
      cases ho : o.text with
      | done => simp [ho, emit] at htext
      | failedAfter n =>
        by_cases hn : n < text.length
        · exact ⟨n, hn, rfl, by simp [emit, hn]⟩
        · simp [ho, emit, hn] at htext
  · refine .inl ?_
    rw [writeLine_new_of_lt file text o (Nat.lt_of_not_le hbig), contents_flush]
    simp [contents]

end BufWriter

end AgentGovernance.Lib
