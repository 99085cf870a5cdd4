import AgentGovernance.Daemon.AuditIsolation
import Mathlib.Logic.Relation

/-!
# Concurrent calls of the handler

Any number of `execute_action` calls at once.  Reading the history, evaluating the rules
and appending the record are steps of their own, so another call can append between what a
call has read and what it writes.

`Phase.Tracked` is the invariant of a call: what it read was an initial part of the log.
The rules therefore hold of that part only, and `Bypass` says when this is not enough.
-/

namespace AgentGovernance.Daemon

open AgentGovernance.Lib AgentGovernance.Mesh AgentGovernance.Compliance
open FileActionLog (ActionRecord historyEntry Stored NoWriteAfter)

/-- A call whose caller is admitted and that meets no I/O failure. -/
structure AdmittedCall extends ExecuteCall where
  did : String
  ring : PrivilegeRing
  admitted : callerOf registry header = .ok (did, ring)
  noFailure : io = .ok

/-- Where a call stands.  The two numbers are lengths of the log, when the call read its history
    and when it appended. -/
inductive Phase where
  | admitted
  | loaded (seen : Nat) (history : List ActionRecord)
  | evaluated (seen : Nat) (e : Evaluation)
  | recorded (seen position : Nat) (e : Evaluation)
  | failed (e : HttpError)

/-- What a finished call answers. -/
def Phase.response : Phase → Option (Except HttpError ExecuteResponse)
  | .recorded _ _ e => some (.ok e.response)
  | .failed e => some (.error e)
  | _ => none

variable (E : LogEnv) (v : ComplianceVerifier)

/-- The next step of a call. -/
def advance (log : FileActionLog) (call : AdmittedCall) : Phase → FileActionLog × Phase
  | .admitted =>
    match FileActionLog.loadHistory E log.disk.log call.did with
    | .error e => (log, .failed (.internalServerError, e))
    | .ok history => (log, .loaded log.lineCount history)
  | .loaded seen history => (log, .evaluated seen (call.evaluation v call.did call.ring history))
  | .evaluated seen e =>
    match log.append E e.record call.io with
    | (log, .error text) => (log, .failed (.internalServerError, text))
    | (log', .ok ()) => (log', .recorded seen log.lineCount e)
  | .recorded seen position e => (log, .recorded seen position e)
  | .failed e => (log, .failed e)

/-- The log and the calls that are being served. -/
structure Race (ι : Type) where
  log : FileActionLog
  phase : ι → Phase

namespace Race

variable {ι : Type} [DecidableEq ι] (calls : ι → AdmittedCall)

/-- No call has read its history yet. -/
def start (log : FileActionLog) : Race ι where
  log := log
  phase := fun _ => .admitted

/-- One step of some call, or an alert of the background worker. -/
inductive Step : Race ι → Race ι → Prop where
  | advance (w : Race ι) (i : ι) :
      Step w ⟨(advance E v w.log (calls i) (w.phase i)).1,
        Function.update w.phase i (advance E v w.log (calls i) (w.phase i)).2⟩
  | alert (w : Race ι) (agentDid : String) (recordId : Uuid) (timestamp : DateTime)
      (eventJson : String) :
      Step w ⟨(w.log.append E (discoveryAlert agentDid recordId timestamp eventJson) .ok).1,
        w.phase⟩

/-- Some interleaving leads from one state to the other. -/
def Reaches : Race ι → Race ι → Prop :=
  Relation.ReflTransGen (Step E v calls)

end Race

variable {E v} {rs : List ActionLogRecord} {log : FileActionLog}

/-! ## The steps of a call -/

theorem advance_admitted (hlog : Stored E rs log) (call : AdmittedCall) :
    advance E v log call .admitted =
      (log, .loaded rs.length (rs.filterMap (historyEntry call.did))) := by
  simp only [advance, hlog.loadHistory, hlog.lineCount]

theorem advance_evaluated (hlog : Stored E rs log) (call : AdmittedCall) (seen : Nat)
    (e : Evaluation) :
    advance E v log call (.evaluated seen e) =
      ((log.append E e.record .ok).1, .recorded seen rs.length e) := by
  simp only [advance, call.noFailure, FileActionLog.append_ok, hlog.lineCount]

/-- **The steps of the handler are the handler** when nothing interleaves with them. -/
theorem advance_alone (hlog : Stored E rs log) (call : AdmittedCall) (hasExporter : Bool) :
    let steps := (fun s => advance E v s.1 call s.2)^[3] (log, .admitted)
    steps.1 = (executeAction E v hasExporter log call.toExecuteCall).log ∧
      steps.2.response = some (executeAction E v hasExporter log call.toExecuteCall).response := by
  rw [executeAction_stored hasExporter hlog call.admitted call.noFailure]
  simp only [Function.iterate_succ, Function.iterate_zero, Function.comp, advance_admitted hlog]
  rw [show advance E v log call (.loaded rs.length (rs.filterMap (historyEntry call.did))) =
    (log, .evaluated rs.length (call.evaluation v call.did call.ring
      (rs.filterMap (historyEntry call.did)))) from rfl]
  simp only [advance_evaluated hlog]
  exact ⟨rfl, rfl⟩

/-! ## The invariant -/

/-- The evaluation of a call that has seen some records. -/
def AdmittedCall.evaluationOf (call : AdmittedCall) (v : ComplianceVerifier)
    (rs : List ActionLogRecord) : Evaluation :=
  call.evaluation v call.did call.ring (rs.filterMap (historyEntry call.did))

/-- A call has seen an initial part of the log, and its record is where it was appended. -/
def Phase.Tracked (v : ComplianceVerifier) (rs : List ActionLogRecord) (call : AdmittedCall) :
    Phase → Prop
  | .admitted => True
  | .loaded seen history =>
    seen ≤ rs.length ∧ history = (rs.take seen).filterMap (historyEntry call.did)
  | .evaluated seen e => seen ≤ rs.length ∧ e = call.evaluationOf v (rs.take seen)
  | .recorded seen position e =>
    (seen ≤ rs.length ∧ e = call.evaluationOf v (rs.take seen)) ∧
      ∃ r, rs[position]? = some r ∧ r.toHashableRecord = e.record.toHashableRecord
  | .failed _ => False

/-- What a call has seen stays an initial part of a growing log. -/
theorem Phase.Tracked.append {call : AdmittedCall} {p : Phase} (h : p.Tracked v rs call)
    (ss : List ActionLogRecord) : p.Tracked v (rs ++ ss) call := by
  -- the log only grows, so what a call has read stays its beginning
  have hgrow : ∀ seen, seen ≤ rs.length →
      seen ≤ (rs ++ ss).length ∧ (rs ++ ss).take seen = rs.take seen := by
    intro seen hseen
    refine ⟨?_, List.take_append_of_le_length hseen⟩
    rw [List.length_append]
    omega
  cases p with
  | admitted =>
    -- a call that has read nothing is tracked by any log
    trivial
  | loaded seen history =>
    obtain ⟨hseen, hhistory⟩ := h
    refine ⟨(hgrow seen hseen).1, ?_⟩
    rw [(hgrow seen hseen).2, hhistory]
  | evaluated seen e =>
    obtain ⟨hseen, he⟩ := h
    refine ⟨(hgrow seen hseen).1, ?_⟩
    rw [(hgrow seen hseen).2, he]
  | recorded seen position e =>
    -- its record stays at its position
    obtain ⟨⟨hseen, he⟩, r, hr, hrecord⟩ := h
    refine ⟨⟨(hgrow seen hseen).1, ?_⟩, r, ?_, hrecord⟩
    · rw [(hgrow seen hseen).2, he]
    · rw [List.getElem?_append_left (List.getElem?_eq_some_iff.mp hr).1, hr]
  | failed e => exact h

/-- **Step of one call**: it stays tracked, and the log grows by its record or not at all. -/
theorem Phase.Tracked.advance (hlog : Stored E rs log) {call : AdmittedCall} {p : Phase}
    (h : p.Tracked v rs call) :
    ∃ ss, Stored E (rs ++ ss) (advance E v log call p).1 ∧
      (Daemon.advance E v log call p).2.Tracked v (rs ++ ss) call := by
  have hsame : Stored E (rs ++ []) log := by
    rw [List.append_nil]
    exact hlog
  cases p with
  | admitted =>
    rw [advance_admitted hlog]
    refine ⟨[], hsame, Phase.Tracked.append ?_ []⟩
    -- the history is the one of the whole log as it stands
    exact ⟨le_rfl, by rw [List.take_length]⟩
  | loaded seen history =>
    refine ⟨[], hsame, Phase.Tracked.append ?_ []⟩
    obtain ⟨hseen, rfl⟩ := h
    exact ⟨hseen, rfl⟩
  | evaluated seen e =>
    -- the append is the only step that changes the log
    rw [advance_evaluated hlog]
    refine ⟨_, hlog.append e.record, (Phase.Tracked.append (p := .evaluated seen e) h _), ?_⟩
    exact ⟨_, List.getElem?_concat_length, rfl⟩
  | recorded seen position e => exact ⟨[], hsame, Phase.Tracked.append h []⟩
  | failed e => exact h.elim

namespace Race

variable {ι : Type} {calls : ι → AdmittedCall}

/-- Every call is tracked on the records of the log. -/
structure Inv (E : LogEnv) (v : ComplianceVerifier) (calls : ι → AdmittedCall)
    (rs : List ActionLogRecord) (w : Race ι) : Prop where
  stored : Stored E rs w.log
  tracked : ∀ i, (w.phase i).Tracked v rs (calls i)

theorem inv_start (hlog : Stored E rs log) : Inv E v calls rs (start log) where
  stored := hlog
  tracked _ := trivial

variable [DecidableEq ι]

/-- **Step.** -/
theorem Inv.step {w w' : Race ι} (h : Inv E v calls rs w) (hstep : Step E v calls w w') :
    ∃ rs', Inv E v calls rs' w' := by
  cases hstep with
  | advance i =>
    obtain ⟨ss, hstored, htracked⟩ := (h.tracked i).advance h.stored
    refine ⟨rs ++ ss, hstored, ?_⟩
    -- the others see a longer log
    intro j
    dsimp only
    by_cases hij : j = i
    · subst hij
      rw [Function.update_self]
      exact htracked
    · rw [Function.update_of_ne hij]
      exact (h.tracked j).append ss
  | alert agentDid recordId timestamp eventJson =>
    -- an alert only lengthens the log
    exact ⟨_, h.stored.append _, fun j => (h.tracked j).append _⟩

/-- **Run.** -/
theorem Inv.reaches {w w' : Race ι} (h : Inv E v calls rs w) (hreach : Reaches E v calls w w') :
    ∃ rs', Inv E v calls rs' w' := by
  induction hreach with
  | refl => exact ⟨rs, h⟩
  | tail _ hstep ih =>
    obtain ⟨_, hinv⟩ := ih
    exact hinv.step hstep

end Race

/-! ## What the rule misses -/

/-- The record of a call that has seen some records, in a log under the default policy. -/
structure IsRecordOf (call : AdmittedCall) (seen : List ActionLogRecord) (r : ActionLogRecord) :
    Prop where
  agentDid : r.agentDid = call.did
  category : r.resourceCategory = call.request.resourceCategory
  action : r.action = call.request.action
  timestamp : r.timestamp = call.recordedAt
  permitted : r.outcome = .permitted ↔ (call.evaluationOf .defaultPolicy seen).isCompliant = true

theorem Phase.Tracked.isRecordOf {call : AdmittedCall} {seen position : Nat} {e : Evaluation}
    (h : (Phase.recorded seen position e).Tracked .defaultPolicy rs call) :
    ∃ r, rs[position]? = some r ∧ r.toHashableRecord = e.record.toHashableRecord ∧
      IsRecordOf call (rs.take seen) r := by
  obtain ⟨⟨-, rfl⟩, r, hr, hrecord⟩ := h
  refine ⟨r, hr, hrecord, ?_⟩
  -- the stored record differs from the evaluation in its hashes only
  exact
    { agentDid := congrArg HashableRecord.agentDid hrecord
      category := congrArg HashableRecord.resourceCategory hrecord
      action := congrArg HashableRecord.action hrecord
      timestamp := congrArg HashableRecord.timestamp hrecord
      permitted := by
        rw [congrArg HashableRecord.outcome hrecord]
        exact call.evaluation_permitted_iff call.did call.ring _ }

/-- The log does not show a write and a later audit read of one agent within a day. -/
def Separated (rs : List ActionLogRecord) (writeAt readAt : Nat) : Prop :=
  ∀ w r, rs[writeAt]? = some w → rs[readAt]? = some r → writeAt < readAt → Isolated w r

/-- The read is recorded after the write and within a day of it, but what it saw of the log has
    no recent write. -/
structure Bypass (rs : List ActionLogRecord) (write read : AdmittedCall)
    (writeAt readSeen readAt : Nat) : Prop where
  order : writeAt < readAt
  unseen : NoWriteAfter read.did (read.decidedAt - hours 24) (rs.take readSeen)
  close : read.recordedAt < write.recordedAt + hours 24

section Pair

variable {write read : AdmittedCall} {writeSeen writeAt readSeen readAt : Nat}
  {writeEval readEval : Evaluation} (hsame : write.did = read.did)
  (hwrite : IsLedgerWrite write.request.resourceCategory write.request.action)
  (hread : IsAuditRead read.request.resourceCategory read.request.action)
  (hw : (Phase.recorded writeSeen writeAt writeEval).Tracked .defaultPolicy rs write)
  (hr : (Phase.recorded readSeen readAt readEval).Tracked .defaultPolicy rs read)

include hsame hwrite hw

/-- The log shows the write as the agent's own permitted one. -/
theorem ledgerWrite_shown :
    ∃ w, rs[writeAt]? = some w ∧ IsOwn read.did w ∧
      IsLedgerWrite w.resourceCategory w.action ∧ w.timestamp = write.recordedAt := by
  obtain ⟨w, hwat, -, hrec⟩ := hw.isRecordOf
  refine ⟨w, hwat, ⟨hrec.agentDid.trans hsame, ?_⟩, ?_, hrec.timestamp⟩
  · exact hrec.permitted.mpr (write.evaluation_ledgerWrite write.did write.ring _ hwrite)
  · rw [hrec.category, hrec.action]
    exact hwrite

/-- A read that saw the write is not permitted within a day of it, unless its clock went back. -/
theorem Bypass.readSeen_le (hclock : read.decidedAt ≤ read.recordedAt)
    (h : Bypass rs write read writeAt readSeen readAt) : readSeen ≤ writeAt := by
  by_contra hlt
  obtain ⟨w, hwat, hown, hledger, htime⟩ := ledgerWrite_shown hsame hwrite hw
  have hseen : w ∈ rs.take readSeen := by
    refine List.mem_of_getElem? (i := writeAt) ?_
    rw [List.getElem?_take_of_lt (not_le.mp hlt), hwat]
  have hold : write.recordedAt ≤ read.decidedAt - hours 24 := htime ▸ h.unseen w hseen hown hledger
  exact absurd h.close (not_lt.mpr
    (le_sub_iff_add_le.mp (hold.trans (sub_le_sub_right hclock (hours 24)))))

include hread hr

/-- **Separation** fails for a write and a read exactly by a bypass. -/
theorem separated_iff : Separated rs writeAt readAt ↔
    ¬ Bypass rs write read writeAt readSeen readAt := by
  obtain ⟨w, hwat, hown, hledger, hwtime⟩ := ledgerWrite_shown hsame hwrite hw
  obtain ⟨r, hrat, -, hrec⟩ := hr.isRecordOf
  -- the audit read was permitted exactly when it saw no recent write
  have hpermitted : r.outcome = .permitted ↔
      NoWriteAfter read.did (read.decidedAt - hours 24) (rs.take readSeen) :=
    hrec.permitted.trans (read.evaluation_auditRead read.did read.ring hread _)
  constructor
  · intro hsep hby
    have hgap := hsep w r hwat hrat hby.order (hrec.agentDid ▸ hown) (hpermitted.mpr hby.unseen)
      hledger (by rw [hrec.category, hrec.action]; exact hread)
    -- the bypass is a permitted read within a day of the write
    rw [hwtime, hrec.timestamp] at hgap
    exact absurd hby.close (not_lt.mpr hgap)
  · intro hby w' r' hwat' hrat' horder _ hperm _ _
    -- the two records are the only ones at these positions
    obtain rfl : w = w' := Option.some.inj (hwat.symm.trans hwat')
    obtain rfl : r = r' := Option.some.inj (hrat.symm.trans hrat')
    rw [hwtime, hrec.timestamp]
    exact not_lt.mp fun hclose => hby ⟨horder, hpermitted.mp hperm, hclose⟩

end Pair

namespace Race

/-- **Race of two calls.** Whatever the interleaving with each other and with any other calls and
    alerts: the log keeps a write and an audit read of one agent apart exactly when there is no
    bypass, and a bypass needs a read that looked at the log before the write was appended. -/
theorem execute_race_iff {ι : Type} [DecidableEq ι] (E : LogEnv) (calls : ι → AdmittedCall)
    (log : FileActionLog) (rs₀ : List ActionLogRecord) (hlog : Stored E rs₀ log) (w : Race ι)
    (hreach : Reaches E .defaultPolicy calls (start log) w) (i j : ι)
    (hsame : (calls i).did = (calls j).did)
    (hwrite : IsLedgerWrite (calls i).request.resourceCategory (calls i).request.action)
    (hread : IsAuditRead (calls j).request.resourceCategory (calls j).request.action)
    (writeSeen writeAt readSeen readAt : Nat) (writeEval readEval : Evaluation)
    (hi : w.phase i = .recorded writeSeen writeAt writeEval)
    (hj : w.phase j = .recorded readSeen readAt readEval) :
    ∃ rs, E.records.decodeLines w.log.writer.file = some rs ∧
      rs[writeAt]?.map (·.toHashableRecord) = some writeEval.record.toHashableRecord ∧
      rs[readAt]?.map (·.toHashableRecord) = some readEval.record.toHashableRecord ∧
      (Separated rs writeAt readAt ↔
        ¬ Bypass rs (calls i) (calls j) writeAt readSeen readAt) ∧
      ((calls j).decidedAt ≤ (calls j).recordedAt →
        Bypass rs (calls i) (calls j) writeAt readSeen readAt → readSeen ≤ writeAt) := by
  -- by the invariant both records are where the calls put them
  obtain ⟨rs, hinv⟩ := (inv_start hlog).reaches hreach
  have hwt := hinv.tracked i
  rw [hi] at hwt
  have hrt := hinv.tracked j
  rw [hj] at hrt
  obtain ⟨wr, hwat, hwrec, -⟩ := hwt.isRecordOf
  obtain ⟨rr, hrat, hrrec, -⟩ := hrt.isRecordOf
  refine ⟨rs, hinv.stored.decodeLines, ?_, ?_, separated_iff hsame hwrite hread hwt hrt,
    fun hclock => Bypass.readSeen_le hsame hwrite hwt hclock⟩
  · rw [hwat, Option.map_some, hwrec]
  · rw [hrat, Option.map_some, hrrec]

/-- A step of one call, with its result. -/
theorem Reaches.advance {ι : Type} [DecidableEq ι] {calls : ι → AdmittedCall} {w : Race ι}
    {phase : ι → Phase} {log' : FileActionLog} {p : Phase}
    (h : Reaches E v calls w ⟨log, phase⟩) (i : ι)
    (hstep : Daemon.advance E v log (calls i) (phase i) = (log', p)) :
    Reaches E v calls w ⟨log', Function.update phase i p⟩ := by
  have hlast : Step E v calls ⟨log, phase⟩ _ := .advance ⟨log, phase⟩ i
  simp only [hstep] at hlast
  exact h.tail hlast

/-- **Overtaking**: on every log one call can read its history and then be overtaken by the whole
    of another one. -/
theorem reaches_overtaken (hlog : Stored E rs log) (calls : Bool → AdmittedCall) :
    ∃ w, Reaches E v calls (start log) w ∧
      w.phase true = .recorded rs.length rs.length ((calls true).evaluationOf v rs) ∧
      w.phase false = .recorded rs.length (rs.length + 1) ((calls false).evaluationOf v rs) := by
  -- the read loads its history before the write is appended
  have hread : Reaches E v calls (start log) _ :=
    Reaches.advance .refl false (advance_admitted hlog (calls false))
  have hwrite := ((hread.advance true (advance_admitted hlog (calls true))).advance true
    rfl).advance true (advance_evaluated hlog (calls true) _ _)
  have hlog' := hlog.append ((calls true).evaluationOf v rs).record
  -- and appends its own record after it
  have hlast := (hwrite.advance false rfl).advance false
    (advance_evaluated hlog' (calls false) rs.length ((calls false).evaluationOf v rs))
  refine ⟨_, hlast, rfl, ?_⟩
  rw [List.length_append]
  rfl

/-- A write to the ledger and an audit read of one agent at one time. -/
def sampleCalls : Bool → AdmittedCall
  | true =>
    { toExecuteCall := sampleCall 1 "write_entry" .financialRecord 0
      did := "agent-1"
      ring := .standard
      admitted := rfl
      noFailure := rfl }
  | false =>
    { toExecuteCall := sampleCall 2 "read" .auditLog 0
      did := "agent-1"
      ring := .standard
      admitted := rfl
      noFailure := rfl }

theorem sampleCalls_write : IsLedgerWrite (sampleCalls true).request.resourceCategory
    (sampleCalls true).request.action :=
  ⟨.inl rfl, .inl (by decide)⟩

theorem sampleCalls_read : IsAuditRead (sampleCalls false).request.resourceCategory
    (sampleCalls false).request.action :=
  ⟨rfl, .inl rfl⟩

/-- On an empty log the overtaken read bypasses the rule. -/
theorem bypass_sample (rs : List ActionLogRecord) :
    Bypass rs (sampleCalls true) (sampleCalls false) 0 0 1 where
  order := by decide
  unseen := by simp [NoWriteAfter]
  close := by
    show (0 : Int) < 0 + hours 24
    decide

/-- The overtaken read is permitted next to the write. -/
theorem execute_race_iff_sample :
    ∃ (w : Race Bool) (rs : List ActionLogRecord),
      Reaches sampleEnv .defaultPolicy sampleCalls (start (.open sampleEnv .blank)) w ∧
      sampleEnv.records.decodeLines w.log.writer.file = some rs ∧ ¬ Separated rs 0 1 := by
  have hlog : Stored sampleEnv [] (.open sampleEnv .blank) := FileActionLog.stored_open .blank rfl
  obtain ⟨w, hreach, hi, hj⟩ := reaches_overtaken (v := .defaultPolicy) hlog sampleCalls
  obtain ⟨rs, hfile, -, -, hiff, -⟩ := execute_race_iff sampleEnv sampleCalls _ [] hlog w hreach
    true false rfl sampleCalls_write sampleCalls_read _ _ _ _ _ _ hi hj
  exact ⟨w, rs, hreach, hfile, fun hsep => hiff.mp hsep (bypass_sample rs)⟩

/-- Two calls at once are not always kept apart. -/
theorem execute_race_bypassed :
    ¬ ∀ (E : LogEnv) (calls : Bool → AdmittedCall) (log : FileActionLog)
      (rs₀ : List ActionLogRecord), Stored E rs₀ log → ∀ w : Race Bool,
      Reaches E .defaultPolicy calls (start log) w →
      (calls true).did = (calls false).did →
      IsLedgerWrite (calls true).request.resourceCategory (calls true).request.action →
      IsAuditRead (calls false).request.resourceCategory (calls false).request.action →
      ∀ (writeSeen writeAt readSeen readAt : Nat) (writeEval readEval : Evaluation),
      w.phase true = .recorded writeSeen writeAt writeEval →
      w.phase false = .recorded readSeen readAt readEval →
      ∀ rs, E.records.decodeLines w.log.writer.file = some rs → Separated rs writeAt readAt := by
  intro h
  -- the log starts empty
  have hlog : Stored sampleEnv [] (.open sampleEnv .blank) := FileActionLog.stored_open .blank rfl
  obtain ⟨w, hreach, hi, hj⟩ := reaches_overtaken (v := .defaultPolicy) hlog sampleCalls
  obtain ⟨rs, hinv⟩ := (inv_start hlog).reaches hreach
  have hwrite := hinv.tracked true
  rw [hi] at hwrite
  have hread := hinv.tracked false
  rw [hj] at hread
  have hsep := h sampleEnv sampleCalls _ [] hlog w hreach rfl sampleCalls_write sampleCalls_read
    _ _ _ _ _ _ hi hj rs hinv.stored.decodeLines
  -- the two records stand next to each other without the day between them
  have hsame : (sampleCalls true).did = (sampleCalls false).did := rfl
  exact (separated_iff hsame sampleCalls_write sampleCalls_read hwrite hread).mp hsep
    (bypass_sample rs)

end Race

end AgentGovernance.Daemon
