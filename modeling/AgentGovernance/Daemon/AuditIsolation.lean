import AgentGovernance.Daemon.Execute

/-!
# Separation of writing and auditing

Over a run of requests one after another, the SOX rule keeps every agent from reading the
audit log within a day of its own writes.  The argument goes through the log: each call
reads back what the calls before it appended, so the records of a run satisfy the rule
pairwise (`isolated_serve`, `isolated_run`).

The background worker's discovery alerts are events of the run as well; they change nothing.
-/

namespace AgentGovernance.Daemon

open AgentGovernance.Lib AgentGovernance.Mesh AgentGovernance.Compliance
open FileActionLog (historyEntry Stored NoWriteAfter)

/-- What appends to the log of the daemon. -/
inductive LogEvent where
  | execute (call : ExecuteCall)
  /-- The background worker records a shadow agent. -/
  | alert (agentDid : String) (recordId : Uuid) (timestamp : DateTime) (eventJson : String)
      (io : AppendOutcome)

/-- The record of the background worker. -/
def discoveryAlert (agentDid : String) (recordId : Uuid) (timestamp : DateTime)
    (eventJson : String) : ActionLogRecord where
  recordId := recordId
  agentDid := agentDid
  action := "discovery_alert"
  resourceCategory := .unknown
  timestamp := timestamp
  outcome := .discoveryEvent eventJson
  prevHash := ""

variable (E : LogEnv) (hasExporter : Bool)

/-- One event under the default policy. -/
def serve (log : FileActionLog) : LogEvent → FileActionLog
  | .execute call => (executeAction E .defaultPolicy hasExporter log call).log
  | .alert agentDid recordId timestamp eventJson io =>
    (log.append E (discoveryAlert agentDid recordId timestamp eventJson) io).1

/-- Events one after another. -/
def serveAll (log : FileActionLog) (run : List LogEvent) : FileActionLog :=
  run.foldl (serve E hasExporter) log

/-- The clock does not go back during the call, and no I/O fails. -/
def LogEvent.Regular : LogEvent → Prop
  | .execute call => NonDecreasing call.now ∧ call.io = .ok
  | .alert _ _ _ _ io => io = .ok

/-- A record and a later one are not a write and an audit read of one agent within a day. -/
def Isolated (w r : ActionLogRecord) : Prop :=
  IsOwn r.agentDid w → r.outcome = .permitted → IsLedgerWrite w.resourceCategory w.action →
    IsAuditRead r.resourceCategory r.action → w.timestamp + hours 24 ≤ r.timestamp

/-- The response says that the action was denied. -/
def Denied (response : Except HttpError ExecuteResponse) : Prop :=
  ∃ results, response = .ok { success := false, results := results }

variable {E} {rs : List ActionLogRecord} {log : FileActionLog}

/-! ## One call -/

/-- A new record keeps the log isolated when the permitted audit reads respect their history. -/
theorem pairwise_isolated_concat {r : ActionLogRecord} (hiso : rs.Pairwise Isolated)
    (hnew : r.outcome = .permitted → IsAuditRead r.resourceCategory r.action →
      NoWriteAfter r.agentDid (r.timestamp - hours 24) rs) :
    (rs ++ [r]).Pairwise Isolated := by
  rw [List.pairwise_append]
  refine ⟨hiso, List.pairwise_singleton _ _, ?_⟩
  intro w hw r' hr'
  obtain rfl := List.mem_singleton.mp hr'
  intro hown hperm hwrite hread
  exact le_sub_iff_add_le.mp (hnew hperm hread w hw hown hwrite)

/-- A permitted audit read respects its history up to its own timestamp. -/
theorem noWriteAfter_of_permitted {call : ExecuteCall} (hclock : NonDecreasing call.now) (did : String)
    (ring : PrivilegeRing)
    (hperm : (call.evaluation .defaultPolicy did ring
      (rs.filterMap (historyEntry did))).record.outcome = .permitted)
    (hread : IsAuditRead call.request.resourceCategory call.request.action) :
    NoWriteAfter did (call.recordedAt - hours 24) rs := by
  have hdecided : NoWriteAfter did (call.decidedAt - hours 24) rs :=
    (call.evaluation_auditRead did ring hread rs).mp
      ((call.evaluation_permitted_iff did ring _).mp hperm)
  have hle : call.decidedAt ≤ call.recordedAt := hclock 3 4 (by decide)
  intro w hw hown hwrite
  exact (hdecided w hw hown hwrite).trans (sub_le_sub_right hle _)

/-- **Step.** An event keeps the log readable and its records isolated. -/
theorem isolated_serve (hlog : Stored E rs log) (hiso : rs.Pairwise Isolated) {e : LogEvent}
    (he : e.Regular) :
    ∃ rs', Stored E rs' (serve E hasExporter log e) ∧ rs'.Pairwise Isolated := by
  cases e with
  | execute call =>
    obtain ⟨hclock, hio⟩ := he
    -- a refused caller writes nothing
    cases hcaller : callerOf call.registry call.header with
    | error err =>
      refine ⟨rs, ?_, hiso⟩
      rw [serve, executeAction_refused E _ _ hcaller]
      exact hlog
    | ok caller =>
      obtain ⟨did, ring⟩ := caller
      -- a permitted call finds no ledger write of the day before it
      exact ⟨_, stored_executeAction hasExporter hlog hcaller hio,
        pairwise_isolated_concat hiso (noWriteAfter_of_permitted hclock did ring)⟩
  | alert agentDid recordId timestamp eventJson io =>
    -- an alert is no audit read
    obtain rfl : io = .ok := he
    refine ⟨_, hlog.append _, pairwise_isolated_concat hiso ?_⟩
    intro hperm
    cases hperm

/-- **Run.** So does every run. -/
theorem isolated_run (hlog : Stored E rs log) (hiso : rs.Pairwise Isolated) {run : List LogEvent}
    (hrun : ∀ e ∈ run, e.Regular) :
    ∃ rs', Stored E rs' (serveAll E hasExporter log run) ∧ rs'.Pairwise Isolated := by
  induction run generalizing rs log with
  | nil => exact ⟨rs, hlog, hiso⟩
  | cons e run ih =>
    obtain ⟨rs', hlog', hiso'⟩ := isolated_serve hasExporter hlog hiso
      (hrun e List.mem_cons_self)
    exact ih hlog' hiso' fun e' he' => hrun e' (List.mem_cons_of_mem _ he')

/-! ## The decision -/

/-- An audit read is denied exactly for the caller's own recent permitted writes. -/
theorem denied_iff (hlog : Stored E rs log) {call : ExecuteCall} {did : String}
    {ring : PrivilegeRing} (hcaller : callerOf call.registry call.header = .ok (did, ring))
    (hio : call.io = .ok) (hread : IsAuditRead call.request.resourceCategory call.request.action) :
    Denied (executeAction E .defaultPolicy hasExporter log call).response ↔
      ∃ w ∈ rs, IsOwn did w ∧ IsLedgerWrite w.resourceCategory w.action ∧
        call.decidedAt - hours 24 < w.timestamp := by
  have hcompliant := call.evaluation_auditRead did ring hread rs
  have hsuccess := call.evaluation_success (v := .defaultPolicy) did ring
    (rs.filterMap (historyEntry did))
  rw [executeAction_stored hasExporter hlog hcaller hio]
  -- denied means not compliant with the history that was read
  have hdenied : Denied (.ok (call.evaluation .defaultPolicy did ring
      (rs.filterMap (historyEntry did))).response) ↔
      ¬ NoWriteAfter did (call.decidedAt - hours 24) rs := by
    rw [← hcompliant, ← hsuccess, Bool.not_eq_true]
    constructor
    · rintro ⟨results, heq⟩
      rw [Except.ok.inj heq]
    · intro hfalse
      exact ⟨_, congrArg Except.ok (by rw [← hfalse])⟩
  rw [hdenied]
  simp only [NoWriteAfter, not_forall, not_le, exists_prop]

/-- The response depends on nothing but the caller's own permitted records. -/
theorem response_congr {rs' : List ActionLogRecord} {log' : FileActionLog}
    (hlog : Stored E rs log) (hlog' : Stored E rs' log') {call : ExecuteCall} {did : String}
    {ring : PrivilegeRing} (hcaller : callerOf call.registry call.header = .ok (did, ring))
    (hio : call.io = .ok) (hown : rs'.filter (IsOwn did ·) = rs.filter (IsOwn did ·)) :
    (executeAction E .defaultPolicy hasExporter log' call).response =
      (executeAction E .defaultPolicy hasExporter log call).response := by
  rw [executeAction_stored hasExporter hlog hcaller hio,
    executeAction_stored hasExporter hlog' hcaller hio]
  dsimp only
  rw [← FileActionLog.filterMap_historyEntry_filter did rs, ← hown,
    FileActionLog.filterMap_historyEntry_filter did rs']

/-! ## Runs from an empty log -/

variable (E)

/-- **Audit isolation.** After any run from an empty log, an audit read is denied exactly when
    the log has a permitted write of the same agent in the last day; nothing else in the log
    influences the agent's requests, and every permitted audit read in the log is at least a day
    later than the agent's writes before it. -/
theorem audit_isolated (d : Disk) (hempty : d.log.getD [] = []) (run : List LogEvent)
    (hrun : ∀ e ∈ run, e.Regular) :
    ∃ rs, E.records.decodeLines
        (serveAll E hasExporter (FileActionLog.open E d) run).writer.file = some rs ∧
      rs.Pairwise Isolated ∧
      ∀ (call : ExecuteCall) (did : String) (ring : PrivilegeRing), call.io = .ok →
        callerOf call.registry call.header = .ok (did, ring) →
        (IsAuditRead call.request.resourceCategory call.request.action →
          (Denied (executeAction E .defaultPolicy hasExporter
              (serveAll E hasExporter (FileActionLog.open E d) run) call).response ↔
            ∃ w ∈ rs, IsOwn did w ∧ IsLedgerWrite w.resourceCategory w.action ∧
              call.decidedAt - hours 24 < w.timestamp)) ∧
        ∀ (run' : List LogEvent) (rs' : List ActionLogRecord), (∀ e ∈ run', e.Regular) →
          E.records.decodeLines
            (serveAll E hasExporter (FileActionLog.open E d) run').writer.file = some rs' →
          rs'.filter (IsOwn did ·) = rs.filter (IsOwn did ·) →
          (executeAction E .defaultPolicy hasExporter
              (serveAll E hasExporter (FileActionLog.open E d) run') call).response =
            (executeAction E .defaultPolicy hasExporter
              (serveAll E hasExporter (FileActionLog.open E d) run) call).response := by
  obtain ⟨rs, hlog, hiso⟩ := isolated_run hasExporter
    (FileActionLog.stored_open (E := E) d hempty) List.Pairwise.nil hrun
  refine ⟨rs, hlog.decodeLines, hiso, ?_⟩
  intro call did ring hio hcaller
  -- exactly the caller's own ledger writes of the last day deny the read
  refine ⟨denied_iff hasExporter hlog hcaller hio, ?_⟩
  intro run' rs' hrun' hfile' hown
  -- another run, of which only the caller's records need to agree
  obtain ⟨ss, hlog', -⟩ := isolated_run hasExporter
    (FileActionLog.stored_open (E := E) d hempty) List.Pairwise.nil hrun'
  obtain rfl : ss = rs' := Option.some.inj (hlog'.decodeLines.symm.trans hfile')
  exact response_congr hasExporter hlog hlog' hcaller hio hown

/-- A request of one agent at one time. -/
def sampleCall (id : UInt8) (action : String) (category : DataCategory) (time : DateTime) :
    ExecuteCall where
  header := some "agent-1"
  request := { action := action, resourceCategory := category, jurisdiction := none }
  registry :=
    { getAttestation := fun _ => .ok none
      getRing := fun _ => .ok (some .standard) }
  now := fun _ => time
  recordId := .fill id
  io := .ok

/-- An hour after a write the audit log is closed to the writer. -/
theorem audit_isolated_sample :
    Disk.blank.log.getD [] = [] ∧
    (∀ e ∈ [LogEvent.execute (sampleCall 1 "write_entry" .financialRecord 0)], e.Regular) ∧
    Denied (executeAction sampleEnv .defaultPolicy false
      (serveAll sampleEnv false (FileActionLog.open sampleEnv .blank)
        [.execute (sampleCall 1 "write_entry" .financialRecord 0)])
      (sampleCall 2 "read" .auditLog (hours 1))).response := by
  have hrun : ∀ e ∈ [LogEvent.execute (sampleCall 1 "write_entry" .financialRecord 0)],
      e.Regular := by
    intro e he
    obtain rfl := List.mem_singleton.mp he
    exact ⟨fun _ _ _ => le_rfl, rfl⟩
  have hwrite : IsLedgerWrite .financialRecord "write_entry" := ⟨.inl rfl, .inl (by decide)⟩
  obtain ⟨rs, hfile, -, hnext⟩ := audit_isolated sampleEnv false .blank rfl _ hrun
  refine ⟨rfl, hrun, ?_⟩
  -- the log holds the record of the write
  have hlog : Stored sampleEnv _ (serveAll sampleEnv false (FileActionLog.open sampleEnv .blank)
      [.execute (sampleCall 1 "write_entry" .financialRecord 0)]) :=
    stored_executeAction (v := .defaultPolicy) false (FileActionLog.stored_open .blank rfl)
      (rfl : callerOf _ _ = .ok ("agent-1", .standard)) rfl
  rw [hlog.decodeLines] at hfile
  obtain rfl := Option.some.inj hfile
  -- the write is own, and less than a day old
  refine ((hnext (sampleCall 2 "read" .auditLog (hours 1)) "agent-1" .standard rfl rfl).1
    ⟨rfl, .inl rfl⟩).mpr ⟨_, List.mem_append_right _ List.mem_cons_self, ⟨rfl, ?_⟩, hwrite, ?_⟩
  · exact (ExecuteCall.evaluation_permitted_iff _ _ _ _).mpr
      (ExecuteCall.evaluation_ledgerWrite _ _ _ _ hwrite)
  · show hours 1 - hours 24 < 0
    decide

end AgentGovernance.Daemon
