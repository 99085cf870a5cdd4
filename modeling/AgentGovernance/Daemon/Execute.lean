import AgentGovernance.Compliance.History
import AgentGovernance.Mesh.Registry

/-!
# Executing an action

`execute_action` in `crates/daemon/src/lib.rs`: the caller's ring and history are looked
up, the compliance rules are evaluated, and the action is written to the log as permitted
or denied.

The handler is put together from `callerOf`, `load_history`, `evaluation` and `append`, so
that calls running at the same time can be modelled with the same functions.
-/

namespace AgentGovernance.Daemon

open AgentGovernance.Lib AgentGovernance.Mesh AgentGovernance.Compliance
open FileActionLog (ActionRecord historyEntry Stored NoWriteAfter)

inductive StatusCode where
  | ok
  | created
  | accepted
  | badRequest
  | unauthorized
  | forbidden
  | notFound
  | tooManyRequests
  | internalServerError
  | badGateway
  deriving DecidableEq, Repr

/-- The error half of a handler's result. -/
abbrev HttpError := StatusCode × String

structure ExecuteRequest where
  action : String
  resourceCategory : DataCategory
  jurisdiction : Option String

structure ExecuteResponse where
  success : Bool
  results : List ComplianceResult
  deriving DecidableEq

/-- A request, with everything that the handler gets from outside. -/
structure ExecuteCall where
  /-- The header `X-AGT-Agent-DID`, when it is there and is text. -/
  header : Option String
  request : ExecuteRequest
  registry : AgentRegistry
  /-- The readings of the clock in the order in which they are taken: one for each rule in
      `evaluate`, one for each rule in `is_compliant`, one for the timestamp. -/
  now : Nat → DateTime
  recordId : Uuid
  io : AppendOutcome

/-- The clock does not go back. -/
def NonDecreasing (now : Nat → DateTime) : Prop :=
  ∀ i j, i ≤ j → now i ≤ now j

/-- The log after a call, the record handed to the SIEM exporter, and the response. -/
structure Executed where
  log : FileActionLog
  exported : Option ActionLogRecord
  response : Except HttpError ExecuteResponse

/-! ## The handler -/

/-- The header and ring checks at the start. -/
def callerOf (registry : AgentRegistry) (header : Option String) :
    Except HttpError (String × PrivilegeRing) :=
  match header with
  | none => .error (.unauthorized, "Missing X-AGT-Agent-DID")
  | some did =>
    match registry.getRing did with
    | .error e => .error (.internalServerError, e)
    | .ok none => .error (.unauthorized, "Agent not registered")
    | .ok (some ring) => .ok (did, ring)

/-- The first violation among the results, with the fallback of the source. -/
def firstViolation (results : List ComplianceResult) : String × String :=
  (results.findSome? fun
    | .violation rule reason => some (rule, reason)
    | _ => none).getD ("Unknown", "Access denied")

/-- Both evaluations of the rules and the record of the action. -/
structure Evaluation where
  results : List ComplianceResult
  isCompliant : Bool
  record : ActionLogRecord

/-- What the caller is told. -/
def Evaluation.response (e : Evaluation) : ExecuteResponse :=
  if !e.isCompliant then { success := false, results := e.results }
  else { success := true, results := e.results }

namespace ExecuteCall

/-- The input of the rules.  The registry knows no capabilities, so there are none. -/
def complianceInput (call : ExecuteCall) (did : String) (ring : PrivilegeRing)
    (history : List ActionRecord) : ComplianceInput where
  agentDid := did
  agentRing := ring
  agentCapabilities := []
  action := call.request.action
  resourceCategory := call.request.resourceCategory
  actionHistory := history
  jurisdiction := call.request.jurisdiction

/-- The part of the handler between `load_history` and `append`. -/
def evaluation (call : ExecuteCall) (v : ComplianceVerifier) (did : String) (ring : PrivilegeRing)
    (history : List ActionRecord) : Evaluation :=
  let input := call.complianceInput did ring history
  let n := v.rules.length
  let results := v.evaluate call.now input
  let isCompliant := v.isCompliant (fun i => call.now (n + i)) input
  let outcome :=
    if isCompliant then .permitted
    else .denied (firstViolation results).1 (firstViolation results).2
  { results := results
    isCompliant := isCompliant
    record :=
      { recordId := call.recordId
        agentDid := did
        action := call.request.action
        resourceCategory := call.request.resourceCategory
        timestamp := call.now (2 * n)
        outcome := outcome
        prevHash := "" } }

end ExecuteCall

variable (E : LogEnv) (v : ComplianceVerifier) (hasExporter : Bool)

def executeAction (log : FileActionLog) (call : ExecuteCall) : Executed :=
  match callerOf call.registry call.header with
  | .error e => { log := log, exported := none, response := .error e }
  | .ok (did, ring) =>
    match FileActionLog.loadHistory E log.disk.log did with
    | .error e => { log := log, exported := none, response := .error (.internalServerError, e) }
    | .ok history =>
      let e := call.evaluation v did ring history
      match log.append E e.record call.io with
      | (log, .error text) =>
        { log := log, exported := none, response := .error (.internalServerError, text) }
      | (log, .ok ()) =>
        { log := log
          exported := if hasExporter then some e.record else none
          response := .ok e.response }

/-! ## What a call does -/

/-- A caller who is not admitted leaves no trace. -/
theorem executeAction_refused {log : FileActionLog} {call : ExecuteCall} {e : HttpError}
    (h : callerOf call.registry call.header = .error e) :
    executeAction E v hasExporter log call =
      { log := log, exported := none, response := .error e } := by
  simp only [executeAction, h]

variable {E v}

/-- **Execution**: on a readable log and without I/O failure an admitted call is evaluated on
    the caller's history and recorded. -/
theorem executeAction_stored {rs : List ActionLogRecord} {log : FileActionLog}
    (hlog : Stored E rs log) {call : ExecuteCall} {did : String} {ring : PrivilegeRing}
    (hcaller : callerOf call.registry call.header = .ok (did, ring)) (hio : call.io = .ok) :
    let e := call.evaluation v did ring (rs.filterMap (historyEntry did))
    executeAction E v hasExporter log call =
      { log := (log.append E e.record .ok).1
        exported := if hasExporter then some e.record else none
        response := .ok e.response } := by
  simp only [executeAction, hcaller, hlog.loadHistory, hio, FileActionLog.append_ok]

/-- The log gains the record of the evaluation. -/
theorem stored_executeAction {rs : List ActionLogRecord} {log : FileActionLog}
    (hlog : Stored E rs log) {call : ExecuteCall} {did : String} {ring : PrivilegeRing}
    (hcaller : callerOf call.registry call.header = .ok (did, ring)) (hio : call.io = .ok) :
    Stored E (rs ++ [log.stored (call.evaluation v did ring
        (rs.filterMap (historyEntry did))).record])
      (executeAction E v hasExporter log call).log := by
  rw [executeAction_stored hasExporter hlog hcaller hio]
  exact hlog.append _

namespace ExecuteCall

variable (call : ExecuteCall) (did : String) (ring : PrivilegeRing) (history : List ActionRecord)

/-- The record and the response tell the same. -/
theorem evaluation_permitted_iff :
    (call.evaluation v did ring history).record.outcome = .permitted ↔
      (call.evaluation v did ring history).isCompliant = true := by
  simp only [evaluation]
  split <;> simp_all

theorem evaluation_success :
    (call.evaluation v did ring history).response.success =
      (call.evaluation v did ring history).isCompliant := by
  unfold Evaluation.response
  cases (call.evaluation v did ring history).isCompliant <;> rfl

/-- The clock reading of `is_compliant` that the SOX rule of the default policy uses. -/
def decidedAt : DateTime := call.now 3

/-- The timestamp of the record under the default policy. -/
def recordedAt : DateTime := call.now 4

/-- The evaluation that decides under the default policy. -/
theorem evaluation_isCompliant :
    (call.evaluation .defaultPolicy did ring history).isCompliant =
      ComplianceVerifier.defaultPolicy.isCompliant (fun i => call.now (2 + i))
        (call.complianceInput did ring history) := rfl

/-- **Audit reads** under the default policy are compliant when the agent's own permitted
    writes are a day old. -/
theorem evaluation_auditRead
    (h : IsAuditRead call.request.resourceCategory call.request.action)
    (rs : List ActionLogRecord) :
    (call.evaluation .defaultPolicy did ring (rs.filterMap (historyEntry did))).isCompliant = true ↔
      NoWriteAfter did (call.decidedAt - hours 24) rs := by
  rw [evaluation_isCompliant, ComplianceVerifier.isCompliant_auditRead _ h]
  exact FileActionLog.forall_mem_history did rs fun category action timestamp =>
    IsLedgerWrite category action → timestamp ≤ call.now 3 - hours 24

/-- Writes to financial or audit data are compliant under the default policy. -/
theorem evaluation_ledgerWrite
    (h : IsLedgerWrite call.request.resourceCategory call.request.action) :
    (call.evaluation .defaultPolicy did ring history).isCompliant = true := by
  rw [evaluation_isCompliant]
  exact ComplianceVerifier.isCompliant_ledgerWrite _ h

end ExecuteCall

end AgentGovernance.Daemon
