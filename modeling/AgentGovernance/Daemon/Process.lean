import AgentGovernance.Daemon.AlertWorker
import AgentGovernance.Daemon.Records

/-!
# The daemon with its worker

`AgentServer::run` serves requests on two transports and starts a worker that copies shadow
alerts into the action log.  Requests and steps of the worker interleave.

`process_ledger` says what becomes of the action log then: it gains the alerts of the worker and
one record for each action that was answered, with the verdict of the answer; the latter are
what the SIEM exporter is given, in the same order, and the chain stays intact.
-/

namespace AgentGovernance.Daemon

open AgentGovernance.Lib AgentGovernance.Mesh AgentGovernance.Compliance AgentGovernance.Discovery
open AgentGovernance.McpGovernance AgentGovernance.Runtime
open FileActionLog (Synced historyEntry)

/-! ## The process -/

/-- The daemon and its background worker. -/
structure DaemonProcess where
  server : ServerState
  worker : AlertWorker

inductive WorkerStep where
  | subscribe
  | receive
  | append (recordId : Uuid) (timestamp : DateTime)

def WorkerStep.event : WorkerStep → AlertEvent
  | .subscribe => .subscribe
  | .receive => .receive
  | .append recordId timestamp => .append recordId timestamp

/-- A request or a step of the worker. -/
inductive ProcessEvent where
  | request (call : DaemonRequest × RequestReads)
  | worker (event : WorkerStep)

namespace DaemonProcess

variable (C : Crypto) (E : LogEnv) (X : Extractors) (W : GrpcWire) (p : DaemonProcess)

/-- What the worker sees. -/
def alerts : AlertSystem where
  manager := p.server.discoveryManager
  actionLog := p.server.actionLog
  worker := p.worker

/-- The process after a step of the worker, which does not call the discovery manager. -/
def work (event : WorkerStep) : DaemonProcess where
  server := { p.server with actionLog := (p.alerts.step E event.event).actionLog }
  worker := (p.alerts.step E event.event).worker

def step (p : DaemonProcess) : ProcessEvent → DaemonProcess
  | .request call => { p with server := p.server.step C E X W call }
  | .worker event => p.work E event

/-- The log does not fail. -/
def Faultless : ProcessEvent → Prop
  | .request call => call.2.logIo = .ok
  | .worker _ => True

end DaemonProcess

/-! ## Verdicts -/

structure Verdict where
  agentDid : String
  action : String
  resourceCategory : DataCategory
  permitted : Bool
  deriving DecidableEq

/-- The verdict that a record keeps. -/
def keptVerdict (record : ActionLogRecord) : Verdict where
  agentDid := record.agentDid
  action := record.action
  resourceCategory := record.resourceCategory
  permitted := record.outcome = .permitted

/-- The record is one of an action, and not of a discovery event. -/
def isAction (record : ActionLogRecord) : Bool :=
  match record.outcome with
  | .discoveryEvent _ => false
  | _ => true

def actions (rs : List ActionLogRecord) : List ActionLogRecord :=
  rs.filter isAction

/-- The other records. -/
def discoveries (rs : List ActionLogRecord) : List ActionLogRecord :=
  rs.filter (!isAction ·)

theorem actions_append (rs more : List ActionLogRecord) :
    actions (rs ++ more) = actions rs ++ actions more :=
  List.filter_append ..

theorem discoveries_append (rs more : List ActionLogRecord) :
    discoveries (rs ++ more) = discoveries rs ++ discoveries more :=
  List.filter_append ..

/-- The verdict that a response tells about the action that was asked for. -/
def toldVerdict (asked : Option (Option String × ExecuteRequest)) (response : DaemonResponse) :
    Option Verdict :=
  match asked, response with
  | some (some did, request), .http (.ok (_, .executed answer)) =>
    some ⟨did, request.action, request.resourceCategory, answer.success⟩
  | _, _ => none

namespace DaemonProcess

/-- The verdict that the caller of an event is told. -/
def told (C : Crypto) (E : LogEnv) (X : Extractors) (W : GrpcWire) (p : DaemonProcess) :
    ProcessEvent → Option Verdict
  | .request call => toldVerdict (call.1.execution X) (p.server.respond C E X W call.1 call.2)
  | .worker _ => none

/-- The record that the worker appends. -/
def alerted (p : DaemonProcess) : ProcessEvent → Option ActionLogRecord
  | .worker (.append recordId timestamp) =>
    match p.worker with
    | .appending _ _ agent => some (alertRecord recordId timestamp agent)
    | _ => none
  | _ => none

end DaemonProcess

/-! ## Executing on a log in step with its records -/

/-- The history does not depend on the links. -/
theorem loadHistory_of_synced {E : LogEnv} {rs : List ActionLogRecord} {l : FileActionLog}
    (h : Synced E rs l) (did : String) :
    FileActionLog.loadHistory E l.disk.log did = .ok (rs.filterMap (historyEntry did)) := by
  rw [h.stored.loadHistory, LinkedRecords.filterMap_chain]
  exact fun _ _ => rfl

namespace ServerState

variable (C : Crypto) (E : LogEnv) (s : ServerState)

/-- What `execute_action` gets. -/
def executeCall (header : Option String) (request : ExecuteRequest) (reads : RequestReads) :
    ExecuteCall where
  header := header
  request := request
  registry := s.registryAnswers C reads
  now := fun i => reads.now (3 + i)
  recordId := reads.newId
  io := reads.logIo

/-- The evaluation of an admitted call on the records of the log. -/
def evaluated (rs : List ActionLogRecord) (header : Option String) (request : ExecuteRequest)
    (reads : RequestReads) (did : String) (ring : PrivilegeRing) : Evaluation :=
  (s.executeCall C header request reads).evaluation s.complianceVerifier did ring
    (rs.filterMap (historyEntry did))

/-- The state with the record of an action. -/
def recording (record : ActionLogRecord) : ServerState :=
  { s with
    actionLog := s.actionLog.appended E record
    siemExporter := s.siemExporter.map (· ++ [record]) }

variable {C E s} {rs : List ActionLogRecord} {header : Option String} {request : ExecuteRequest}
  {reads : RequestReads}

/-- A refused call changes nothing. -/
theorem execute_refused {e : HttpError}
    (h : callerOf (s.registryAnswers C reads) header = .error e) :
    s.execute C E header request reads = (s, .error e) := by
  have hrefused : executeAction E s.complianceVerifier s.siemExporter.isSome s.actionLog
      (s.executeCall C header request reads) =
        { log := s.actionLog, exported := none, response := .error e } :=
    executeAction_refused E s.complianceVerifier s.siemExporter.isSome h
  obtain ⟨registry, keyStore, policyStore, escalationManager, discoveryManager, complianceVerifier,
    actionLog, siemExporter, registryPubkey⟩ := s
  simp only [executeCall] at hrefused
  simp only [execute, hrefused]
  cases siemExporter <;> simp

/-- An admitted call is recorded as it is answered. -/
theorem execute_admitted (request : ExecuteRequest) (hsynced : Synced E rs s.actionLog) (hio : reads.logIo = .ok)
    {did : String} {ring : PrivilegeRing}
    (h : callerOf (s.registryAnswers C reads) header = .ok (did, ring)) :
    s.execute C E header request reads =
      (s.recording E (s.evaluated C rs header request reads did ring).record,
        .ok (s.evaluated C rs header request reads did ring).response) := by
  have happend : (s.executeCall C header request reads).io = .ok := hio
  have hcaller : callerOf (s.executeCall C header request reads).registry
      (s.executeCall C header request reads).header = .ok (did, ring) := h
  -- the history is read, the verdict made and the record appended
  have hexecuted : executeAction E s.complianceVerifier s.siemExporter.isSome s.actionLog
      (s.executeCall C header request reads) =
        { log := s.actionLog.appended E (s.evaluated C rs header request reads did ring).record
          exported := if s.siemExporter.isSome then
            some (s.evaluated C rs header request reads did ring).record else none
          response := .ok (s.evaluated C rs header request reads did ring).response } := by
    simp only [executeAction, hcaller, loadHistory_of_synced hsynced, happend, FileActionLog.append_ok, evaluated]
  simp only [execute]
  simp only [executeCall] at hexecuted
  rw [hexecuted]
  -- with an exporter the record is exported as well
  cases hexporter : s.siemExporter <;> simp [recording, hexporter]

/-- The record of an evaluation is one of an action. -/
theorem isAction_evaluated (did : String) (ring : PrivilegeRing) :
    isAction (s.evaluated C rs header request reads did ring).record = true := by
  simp only [evaluated, ExecuteCall.evaluation, isAction]
  split
  · split at * <;> cases ‹_›
  · rfl

/-- It keeps the verdict that the caller is told. -/
theorem keptVerdict_evaluated (did : String) (ring : PrivilegeRing) :
    keptVerdict (s.evaluated C rs header request reads did ring).record =
      ⟨did, request.action, request.resourceCategory,
        (s.evaluated C rs header request reads did ring).response.success⟩ := by
  have hpermitted := (s.executeCall C header request reads).evaluation_permitted_iff
    (v := s.complianceVerifier) did ring (rs.filterMap (historyEntry did))
  have hsuccess := (s.executeCall C header request reads).evaluation_success
    (v := s.complianceVerifier) did ring (rs.filterMap (historyEntry did))
  rw [evaluated, hsuccess]
  simp only [keptVerdict, hpermitted, Bool.decide_eq_true]
  rfl

end ServerState

/-! ## What becomes of the log -/

/-- The log and the exporter of the daemon have gained records, callers were told verdicts, and the
    worker has appended alerts. -/
structure Gained (E : LogEnv) (s : ServerState) (rs new : List ActionLogRecord)
    (told : List Verdict) (alerted : List ActionLogRecord) (s' : ServerState) : Prop where
  log : Synced E (rs ++ new) s'.actionLog
  exporter : s'.siemExporter = s.siemExporter.map (· ++ actions new)
  told : told = (actions new).map keptVerdict
  alerted : alerted = discoveries new

namespace Gained

variable {E : LogEnv} {s s' s'' : ServerState} {rs new more : List ActionLogRecord}
  {told said : List Verdict} {alerted warned : List ActionLogRecord}

/-- Nothing was recorded, and nobody was told anything. -/
theorem nothing (hlog : Synced E rs s.actionLog) (hsame : s'.records = s.records) :
    Gained E s rs [] [] [] s' where
  log := by
    have hactionLog : s'.actionLog = s.actionLog := congrArg Records.actionLog hsame
    rw [List.append_nil, hactionLog]
    exact hlog
  exporter := by
    have hexporter : s'.siemExporter = s.siemExporter := congrArg Records.siemExporter hsame
    rw [hexporter]
    cases s.siemExporter <;> simp [actions]
  told := rfl
  alerted := rfl

theorem trans (h : Gained E s rs new told alerted s')
    (h' : Gained E s' (rs ++ new) more said warned s'') :
    Gained E s rs (new ++ more) (told ++ said) (alerted ++ warned) s'' where
  log := by
    rw [← List.append_assoc]
    exact h'.log
  exporter := by
    -- the two lists of exported actions follow one another
    rw [h'.exporter, h.exporter, Option.map_map, actions_append]
    congr 1
    funext exported
    exact List.append_assoc ..
  told := by rw [h.told, h'.told, actions_append, List.map_append]
  alerted := by rw [h.alerted, h'.alerted, discoveries_append]

end Gained

section Step

variable {C : Crypto} {E : LogEnv} {X : Extractors} {W : GrpcWire} {s : ServerState}
  {rs : List ActionLogRecord}

/-- A caller who is admitted is the one in the header. -/
theorem header_of_callerOf {registry : AgentRegistry} {header : Option String} {did : String}
    {ring : PrivilegeRing} (h : callerOf registry header = .ok (did, ring)) : header = some did := by
  cases header with
  | none => cases h
  | some did' =>
    simp only [callerOf] at h
    split at h <;> cases h
    rfl

namespace ServerState

/-- An asked action is recorded as its caller is told, or refused. -/
theorem gained_execute (hlog : Synced E rs s.actionLog) {reads : RequestReads}
    (hio : reads.logIo = .ok) (header : Option String) (request : ExecuteRequest) :
    ∃ new, Gained E s rs new
      (toldVerdict (some (header, request))
        (.http ((s.execute C E header request reads).2.map fun answer => (.ok, .executed answer)))).toList
      [] (s.execute C E header request reads).1 := by
  cases hcaller : callerOf (s.registryAnswers C reads) header with
  | error e =>
    -- a refused caller is told nothing, and the log stays
    rw [execute_refused hcaller]
    refine ⟨[], ?_⟩
    cases header <;> exact .nothing hlog rfl
  | ok caller =>
    obtain ⟨did, ring⟩ := caller
    obtain rfl : header = some did := header_of_callerOf hcaller
    rw [execute_admitted request hlog hio hcaller]
    -- the record of a verdict is an action, and no discovery
    have hactions : actions [(s.evaluated C rs (some did) request reads did ring).record] =
        [(s.evaluated C rs (some did) request reads did ring).record] := by
      simp [actions, isAction_evaluated]
    refine ⟨[(s.evaluated C rs (some did) request reads did ring).record], ?_, ?_, ?_, ?_⟩
    · exact hlog.appended _
    · rw [hactions]
      rfl
    · rw [hactions, List.map_singleton, keptVerdict_evaluated]
      rfl
    · simp [discoveries, isAction_evaluated]

/-- The route of `execute_action` answers what the handler answers. -/
theorem route_execution {req : HttpRequest} {body : Bytes} {reads : RequestReads}
    {asked : Option String × ExecuteRequest} (h : req.execution X body = some asked) :
    s.route C E X req body reads =
      ((s.execute C E asked.1 asked.2 reads).1,
        (s.execute C E asked.1 asked.2 reads).2.map fun answer => (.ok, .executed answer)) := by
  unfold HttpRequest.execution at h
  split at h
  · rename_i hroute
    obtain ⟨request, hrequest, rfl⟩ := Option.map_eq_some_iff.mp h
    simp only [route, hroute]
    cases hbody : X.executeRequest body with
    | error e =>
      -- the body was parsed, or nothing would have been asked for
      simp [hbody, Except.toOption] at hrequest
    | ok r =>
      obtain rfl : r = request := by simpa [hbody, Except.toOption] using hrequest
      simp only [extracted]
      cases s.execute C E req.agentDid.toStr r reads with
      | mk t result => cases result <;> rfl
  · -- other routes ask for no action
    cases h

/-- The middleware answers with an error, unless the request is authenticated. -/
theorem serveHttp_error_of_not_authenticates {req : HttpRequest} {reads : RequestReads}
    (h : ∀ did, ¬ s.Authenticates C W (.http req) reads did) :
    ∃ e, (s.serveHttp C E X req reads).2 = .error e := by
  unfold serveHttp
  cases hdid : req.agentDid.toStr with
  | none => exact ⟨_, rfl⟩
  | some didStr =>
    cases hsignature : req.signature.toStr with
    | none => exact ⟨_, rfl⟩
    | some signatureB64 =>
      dsimp only
      cases hdecode : C.decode64 signatureB64 with
      | error e => exact ⟨_, rfl⟩
      | ok signature =>
        cases hbody : req.body with
        | error e => exact ⟨_, rfl⟩
        | ok body =>
          dsimp only
          cases hauth : s.authenticate C didStr signature body reads with
          | error e => exact ⟨_, rfl⟩
          | ok u =>
            -- past every check the caller would be authenticated
            exact absurd ⟨signatureB64, signature, body, hdid, hsignature, hdecode, hbody, hauth⟩
              (h didStr)

/-- A request that asks for no action records nothing. -/
theorem step_records_of_execution_none {call : DaemonRequest × RequestReads}
    (h : call.1.execution X = none) : (step C E X W s call).records = s.records := by
  by_cases hcaller : ∃ did, s.Authenticates C W call.1 call.2 did
  · obtain ⟨did, hdid⟩ := hcaller
    have hrecords := serve_records_of_authenticates E X hdid
    rw [h] at hrecords
    exact hrecords
  · apply serve_records_of_not_authenticates
    exact fun did hdid => hcaller ⟨did, hdid⟩

/-- **Request**: an asked action is recorded as its caller is told. -/
theorem gained_step (hlog : Synced E rs s.actionLog) {call : DaemonRequest × RequestReads}
    (hio : call.2.logIo = .ok) :
    ∃ new, Gained E s rs new
      (toldVerdict (call.1.execution X) (s.respond C E X W call.1 call.2)).toList []
      (step C E X W s call) := by
  obtain ⟨req, reads⟩ := call
  cases hasked : req.execution X with
  | none =>
    -- a request that asks for no action leaves the records
    exact ⟨[], .nothing hlog (step_records_of_execution_none hasked)⟩
  | some asked =>
    -- only HTTP requests ask for an action
    cases req with
    | grpc req => cases hasked
    | http req =>
      by_cases hcaller : ∃ did, s.Authenticates C W (.http req) reads did
      · obtain ⟨did, hdid⟩ := hcaller
        obtain ⟨-, body, hbody, hserve⟩ := serveHttp_of_authenticates E X hdid
        have hexecution : req.execution X body = some asked := by
          -- the handler executes the action
          simpa only [DaemonRequest.execution, hbody, Except.toOption, Option.bind_some] using hasked
        obtain ⟨new, hnew⟩ := gained_execute (C := C) hlog hio asked.1 asked.2
        simp only [step, serve, respond, hserve, route_execution hexecution]
        exact ⟨new, hnew⟩
      · have hstranger : ∀ did, ¬ s.Authenticates C W (.http req) reads did :=
          fun did hdid => hcaller ⟨did, hdid⟩
        -- an unauthenticated request is answered with an error, and nothing is recorded
        obtain ⟨e, he⟩ := serveHttp_error_of_not_authenticates (E := E) (X := X) hstranger
        have hsame : (step C E X W s (.http req, reads)).records = s.records :=
          serve_records_of_not_authenticates E X hstranger
        refine ⟨[], ?_⟩
        simp only [respond, he]
        cases hheader : asked.1 <;> simpa [toldVerdict, hheader] using Gained.nothing hlog hsame

end ServerState

namespace DaemonProcess

variable {p : DaemonProcess}

/-- **Worker**: an alert is recorded, and the exporter does not hear of it. -/
theorem gained_work (hlog : Synced E rs p.server.actionLog) (event : WorkerStep) :
    ∃ new, Gained E p.server rs new [] (p.alerted (.worker event)).toList
      (p.work E event).server := by
  cases event with
  | subscribe =>
    -- subscribing and receiving write nothing
    refine ⟨[], .nothing hlog ?_⟩
    simp only [work, WorkerStep.event, AlertSystem.step]
    split <;> rfl
  | receive =>
    refine ⟨[], .nothing hlog ?_⟩
    simp only [work, WorkerStep.event, AlertSystem.step, AlertSystem.receive]
    split
    · split <;> rfl
    · rfl
  | append recordId timestamp =>
    cases hworker : p.worker with
    | appending since next agent =>
      -- the alert in hand is appended, and is no action
      have hlog' : (p.work E (.append recordId timestamp)).server.actionLog =
          p.server.actionLog.appended E (alertRecord recordId timestamp agent) := by
        simp only [work, WorkerStep.event, AlertSystem.step, alerts, hworker,
          FileActionLog.append_ok]
      refine ⟨[alertRecord recordId timestamp agent], ?_, ?_, rfl, ?_⟩
      · rw [hlog']
        exact hlog.appended _
      · cases hexporter : p.server.siemExporter <;> simp [work, hexporter, actions, isAction, alertRecord]
      · simp only [alerted, hworker]
        rfl
    | _ =>
      -- the worker has no alert in hand
      have hsame : (p.work E (.append recordId timestamp)).server.records = p.server.records := by
        simp only [work, WorkerStep.event, AlertSystem.step, alerts, hworker]
      simp only [alerted, hworker]
      exact ⟨[], .nothing hlog hsame⟩

/-- **Step**: an event adds the alert of the worker, or the action that was answered. -/
theorem gained_event (hlog : Synced E rs p.server.actionLog) {event : ProcessEvent}
    (hevent : Faultless event) :
    ∃ new, Gained E p.server rs new (p.told C E X W event).toList (p.alerted event).toList
      (p.step C E X W event).server := by
  cases event with
  | request call => exact ServerState.gained_step hlog hevent
  | worker event => exact gained_work hlog event

/-- What each event of a run tells. -/
def verdicts (C : Crypto) (E : LogEnv) (X : Extractors) (W : GrpcWire) (p : DaemonProcess)
    (run : List ProcessEvent) : List Verdict :=
  (answers (fun p event => (p.step C E X W event, p.told C E X W event)) p run).reduceOption

/-- The alerts that the worker appends in a run. -/
def alertRecords (C : Crypto) (E : LogEnv) (X : Extractors) (W : GrpcWire) (p : DaemonProcess)
    (run : List ProcessEvent) : List ActionLogRecord :=
  (answers (fun p event => (p.step C E X W event, p.alerted event)) p run).reduceOption

theorem verdicts_cons (event : ProcessEvent) (run : List ProcessEvent) :
    p.verdicts C E X W (event :: run) =
      (p.told C E X W event).toList ++ (p.step C E X W event).verdicts C E X W run := by
  simp only [verdicts, answers]
  cases p.told C E X W event <;> rfl

theorem alertRecords_cons (event : ProcessEvent) (run : List ProcessEvent) :
    p.alertRecords C E X W (event :: run) =
      (p.alerted event).toList ++ (p.step C E X W event).alertRecords C E X W run := by
  simp only [alertRecords, answers]
  cases p.alerted event <;> rfl

/-- **Run**: the log gains what the events of the run add. -/
theorem gained_run (hlog : Synced E rs p.server.actionLog) {run : List ProcessEvent}
    (hrun : ∀ event ∈ run, Faultless event) :
    ∃ new, Gained E p.server rs new (p.verdicts C E X W run) (p.alertRecords C E X W run)
      (runFrom (DaemonProcess.step C E X W) p run).server := by
  induction run generalizing p rs with
  | nil => exact ⟨[], .nothing hlog rfl⟩
  | cons event run ih =>
    obtain ⟨hevent, hrest⟩ := List.forall_mem_cons.mp hrun
    obtain ⟨new, hnew⟩ := gained_event (C := C) (X := X) (W := W) hlog hevent
    -- the rest of the run starts from a log that has the new records too
    obtain ⟨more, hmore⟩ := ih hnew.log hrest
    rw [verdicts_cons, alertRecords_cons]
    exact ⟨new ++ more, hnew.trans hmore⟩

end DaemonProcess

end Step

/-- **Ledger**: from a log in step with its records, whatever requests arrive on either transport
    between the steps of the worker, the chain stays intact.  The new records are the verdicts that
    callers were told, with the caller, the action and its category, in the order of the answers,
    and the alerts of the worker in its order.  The SIEM exporter is given the former. -/
theorem process_ledger (C : Crypto) (E : LogEnv) (X : Extractors) (W : GrpcWire)
    (p : DaemonProcess) (rs : List ActionLogRecord) (hlog : Synced E rs p.server.actionLog)
    (run : List ProcessEvent) (hrun : ∀ event ∈ run, DaemonProcess.Faultless event) :
    let q := runFrom (DaemonProcess.step C E X W) p run
    FileActionLog.verifyChain E q.server.actionLog.disk.log = .ok [] ∧
    ∃ new, Synced E (rs ++ new) q.server.actionLog ∧
      q.server.siemExporter = p.server.siemExporter.map (· ++ actions new) ∧
      p.verdicts C E X W run = (actions new).map keptVerdict ∧
      p.alertRecords C E X W run = discoveries new := by
  obtain ⟨new, hnew⟩ := DaemonProcess.gained_run (C := C) (X := X) (W := W) hlog hrun
  exact ⟨hnew.log.verifyChain, new, hnew.log, hnew.exporter, hnew.told, hnew.alerted⟩

/-! ## An action that is answered -/

/-- Extractors that take every body for a request to read. -/
def readingExtractors : Extractors :=
  { rejectingExtractors with
    executeRequest := fun _ => .ok ⟨"read", .unknown, none⟩ }

open ServerState in
/-- A registered agent is told that it may read what the default rules do not protect. -/
theorem DaemonProcess.told_reading {C : Crypto} {E : LogEnv} {W : GrpcWire} {p : DaemonProcess}
    {rs : List ActionLogRecord} {did : String} {ring : PrivilegeRing} {req : HttpRequest}
    {reads : RequestReads} (hlog : Synced E rs p.server.actionLog)
    (hcalled : CalledBy C W did p.server (.http req, reads))
    (hring : p.server.registry.getRing did = some ring)
    (hrules : p.server.complianceVerifier = .defaultPolicy) (hio : reads.logIo = .ok)
    (hroute : req.route = .executeAction) :
    p.told C E readingExtractors W (.request (.http req, reads)) =
      some ⟨did, "read", .unknown, true⟩ := by
  obtain ⟨hdid, body, hbody, hserve⟩ := serveHttp_of_authenticates E readingExtractors hcalled
  -- the body asks for a read of no category
  have hexecution : req.execution readingExtractors body = some (some did, ⟨"read", .unknown, none⟩) := by
    simp [HttpRequest.execution, hroute, hdid, readingExtractors, Except.toOption]
  have hcaller : callerOf (p.server.registryAnswers C reads) (some did) = .ok (did, ring) := by
    have hanswer : (p.server.registryAnswers C reads).getRing did = .ok (some ring) :=
      congrArg Except.ok hring
    simp only [callerOf, hanswer]
  have hadmitted := execute_admitted ⟨"read", .unknown, none⟩ hlog hio hcaller
  -- neither rule is about such a read, so it is permitted
  have hcompliant : (p.server.evaluated C rs (some did) ⟨"read", .unknown, none⟩ reads did
      ring).response.success = true := by
    rw [evaluated, ExecuteCall.evaluation_success, hrules, ExecuteCall.evaluation_isCompliant]
    apply (ComplianceVerifier.isCompliant_of_ne _ _).mpr
    · rintro ⟨⟨haudit, -⟩, -⟩
      cases haudit
    · intro hpersonal
      cases hpersonal
  simp only [told, DaemonRequest.execution, hbody, Except.toOption, Option.bind_some, hexecution,
    respond, hserve, route_execution hexecution, hadmitted, Except.map, toldVerdict, hcompliant]

/-- A daemon that exports what it records, before its worker has run. -/
noncomputable def exportingStart : DaemonProcess where
  server := { emptyBody.start with siemExporter := some [] }
  worker := .spawned

/-- An agent reads, and then the worker runs. -/
def readRun : List ProcessEvent :=
  [.request (emptyBody.request .executeAction, epochRequestReads), .worker .subscribe,
    .worker .receive]

/-- The agent is told that it may read. -/
theorem verdicts_readRun :
    exportingStart.verdicts (Crypto.ofVectors emptyBody.vectors) sampleEnv readingExtractors
      silentWire readRun = [⟨"did:mesh:agent-1", "read", .unknown, true⟩] := by
  have hcalled := emptyBody.calledBy_request (s := exportingStart.server) emptyBody.lookup_start rfl
    silentWire .executeAction
  have hring : exportingStart.server.registry.getRing "did:mesh:agent-1" = some .standard := by
    rw [MemoryAgentRegistry.getRing, exportingStart, emptyBody.lookup_start]
    rfl
  have htold := DaemonProcess.told_reading (FileActionLog.synced_blank sampleEnv) hcalled hring rfl
    rfl rfl
  rw [readRun, DaemonProcess.verdicts_cons, SignedBody.request, htold]
  rfl

/-- The witness: the action is in the log and with the exporter as it was answered. -/
theorem process_ledger_read :
    ∃ new, Synced sampleEnv new
        (runFrom (DaemonProcess.step (Crypto.ofVectors emptyBody.vectors) sampleEnv readingExtractors
          silentWire) exportingStart readRun).server.actionLog ∧
      (actions new).map keptVerdict = [⟨"did:mesh:agent-1", "read", .unknown, true⟩] := by
  obtain ⟨-, new, hlog, -, hverdicts, -⟩ := process_ledger (Crypto.ofVectors emptyBody.vectors)
    sampleEnv readingExtractors silentWire exportingStart [] (FileActionLog.synced_blank sampleEnv)
    readRun (by simp [readRun, DaemonProcess.Faultless, epochRequestReads])
  rw [verdicts_readRun] at hverdicts
  exact ⟨new, hlog, hverdicts.symm⟩

end AgentGovernance.Daemon
