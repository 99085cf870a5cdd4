import AgentGovernance.Daemon.Gateway
import AgentGovernance.Lib.Runs

/-!
# What the gateway leaves in the action log

Requests arrive, wait for the upstream and return in any order.  A tool call whose body was
posted should be in the action log when its handler returns.  The record is written after
the upstream's response was read, so it is missing when there is no response or when the
response is not JSON.

`gateway_audited` says that these are the only ways to miss a record, apart from failed
writes, and that the history of an agent then shows all of its executed calls.
-/

namespace AgentGovernance.Daemon

open AgentGovernance.Lib AgentGovernance.Mesh AgentGovernance.Compliance
open AgentGovernance.McpGovernance AgentGovernance.Runtime
open FileActionLog (ActionRecord historyEntry Stored historyEntry_of_isOwn historyEntry_of_not_isOwn)

/-! ## Runs -/

/-- The gateway with the requests that wait for the upstream. -/
structure GatewayRun where
  state : GatewayState
  waiting : List (Option ToolCall)

/-- What happens next. -/
inductive GatewayEvent where
  | arrives (req : GatewayRequest) (reads : GatewayReads)
  /-- The upstream is done with one of the waiting requests. -/
  | returns (i : Nat) (upstream : UpstreamOutcome) (reads : GatewayReads)

/-- The action log file's answers in an event. -/
def GatewayEvent.logIo : GatewayEvent → AppendOutcome
  | .arrives _ reads => reads.logIo
  | .returns _ _ reads => reads.logIo

namespace GatewayRun

variable (C : Crypto) (E : LogEnv) (parseRequest : Bytes → Except String JsonRpcRequest)
  (w : GatewayRun)

def log : FileActionLog := w.state.serverState.actionLog

def step (w : GatewayRun) (event : GatewayEvent) : GatewayRun :=
  match event with
  | .arrives req reads =>
    match w.state.receive C E parseRequest req reads with
    | (g, .responded _) => { w with state := g }
    | (g, .forwarded call) => { state := g, waiting := w.waiting ++ [call] }
  | .returns i upstream reads =>
    match w.waiting[i]? with
    | none => w
    | some call =>
      { state := (w.state.complete E call upstream reads).1
        waiting := w.waiting.eraseIdx i }

/-- The tool call whose body was posted and whose handler returns. -/
def executed (event : GatewayEvent) : Option ToolCall :=
  match event with
  | .arrives _ _ => none
  | .returns i upstream _ => if upstream.posted then w.waiting[i]?.join else none

/-- The line of the event, if there is one, is written. -/
def Written (_w : GatewayRun) (event : GatewayEvent) : Prop :=
  event.logIo.line = .ok

/-- The upstream answers an executed call with JSON. -/
def Answered (w : GatewayRun) (event : GatewayEvent) : Prop :=
  w.executed event ≠ none → ∃ i answer reads, event = .returns i (.json answer) reads

/-- The log gains a record of the executed call. -/
def Audited (w : GatewayRun) (event : GatewayEvent) : Prop :=
  ∀ call, w.executed event = some call → ∃ rs r,
    E.records.decodeLines w.log.writer.file = some rs ∧
    E.records.decodeLines (w.step C E parseRequest event).log.writer.file = some (rs ++ [r]) ∧
    r.agentDid = call.agentDid ∧ r.action = call.toolName ∧ r.outcome = .permitted

/-- The tools that the agent's calls executed, in the order in which they returned. -/
def executedBy (did : String) : GatewayRun → List GatewayEvent → List String
  | _, [] => []
  | w, event :: run =>
    (((w.executed event).filter (·.agentDid = did)).map ToolCall.toolName).toList ++
      executedBy did (w.step C E parseRequest event) run

end GatewayRun

/-! ## Admission -/

/-- The log is the same, or has one more record that is not a permitted one. -/
def OnlyDenial (E : LogEnv) (io : AppendOutcome) (l l' : FileActionLog) : Prop :=
  l' = l ∨ ∃ record : ActionLogRecord, record.outcome ≠ .permitted ∧ l' = (l.append E record io).1

namespace GatewayState

variable (C : Crypto) (E : LogEnv) (parseRequest : Bytes → Except String JsonRpcRequest)
  (g : GatewayState)

theorem onlyDenial_logDenial (did tool cause : String) (category : DataCategory)
    (reads : GatewayReads) :
    OnlyDenial E reads.logIo g.serverState.actionLog
      (g.logDenial E did tool cause category reads).serverState.actionLog := by
  right
  exact ⟨_, by simp, rfl⟩

theorem onlyDenial_checkCompliance (did : String) (ring : PrivilegeRing) (tool : String)
    (args : Value) (reads : GatewayReads) :
    OnlyDenial E reads.logIo g.serverState.actionLog
      (g.checkCompliance E did ring tool args reads).1.serverState.actionLog := by
  unfold checkCompliance
  dsimp only
  split
  · left
    rfl
  · split
    · -- a call that breaks a rule is denied, and the denial is logged
      apply onlyDenial_logDenial
    · left
      rfl

theorem onlyDenial_enforce (did : String) (ring : PrivilegeRing) (tool : String) (args : Value)
    (reads : GatewayReads) :
    OnlyDenial E reads.logIo g.serverState.actionLog
      (g.enforce E did ring tool args reads).1.serverState.actionLog := by
  unfold enforce
  split
  · apply onlyDenial_logDenial
  · right
    exact ⟨_, by simp, rfl⟩
  · apply onlyDenial_checkCompliance

/-- Rate limiting keeps the log. -/
theorem limitRate_serverState {did : String} {policy : McpPolicy} {now : DateTime}
    {g' : GatewayState} (h : g.limitRate did policy now = some g') :
    g'.serverState = g.serverState := by
  unfold limitRate at h
  split at h
  · split at h
    · cases h
    · cases h
      rfl
  · cases h
    rfl

theorem onlyDenial_governTool (did tool : String) (args : Value) (reads : GatewayReads) :
    OnlyDenial E reads.logIo g.serverState.actionLog
      (g.governTool C E did tool args reads).1.serverState.actionLog := by
  unfold governTool
  split
  · left
    rfl
  · left
    rfl
  · split
    · left
      rfl
    · split
      · left
        rfl
      · rename_i hlimit
        -- the rate limiter does not touch the log
        rw [← g.limitRate_serverState hlimit]
        apply onlyDenial_enforce

/-- **Admission** adds no permitted record. -/
theorem onlyDenial_receive (req : GatewayRequest) (reads : GatewayReads) :
    OnlyDenial E reads.logIo g.serverState.actionLog
      (g.receive C E parseRequest req reads).1.serverState.actionLog := by
  unfold receive
  repeat' split
  all_goals first
    | exact .inl rfl
    | apply onlyDenial_governTool

end GatewayState

/-! ## One event -/

namespace GatewayRun

/-- The record tells of the call. -/
structure IsRecordOf (call : ToolCall) (r : ActionLogRecord) : Prop where
  agentDid : r.agentDid = call.agentDid
  action : r.action = call.toolName
  outcome : r.outcome = .permitted

variable {C : Crypto} {E : LogEnv} {parseRequest : Bytes → Except String JsonRpcRequest}
  {w : GatewayRun} {rs : List ActionLogRecord}

theorem stored_of_onlyDenial {io : AppendOutcome} {l l' : FileActionLog} (hlog : Stored E rs l)
    (hio : io.line = .ok) (h : OnlyDenial E io l l') :
    ∃ gained, Stored E (rs ++ gained) l' ∧ ∀ r ∈ gained, r.outcome ≠ .permitted := by
  rcases h with rfl | ⟨record, hdenied, rfl⟩
  · exact ⟨[], by simpa using hlog, by simp⟩
  · refine ⟨[l.stored record], hlog.append_line record hio, ?_⟩
    intro r hr
    rw [List.mem_singleton.mp hr]
    exact hdenied

theorem log_arrives (req : GatewayRequest) (reads : GatewayReads) :
    (w.step C E parseRequest (.arrives req reads)).log =
      (w.state.receive C E parseRequest req reads).1.serverState.actionLog := by
  cases hreceive : w.state.receive C E parseRequest req reads with
  | mk g admission => cases admission <;> simp [step, log, hreceive]

/-- A forwarded request waits. -/
theorem step_arrives_forwarded {req : GatewayRequest} {reads : GatewayReads} {g : GatewayState}
    {call : Option ToolCall}
    (h : w.state.receive C E parseRequest req reads = (g, .forwarded call)) :
    w.step C E parseRequest (.arrives req reads) =
      { state := g, waiting := w.waiting ++ [call] } := by
  simp only [step, h]

/-- A returning handler records a tool call that the upstream answered with JSON. -/
theorem log_returns_json {i : Nat} {call : ToolCall} (hwaiting : w.waiting[i]? = some (some call))
    (answer : Value) (reads : GatewayReads) :
    (w.step C E parseRequest (.returns i (.json answer) reads)).log =
      (w.log.append E (w.state.permittedRecord call reads) reads.logIo).1 := by
  simp only [step, hwaiting]
  rfl

/-- A returning handler does nothing else to the log. -/
theorem log_returns {i : Nat} {upstream : UpstreamOutcome}
    (h : ∀ call answer, w.waiting[i]? = some (some call) → upstream ≠ .json answer)
    (reads : GatewayReads) :
    (w.step C E parseRequest (.returns i upstream reads)).log = w.log := by
  cases hwaiting : w.waiting[i]? with
  | none => simp only [step, hwaiting]
  | some waiting =>
    simp only [step, hwaiting]
    cases waiting with
    | none =>
      -- nobody waits for this answer
      cases upstream <;> rfl
    | some call =>
      cases upstream with
      | notSent e => rfl
      | noResponse e => rfl
      | notJson e => rfl
      | json answer =>
        -- an answer in JSON is the one case excluded here
        exact absurd rfl (h call answer hwaiting)

/-- Which tool call a return has executed. -/
theorem executed_returns_iff {i : Nat} {upstream : UpstreamOutcome} {reads : GatewayReads}
    {call : ToolCall} :
    w.executed (.returns i upstream reads) = some call ↔
      upstream.posted = true ∧ w.waiting[i]? = some (some call) := by
  rw [executed, Option.ite_none_right_eq_some, Option.join_eq_some_iff]

variable (C parseRequest) in
/-- **Step**: without an executed call no permitted record is written; an executed call is recorded
    when the upstream answers with JSON, and otherwise leaves no trace. -/
theorem step_cases (hlog : Stored E rs w.log) {event : GatewayEvent} (hio : event.logIo.line = .ok) :
    (w.executed event = none ∧ ∃ gained, Stored E (rs ++ gained) (w.step C E parseRequest event).log ∧
      ∀ r ∈ gained, r.outcome ≠ .permitted) ∨
    (∃ call, w.executed event = some call ∧ ¬ w.Answered event ∧
      Stored E rs (w.step C E parseRequest event).log) ∨
    (∃ call r, w.executed event = some call ∧ w.Answered event ∧ IsRecordOf call r ∧
      Stored E (rs ++ [r]) (w.step C E parseRequest event).log) := by
  cases event with
  | arrives req reads =>
    -- an arriving call is at most denied
    left
    refine ⟨rfl, ?_⟩
    rw [log_arrives]
    exact stored_of_onlyDenial hlog hio (w.state.onlyDenial_receive C E parseRequest req reads)
  | returns i upstream reads =>
    by_cases hjson : ∃ call answer, w.waiting[i]? = some (some call) ∧ upstream = .json answer
    · obtain ⟨call, answer, hwaiting, rfl⟩ := hjson
      have hexecuted : w.executed (.returns i (.json answer) reads) = some call :=
        executed_returns_iff.mpr ⟨rfl, hwaiting⟩
      right
      right
      refine ⟨call, w.log.stored (w.state.permittedRecord call reads), hexecuted, ?_, ?_, ?_⟩
      · exact fun _ => ⟨i, answer, reads, rfl⟩
      · exact ⟨rfl, rfl, rfl⟩
      · rw [log_returns_json hwaiting]
        exact hlog.append_line _ hio
    · -- without a JSON answer to a tool call the log stays
      have hsame : Stored E rs (w.step C E parseRequest (.returns i upstream reads)).log := by
        rw [log_returns fun call answer hwaiting heq => hjson ⟨call, answer, hwaiting, heq⟩]
        exact hlog
      -- a call that ran without a JSON answer is the second case
      cases hexecuted : w.executed (.returns i upstream reads) with
      | none => exact .inl ⟨rfl, [], by rwa [List.append_nil], nofun⟩
      | some call =>
        right
        left
        refine ⟨call, rfl, ?_, hsame⟩
        intro hanswered
        obtain ⟨i', answer, reads', heq⟩ := hanswered (by simp [hexecuted])
        cases heq
        exact hjson ⟨call, answer, (executed_returns_iff.mp hexecuted).2, rfl⟩

variable (C parseRequest) in
/-- With the line written, an event is audited exactly when the upstream answered. -/
theorem audited_iff_answered (hlog : Stored E rs w.log) {event : GatewayEvent}
    (hio : event.logIo.line = .ok) :
    w.Audited C E parseRequest event ↔ w.Answered event := by
  rcases step_cases C parseRequest hlog hio with
    ⟨hnone, -⟩ | ⟨call, hcall, hanswer, hsame⟩ | ⟨call, r, hcall, hanswer, hr, hgained⟩
  · -- no tool call was executed
    simp [Audited, Answered, hnone]
  · -- a call without a record is not audited
    refine iff_of_false ?_ hanswer
    intro haudited
    obtain ⟨rs', r, hbefore, hafter, -⟩ := haudited call hcall
    rw [hlog.decodeLines] at hbefore
    rw [hsame.decodeLines] at hafter
    obtain rfl := Option.some.inj hbefore
    simp at hafter
  · -- a call with its record is
    refine iff_of_true ?_ hanswer
    intro call' hcall'
    obtain rfl : call = call' := Option.some.inj (hcall.symm.trans hcall')
    exact ⟨rs, r, hlog.decodeLines, hgained.decodeLines, hr.agentDid, hr.action, hr.outcome⟩

/-- The tools in an agent's history. -/
def historyTools (did : String) (rs : List ActionLogRecord) : List String :=
  (rs.filterMap (historyEntry did)).map ActionRecord.action

theorem historyTools_append (did : String) (rs gained : List ActionLogRecord) :
    historyTools did (rs ++ gained) = historyTools did rs ++ historyTools did gained := by
  simp [historyTools]

theorem historyTools_eq_nil {did : String} {gained : List ActionLogRecord}
    (h : ∀ r ∈ gained, r.outcome ≠ .permitted) : historyTools did gained = [] := by
  rw [historyTools, List.map_eq_nil_iff, List.filterMap_eq_nil_iff]
  intro r hr
  apply historyEntry_of_not_isOwn
  exact fun hown => h r hr hown.2

theorem historyTools_singleton (did : String) {call : ToolCall} {r : ActionLogRecord}
    (h : IsRecordOf call r) :
    historyTools did [r] =
      (((some call).filter (·.agentDid = did)).map ToolCall.toolName).toList := by
  by_cases hdid : call.agentDid = did
  · have hown : IsOwn did r := ⟨h.agentDid.trans hdid, h.outcome⟩
    simp [historyTools, historyEntry_of_isOwn hown, Option.filter, hdid, h.action]
  · have hown : ¬ IsOwn did r := fun hown => hdid (h.agentDid.symm.trans hown.1)
    simp [historyTools, historyEntry_of_not_isOwn hown, Option.filter, hdid]

/-- The log after an answered event. -/
theorem stored_step (hlog : Stored E rs w.log) {event : GatewayEvent}
    (hio : event.logIo.line = .ok) (hanswer : w.Answered event) :
    ∃ gained, Stored E (rs ++ gained) (w.step C E parseRequest event).log ∧
      ∀ did, historyTools did gained =
        (((w.executed event).filter (·.agentDid = did)).map ToolCall.toolName).toList := by
  rcases step_cases C parseRequest hlog hio with
    ⟨hnone, gained, hgained, hdenied⟩ | ⟨call, -, hbad, -⟩ | ⟨call, r, hcall, -, hr, hgained⟩
  · exact ⟨gained, hgained, fun did => by rw [historyTools_eq_nil hdenied, hnone]; rfl⟩
  · exact absurd hanswer hbad
  · exact ⟨[r], hgained, fun did => by rw [historyTools_singleton did hr, hcall]⟩

/-! ## Runs of events -/

/-- **Run**: while lines are written and the upstream answers, the log stays readable and an
    agent's history grows by its executed calls. -/
theorem stored_run {run : List GatewayEvent} (hlog : Stored E rs w.log)
    (hrun : AllSteps (step C E parseRequest) (fun w event => w.Written event ∧ w.Answered event)
      w run) :
    ∃ rs', Stored E rs' (runFrom (step C E parseRequest) w run).log ∧
      ∀ did, historyTools did rs' =
        historyTools did rs ++ w.executedBy C E parseRequest did run := by
  -- by induction on the events, with the log of the state before
  induction run generalizing w rs with
  | nil => exact ⟨rs, hlog, fun did => by simp [executedBy]⟩
  | cons event run ih =>
    obtain ⟨⟨hio, hanswer⟩, hrest⟩ := hrun
    obtain ⟨gained, hgained, htools⟩ := stored_step hlog hio hanswer
    obtain ⟨rs', hlog', hhistory⟩ := ih hgained hrest
    refine ⟨rs', hlog', ?_⟩
    intro did
    rw [hhistory did, historyTools_append, htools did, executedBy, List.append_assoc]

/-- The events of a run meet their conditions together, as long as the log is readable. -/
theorem allSteps_audited {run : List GatewayEvent} (hlog : Stored E rs w.log)
    (hwritten : AllSteps (step C E parseRequest) Written w run) :
    AllSteps (step C E parseRequest) (Audited C E parseRequest) w run ↔
      AllSteps (step C E parseRequest) Answered w run := by
  induction run generalizing w rs with
  | nil => exact Iff.rfl
  | cons event run ih =>
    obtain ⟨hio, hrest⟩ := hwritten
    have hhead := audited_iff_answered C parseRequest hlog hio
    -- whatever the event does, the log stays readable
    obtain ⟨rs', hlog'⟩ : ∃ rs', Stored E rs' (w.step C E parseRequest event).log := by
      rcases step_cases C parseRequest hlog hio with
        ⟨-, gained, hgained, -⟩ | ⟨call, -, -, hsame⟩ | ⟨call, r, -, -, -, hgained⟩
      · exact ⟨_, hgained⟩
      · exact ⟨_, hsame⟩
      · exact ⟨_, hgained⟩
    exact and_congr hhead (ih hlog' hrest)

end GatewayRun

open GatewayRun

/-- **Gateway audit**: over every run from a readable log in which the lines are written, every
    executed call is recorded exactly when the upstream answers each of them with JSON; an agent's
    history then shows all of its executed calls. -/
theorem gateway_audited (C : Crypto) (E : LogEnv)
    (parseRequest : Bytes → Except String JsonRpcRequest) (w : GatewayRun)
    (rs : List ActionLogRecord) (hlog : Stored E rs w.log) (run : List GatewayEvent)
    (hwritten : AllSteps (step C E parseRequest) Written w run) :
    (AllSteps (step C E parseRequest) (Audited C E parseRequest) w run ↔
      AllSteps (step C E parseRequest) Answered w run) ∧
    (AllSteps (step C E parseRequest) Answered w run → ∀ did, ∃ history,
      FileActionLog.loadHistory E (runFrom (step C E parseRequest) w run).log.disk.log did =
        .ok history ∧
      history.map ActionRecord.action =
        historyTools did rs ++ w.executedBy C E parseRequest did run) := by
  refine ⟨allSteps_audited hlog hwritten, ?_⟩
  intro hanswered did
  -- the histories are read off the log at the end of the run
  obtain ⟨rs', hlog', hhistory⟩ := stored_run hlog (hwritten.and hanswered)
  exact ⟨_, hlog'.loadHistory did, hhistory did⟩

/-! ## A call without a response -/

/-- An agent with the base64 of its public key. -/
def callingAgent : AgentIdentity :=
  { identityStub "ypOsFwUYcHHWe4PH/w7+gQjo7EUwV113JoeTM9vavnw=" with
    did := { method := "mesh", uniqueId := "agent-1" } }

/-- A tool call, as a JSON-RPC text. -/
def toolCallBody : Bytes :=
  stringBytes ("\x7b\"jsonrpc\":\"2.0\",\"method\":\"tools/call\",\"params\":\x7b\"name\":" ++
    "\"export_ledger\",\"arguments\":\x7b\x7d\x7d,\"id\":1\x7d")

def toolCallPayload : JsonRpcRequest where
  method := "tools/call"
  params := some (.object [("name", .string "export_ledger"), ("arguments", .object [])])

/-- The public key of the agent. -/
def callingKey : ByteArr 32 :=
  ⟨(Base64.decodeText "ypOsFwUYcHHWe4PH/w7+gQjo7EUwV113JoeTM9vavnw=").getD [], by decide +kernel⟩

/-- The agent's signature of the body. -/
def toolCallSignature : ByteArr 64 :=
  ⟨(Base64.decodeText
    "zqVT2cE8en0b+QPyxJhfGBEmHtD0PcPBCsZ2lkTYX0t7o8WNPiMtU1c1jm7Sj9qUi6eXF5Wf2FOm6hfLkbGpCQ==").getD
      [], by decide +kernel⟩

/-- Ed25519 on these inputs and on the claim that the registry signs for the agent. -/
def toolCallVectors : Vectors where
  seed := registrySeed
  publicKey := registryKey
  signed := [((MemoryAgentRegistry.claimFor "did:mesh:agent-1"
      "ypOsFwUYcHHWe4PH/w7+gQjo7EUwV113JoeTM9vavnw=" 0 0).canonicalBytes,
    ⟨(Base64.decodeText
      "R3WgPu7ykDRnbhIHdqFyJxNKawzQqze+xzQmknjI5d1fHTwLaF2f09KFk21tW+l3RekzyGCfLjG7ji9H5V7iCA==").getD
        [], by decide +kernel⟩)]
  accepted := [(callingKey, toolCallBody, toolCallSignature)]

/-- A policy that allows every tool. -/
def openPolicy : McpPolicy where
  allowedTools := []
  denylist := []
  allowUnknownTools := true
  maxRequestsPerSecond := 10

/-- A gateway in front of the agent, with an empty action log. -/
noncomputable def gatewayStart : GatewayRun where
  state :=
    { serverState :=
        { ServerState.start sampleEnv registrySeed "did:mesh:registry" [(callingAgent, .standard)] none
            .blank false ((Crypto.ofVectors toolCallVectors).pubkeyB64 registrySeed) with
          policyStore := (MemoryPolicyStore.mk ∅).savePolicy "did:mesh:agent-1" openPolicy }
      lastRequests := ∅ }
  waiting := []

/-- Everything at the epoch, and no write fails. -/
def epochReads : GatewayReads where
  now _ := 0
  newId := .fill 1
  persisted := .ok ()
  auditIo := .ok
  logIo := .ok
  escalationId := .fill 2

def toolCallRequest : GatewayRequest where
  agentDid := .text "did:mesh:agent-1"
  signature := .text
    "zqVT2cE8en0b+QPyxJhfGBEmHtD0PcPBCsZ2lkTYX0t7o8WNPiMtU1c1jm7Sj9qUi6eXF5Wf2FOm6hfLkbGpCQ=="
  body := toolCallBody

/-- The call arrives, and the connection is lost after the body was delivered. -/
def lostRun : List GatewayEvent :=
  [.arrives toolCallRequest epochReads, .returns 0 (.noResponse "connection closed") epochReads]

/-- The tool call on its way to the upstream. -/
def exportCall : ToolCall where
  agentDid := "did:mesh:agent-1"
  toolName := "export_ledger"
  args := .object []

theorem authenticate_toolCall :
    gatewayStart.state.serverState.authenticate (Crypto.ofVectors toolCallVectors) "did:mesh:agent-1"
      toolCallSignature.val toolCallBody epochReads.toRequestReads = .ok () := by
  apply (verifyRequestSignature_memory_iff _ _ _ _ _ (by decide)).mpr
  left
  refine ⟨callingAgent.publicKey, .standard,
    MemoryAgentRegistry.lookup_register_self _ callingAgent .standard, callingKey, ?_, rfl,
    toolCallSignature, tryInto_val _, ?_⟩
  · decide +kernel
  · simp [Crypto.ofVectors, toolCallVectors]

/-- The default rules are about personal data and audit logs only. -/
theorem isCompliant_unknown (now : Nat → DateTime) (input : ComplianceInput)
    (hcategory : input.resourceCategory = .unknown) :
    ComplianceVerifier.defaultPolicy.isCompliant now input = true := by
  rw [ComplianceVerifier.isCompliant_of_ne _ (by rw [hcategory]; decide)]
  rintro ⟨⟨haudit, -⟩, -⟩
  rw [hcategory] at haudit
  cases haudit

/-- The policy and the rules let the call pass. -/
theorem enforce_toolCall (g : GatewayState)
    (hpolicy : g.serverState.policyStore = gatewayStart.state.serverState.policyStore)
    (hverifier : g.serverState.complianceVerifier = .defaultPolicy)
    (hlog : g.serverState.actionLog = .open sampleEnv .blank) :
    g.enforce sampleEnv "did:mesh:agent-1" .standard "export_ledger" (.object []) epochReads =
      (g, .forwarded (some exportCall)) := by
  have hload : g.enforcer.store.loadPolicy "did:mesh:agent-1" = .ok (some openPolicy) := by
    show Except.ok (g.serverState.policyStore.loadPolicy "did:mesh:agent-1") = _
    rw [hpolicy]
    exact congrArg Except.ok (MemoryPolicyStore.loadPolicy_savePolicy_self _ _ _)
  -- an unknown tool passes under a policy that allows unknown tools
  have hallow : g.enforcer.evaluate "did:mesh:agent-1" .standard "export_ledger" (.object []) =
      .allow :=
    (PolicyEnforcer.evaluate_eq_allow_iff _ _ _ _ _).mpr (.inr ⟨rfl, openPolicy, hload, rfl⟩)
  have hhistory : FileActionLog.loadHistory sampleEnv g.serverState.actionLog.disk.log
      "did:mesh:agent-1" = .ok [] := by
    rw [hlog]
    rfl
  simp only [GatewayState.enforce, hallow, GatewayState.checkCompliance, hhistory]
  rw [hverifier, isCompliant_unknown _ _ rfl]
  rfl

noncomputable def gatewayAdmitted : GatewayState :=
  { gatewayStart.state with
    lastRequests := gatewayStart.state.lastRequests.insert "did:mesh:agent-1" 0 }

theorem governTool_toolCall :
    gatewayStart.state.governTool (Crypto.ofVectors toolCallVectors) sampleEnv "did:mesh:agent-1"
      "export_ledger" (.object []) epochReads = (gatewayAdmitted, .forwarded (some exportCall)) := by
  -- the caller is registered, its policy is open and nothing limits it
  have hring : (gatewayStart.state.serverState.registryAnswers (Crypto.ofVectors toolCallVectors)
      epochReads.toRequestReads).getRing "did:mesh:agent-1" = .ok (some .standard) := by
    apply congrArg Except.ok
    rw [MemoryAgentRegistry.getRing]
    exact congrArg _ (MemoryAgentRegistry.lookup_register_self _ callingAgent .standard)
  have hload : gatewayStart.state.serverState.policyStore.answers.loadPolicy "did:mesh:agent-1" =
      .ok (some openPolicy) :=
    congrArg Except.ok (MemoryPolicyStore.loadPolicy_savePolicy_self _ _ _)
  have hlimit : gatewayStart.state.limitRate "did:mesh:agent-1" openPolicy (epochReads.now 5) =
      some gatewayAdmitted := by
    simp [GatewayState.limitRate, gatewayStart, gatewayAdmitted, epochReads]
  simp only [GatewayState.governTool, hring, hload, Option.getD_some, hlimit]
  -- so the call gets to the enforcer, which forwards it
  exact enforce_toolCall gatewayAdmitted rfl rfl rfl

/-- The call is forwarded. -/
theorem step_arrives_toolCall :
    gatewayStart.step (Crypto.ofVectors toolCallVectors) sampleEnv (fun _ => .ok toolCallPayload)
        (.arrives toolCallRequest epochReads) =
      { state := gatewayAdmitted, waiting := [some exportCall] } := by
  have hdecode : (Crypto.ofVectors toolCallVectors).decode64
      "zqVT2cE8en0b+QPyxJhfGBEmHtD0PcPBCsZ2lkTYX0t7o8WNPiMtU1c1jm7Sj9qUi6eXF5Wf2FOm6hfLkbGpCQ==" =
      .ok toolCallSignature.val := by decide +kernel
  have htool : toolCallPayload.toolName = some "export_ledger" := by
    simp [JsonRpcRequest.toolName, toolCallPayload, Value.get, Value.asStr]
  -- the signature verifies, and the body is a tool call
  have hreceive := gatewayStart.state.receive_toolCall (Crypto.ofVectors toolCallVectors) sampleEnv
    (fun _ => .ok toolCallPayload) toolCallRequest rfl rfl hdecode authenticate_toolCall rfl rfl htool
  have hforwarded := step_arrives_forwarded (w := gatewayStart) (hreceive.trans governTool_toolCall)
  exact hforwarded

theorem executed_lost :
    (GatewayRun.mk gatewayAdmitted [some exportCall]).executed
      (.returns 0 (.noResponse "connection closed") epochReads) = some exportCall := by
  simp [executed, UpstreamOutcome.posted]

/-- The witness run: every line is written, and the call is not audited. -/
theorem gateway_audited_lost :
    Stored sampleEnv [] gatewayStart.log ∧
    AllSteps (step (Crypto.ofVectors toolCallVectors) sampleEnv fun _ => .ok toolCallPayload) Written
      gatewayStart lostRun ∧
    ¬ AllSteps (step (Crypto.ofVectors toolCallVectors) sampleEnv fun _ => .ok toolCallPayload)
      (Audited (Crypto.ofVectors toolCallVectors) sampleEnv fun _ => .ok toolCallPayload)
      gatewayStart lostRun := by
  have hlog : Stored sampleEnv [] gatewayStart.log := FileActionLog.stored_open .blank rfl
  have hwritten : AllSteps
      (step (Crypto.ofVectors toolCallVectors) sampleEnv fun _ => .ok toolCallPayload) Written
      gatewayStart lostRun := ⟨rfl, rfl, trivial⟩
  refine ⟨hlog, hwritten, ?_⟩
  intro haudited
  obtain ⟨-, hanswered, -⟩ := (gateway_audited (Crypto.ofVectors toolCallVectors) sampleEnv
    (fun _ => .ok toolCallPayload) gatewayStart [] hlog lostRun hwritten).1.mp haudited
  -- the answer was no JSON, so the call is not answered
  rw [step_arrives_toolCall, Answered, executed_lost] at hanswered
  obtain ⟨i, answer, reads, heq⟩ := hanswered (by simp)
  cases heq

/-- An executed call can be missing from the log when its handler has returned. -/
theorem gateway_call_lost :
    ¬ ∀ (C : Crypto) (E : LogEnv) (parseRequest : Bytes → Except String JsonRpcRequest)
      (w : GatewayRun) (rs : List ActionLogRecord), Stored E rs w.log → w.waiting = [] →
      ∀ (run : List GatewayEvent) (did tool : String), tool ∈ w.executedBy C E parseRequest did run →
        ∃ rs', E.records.decodeLines (runFrom (step C E parseRequest) w run).log.writer.file = some rs' ∧
          ∃ r ∈ rs', r.agentDid = did ∧ r.action = tool := by
  intro h
  have hlog : Stored sampleEnv [] gatewayStart.log := FileActionLog.stored_open .blank rfl
  obtain ⟨rs', hfile, r, hr, -⟩ := h (Crypto.ofVectors toolCallVectors) sampleEnv
    (fun _ => .ok toolCallPayload) gatewayStart [] hlog rfl lostRun "did:mesh:agent-1" "export_ledger" (by
      simp only [lostRun, executedBy, step_arrives_toolCall, executed_lost]
      simp [Option.filter, exportCall])
  -- the log at the end is the empty one of the start
  have hend : (runFrom (step (Crypto.ofVectors toolCallVectors) sampleEnv fun _ => .ok toolCallPayload)
      gatewayStart lostRun).log = gatewayStart.log := by
    simp only [runFrom, lostRun, List.foldl_cons, List.foldl_nil, step_arrives_toolCall]
    rfl
  rw [hend, hlog.decodeLines] at hfile
  obtain rfl := Option.some.inj hfile
  cases hr

end AgentGovernance.Daemon
