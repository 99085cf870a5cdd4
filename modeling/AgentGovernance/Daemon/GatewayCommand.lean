import AgentGovernance.Daemon.Command
import AgentGovernance.Daemon.GatewaySwitch

/-!
# The gateway command

`Commands::Gateway` in `crates/cli/src/main.rs` starts the gateway in a process of its own.  The
registry of that process is in memory and empty, and a gateway registers nobody, so the agents
that are registered at a daemon are strangers to it.

`gateway_strangers` says that a gateway never gets to know an agent that was not registered when it
started, so that the process of the command refuses every request, sends nothing to the upstream
and writes nothing to its log.
-/

namespace AgentGovernance.Daemon

open AgentGovernance.Lib AgentGovernance.Mesh AgentGovernance.Compliance
open AgentGovernance.McpGovernance AgentGovernance.Runtime

/-! ## The command -/

/-- What the command starts with: the environment, the file of the action log, and the key that
    `generate_signing_key` draws. -/
structure GatewayArgs where
  /-- `AGT_REGISTRY_PUBKEY`. -/
  registryPubkey : Option String
  actionLog : Disk
  signingKey : ByteArr 32

/-- `registry_pubkey`. -/
def GatewayArgs.pubkey (args : GatewayArgs) : String :=
  args.registryPubkey.getD "placeholder"

/-- `Commands::Gateway`, up to `run_gateway`. -/
def gatewayCommand (E : LogEnv) (args : GatewayArgs) : GatewayState :=
  .start (.start E args.signingKey "did:mesh:registry" [] none args.actionLog false args.pubkey)

/-! ## Strangers -/

/-- What the gateway answers to a request whose agent it does not know. -/
def refusal (C : Crypto) (req : GatewayRequest) : HttpError :=
  match req.agentDid.toStr with
  | none => (.unauthorized, "Missing X-AGT-Agent-DID")
  | some _ =>
    match req.signature.toStr with
    | none => (.unauthorized, "Missing X-AGT-Signature")
    | some signatureB64 =>
      match C.decode64 signatureB64 with
      | .error _ => (.badRequest, "Invalid Base64 in signature")
      | .ok _ => (.unauthorized, "Agent not registered")

/-- The request names no agent of the registry. -/
def GatewayRequest.FromStranger (req : GatewayRequest) (registry : MemoryAgentRegistry) : Prop :=
  ∀ did, req.agentDid.toStr = some did → registry.entries.lookup did = none

/-- Nobody is authenticated who has no entry. -/
theorem ServerState.authenticate_of_not_registered (C : Crypto) {s : ServerState} {did : String}
    (h : s.registry.entries.lookup did = none) (signature body : Bytes) (reads : RequestReads) :
    s.authenticate C did signature body reads = .error "Agent not registered" := by
  rw [authenticate, verifyRequestSignature]
  simp only [MemoryAgentRegistry.answers, MemoryAgentRegistry.getAttestation, h, Option.map_none]

namespace GatewayState

variable (C : Crypto) (E : LogEnv) (parseRequest : Bytes → Except String JsonRpcRequest)
  (g : GatewayState)

/-- A stranger is refused, and nothing changes. -/
theorem receive_of_stranger {req : GatewayRequest} (h : req.FromStranger g.serverState.registry)
    (reads : GatewayReads) :
    g.receive C E parseRequest req reads = (g, .responded (.error (refusal C req))) := by
  unfold receive refusal
  cases hdid : req.agentDid.toStr with
  | none => rfl
  | some did =>
    cases req.signature.toStr with
    | none => rfl
    | some signatureB64 =>
      dsimp only
      cases C.decode64 signatureB64 with
      | error e => rfl
      | ok signature =>
        dsimp only
        -- nobody with this DID is registered, so nobody is authenticated
        rw [ServerState.authenticate_of_not_registered C (h did hdid)]

end GatewayState

/-! ## Runs -/

namespace GatewayRun

variable {C : Crypto} {E : LogEnv} {parseRequest : Bytes → Except String JsonRpcRequest}
  {w : GatewayRun}

variable (C E parseRequest) in
/-- How a request that arrives is taken. -/
def taken (w : GatewayRun) : GatewayEvent → Option Admission
  | .arrives req reads => some (w.state.receive C E parseRequest req reads).2
  | .returns _ _ _ => none

/-- A stranger changes nothing. -/
theorem step_arrives_of_stranger {req : GatewayRequest}
    (h : req.FromStranger w.state.serverState.registry) (reads : GatewayReads) :
    w.step C E parseRequest (.arrives req reads) = w := by
  simp only [step, GatewayState.receive_of_stranger C E parseRequest w.state h]

/-- Where nobody waits, the upstream has nothing to answer. -/
theorem step_returns_of_nobody (h : w.waiting = []) (i : Nat) (upstream : UpstreamOutcome)
    (reads : GatewayReads) : w.step C E parseRequest (.returns i upstream reads) = w := by
  simp only [step, h, List.getElem?_nil]

/-- **Run**: the registry of a gateway stays as it is. -/
theorem registry_run (run : List GatewayEvent) :
    (runFrom (step C E parseRequest) w run).state.serverState.registry =
      w.state.serverState.registry := by
  obtain ⟨log, hlog⟩ : OnlyLog w.state.serverState
      (runFrom (step C E parseRequest) w run).state.serverState := onlyLog_run run
  rw [hlog]

/-- **Run**: where everybody is a stranger and nobody waits, nothing ever changes, and each request
    gets its refusal. -/
theorem run_of_strangers (hempty : ∀ did, w.state.serverState.registry.entries.lookup did = none)
    (hnobody : w.waiting = []) (run : List GatewayEvent) :
    runFrom (step C E parseRequest) w run = w ∧
      answers (fun w event => (w.step C E parseRequest event, w.taken C E parseRequest event)) w run =
        run.map fun
          | .arrives req _ => some (.responded (.error (refusal C req)))
          | .returns _ _ _ => none := by
  -- one step changes nothing, so each later event meets the same state
  have hstranger : ∀ req : GatewayRequest, req.FromStranger w.state.serverState.registry :=
    fun req did _ => hempty did
  have hstep : ∀ event, w.step C E parseRequest event = w := by
    intro event
    cases event with
    | arrives req reads => exact step_arrives_of_stranger (hstranger req) reads
    | returns i upstream reads => exact step_returns_of_nobody hnobody i upstream reads
  induction run with
  | nil => exact ⟨rfl, rfl⟩
  | cons event run ih =>
    obtain ⟨hstate, hanswers⟩ := ih
    -- the state stays, and the answer is the refusal of this request
    constructor
    · rw [runFrom_cons, hstep, hstate]
    · simp only [answers, hstep, hanswers, List.map_cons]
      congr 1
      cases event with
      | arrives req reads =>
        simp only [taken, GatewayState.receive_of_stranger C E parseRequest w.state (hstranger req)]
      | returns i upstream reads => rfl

end GatewayRun

open GatewayRun in
/-- **Strangers**: from any state and over every run a gateway knows the agents that were registered
    when it started, and refuses everybody else at every time.  The process that the command starts
    therefore answers each request with its refusal, whoever sends it, and never leaves the state
    that it started in: nothing waits for the upstream, and nothing is logged. -/
theorem gateway_strangers (C : Crypto) (E : LogEnv)
    (parseRequest : Bytes → Except String JsonRpcRequest) :
    (∀ (w : GatewayRun) (run : List GatewayEvent),
      let w' := runFrom (step C E parseRequest) w run
      w'.state.serverState.registry = w.state.serverState.registry ∧
        ∀ req reads, req.FromStranger w.state.serverState.registry →
          w'.taken C E parseRequest (.arrives req reads) =
            some (.responded (.error (refusal C req)))) ∧
    ∀ (args : GatewayArgs) (run : List GatewayEvent),
      let start : GatewayRun := ⟨gatewayCommand E args, []⟩
      runFrom (step C E parseRequest) start run = start ∧
        answers (fun w event =>
            (w.step C E parseRequest event, w.taken C E parseRequest event)) start run =
          run.map fun
            | .arrives req _ => some (.responded (.error (refusal C req)))
            | .returns _ _ _ => none := by
  constructor
  · intro w run w'
    -- no event registers anybody
    have hregistry : w'.state.serverState.registry = w.state.serverState.registry :=
      registry_run run
    refine ⟨hregistry, ?_⟩
    intro req reads hstranger
    rw [← hregistry] at hstranger
    rw [taken, GatewayState.receive_of_stranger C E parseRequest _ hstranger]
  · -- the registry of the command is empty
    intro args run start
    apply run_of_strangers
    · exact fun did => rfl
    · rfl

end AgentGovernance.Daemon
