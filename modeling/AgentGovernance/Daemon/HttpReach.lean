import AgentGovernance.Daemon.EscalationCalls
import AgentGovernance.Daemon.KeySecrecy

/-!
# What HTTP reaches

With the locked version of the router, five of the twelve handlers are reached over HTTP.  What the
others would write is out of reach, then: nobody approves an escalation, saves a policy or saves a
key over HTTP (`http_confined`), and no attestation, ring, policy or key is in a response.

Policies and escalations are still written over gRPC.  Keys are not, so the daemon keeps the keys
that it has.
-/

namespace AgentGovernance.Daemon

open AgentGovernance.Lib AgentGovernance.Mesh AgentGovernance.Compliance AgentGovernance.Discovery
open AgentGovernance.McpGovernance AgentGovernance.Runtime

/-- A body that one of the five handlers responds with. -/
def HttpBody.IsPlain : HttpBody → Prop
  | .empty | .pending _ | .shadows _ | .executed _ => True
  | _ => False

/-- The body of a result, if it has one, is such a body. -/
def PlainResult (result : HttpResult) : Prop :=
  ∀ status body, result = .ok (status, body) → body.IsPlain

namespace ServerState

variable (C : Crypto) (E : LogEnv) (X : Extractors) (W : GrpcWire) (ax : Axum) (s : ServerState)

/-- An HTTP request leaves policies and escalations alone, changes the registry by a registration at
    most, and gets none of what agents are stored with. -/
structure Confined (a : HttpArrival) (reads : RequestReads) : Prop where
  policyStore : (s.receive C E X ax a reads).1.policyStore = s.policyStore
  escalationManager : (s.receive C E X ax a reads).1.escalationManager = s.escalationManager
  registry : (s.receive C E X ax a reads).1.registry = s.registry ∨
    a.method = .post ∧ a.path = ["v1", "agents", "register"]
  answer : (s.receive C E X ax a reads).2.isSuccess = true → ∀ body,
    (s.receive C E X ax a reads).2.json = .ok body → body.IsPlain

/-- The request is confined, if it comes over HTTP. -/
def HttpConfined (call : Arrival × RequestReads) : Prop :=
  ∀ a, call.1 = .http a → s.Confined C E X ax a call.2

variable {C E X W ax s}

/-! ## Handlers -/

theorem plainResult_error (e : HttpError) : PlainResult (.error e) := by
  intro status body h
  cases h

theorem plainResult_ok {status : StatusCode} {body : HttpBody} (h : body.IsPlain) :
    PlainResult (.ok (status, body)) := by
  intro status' body' heq
  obtain ⟨rfl, rfl⟩ := Prod.mk.inj (Except.ok.inj heq)
  exact h

theorem plainResult_extracted {α : Type} {answer : Except HttpError α}
    {handler : α → ServerState × HttpResult} (h : ∀ a, PlainResult (handler a).2) :
    PlainResult (extracted s answer handler).2 := by
  cases answer with
  | error e => exact plainResult_error e
  | ok a => exact h a

theorem plainResult_registerAgent (r : RegisterRequest) (reads : RequestReads) :
    PlainResult (s.registerAgent r reads).2 := by
  unfold registerAgent
  cases reads.persisted with
  | error e => exact plainResult_error _
  | ok u => exact plainResult_ok trivial

theorem plainResult_reportPresence (agentDid : HeaderValue) (peerAddr : String)
    (r : PresenceReport) (reads : RequestReads) :
    PlainResult (s.reportPresence agentDid peerAddr r reads).2 := by
  unfold reportPresence
  split
  · exact plainResult_error _
  · split
    · exact plainResult_error _
    · exact plainResult_ok trivial

theorem plainResult_listShadows (agentDid : HeaderValue) (reads : RequestReads) :
    PlainResult (s.listShadows C agentDid reads).2 := by
  unfold listShadows
  split
  · exact plainResult_error _
  · split
    · exact plainResult_error _
    · exact plainResult_error _
    · split
      · exact plainResult_error _
      · exact plainResult_ok trivial

/-- A route without a path parameter answers with such a body. -/
theorem plainResult_route {req : HttpRequest} (h : req.route.IsPlain) (body : Bytes)
    (reads : RequestReads) : PlainResult (s.route C E X req body reads).2 := by
  unfold route
  cases hroute : req.route with
  | registerAgent => exact plainResult_extracted fun r => plainResult_registerAgent r reads
  | listPending => exact plainResult_ok trivial
  | reportPresence =>
    exact plainResult_extracted fun r => plainResult_reportPresence req.agentDid req.peerAddr r reads
  | listShadows => exact plainResult_listShadows req.agentDid reads
  | executeAction =>
    -- an executed action answers with its outcome
    apply plainResult_extracted
    intro r
    split
    · exact plainResult_error _
    · exact plainResult_ok trivial
  | getAttestation did | getRing did | getPolicy did | savePolicy did | getKey did | saveKey did
  | approveEscalation id =>
    -- these routes have a parameter, so they are not plain
    rw [hroute] at h
    exact h.elim

/-! ## Writes -/

/-- What a route without a path parameter writes is a registration. -/
theorem register_of_mutation {req : HttpRequest} (h : req.route.IsPlain) {body : Bytes}
    {m : Mutation} (hm : req.mutation C X body = some m) :
    req.route = .registerAgent ∧ ∃ identity ring, m = .register identity ring := by
  unfold HttpRequest.mutation at hm
  cases hroute : req.route with
  | registerAgent =>
    rw [hroute] at hm
    obtain ⟨r, -, rfl⟩ := Option.map_eq_some_iff.mp hm
    exact ⟨rfl, r.identity, r.ring, rfl⟩
  | listPending | reportPresence | listShadows | executeAction =>
    -- of the plain routes only a registration asks for a write
    rw [hroute] at hm
    cases hm
  | getAttestation did | getRing did | getPolicy did | savePolicy did | getKey did | saveKey did
  | approveEscalation id =>
    rw [hroute] at h
    exact h.elim

/-- Such a route makes no call to the escalation manager. -/
theorem httpEscalation_plain {req : HttpRequest} (h : req.route.IsPlain) (body : Bytes)
    (reads : RequestReads) : s.httpEscalation C X req body reads = none := by
  unfold httpEscalation
  cases hroute : req.route with
  | approveEscalation id =>
    rw [hroute] at h
    exact h.elim
  | _ => rfl

/-- A request leaves the daemon as it is, or as a request at a route without a path parameter does;
    a refused one counts as `list_pending`. -/
theorem receive_plain (hax : ax.V07) (a : HttpArrival) (reads : RequestReads) (W : GrpcWire) :
    (s.receive C E X ax a reads).1 = s ∨
      ∃ route : HttpRoute, route.IsPlain ∧
        (route = .registerAgent → a.method = .post ∧ a.path = ["v1", "agents", "register"]) ∧
        (s.receive C E X ax a reads).1 = step C E X W s (.http (a.request route), reads) := by
  rcases @receive_state C E X ax s a reads W with hsame | ⟨route, hroute | rfl, hstep⟩
  · exact .inl hsame
  · refine .inr ⟨route, plain_of_dispatch hax hroute, ?_, hstep⟩
    rintro rfl
    exact request_of_dispatch_register hax hroute
  · exact .inr ⟨.listPending, trivial, HttpRoute.noConfusion, hstep⟩

/-- A body that is not declared as JSON is no success. -/
theorem isSuccess_of_rejectUntyped (hax : ax.V07) {route : HttpRoute} (h : route.IsPlain)
    {reply : HttpReply HttpBody} (hreply : X.rejectUntyped ax route = some reply) :
    reply.isSuccess = false := by
  have huntyped : reply = ax.untyped := by
    cases route with
    | registerAgent | reportPresence | executeAction => exact (Option.some.inj hreply).symm
    | listPending | listShadows => cases hreply
    | getAttestation did | getRing did | getPolicy did | savePolicy did | getKey did | saveKey did
    | approveEscalation id => exact h.elim
  simp [huntyped, HttpReply.isSuccess, hax.untyped]

/-- **Any request** over HTTP is confined. -/
theorem confined (hax : ax.V07) (a : HttpArrival) (reads : RequestReads) :
    s.Confined C E X ax a reads := by
  have hstores : (s.receive C E X ax a reads).1.policyStore = s.policyStore ∧
      ((s.receive C E X ax a reads).1.registry = s.registry ∨
        a.method = .post ∧ a.path = ["v1", "agents", "register"]) := by
    have hpolicies (t : ServerState) : t.policyStore = t.stores.policyStore := rfl
    have hregistry (t : ServerState) : t.registry = t.stores.registry := rfl
    rcases @receive_plain C E X ax s hax a reads silentWire with
      hsame | ⟨route, hplain, hregister, hstep⟩
    · rw [hsame]
      exact ⟨rfl, .inl rfl⟩
    · -- the request was served as one of the plain routes
      rw [hstep, hpolicies, hregistry]
      rcases step_stores_cases E X (C := C) (W := silentWire) (s := s)
        (.http (a.request route), reads) with hsame | ⟨did, m, -, hasked, hwritten⟩
      · rw [hsame]
        exact ⟨rfl, .inl rfl⟩
      · obtain ⟨body, -, hmutation⟩ := Option.bind_eq_some_iff.mp hasked
        obtain ⟨hroute, identity, ring, rfl⟩ := register_of_mutation hplain hmutation
        rw [hwritten]
        exact ⟨rfl, .inr (hregister hroute)⟩
  -- no plain route is about an escalation
  have hmanager : (s.receive C E X ax a reads).1.escalationManager = s.escalationManager := by
    rcases @receive_plain C E X ax s hax a reads silentWire with hsame | ⟨route, hplain, -, hstep⟩
    · rw [hsame]
    · rw [hstep]
      rcases step_escalation_cases E X (C := C) (W := silentWire) (s := s)
        (.http (a.request route), reads) with hsame | ⟨did, c, -, hasked, -⟩
      · exact hsame
      · obtain ⟨body, -, hcall⟩ := Option.bind_eq_some_iff.mp hasked
        rw [httpEscalation_plain hplain] at hcall
        cases hcall
  refine ⟨hstores.1, hmanager, hstores.2, ?_⟩
  intro hsuccess body hbody
  rcases receive_cases C E X ax s a reads with
    ⟨refused, hmiddleware, hreceived⟩ | ⟨reply, hreceived, hreply⟩ |
      ⟨route, payload, -, hroute, -, hreceived⟩
  · -- the middleware refuses with an error
    rw [hreceived] at hbody
    cases hbody
  · -- the router and the extractors answer with a failure
    have hfailure : reply.isSuccess = false := by
      rcases hreply with hunrouted | ⟨route, hroute, -, hrejected⟩
      · exact isSuccess_of_dispatch hax hunrouted
      · exact isSuccess_of_rejectUntyped hax (plain_of_dispatch hax hroute) hrejected
    rw [hreceived, hfailure] at hsuccess
    cases hsuccess
  · -- the handler ran, and its answer is one of the plain ones
    rw [hreceived] at hbody
    have hplain : PlainResult (s.route C E X (a.request route) payload reads).2 := by
      apply plainResult_route
      exact plain_of_dispatch hax hroute
    cases hresult : (s.route C E X (a.request route) payload reads).2 with
    | error e =>
      rw [hresult] at hbody
      cases hbody
    | ok result =>
      obtain ⟨status, answer⟩ := result
      rw [hresult] at hbody
      obtain rfl := Except.ok.inj hbody
      exact hplain status answer hresult

end ServerState

open ServerState in
/-- **What HTTP reaches**: with the locked version of the router, over every run of requests on both
    transports, by whomever, each HTTP request leaves the policies and the escalations alone, changes
    the registry only by `POST /v1/agents/register`, and gets no attestation, ring, policy or key; and
    the daemon keeps the keys that it started with. -/
theorem http_confined (C : Crypto) (E : LogEnv) (X : Extractors) (W : GrpcWire) {ax : Axum}
    (hax : ax.V07) (s : ServerState) (run : List (Arrival × RequestReads)) :
    AllSteps (arriveStep C E X W ax) (HttpConfined C E X ax) s run ∧
      (runFrom (arriveStep C E X W ax) s run).keyStore = s.keyStore := by
  constructor
  · apply allSteps_of_forall
    exact fun t call a _ => confined hax a call.2
  · apply runFrom_keeps (I := fun t : ServerState => t.keyStore = s.keyStore) ?_ rfl
    intro t call hkeys
    exact ((arrive_keyless C E X W hax call).keyStore t).trans hkeys

/-- `did:mesh:agent-1` posts a key for the other agent. -/
def keyPosted : HttpArrival :=
  { keyAsked with method := .post, json := true }

/-- To the middleware this is the same as asking for it. -/
theorem middleware_keyPosted (C : Crypto) (s : ServerState) (reads : RequestReads) :
    s.middleware C keyPosted reads = s.middleware C keyAsked reads := by
  simp only [ServerState.middleware, keyPosted]

/-- The body would be read as another key. -/
def keyExtractors : Extractors :=
  { rejectingExtractors with keyB64 := fun _ => .ok (Base64.encodeText zeroKey.val) }

open ServerState in
/-- It is authenticated, and the key that was stored stays. -/
theorem http_confined_key :
    let C := Crypto.ofVectors emptyBody.vectors
    (twoAgents registrySeed).middleware C keyPosted epochRequestReads = .ok emptyBody.body ∧
      (arriveStep C sampleEnv keyExtractors silentWire PathSyntax.colon.axum
        (twoAgents registrySeed) (.http keyPosted, epochRequestReads)).keyStore =
          (twoAgents registrySeed).keyStore := by
  intro C
  obtain ⟨-, hkeys⟩ := http_confined C sampleEnv keyExtractors silentWire PathSyntax.v07_colon
    (twoAgents registrySeed) [(.http keyPosted, epochRequestReads)]
  rw [runFrom_cons, runFrom_nil] at hkeys
  exact ⟨(middleware_keyPosted _ _ _).trans (middleware_keyAsked registrySeed), hkeys⟩

end AgentGovernance.Daemon
