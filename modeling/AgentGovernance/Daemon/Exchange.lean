import AgentGovernance.Daemon.RemotePolicies
import AgentGovernance.Daemon.Router

/-!
# Requests of an HTTP client

A client of the daemon sends a request with its DID and a signature, and the request or its response
may get lost (`exchange`).  What the client reads from the response depends on its status
(`readOr`, `acknowledged`).
-/

namespace AgentGovernance.Daemon

open AgentGovernance.Lib AgentGovernance.Mesh AgentGovernance.Compliance AgentGovernance.Discovery
open AgentGovernance.McpGovernance AgentGovernance.Runtime

/-- What a client's request is made of. -/
structure Posting where
  agentDid : String
  signature : String
  peerAddr : String
  method : HttpMethod
  path : List String
  /-- `Content-Type` is `application/json`. -/
  json : Bool
  body : Bytes

def Posting.arrival (p : Posting) : HttpArrival where
  agentDid := .text p.agentDid
  signature := .text p.signature
  peerAddr := p.peerAddr
  method := p.method
  path := p.path
  json := p.json
  body := .ok p.body

/-- `HeaderValue::from_str`. -/
def headerValue (s : String) : Except String HeaderValue :=
  if s.toList.all fun c => c = '\t' || (32 ≤ c.toNat && c.toNat < 127) then .ok (.text s)
  else .error "failed to parse header value"

section
variable (C : Crypto) (E : LogEnv) (X : Extractors) (ax : Axum) (s : ServerState)
  (p : Posting) (reads : RequestReads) (delivery : Delivery)

/-- A request and its response; a header that is no text fails before anything is sent. -/
def exchange : ServerState × HttpAnswer HttpBody :=
  match headerValue p.agentDid, headerValue p.signature with
  | .error e, _ => (s, .error e)
  | _, .error e => (s, .error e)
  | .ok _, .ok _ =>
    match delivery with
    | .noConnection e => (s, .error e)
    | .unreached e => (s, .error e)
    | .lost e => ((s.receive C E X ax p.arrival reads).1, .error e)
    | .answered =>
      ((s.receive C E X ax p.arrival reads).1, .ok (s.receive C E X ax p.arrival reads).2)

/-- A daemon after an exchange has received the request or heard nothing of it. -/
theorem exchange_state :
    (exchange C E X ax s p reads delivery).1 = s ∨
      (exchange C E X ax s p reads delivery).1 = (s.receive C E X ax p.arrival reads).1 := by
  unfold exchange
  cases headerValue p.agentDid with
  | error e => exact .inl rfl
  | ok did =>
    cases headerValue p.signature with
    | error e => exact .inl rfl
    | ok signature =>
      cases delivery with
      | noConnection e =>
        -- a connection that fails leaves the server as it was
        exact .inl rfl
      | unreached e => exact .inl rfl
      | lost e =>
        -- a lost reply does not undo the request
        exact .inr rfl
      | answered => exact .inr rfl

variable {C E X ax s p reads delivery}

/-- A response is the one to the request. -/
theorem exchange_eq_ok {reply : HttpReply HttpBody}
    (h : (exchange C E X ax s p reads delivery).2 = .ok reply) :
    reply = (s.receive C E X ax p.arrival reads).2 := by
  unfold exchange at h
  cases hdid : headerValue p.agentDid with
  | error e => simp [hdid] at h
  | ok did =>
    cases hsignature : headerValue p.signature with
    | error e => simp [hdid, hsignature] at h
    | ok signature =>
      simp only [hdid, hsignature] at h
      cases delivery with
      | noConnection e =>
        -- only an answer is a reply
        cases h
      | unreached e => cases h
      | lost e => cases h
      | answered => exact (Except.ok.inj h).symm

/-- A request that is signed with the registered key passes the middleware. -/
theorem middleware_signed {key : ByteArr 32} {ring : PrivilegeRing}
    (hsigned : p.signature = C.encode64 (C.sign key p.body).val)
    (hentry : s.registry.entries.lookup p.agentDid = some (C.pubkeyB64 key, ring))
    (hpubkey : s.registryPubkey = s.registry.pubkey C)
    (hlife : reads.now 2 ≤ reads.now 1 + hours 24) :
    s.middleware C p.arrival reads = .ok p.body := by
  have hauth : s.authenticate C p.agentDid (C.sign key p.body).val p.body reads = .ok () := by
    rw [ServerState.authenticate, hpubkey]
    apply (verifyRequestSignature_memory_iff C _ _ _ _ hlife).mpr
    -- the registered key is the public key of the signing key
    refine .inl ⟨_, ring, hentry, C.verifyingKey key, C.decode64_encode64 _, ?_⟩
    exact ⟨C.checkKey_verifyingKey key, _, tryInto_val _, C.verify_sign key _⟩
  simp only [ServerState.middleware, Posting.arrival, HeaderValue.toStr, hsigned,
    C.decode64_encode64, hauth]

/-- A signed request with a JSON body gets to its route, and the response comes back. -/
theorem exchange_routed {route : HttpRoute} (hroute : dispatch ax p.method p.path = .ok route)
    (hjson : p.json = true) (hmiddleware : s.middleware C p.arrival reads = .ok p.body)
    (hdid : headerValue p.agentDid = .ok (.text p.agentDid))
    (hsignature : headerValue p.signature = .ok (.text p.signature)) :
    (exchange C E X ax s p reads .answered).2 =
      .ok (responded (s.route C E X (p.arrival.request route) p.body reads).2) := by
  have hroute : dispatch ax p.arrival.method p.arrival.path = .ok route := hroute
  have hjson : p.arrival.json = true := hjson
  simp only [exchange, hdid, hsignature, ServerState.receive, hmiddleware, hroute, hjson, if_true]

/-- Without a route, the response is the one of the router. -/
theorem exchange_unrouted {reply : HttpReply HttpBody}
    (hroute : dispatch ax p.method p.path = .error reply)
    (hmiddleware : s.middleware C p.arrival reads = .ok p.body)
    (hdid : headerValue p.agentDid = .ok (.text p.agentDid))
    (hsignature : headerValue p.signature = .ok (.text p.signature)) :
    (exchange C E X ax s p reads .answered).2 = .ok reply := by
  have hroute : dispatch ax p.arrival.method p.arrival.path = .error reply := hroute
  simp only [exchange, hdid, hsignature, receive_of_unrouted hroute, hmiddleware]

/-! ## What a client reads -/

/-- `response.json()`, with the type that is asked for. -/
def decoded {α : Type} (decode : HttpBody → Except String α) : HttpAnswer HttpBody → HttpAnswer α
  | .error e => .error e
  | .ok reply => .ok { reply with json := reply.json.bind decode }

/-- The value in a successful response, no value for status 404, or an error with this message. -/
def readOr {α : Type} (message : String) (answer : HttpAnswer (Option α)) :
    Except String (Option α) :=
  match answer with
  | .error e => .error e
  | .ok reply =>
    if reply.isSuccess then reply.json
    else if reply.status = 404 then .ok none
    else .error (message ++ reply.statusText)

/-- Of an acknowledgement only the status matters. -/
def acknowledged (message : String) : HttpAnswer HttpBody → Except String Unit
  | .error e => .error e
  | .ok reply => if reply.isSuccess then .ok () else .error (message ++ reply.statusText)

variable {α : Type} {decode : HttpBody → Except String (Option α)} {message : String}
  {v : Option α}

/-- The response to a request for no route is no success. -/
theorem isSuccess_of_unrouted {refusal reply : HttpReply HttpBody}
    (hroute : dispatch ax p.method p.path = .error refusal) (hrefusal : refusal.isSuccess = false)
    (h : (exchange C E X ax s p reads delivery).2 = .ok reply) : reply.isSuccess = false := by
  obtain rfl := exchange_eq_ok h
  rw [receive_of_unrouted hroute]
  cases hmiddleware : s.middleware C p.arrival reads with
  | error refused => exact (refused_cases hmiddleware).2.1
  | ok body => exact hrefusal

/-- Nothing is acknowledged without a success. -/
theorem not_acknowledged
    (h : ∀ reply, (exchange C E X ax s p reads delivery).2 = .ok reply →
      reply.isSuccess = false) :
    acknowledged message (exchange C E X ax s p reads delivery).2 ≠ .ok () := by
  intro hdone
  cases hanswer : (exchange C E X ax s p reads delivery).2 with
  | error e =>
    rw [hanswer] at hdone
    cases hdone
  | ok reply =>
    rw [hanswer, acknowledged, h reply hanswer] at hdone
    cases hdone

/-- Nothing is read for no route. -/
theorem read_of_unrouted {refusal : HttpReply HttpBody}
    (hroute : dispatch ax p.method p.path = .error refusal) (hrefusal : refusal.isSuccess = false)
    (h : readOr message (decoded decode (exchange C E X ax s p reads delivery).2) = .ok v) :
    v = none := by
  cases hanswer : (exchange C E X ax s p reads delivery).2 with
  | error e =>
    rw [hanswer] at h
    cases h
  | ok reply =>
    -- whatever came back is a failure, which is read as nothing or as an error
    have hfailure := isSuccess_of_unrouted hroute hrefusal hanswer
    rw [HttpReply.isSuccess] at hfailure
    rw [hanswer] at h
    simp only [decoded, readOr, HttpReply.isSuccess, hfailure, Bool.false_eq_true, if_false] at h
    split at h
    · exact (Except.ok.inj h).symm
    · cases h

end

end AgentGovernance.Daemon
