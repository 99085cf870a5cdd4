import AgentGovernance.Daemon.Axum
import AgentGovernance.Daemon.Writes

/-!
# The routes of the daemon

A request over HTTP as it arrives, with a method and a path.  It passes the middleware before it is
routed (`receive`), also where no route is found, and the other modules take it up at its route
(`serveHttp`).

`AgentServer::run` registers patterns with braces.  For axum 0.7 they are literal text, so only the
routes without a parameter are found (`plain_of_dispatch`).
-/

namespace AgentGovernance.Daemon

open AgentGovernance.Lib AgentGovernance.Mesh AgentGovernance.Compliance AgentGovernance.Discovery
open AgentGovernance.McpGovernance AgentGovernance.Runtime

/-! ## Routes -/

/-- The routes of `AgentServer::run`. -/
def routes : RouteTable :=
  [(["v1", "agents", "register"], [(.post, .plain .registerAgent)]),
   (["v1", "agents", "\x7bdid\x7d", "attestation"], [(.get, .withPath .getAttestation)]),
   (["v1", "agents", "\x7bdid\x7d", "ring"], [(.get, .withPath .getRing)]),
   (["v1", "agents", "\x7bdid\x7d", "policy"],
     [(.get, .withPath .getPolicy), (.post, .withPath .savePolicy)]),
   (["v1", "agents", "\x7bdid\x7d", "key"], [(.get, .withPath .getKey), (.post, .withPath .saveKey)]),
   (["v1", "escalations", "pending"], [(.get, .plain .listPending)]),
   (["v1", "escalations", "\x7bid\x7d", "approve"], [(.post, .withPath .approveEscalation)]),
   (["v1", "presence"], [(.post, .plain .reportPresence)]),
   (["v1", "discovery", "shadows"], [(.get, .plain .listShadows)]),
   (["v1", "execute"], [(.post, .plain .executeAction)])]

/-- The route that a handler is called for, or the rejection of `Path`. -/
def HttpHandler.called (ax : Axum) (captures : List String) :
    HttpHandler → Except (HttpReply HttpBody) HttpRoute
  | .plain route => .ok route
  | .withPath route => (ax.pathParam captures).map route

/-- The router: a route, or the response where no handler is called. -/
def dispatch (ax : Axum) (method : HttpMethod) (path : List String) :
    Except (HttpReply HttpBody) HttpRoute :=
  match ax.route routes method path with
  | .error reply => .error reply
  | .ok (handler, captures) => handler.called ax captures

/-- The handler takes no path parameter. -/
def HttpRoute.IsPlain : HttpRoute → Prop
  | .registerAgent | .listPending | .reportPresence | .listShadows | .executeAction => True
  | _ => False

/-- Text that a URL carries unchanged as one segment of its path. -/
def IsSegment (s : String) : Prop :=
  s ≠ "" ∧ s ≠ "." ∧ s ≠ ".." ∧
    s.toList.all (fun c => c.isAlphanum || c = '-' || c = '.' || c = '_' || c = '~' || c = ':') = true

instance (s : String) : Decidable (IsSegment s) :=
  inferInstanceAs (Decidable (_ ∧ _ ∧ _ ∧ _))

/-- Such a text. -/
abbrev Segment := { s : String // IsSegment s }

/-- A mapped result comes from a result. -/
theorem ok_of_map {ε α β : Type} {x : Except ε α} {f : α → β} {b : β} (h : x.map f = .ok b) :
    ∃ a, x = .ok a ∧ f a = b := by
  cases x with
  | error e => cases h
  | ok a => exact ⟨a, rfl, Except.ok.inj h⟩

section
variable {ax : Axum} {method : HttpMethod} {path : List String} {route : HttpRoute}

/-- Without a handler, the router or `Path` has answered. -/
theorem dispatch_eq_error {reply : HttpReply HttpBody} (h : dispatch ax method path = .error reply) :
    ax.route routes method path = .error reply ∨
      ∃ handler captures, ax.route routes method path = .ok (handler, captures) ∧
        ax.pathParam captures = .error reply := by
  unfold dispatch at h
  split at h
  next refused hrefused =>
    -- the router has refused
    obtain rfl := Except.error.inj h
    exact .inl hrefused
  next handler captures hroute =>
    cases handler with
    | plain route => cases h
    | withPath route =>
      -- the handler has a `Path` argument, which was rejected
      refine .inr ⟨.withPath route, captures, hroute, ?_⟩
      simp only [HttpHandler.called] at h
      cases hparameter : ax.pathParam captures with
      | error rejected =>
        rw [hparameter] at h
        exact congrArg Except.error (Except.error.inj h)
      | ok x =>
        rw [hparameter] at h
        cases h

theorem literal_routes : Axum.Literal routes := by
  unfold Axum.Literal
  decide

theorem not_catchAll_routes : ∀ r ∈ routes, ∀ segment ∈ r.1, '*' ∉ segment.toList :=
  fun r hr segment hsegment => (literal_routes r hr segment hsegment).2

/-- A handler that is registered without a parameter is for such a route. -/
theorem plain_of_mem_routes {r : List String × List (HandlerMethod × HttpHandler)} (hr : r ∈ routes)
    {m : HandlerMethod} (h : (m, HttpHandler.plain route) ∈ r.2) : route.IsPlain := by
  simp only [routes, List.mem_cons, List.not_mem_nil, or_false] at hr
  rcases hr with rfl | rfl | rfl | rfl | rfl | rfl | rfl | rfl | rfl | rfl <;> simp at h <;>
    simp [h, HttpRoute.IsPlain]

/-! ### Version 0.7 -/

/-- A route that is found is registered without a parameter, for the path itself. -/
theorem found_of_dispatch (hax : ax.V07) (h : dispatch ax method path = .ok route) :
    ∃ methods m, (path, methods) ∈ routes ∧ method.handler = some m ∧
      (m, HttpHandler.plain route) ∈ methods := by
  unfold dispatch at h
  cases hpath : routes.lookup path with
  | none =>
    -- every pattern is literal, so another path is not found
    obtain ⟨reply, hreply, -⟩ := hax.notFound _ method _ literal_routes hpath
    rw [hreply] at h
    cases h
  | some methods =>
    cases hmethod : method.select methods with
    | none =>
      -- the path is found, and not the method
      obtain ⟨reply, hreply, -⟩ := hax.notAllowed _ _ _ _ literal_routes hpath hmethod
      rw [hreply] at h
      cases h
    | some handler =>
      rw [hax.found _ _ _ _ _ literal_routes hpath hmethod] at h
      cases handler with
      | plain found =>
        -- the handler stands in the table under the path and the method
        obtain rfl := Except.ok.inj h
        obtain ⟨before, after, hsplit, -⟩ := List.lookup_eq_some_iff.mp hpath
        obtain ⟨m, hm, hlookup⟩ := Option.bind_eq_some_iff.mp hmethod
        obtain ⟨before', after', hsplit', -⟩ := List.lookup_eq_some_iff.mp hlookup
        exact ⟨methods, m, by simp [hsplit], hm, by simp [hsplit']⟩
      | withPath found =>
        -- nothing was captured, so `Path` rejects the request
        obtain ⟨reply, hreply, -⟩ := hax.noCapture
        simp [HttpHandler.called, hreply, Except.map] at h

/-- Without a route, the response is no success. -/
theorem isSuccess_of_dispatch (hax : ax.V07) {reply : HttpReply HttpBody}
    (h : dispatch ax method path = .error reply) : reply.isSuccess = false := by
  have hstatus : reply.status = 404 ∨ reply.status = 405 ∨ reply.status = 500 := by
    cases hpath : routes.lookup path with
    | none =>
      -- the router answers 404 or 405
      obtain ⟨refused, hrefused, hstatus⟩ := hax.notFound _ method _ literal_routes hpath
      rcases dispatch_eq_error h with hreply | ⟨handler, captures, hroute, -⟩
      · obtain rfl := Except.error.inj (hrefused.symm.trans hreply)
        exact .inl hstatus
      · cases hrefused.symm.trans hroute
    | some methods =>
      cases hmethod : method.select methods with
      | none =>
        obtain ⟨refused, hrefused, hstatus⟩ := hax.notAllowed _ _ _ _ literal_routes hpath hmethod
        rcases dispatch_eq_error h with hreply | ⟨handler, captures, hroute, -⟩
        · obtain rfl := Except.error.inj (hrefused.symm.trans hreply)
          exact .inr (.inl hstatus)
        · cases hrefused.symm.trans hroute
      | some handler =>
        have hfound := hax.found _ _ _ _ _ literal_routes hpath hmethod
        rcases dispatch_eq_error h with hreply | ⟨handler, captures, hroute, hparameter⟩
        · cases hfound.symm.trans hreply
        · -- the literal pattern has captured nothing
          obtain ⟨-, rfl⟩ := Prod.mk.inj (Except.ok.inj (hfound.symm.trans hroute))
          obtain ⟨rejected, hrejected, hstatus⟩ := hax.noCapture
          obtain rfl := Except.error.inj (hrejected.symm.trans hparameter)
          exact .inr (.inr hstatus)
  -- none of the three is a success
  rcases hstatus with hstatus | hstatus | hstatus <;> simp [HttpReply.isSuccess, hstatus]

/-- **Literal patterns**: a route that is found has no path parameter. -/
theorem plain_of_dispatch (hax : ax.V07) (h : dispatch ax method path = .ok route) :
    route.IsPlain := by
  obtain ⟨methods, m, hmem, -, hhandler⟩ := found_of_dispatch hax h
  exact plain_of_mem_routes hmem hhandler

/-- One request gets to `register_agent`. -/
theorem request_of_dispatch_register (hax : ax.V07)
    (h : dispatch ax method path = .ok .registerAgent) :
    method = .post ∧ path = ["v1", "agents", "register"] := by
  obtain ⟨methods, m, hmem, hm, hhandler⟩ := found_of_dispatch hax h
  simp only [routes, List.mem_cons, List.not_mem_nil, or_false, Prod.mk.injEq] at hmem
  rcases hmem with ⟨rfl, rfl⟩ | ⟨rfl, rfl⟩ | ⟨rfl, rfl⟩ | ⟨rfl, rfl⟩ | ⟨rfl, rfl⟩ | ⟨rfl, rfl⟩ |
    ⟨rfl, rfl⟩ | ⟨rfl, rfl⟩ | ⟨rfl, rfl⟩ | ⟨rfl, rfl⟩ <;> simp at hhandler
  subst hhandler
  -- HEAD stands for GET, so a handler for POST is called by POST alone
  cases method with
  | post => exact ⟨rfl, rfl⟩
  | get | head | other name => cases hm

/-- No path of an agent is found: a DID is not the text between the slashes of the pattern. -/
theorem dispatch_agent (hax : ax.V07) (method : HttpMethod) (did : Segment) (last : String) :
    ∃ reply, dispatch ax method ["v1", "agents", did.val, last] = .error reply ∧
      reply.status = 404 ∧ reply.isSuccess = false := by
  have hne : (did.val == "{did}") = false := by
    apply beq_false_of_ne
    intro h
    exact absurd did.property (by rw [h]; decide)
  have hpath : routes.lookup ["v1", "agents", did.val, last] = none := by
    simp [routes, List.lookup_cons, hne]
  obtain ⟨reply, hreply, hstatus⟩ := hax.notFound _ method _ literal_routes hpath
  refine ⟨reply, ?_, hstatus, by simp [HttpReply.isSuccess, hstatus]⟩
  rw [dispatch, hreply]

/-- The path of a registration is found. -/
theorem dispatch_register (hax : ax.V07) :
    dispatch ax .post ["v1", "agents", "register"] = .ok .registerAgent := by
  rw [dispatch, hax.found _ _ _ [(.post, .plain .registerAgent)] (.plain .registerAgent)
    literal_routes rfl rfl]
  rfl

/-! ### Any version -/

theorem called_eq_ok {handler : HttpHandler} {captures : List String}
    (h : handler.called ax captures = .ok route) :
    handler = .plain route ∨ ∃ parameterized x, handler = .withPath parameterized ∧
      parameterized x = route := by
  cases handler with
  | plain found => exact .inl (by rw [Except.ok.inj h])
  | withPath parameterized =>
    obtain ⟨x, -, hx⟩ := ok_of_map h
    exact .inr ⟨parameterized, x, rfl, hx⟩

/-- One handler saves policies. -/
theorem savePolicy_of_mem_routes {r : List String × List (HandlerMethod × HttpHandler)}
    (hr : r ∈ routes) {m : HandlerMethod} {handler : HttpHandler} (hhandler : (m, handler) ∈ r.2)
    {captures : List String} {did : String}
    (h : handler.called ax captures = .ok (.savePolicy did)) :
    r.1 = ["v1", "agents", "{did}", "policy"] ∧ m = .post := by
  simp only [routes, List.mem_cons, List.not_mem_nil, or_false] at hr
  rcases called_eq_ok h with rfl | ⟨parameterized, x, rfl, hx⟩
  · rcases hr with rfl | rfl | rfl | rfl | rfl | rfl | rfl | rfl | rfl | rfl <;> simp at hhandler
  · rcases hr with rfl | rfl | rfl | rfl | rfl | rfl | rfl | rfl | rfl | rfl <;>
      simp at hhandler
    -- each handler makes routes of its own kind
    · obtain ⟨rfl, rfl⟩ := hhandler
      cases hx
    · obtain ⟨rfl, rfl⟩ := hhandler
      cases hx
    · rcases hhandler with ⟨rfl, rfl⟩ | ⟨rfl, rfl⟩
      · cases hx
      · exact ⟨rfl, rfl⟩
    · rcases hhandler with ⟨rfl, rfl⟩ | ⟨rfl, rfl⟩ <;> cases hx
    · obtain ⟨rfl, rfl⟩ := hhandler
      cases hx

/-- A request for `save_policy` is a POST to the policy of an agent. -/
theorem path_of_dispatch_savePolicy (hax : ax.Sound) {did : String}
    (h : dispatch ax method path = .ok (.savePolicy did)) :
    method.handler = some .post ∧ ∃ x, path = ["v1", "agents", x, "policy"] := by
  unfold dispatch at h
  split at h
  next => cases h
  next handler captures hroute =>
    obtain ⟨r, hr, m, hm, hhandler, hagrees⟩ :=
      hax.found _ _ _ _ _ not_catchAll_routes hroute
    obtain ⟨hpattern, rfl⟩ := savePolicy_of_mem_routes hr hhandler h
    refine ⟨hm, ?_⟩
    rw [hpattern] at hagrees
    -- all segments of the pattern but the second last are words
    obtain _ | ⟨hv1, _ | ⟨hagents, _ | ⟨-, _ | ⟨hpolicy, _ | _⟩⟩⟩⟩ := hagrees
    obtain rfl := hv1 (by decide)
    obtain rfl := hagents (by decide)
    obtain rfl := hpolicy (by decide)
    exact ⟨_, rfl⟩

/-- A POST to the policy of an agent gets to no other handler. -/
theorem savePolicy_of_dispatch (hax : ax.Sound) {x : String}
    (h : dispatch ax .post ["v1", "agents", x, "policy"] = .ok route) :
    ∃ did, route = .savePolicy did := by
  unfold dispatch at h
  split at h
  next => cases h
  next handler captures hroute =>
    -- the route that was found agrees with the path
    obtain ⟨r, hr, m, hm, hhandler, hagrees⟩ :=
      hax.found _ _ _ _ _ not_catchAll_routes hroute
    obtain rfl := Option.some.inj hm
    -- the last segment of the pattern is a word
    have hlast : ∀ {s₁ s₂ s₃ last : String},
        Axum.Agrees [s₁, s₂, s₃, last] ["v1", "agents", x, "policy"] →
        last.toList.all (fun c => c.isLower || c.isDigit) = true → last = "policy" := by
      rintro s₁ s₂ s₃ last (_ | ⟨-, _ | ⟨-, _ | ⟨-, _ | ⟨hpolicy, -⟩⟩⟩⟩) hword
      exact hpolicy hword
    simp only [routes, List.mem_cons, List.not_mem_nil, or_false] at hr
    rcases hr with rfl | rfl | rfl | rfl | rfl | rfl | rfl | rfl | rfl | rfl
    case inr.inr.inr.inl =>
      -- the one pattern that ends in `policy`
      simp only [List.mem_cons, List.not_mem_nil, or_false, Prod.mk.injEq, reduceCtorEq, false_and,
        false_or, true_and] at hhandler
      subst hhandler
      obtain ⟨did, -, hdid⟩ := ok_of_map h
      exact ⟨did, hdid.symm⟩
    all_goals
      -- the other patterns end in another word or have another length
      first
        | exact absurd (hlast hagrees (by decide)) (by decide)
        | simpa using hagrees.length_eq

end

/-! ## Requests -/

structure HttpArrival where
  agentDid : HeaderValue
  signature : HeaderValue
  peerAddr : String
  method : HttpMethod
  /-- The segments of the path. -/
  path : List String
  /-- `Content-Type` is `application/json`. -/
  json : Bool
  body : Except String Bytes

def HttpArrival.request (a : HttpArrival) (route : HttpRoute) : HttpRequest where
  agentDid := a.agentDid
  signature := a.signature
  peerAddr := a.peerAddr
  body := a.body
  route := route

/-- The response of the extractors to a body that is not declared as JSON. -/
def Extractors.rejectUntyped (X : Extractors) (ax : Axum) : HttpRoute → Option (HttpReply HttpBody)
  | .registerAgent | .savePolicy _ | .saveKey _ | .reportPresence | .executeAction =>
    some ax.untyped
  | .approveEscalation id =>
    -- `Path<Uuid>` comes before `Json`
    match X.eventId id with
    | .error (status, _) => some (textReply status.code status.text)
    | .ok _ => some ax.untyped
  | _ => none

section
variable (C : Crypto) (E : LogEnv) (X : Extractors) (ax : Axum) (s : ServerState)
  (a : HttpArrival) (reads : RequestReads)

/-- `auth_middleware` before the request goes on: the body, or the state and the error of a
    refusal. -/
def ServerState.middleware : Except (ServerState × HttpError) Bytes :=
  match a.agentDid.toStr with
  | none => .error (s, .unauthorized, "Missing X-AGT-Agent-DID")
  | some didStr =>
    match a.signature.toStr with
    | none => .error (s, .unauthorized, "Missing X-AGT-Signature")
    | some signatureB64 =>
      match C.decode64 signatureB64 with
      | .error _ => .error (s, .badRequest, "Invalid Base64 in signature")
      | .ok signature =>
        match a.body with
        | .error e => .error (s, .badRequest, e)
        | .ok body =>
          match s.authenticate C didStr signature body reads with
          | .error e => .error (s.noticeCaller didStr a.peerAddr e reads, .unauthorized, e)
          | .ok () => .ok body

/-- The middleware, the router, and the extractors and the handler of a route.  The response to a HEAD
    request is sent without its body. -/
def ServerState.receive : ServerState × HttpReply HttpBody :=
  match s.middleware C a reads with
  | .error refused => (refused.1, responded (.error refused.2))
  | .ok body =>
    match dispatch ax a.method a.path with
    | .error reply => (s, reply)
    | .ok route =>
      match if a.json then none else X.rejectUntyped ax route with
      | some reply => (s, reply)
      | none =>
        let served := s.route C E X (a.request route) body reads
        (served.1, responded served.2)

/-- What a server that gets the request to its route does with it. -/
theorem serveHttp_request (route : HttpRoute) :
    s.serveHttp C E X (a.request route) reads =
      match s.middleware C a reads with
      | .error refused => (refused.1, .error refused.2)
      | .ok body => s.route C E X (a.request route) body reads := by
  -- the middleware makes the checks of the handler's caller, in the same order
  unfold ServerState.serveHttp ServerState.middleware
  simp only [HttpArrival.request]
  cases a.agentDid.toStr with
  | none => rfl
  | some didStr =>
    cases a.signature.toStr with
    | none => rfl
    | some signatureB64 =>
      dsimp only
      cases C.decode64 signatureB64 with
      | error e => rfl
      | ok signature =>
        cases a.body with
        | error e => rfl
        | ok body =>
          dsimp only
          cases s.authenticate C didStr signature body reads with
          | error e => rfl
          | ok u => rfl

/-- **What becomes of a request**: it is refused by the middleware, answered without a handler, or
    served at its route. -/
theorem receive_cases :
    (∃ refused, s.middleware C a reads = .error refused ∧
      s.receive C E X ax a reads = (refused.1, responded (.error refused.2))) ∨
    (∃ reply, s.receive C E X ax a reads = (s, reply) ∧
      (dispatch ax a.method a.path = .error reply ∨
        ∃ route, dispatch ax a.method a.path = .ok route ∧ a.json = false ∧
          X.rejectUntyped ax route = some reply)) ∨
    ∃ route body, s.middleware C a reads = .ok body ∧ dispatch ax a.method a.path = .ok route ∧
      (a.json = true ∨ X.rejectUntyped ax route = none) ∧
      s.receive C E X ax a reads =
        ((s.route C E X (a.request route) body reads).1,
          responded (s.route C E X (a.request route) body reads).2) := by
  unfold ServerState.receive
  cases s.middleware C a reads with
  | error refused => exact .inl ⟨refused, rfl, rfl⟩
  | ok body =>
    right
    cases dispatch ax a.method a.path with
    | error reply =>
      -- the router or an extractor answers
      exact .inl ⟨reply, rfl, .inl rfl⟩
    | ok route =>
      dsimp only
      cases hjson : a.json with
      | true =>
        -- the handler runs
        exact .inr ⟨route, body, rfl, rfl, .inl rfl, rfl⟩
      | false =>
        rw [if_neg Bool.false_ne_true]
        cases hreject : X.rejectUntyped ax route with
        | some reply => exact .inl ⟨reply, rfl, .inr ⟨route, rfl, rfl, hreject⟩⟩
        | none => exact .inr ⟨route, body, rfl, rfl, .inr hreject, rfl⟩

variable {C E X ax s a reads}

/-- A request for no route changes nothing once it has passed the middleware. -/
theorem receive_of_unrouted {reply : HttpReply HttpBody}
    (h : dispatch ax a.method a.path = .error reply) :
    s.receive C E X ax a reads =
      match s.middleware C a reads with
      | .error refused => (refused.1, responded (.error refused.2))
      | .ok _ => (s, reply) := by
  rw [ServerState.receive, h]

/-- **Step**: a request is not heard of, or leaves the daemon as one does that the router has found
    a route for; a request that is refused gets to none. -/
theorem receive_state (W : GrpcWire) :
    (s.receive C E X ax a reads).1 = s ∨
      ∃ route, (dispatch ax a.method a.path = .ok route ∨ route = .listPending) ∧
        (s.receive C E X ax a reads).1 =
          ServerState.step C E X W s (.http (a.request route), reads) := by
  have hserved (route : HttpRoute) := congrArg Prod.fst (serveHttp_request C E X s a reads route)
  rcases receive_cases C E X ax s a reads with
    ⟨refused, hmiddleware, hreceived⟩ | ⟨reply, hreceived, -⟩ |
      ⟨route, body, hmiddleware, hroute, -, hreceived⟩
  · -- the middleware does not know the route yet
    refine .inr ⟨.listPending, .inr rfl, ?_⟩
    have hrefused := hserved .listPending
    rw [hmiddleware] at hrefused
    rw [hreceived]
    exact hrefused.symm
  · -- an answer of the router leaves the state alone
    rw [hreceived]
    exact .inl rfl
  · -- the handler runs as for a matched request
    refine .inr ⟨route, .inl hroute, ?_⟩
    have hmatched := hserved route
    rw [hmiddleware] at hmatched
    rw [hreceived]
    exact hmatched.symm

/-- A refusal by the middleware is the state with the caller noticed, or the state itself, and its
    status is neither a success nor 404. -/
theorem refused_cases {refused : ServerState × HttpError}
    (h : s.middleware C a reads = .error refused) :
    refused.1.stores = s.stores ∧ (responded (.error refused.2)).isSuccess = false ∧
      (responded (.error refused.2)).status ≠ 404 := by
  have hstatus (e : String) : (responded (.error (.unauthorized, e))).status = 401 := rfl
  have hbad (e : String) : (responded (.error (.badRequest, e))).status = 400 := rfl
  unfold ServerState.middleware at h
  split at h
  next =>
    -- a missing or broken header is answered before anybody is looked up
    obtain rfl := Except.error.inj h
    exact ⟨rfl, rfl, by simp [hstatus]⟩
  next didStr _ =>
    split at h
    next =>
      obtain rfl := Except.error.inj h
      exact ⟨rfl, rfl, by simp [hstatus]⟩
    next signatureB64 _ =>
      split at h
      next =>
        obtain rfl := Except.error.inj h
        exact ⟨rfl, rfl, by simp [hbad]⟩
      next signature _ =>
        split at h
        next =>
          obtain rfl := Except.error.inj h
          exact ⟨rfl, rfl, by simp [hbad]⟩
        next body _ =>
          split at h
          next =>
            -- an unknown caller is remembered, which is not in the stores
            obtain rfl := Except.error.inj h
            refine ⟨?_, rfl, by simp [hstatus]⟩
            rw [ServerState.noticeCaller]
            split
            · cases parseDid didStr with
              | error e => rfl
              | ok did => exact ServerState.present_stores _ _ _ _ _ _
            · rfl
          next =>
            -- an authenticated caller is not refused
            cases h

/-- Where there is no route, the stores stay as they are. -/
theorem stores_receive_of_unrouted {reply : HttpReply HttpBody}
    (h : dispatch ax a.method a.path = .error reply) :
    (s.receive C E X ax a reads).1.stores = s.stores := by
  rw [receive_of_unrouted h]
  cases hmiddleware : s.middleware C a reads with
  | error refused => exact (refused_cases hmiddleware).1
  | ok body => rfl

/-- An authenticated request passes the middleware. -/
theorem middleware_of_authenticates {W : GrpcWire} {route : HttpRoute} {did : String}
    (h : s.Authenticates C W (.http (a.request route)) reads did) :
    ∃ body, a.body = .ok body ∧ s.middleware C a reads = .ok body := by
  obtain ⟨signatureB64, signature, body, hdid, hsignature, hdecode, hbody, hauth⟩ := h
  simp only [HttpArrival.request] at hdid hsignature hbody
  refine ⟨body, hbody, ?_⟩
  simp only [ServerState.middleware, hdid, hsignature, hdecode, hbody, hauth]

end

/-! ## Both transports -/

/-- A request on either transport, as it arrives. -/
inductive Arrival where
  | http (a : HttpArrival)
  | grpc (req : GrpcRequest)

/-- What is sent back. -/
inductive ArrivalResponse where
  | http (reply : HttpReply HttpBody)
  | grpc (result : GrpcResult)

namespace ServerState

variable (C : Crypto) (E : LogEnv) (X : Extractors) (W : GrpcWire) (ax : Axum) (s : ServerState)

/-- What the daemon does with a request, and what it sends back. -/
def arrive (call : Arrival × RequestReads) : ServerState × ArrivalResponse :=
  match call.1 with
  | .http a =>
    let received := s.receive C E X ax a call.2
    (received.1, .http received.2)
  | .grpc req =>
    let served := s.serveGrpc W C E req call.2
    (served.1, .grpc served.2)

def arriveStep (call : Arrival × RequestReads) : ServerState :=
  (s.arrive C E X W ax call).1

end ServerState

end AgentGovernance.Daemon
