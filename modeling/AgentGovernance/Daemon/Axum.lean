import AgentGovernance.Daemon.Http
import AgentGovernance.Mesh.HttpAdapters

/-!
# The web framework of the daemon

axum is not part of the repository, so what the daemon uses of it is a parameter: `Axum` has the
router and the rejections of the extractors `Path` and `Json`.

`Axum.Sound` is what every version documents, and `Axum.V07` what version 0.7 does with patterns
that have no capture.  `Cargo.lock` has version 0.7.9, where a capture is written `:did`; the
patterns of the daemon have braces, which are captures from version 0.8 on.  The two readings of a
pattern are given in full at the end (`PathSyntax`), and both are `Sound`.
-/

namespace AgentGovernance.Daemon

open AgentGovernance.Lib AgentGovernance.Mesh

/-! ## Responses -/

/-- `StatusCode::as_u16`. -/
def StatusCode.code : StatusCode → Nat
  | .ok => 200
  | .created => 201
  | .accepted => 202
  | .badRequest => 400
  | .unauthorized => 401
  | .forbidden => 403
  | .notFound => 404
  | .tooManyRequests => 429
  | .internalServerError => 500
  | .badGateway => 502

def StatusCode.text : StatusCode → String
  | .ok => "200 OK"
  | .created => "201 Created"
  | .accepted => "202 Accepted"
  | .badRequest => "400 Bad Request"
  | .unauthorized => "401 Unauthorized"
  | .forbidden => "403 Forbidden"
  | .notFound => "404 Not Found"
  | .tooManyRequests => "429 Too Many Requests"
  | .internalServerError => "500 Internal Server Error"
  | .badGateway => "502 Bad Gateway"

/-- A response whose body is a text, as a client that expects JSON gets it. -/
def textReply (status : Nat) (statusText : String) : HttpReply HttpBody where
  status := status
  statusText := statusText
  json := .error "error decoding response body"

/-- The response for the result of a handler. -/
def responded : HttpResult → HttpReply HttpBody
  | .ok (status, body) => { status := status.code, statusText := status.text, json := .ok body }
  | .error (status, _) => textReply status.code status.text

/-! ## Routes -/

/-- `get(..)` and `post(..)`. -/
inductive HandlerMethod where
  | get
  | post
  deriving DecidableEq

inductive HttpMethod where
  | get
  | post
  | head
  | other (name : String)
  deriving DecidableEq

/-- The method whose handler is called.  A HEAD request gets what GET gives, without the body. -/
def HttpMethod.handler : HttpMethod → Option HandlerMethod
  | .get => some .get
  | .post => some .post
  | .head => some .get
  | .other _ => none

/-- A handler, without `Path` or with one parameter. -/
inductive HttpHandler where
  | plain (route : HttpRoute)
  | withPath (route : String → HttpRoute)

/-- The calls of `Router::route`: patterns with their handlers. -/
abbrev RouteTable := List (List String × List (HandlerMethod × HttpHandler))

def HttpMethod.select (method : HttpMethod) (methods : List (HandlerMethod × HttpHandler)) :
    Option HttpHandler :=
  method.handler.bind fun m => methods.lookup m

/-! ## The framework -/

/-- What the daemon uses of axum. -/
structure Axum where
  /-- The handler for a method and a path, with the captures, or the response without one. -/
  route : RouteTable → HttpMethod → List String →
    Except (HttpReply HttpBody) (HttpHandler × List String)
  /-- `Path<String>`, for the captures. -/
  pathParam : List String → Except (HttpReply HttpBody) String
  /-- What `Json` answers to a body that is not declared as JSON. -/
  untyped : HttpReply HttpBody

namespace Axum

/-- No pattern has a capture, as version 0.7 writes them. -/
def Literal (table : RouteTable) : Prop :=
  ∀ r ∈ table, ∀ segment ∈ r.1, ':' ∉ segment.toList ∧ '*' ∉ segment.toList

/-- A pattern agrees with a path in all segments of lower case letters and digits, which are
    captures in no version. -/
def Agrees : List String → List String → Prop :=
  List.Forall₂ fun segment x =>
    segment.toList.all (fun c => c.isLower || c.isDigit) = true → segment = x

variable (ax : Axum)

/-- What axum 0.7 documents: a pattern without a capture is matched by the equal path alone, and an
    extractor that finds no capture or no content type answers for the handler. -/
structure V07 : Prop where
  found : ∀ table method path methods handler, Literal table →
    table.lookup path = some methods → method.select methods = some handler →
    ax.route table method path = .ok (handler, [])
  notAllowed : ∀ table method path methods, Literal table →
    table.lookup path = some methods → method.select methods = none →
    ∃ reply, ax.route table method path = .error reply ∧ reply.status = 405
  notFound : ∀ table method path, Literal table → table.lookup path = none →
    ∃ reply, ax.route table method path = .error reply ∧ reply.status = 404
  noCapture : ∃ reply, ax.pathParam [] = .error reply ∧ reply.status = 500
  untyped : ax.untyped.status = 415

/-- What every version documents: a handler is called for its method and a path that agrees with its
    pattern (no pattern here is a catch-all), and nothing else is a success. -/
structure Sound : Prop where
  found : ∀ table method path handler captures,
    (∀ r ∈ table, ∀ segment ∈ r.1, '*' ∉ segment.toList) →
    ax.route table method path = .ok (handler, captures) →
    ∃ r ∈ table, ∃ m, method.handler = some m ∧ (m, handler) ∈ r.2 ∧ Agrees r.1 path
  refused : ∀ table method path reply, ax.route table method path = .error reply →
    reply.isSuccess = false
  pathParam : ∀ captures reply, ax.pathParam captures = .error reply → reply.isSuccess = false
  untyped : ax.untyped.isSuccess = false

end Axum

/-! ## Two readings of a pattern -/

/-- How a segment of a pattern is marked as a capture. -/
inductive PathSyntax where
  /-- axum 0.7. -/
  | colon
  /-- axum 0.8. -/
  | braces

namespace PathSyntax

/-- The segment of a pattern is a capture. -/
def captures : PathSyntax → String → Bool
  | .colon, segment => segment.toList.head? = some ':'
  | .braces, segment => segment.toList.head? = some '{' && segment.toList.getLast? = some '}'

/-- What a pattern captures of a path; any other segment stands for itself. -/
def capture (syn : PathSyntax) : List String → List String → Option (List String)
  | [], [] => some []
  | p :: pattern, x :: path =>
    if syn.captures p then
      if x = "" then none else (syn.capture pattern path).map (x :: ·)
    else if p = x then syn.capture pattern path
    else none
  | _, _ => none

/-- A router that reads patterns so. -/
def axum (syn : PathSyntax) : Axum where
  route table method path :=
    match table.findSome? fun r => (syn.capture r.1 path).map fun captured => (captured, r.2) with
    | none => .error (textReply 404 "404 Not Found")
    | some (captured, methods) =>
      match method.select methods with
      | none => .error (textReply 405 "405 Method Not Allowed")
      | some handler => .ok (handler, captured)
  pathParam
    | [parameter] => .ok parameter
    | _ => .error (textReply 500 "500 Internal Server Error")
  untyped := textReply 415 "415 Unsupported Media Type"

variable {syn : PathSyntax}

theorem captures_of_word {segment : String}
    (h : segment.toList.all (fun c => c.isLower || c.isDigit) = true) :
    syn.captures segment = false := by
  cases hlist : segment.toList with
  | nil => cases syn <;> simp [captures, hlist]
  | cons c rest =>
    have hc : (c.isLower || c.isDigit) = true := by
      apply List.all_eq_true.mp h
      rw [hlist]
      exact List.mem_cons_self
    -- neither mark is a letter or a digit
    have hmark : c ≠ ':' ∧ c ≠ '{' := by
      constructor
      · rintro rfl
        exact absurd hc (by decide)
      · rintro rfl
        exact absurd hc (by decide)
    cases syn <;> simp [captures, hlist, hmark]

/-- A path that is captured agrees with the pattern. -/
theorem agrees_of_capture {pattern path captured : List String}
    (h : syn.capture pattern path = some captured) : Axum.Agrees pattern path := by
  -- by induction on the pattern, segment by segment
  induction pattern generalizing path captured with
  | nil =>
    cases path with
    | nil => exact .nil
    | cons x path => cases h
  | cons p pattern ih =>
    cases path with
    | nil => cases h
    | cons x path =>
      rw [capture] at h
      by_cases hp : syn.captures p = true
      · rw [if_pos hp] at h
        split at h
        · cases h
        · obtain ⟨rest, hrest, -⟩ := Option.map_eq_some_iff.mp h
          -- a captured segment is no word of the path
          refine .cons (fun hword => ?_) (ih hrest)
          rw [captures_of_word hword] at hp
          cases hp
      · rw [if_neg hp] at h
        split at h
        next heq => exact .cons (fun _ => heq) (ih h)
        next => cases h

/-- A pattern without marks captures nothing, and only of itself. -/
theorem capture_literal {pattern : List String} (h : ∀ segment ∈ pattern, ':' ∉ segment.toList)
    (path : List String) :
    PathSyntax.colon.capture pattern path = if path = pattern then some [] else none := by
  induction pattern generalizing path with
  | nil => cases path <;> rfl
  | cons p pattern ih =>
    cases path with
    | nil => rfl
    | cons x path =>
      obtain ⟨hp, hpattern⟩ := List.forall_mem_cons.mp h
      -- without a colon the segment is literal
      have hliteral : PathSyntax.colon.captures p = false := by
        apply decide_eq_false
        intro hhead
        exact hp (List.mem_of_mem_head? hhead)
      rw [capture, hliteral, ih hpattern]
      by_cases hx : p = x
      · simp [hx]
      · simp [hx, Ne.symm hx]

theorem findSome?_literal {table : RouteTable} (h : Axum.Literal table) (path : List String) :
    (table.findSome? fun r => (PathSyntax.colon.capture r.1 path).map fun captured =>
      (captured, r.2)) = (table.lookup path).map fun methods => ([], methods) := by
  -- by induction on the table, since the first route that agrees answers
  induction table with
  | nil => rfl
  | cons r table ih =>
    obtain ⟨hr, htable⟩ := List.forall_mem_cons.mp h
    have hcapture := capture_literal (fun segment hsegment => (hr segment hsegment).1) path
    rw [List.findSome?_cons, hcapture, List.lookup_cons]
    by_cases hpath : path = r.1
    · simp [hpath]
    · have hne : (path == r.1) = false := beq_false_of_ne hpath
      rw [if_neg hpath, hne]
      exact ih htable

/-- Captures marked by colons are those of axum 0.7. -/
theorem v07_colon : PathSyntax.colon.axum.V07 where
  found table method path methods handler hliteral hpath hmethod := by
    simp [axum, findSome?_literal hliteral, hpath, hmethod]
  notAllowed table method path methods hliteral hpath hmethod :=
    ⟨textReply 405 "405 Method Not Allowed", by
      simp [axum, findSome?_literal hliteral, hpath, hmethod], rfl⟩
  notFound table method path hliteral hpath :=
    ⟨textReply 404 "404 Not Found", by simp [axum, findSome?_literal hliteral, hpath], rfl⟩
  noCapture := ⟨_, rfl, rfl⟩
  untyped := rfl

/-- Both readings are sound. -/
theorem sound_axum (syn : PathSyntax) : syn.axum.Sound where
  found table method path handler captured _ h := by
    simp only [axum] at h
    split at h
    next => cases h
    next captures methods hfound =>
      split at h
      next => cases h
      next found hmethod =>
        obtain ⟨rfl, rfl⟩ := Prod.mk.inj (Except.ok.inj h)
        -- the route that was found agrees with the path
        obtain ⟨r, hr, hcaptured⟩ := List.exists_of_findSome?_eq_some hfound
        obtain ⟨captures', hcapture, heq⟩ := Option.map_eq_some_iff.mp hcaptured
        obtain ⟨rfl, rfl⟩ := Prod.mk.inj heq
        obtain ⟨m, hm, hlookup⟩ := Option.bind_eq_some_iff.mp hmethod
        obtain ⟨before, after, hsplit, -⟩ := List.lookup_eq_some_iff.mp hlookup
        -- both the route and its method are in the table
        exact ⟨r, hr, m, hm, by simp [hsplit], agrees_of_capture hcapture⟩
  refused table method path reply h := by
    simp only [axum] at h
    -- no route, or no such method: both refusals are failures
    split at h
    next => exact Except.error.inj h ▸ rfl
    next =>
      split at h
      next => exact Except.error.inj h ▸ rfl
      next => cases h
  pathParam captured reply h := by
    simp only [axum] at h
    split at h
    · cases h
    · exact Except.error.inj h ▸ rfl
  untyped := rfl

end PathSyntax

end AgentGovernance.Daemon
