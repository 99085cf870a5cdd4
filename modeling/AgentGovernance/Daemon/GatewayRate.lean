import AgentGovernance.Daemon.GatewayTools
import AgentGovernance.Lib.SpacingLimiter

/-!
# The rate limiter of the gateway

The gateway keeps the time of the last admitted call of each agent and refuses a call that comes
before `Duration::seconds(1) / max_requests_per_second.max(1) as i32` has passed.

`limited_iff`: at most `max_requests_per_second` calls pass in every second exactly when the
number divides a second of nanoseconds.  Otherwise the interval is rounded down, and beyond
`10^9` it is zero or, after the cast to `i32`, negative.
-/

namespace AgentGovernance.Daemon

open AgentGovernance.Lib AgentGovernance.Mesh AgentGovernance.Compliance
open AgentGovernance.McpGovernance AgentGovernance.Runtime

/-! ## Runs of the gateway -/

/-- What happens at the gateway: a `tools/call` that was authenticated, the answer of the
    upstream, or anything that other parts of the daemon do to the shared state. -/
inductive GateEvent where
  | call (did tool : String) (args : Value) (reads : GatewayReads)
  | completed (call : Option ToolCall) (upstream : UpstreamOutcome) (reads : GatewayReads)
  | server (s : ServerState)

namespace GatewayState

variable (C : Crypto) (E : LogEnv) (g : GatewayState)

def advance (g : GatewayState) : GateEvent → GatewayState
  | .call did tool args reads => (g.governTool C E did tool args reads).1
  | .completed call upstream reads => (g.complete E call upstream reads).1
  | .server s => { g with serverState := s }

/-- The policy under which the limiter looks at a call, when the call gets that far. -/
def checkedPolicy (did : String) (reads : GatewayReads) : Option McpPolicy :=
  match (g.serverState.registryAnswers C reads.toRequestReads).getRing did with
  | .error _ => none
  | .ok none => none
  | .ok (some _) =>
    match g.serverState.policyStore.answers.loadPolicy did with
    | .error _ => none
    | .ok found => some (found.getD McpPolicy.default)

/-- The policy and the time of a call of the agent at the limiter. -/
def arrival (did : String) : GateEvent → Option (McpPolicy × DateTime)
  | .call caller _ _ reads =>
    if caller = did then (g.checkedPolicy C did reads).map (·, reads.now 5) else none
  | _ => none

/-- The times at which the agent's calls get to the limiter. -/
def arrivals (did : String) : GatewayState → List GateEvent → List DateTime
  | _, [] => []
  | g, event :: events =>
    match g.arrival C did event with
    | none => arrivals did (g.advance C E event) events
    | some (_, now) => now :: arrivals did (g.advance C E event) events

/-- The times of those that it lets pass. -/
def passed (did : String) : GatewayState → List GateEvent → List DateTime
  | _, [] => []
  | g, event :: events =>
    match g.arrival C did event with
    | none => passed did (g.advance C E event) events
    | some (policy, now) =>
      if (g.limitRate did policy now).isSome then
        now :: passed did (g.advance C E event) events
      else passed did (g.advance C E event) events

/-- The agent's calls are made under one value of `max_requests_per_second`. -/
def UnderLimit (did : String) (value : UInt32) (g : GatewayState) (event : GateEvent) : Prop :=
  ∀ policy now, g.arrival C did event = some (policy, now) → policy.maxRequestsPerSecond = value

/-- However the calls arrive, at most `value.max(1)` of an agent pass in any second. -/
def Limited (s : ServerState) (value : UInt32) : Prop :=
  ∀ (did : String) (events : List GateEvent),
    AllSteps (advance C E) (UnderLimit C did value) (start s) events →
    (arrivals C E did (start s) events).Pairwise (· ≤ ·) →
    ∀ w, (Spacing.inWindow w 1000000000 (passed C E did (start s) events)).length ≤
      (max value 1).toNat

/-! ## The limiter -/

/-- Rate limiting is a spacing limiter for each agent. -/
theorem limitRate_eq (did : String) (policy : McpPolicy) (now : DateTime) :
    g.limitRate did policy now =
      if Spacing.admits (requestInterval policy) (g.lastRequests.lookup did) now then
        some { g with lastRequests := g.lastRequests.insert did now }
      else none := by
  unfold limitRate Spacing.admits
  cases g.lastRequests.lookup did with
  | none => rfl
  | some last =>
    by_cases hearly : now - last < requestInterval policy
    · simp [hearly]
    · simp [hearly, not_lt.mp hearly]

@[simp] theorem lastRequests_logDenial (did tool cause : String) (category : DataCategory)
    (reads : GatewayReads) :
    (g.logDenial E did tool cause category reads).lastRequests = g.lastRequests := rfl

/-- The enforcement leaves the limiter alone. -/
theorem lastRequests_enforce (did : String) (ring : PrivilegeRing) (tool : String) (args : Value)
    (reads : GatewayReads) :
    (g.enforce E did ring tool args reads).1.lastRequests = g.lastRequests := by
  unfold enforce
  split
  · rfl
  · rfl
  · unfold checkCompliance
    dsimp only
    split
    · rfl
    · split <;> rfl

/-- A call that does not get to the limiter changes nothing. -/
theorem governTool_of_unchecked {did : String} {reads : GatewayReads}
    (h : g.checkedPolicy C did reads = none) (tool : String) (args : Value) :
    (g.governTool C E did tool args reads).1 = g := by
  unfold checkedPolicy at h
  unfold governTool
  split
  · rfl
  · rfl
  next ring hring =>
    rw [hring] at h
    split
    · rfl
    next found hload =>
      -- a policy that was loaded would have been checked
      rw [hload] at h
      cases h

/-- A call at the limiter is refused as too early or goes on to the enforcer. -/
theorem governTool_of_checked {did : String} {reads : GatewayReads} {policy : McpPolicy}
    (h : g.checkedPolicy C did reads = some policy) (tool : String) (args : Value) :
    ∃ ring, g.governTool C E did tool args reads =
      match g.limitRate did policy (reads.now 5) with
      | none => (g, .responded (.error (.tooManyRequests, "Rate limit exceeded")))
      | some g => g.enforce E did ring tool args reads := by
  unfold checkedPolicy at h
  unfold governTool
  split
  next e herror =>
    -- without a ring or a policy there is nothing to check
    rw [herror] at h
    cases h
  next hnone =>
    rw [hnone] at h
    cases h
  next ring hring =>
    rw [hring] at h
    refine ⟨ring, ?_⟩
    split
    next e herror =>
      rw [herror] at h
      cases h
    next found hload =>
      -- both are read, so what is left is the limiter
      rw [hload] at h
      obtain rfl := Option.some.inj h
      rfl

/-- A call at the limiter sets the caller's time exactly when it passes. -/
theorem lastRequests_governTool {did : String} {reads : GatewayReads} {policy : McpPolicy}
    (h : g.checkedPolicy C did reads = some policy) (tool : String) (args : Value) :
    (g.governTool C E did tool args reads).1.lastRequests =
      if Spacing.admits (requestInterval policy) (g.lastRequests.lookup did) (reads.now 5) then
        g.lastRequests.insert did (reads.now 5)
      else g.lastRequests := by
  obtain ⟨ring, hgovern⟩ := g.governTool_of_checked C E h tool args
  rw [hgovern, limitRate_eq]
  -- the time is noted only for a call that the limiter lets pass
  by_cases hadmits :
      Spacing.admits (requestInterval policy) (g.lastRequests.lookup did) (reads.now 5) = true
  · rw [if_pos hadmits, if_pos hadmits]
    exact lastRequests_enforce E _ did ring tool args reads
  · rw [if_neg hadmits, if_neg hadmits]

/-! ## One event at the limiter -/

variable {C E g}

/-- An event that brings no call of the agent to the limiter leaves the agent's time alone. -/
theorem lookup_advance_of_none {did : String} {event : GateEvent}
    (h : g.arrival C did event = none) :
    (g.advance C E event).lastRequests.lookup did = g.lastRequests.lookup did := by
  cases event with
  | server s => rfl
  | completed call upstream reads =>
    cases upstream with
    | json answer =>
      -- an answer of the upstream server notes no time
      cases call <;> rfl
    | notSent e => rfl
    | noResponse e => rfl
    | notJson e => rfl
  | call caller tool args reads =>
    show (g.governTool C E caller tool args reads).1.lastRequests.lookup did = _
    cases hpolicy : g.checkedPolicy C caller reads with
    | none => rw [g.governTool_of_unchecked C E hpolicy]
    | some policy =>
      -- the call is another agent's
      have hother : did ≠ caller := by
        rintro rfl
        simp [arrival, hpolicy] at h
      rw [g.lastRequests_governTool C E hpolicy]
      split
      · exact Finmap.lookup_insert_of_ne _ hother
      · rfl

/-- A call of the agent at the limiter sets the time when it passes. -/
theorem lookup_advance_of_some {did : String} {event : GateEvent} {policy : McpPolicy}
    {now : DateTime} (h : g.arrival C did event = some (policy, now)) :
    (g.advance C E event).lastRequests.lookup did =
      if Spacing.admits (requestInterval policy) (g.lastRequests.lookup did) now then some now
      else g.lastRequests.lookup did := by
  cases event with
  | server s => cases h
  | completed call upstream reads => cases h
  | call caller tool args reads =>
    simp only [arrival] at h
    by_cases hcaller : caller = did
    · subst hcaller
      rw [if_pos rfl] at h
      obtain ⟨found, hpolicy, hpair⟩ := Option.map_eq_some_iff.mp h
      obtain ⟨rfl, rfl⟩ := Prod.mk.inj hpair
      -- the call is this agent's, with the policy that was read
      show (g.governTool C E caller tool args reads).1.lastRequests.lookup caller = _
      rw [g.lastRequests_governTool C E hpolicy]
      split
      · exact Finmap.lookup_insert _
      · rfl
    · -- another agent's call is no arrival
      rw [if_neg hcaller] at h
      cases h

/-- The interval for a value of `max_requests_per_second`. -/
def rateInterval (value : UInt32) : Duration :=
  Int.tdiv 1000000000 (max value 1).toInt32.toInt

/-- **Refinement**: the calls that pass are those that a spacing limiter admits. -/
theorem passed_eq {did : String} {value : UInt32} {events : List GateEvent}
    (h : AllSteps (advance C E) (UnderLimit C did value) g events) :
    passed C E did g events =
      Spacing.admitted (rateInterval value) (g.lastRequests.lookup did)
        (arrivals C E did g events) := by
  -- by induction on the events, with the time noted last as the state
  induction events generalizing g with
  | nil => rfl
  | cons event events ih =>
    obtain ⟨hvalue, hrest⟩ := h
    have htail := ih hrest
    cases harrival : g.arrival C did event with
    | none =>
      simp only [passed, arrivals, harrival]
      rw [htail, lookup_advance_of_none harrival]
    | some pair =>
      obtain ⟨policy, now⟩ := pair
      -- every policy that is read has this limit
      have hinterval : requestInterval policy = rateInterval value := by
        rw [requestInterval, hvalue policy now harrival, rateInterval]
      have hlookup := lookup_advance_of_some (E := E) harrival
      simp only [passed, arrivals, harrival, Spacing.admitted]
      rw [htail, hlookup, limitRate_eq, hinterval]
      by_cases hadmits : Spacing.admits (rateInterval value) (g.lastRequests.lookup did) now = true
      · simp [hadmits]
      · simp [hadmits]

/-! ## Calls at given times -/

/-- The shared state with a registered agent under a policy. -/
def withAgent (s : ServerState) (did : String) (value : UInt32) : ServerState :=
  { s with
    registry := { s.registry with entries := s.registry.entries.insert did ("", .standard) }
    policyStore :=
      s.policyStore.savePolicy did { McpPolicy.default with maxRequestsPerSecond := value } }

/-- Calls of the agent at the given times, and nothing else. -/
def callsAt (s : ServerState) (did : String) (value : UInt32) (times : List DateTime) :
    List GateEvent :=
  times.flatMap fun t =>
    [.server (withAgent s did value),
      .call did "tool" .null { epochReads with now := fun _ => t }]

theorem checkedPolicy_withAgent (s : ServerState) (did : String) (value : UInt32)
    (reads : GatewayReads) :
    checkedPolicy C { g with serverState := withAgent s did value } did reads =
      some { McpPolicy.default with maxRequestsPerSecond := value } := by
  simp [checkedPolicy, ServerState.registryAnswers, MemoryAgentRegistry.answers,
    MemoryAgentRegistry.getRing, withAgent, MemoryPolicyStore.answers]

/-- The calls get to the limiter at these times, under this value. -/
theorem arrivals_callsAt (s : ServerState) (did : String) (value : UInt32)
    (times : List DateTime) :
    AllSteps (advance C E) (UnderLimit C did value) g (callsAt s did value times) ∧
      arrivals C E did g (callsAt s did value times) = times := by
  induction times generalizing g with
  | nil => exact ⟨trivial, rfl⟩
  | cons t times ih =>
    -- the agent of the server calls at the given time
    have harrival : arrival C { g with serverState := withAgent s did value } did
        (.call did "tool" .null { epochReads with now := fun _ => t }) =
          some ({ McpPolicy.default with maxRequestsPerSecond := value }, t) := by
      simp [arrival, checkedPolicy_withAgent]
    have hvalue : UnderLimit C did value { g with serverState := withAgent s did value }
        (.call did "tool" .null { epochReads with now := fun _ => t }) := by
      intro policy now hpolicy
      rw [harrival] at hpolicy
      rw [← (Prod.mk.inj (Option.some.inj hpolicy)).1]
    obtain ⟨hrest, htimes⟩ := ih (g := advance C E { g with serverState := withAgent s did value }
      (.call did "tool" .null { epochReads with now := fun _ => t }))
    refine ⟨⟨fun _ _ h => (by cases h), hvalue, hrest⟩, ?_⟩
    -- the first event changes the state only, and the second is the call
    have hserver : arrival C g did (.server (withAgent s did value)) = none := rfl
    show arrivals C E did g (_ :: _ :: callsAt s did value times) = _
    rw [arrivals, hserver]
    show arrivals C E did { g with serverState := withAgent s did value } (_ :: _) = _
    rw [arrivals, harrival]
    exact congrArg (t :: ·) htimes

/-! ## Rates -/

variable (C E)

/-- The gateway limits as the spacing limiter does. -/
theorem limited_iff_bounded (s : ServerState) (value : UInt32) :
    Limited C E s value ↔
      Spacing.Bounded (rateInterval value) 1000000000 (max value 1).toNat := by
  constructor
  · intro h times hsorted w
    -- any sequence of times is the sequence of some calls
    obtain ⟨hsteps, htimes⟩ := arrivals_callsAt (C := C) (E := E) (g := start s) s
      "did:mesh:agent-1" value times
    have hcount := h "did:mesh:agent-1" _ hsteps (by rw [htimes]; exact hsorted) w
    rw [passed_eq hsteps, htimes] at hcount
    exact hcount
  · intro h did events hsteps hsorted w
    rw [passed_eq hsteps]
    exact h _ hsorted w

/-- The cast to `i32`. -/
theorem toInt_toInt32 (n : UInt32) :
    n.toInt32.toInt = if n.toNat < 2147483648 then (n.toNat : Int) else n.toNat - 4294967296 := by
  show n.toBitVec.toInt = _
  rw [BitVec.toInt_eq_toNat_cond]
  show (if 2 * n.toNat < 2 ^ 32 then (n.toNat : Int) else (n.toNat : Int) - (2 ^ 32 : Nat)) = _
  split <;> split <;> omega

/-- The rate is at least one. -/
theorem toNat_max_one_pos (value : UInt32) : 0 < (max value 1).toNat := by
  show 0 < (if value ≤ 1 then 1 else value).toNat
  split
  · decide
  next hlarge =>
    rw [UInt32.le_iff_toNat_le] at hlarge
    exact Nat.zero_lt_of_lt (not_le.mp hlarge)

/-- Division that rounds down loses nothing where it is exact. -/
theorem le_mul_ediv_iff {m n : Nat} (hn : 0 < n) : (m : Int) ≤ n * (m / n) ↔ n ∣ m := by
  have hdiv : (n : Int) * (m / n) ≤ m := Int.mul_ediv_self_le (by omega)
  constructor
  · intro hle
    have heq : (n : Int) * (m / n) = m := le_antisymm hdiv hle
    exact Int.natCast_dvd_natCast.mp ⟨_, heq.symm⟩
  · rintro ⟨k, rfl⟩
    rw [Nat.cast_mul, Int.mul_ediv_cancel_left _ (by omega)]

/-- The intervals make up a second when the rate divides it. -/
theorem second_le_mul_rateInterval_iff (value : UInt32) :
    (1000000000 : Int) ≤ (max value 1).toNat * rateInterval value ↔
      (max value 1).toNat ∣ 1000000000 := by
  have hpos := toNat_max_one_pos value
  have hbound : (max value 1).toNat < 4294967296 := UInt32.toNat_lt _
  rw [rateInterval, toInt_toInt32]
  generalize (max value 1).toNat = n at hpos hbound ⊢
  -- the cast to `i32` makes large limits negative
  split
  next hsmall =>
    rw [Int.tdiv_eq_ediv_of_nonneg (by decide)]
    exact le_mul_ediv_iff (m := 1000000000) hpos
  next hlarge =>
    -- the interval is not positive, and the rate is more than a second has nanoseconds
    refine iff_of_false ?_ ?_
    · have hneg : Int.tdiv 1000000000 ((n : Int) - 4294967296) ≤ 0 :=
        Int.tdiv_nonpos_of_nonneg_of_nonpos (by decide) (by omega)
      have hprod : (n : Int) * Int.tdiv 1000000000 ((n : Int) - 4294967296) ≤ 0 :=
        mul_nonpos_of_nonneg_of_nonpos (Int.natCast_nonneg n) hneg
      omega
    · -- nor does such a number divide a second
      intro hdvd
      have hle := Nat.le_of_dvd (by decide) hdvd
      omega

/-- **Rate limit**: whatever else the daemon does, at most `value.max(1)` calls of an agent pass
    in every second exactly when this number divides the nanoseconds of a second. -/
theorem limited_iff (s : ServerState) (value : UInt32) :
    Limited C E s value ↔ (max value 1).toNat ∣ 1000000000 := by
  rw [limited_iff_bounded, Spacing.bounded_iff (by decide), second_le_mul_rateInterval_iff]

/-- A limit of 3 lets four calls pass in a second. -/
theorem not_limited :
    ¬ ∀ (C : Crypto) (E : LogEnv) (s : ServerState) (value : UInt32), Limited C E s value := by
  intro h
  have hthree := h (Crypto.ofVectors toolCallVectors) sampleEnv gatewayStart.state.serverState 3
  rw [limited_iff_bounded, Spacing.bounded_iff (by decide)] at hthree
  exact absurd hthree (by decide)

end GatewayState

end AgentGovernance.Daemon
