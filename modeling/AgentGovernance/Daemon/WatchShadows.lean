import AgentGovernance.Daemon.AlertWorker
import AgentGovernance.Daemon.Requests
import AgentGovernance.Lib.Selection

/-!
# The alerts of a stream

A call of `watch_shadows` reads the alerts of the log, subscribes to the channel and then
passes on what is sent.  Events are sent and appended to the log at any time in between.

An alert that is sent before the subscription and appended after the log was read belongs to
neither part of the stream.  `stream_complete_iff` says when a stream delivers all alerts.
-/

namespace AgentGovernance.Daemon

open AgentGovernance.Lib AgentGovernance.Mesh AgentGovernance.Compliance AgentGovernance.Discovery
open Broadcast (recv unread recv_cases drop_eq_cons)
open FileActionLog (Stored)

/-! ## The call -/

/-- Where the call is. -/
inductive ShadowWatch where
  | idle
  /-- Behind the checks, with the number of events sent before. -/
  | called (since : DateTime) (calledAt : Nat)
  /-- The log was read, with these alerts in it. -/
  | replayed (since : DateTime) (calledAt : Nat) (seen : List (Nat × DateTime))
  /-- Subscribed at one position, and taking the event at another one next. -/
  | streaming (since : DateTime) (calledAt : Nat) (seen : List (Nat × DateTime))
      (subscribed next : Nat)

/-- The daemon's alerts and one call. -/
structure WatchRun where
  system : AlertSystem
  /-- Where the appended alerts stand among the sent events, with the timestamps of their
      records.  No step looks at this. -/
  logged : List (Nat × DateTime)
  watch : ShadowWatch
  /-- What the stream has delivered. -/
  alerts : List DiscoveredAgent

/-- A step of the daemon or of the call. -/
inductive WatchEvent where
  | system (event : AlertEvent)
  | call (since : DateTime)
  | replay
  | subscribe
  | take

/-- The alert that a step appends to the log: its position, and the timestamp of its record. -/
def AlertSystem.appended (s : AlertSystem) (event : AlertEvent) : List (Nat × DateTime) :=
  match s.worker, event with
  | .appending _ next _, .append _ timestamp => [(next - 1, timestamp)]
  | _, _ => []

namespace WatchRun

variable (E : LogEnv) (W : GrpcWire)

/-- The alerts replayed from the log; a log that cannot be read is an empty one. -/
def initialAlerts (w : WatchRun) (since : DateTime) : List DiscoveredAgent :=
  match FileActionLog.replaySince E w.system.actionLog.disk.log since with
  | .error _ => []
  | .ok records => ServerState.replayedShadows W records

/-- The next event goes to the stream if it is an alert; an error is passed over. -/
def take (w : WatchRun) : WatchRun :=
  match w.watch with
  | .streaming since calledAt seen subscribed next =>
    match recv channelCapacity w.system.manager.sent next with
    | (.empty, _) => w
    | (.lagged, next) => { w with watch := .streaming since calledAt seen subscribed next }
    | (.value event, next) =>
      { w with
        watch := .streaming since calledAt seen subscribed next
        alerts := w.alerts ++ event.shadowAgent.toList }
  | _ => w

/-- A step; a step that the call cannot take changes nothing. -/
def step (w : WatchRun) (event : WatchEvent) : WatchRun :=
  match event with
  | .system event =>
    { w with
      system := w.system.step E event
      logged := w.logged ++ w.system.appended event }
  | .call since =>
    match w.watch with
    | .idle => { w with watch := .called since w.system.manager.sent.length }
    | _ => w
  | .replay =>
    match w.watch with
    | .called since calledAt =>
      { w with
        watch := .replayed since calledAt w.logged
        alerts := w.initialAlerts E W since }
    | _ => w
  | .subscribe =>
    match w.watch with
    | .replayed since calledAt seen =>
      { w with
        watch := .streaming since calledAt seen w.system.manager.sent.length
          w.system.manager.sent.length }
    | _ => w
  | .take => w.take

/-! ## What the stream should deliver -/

end WatchRun

/-- The event at the position has a record that is not older. -/
def loggedSince (logged : List (Nat × DateTime)) (since : DateTime) (i : Nat) : Bool :=
  logged.any fun entry => entry.1 = i && since ≤ entry.2

/-- The alerts among the records that are not older. -/
def replayedAlerts (W : GrpcWire) (since : DateTime) (rs : List ActionLogRecord) :
    List DiscoveredAgent :=
  ServerState.replayedShadows W (rs.filter (since ≤ ·.timestamp))

namespace WatchRun

variable (E : LogEnv) (W : GrpcWire)

/-- The alerts of the records that were in the log at the start, then those of the sent events;
    an alert counts when its record is not older than `since`, or when it was sent after the
    call. -/
def required (rs : List ActionLogRecord) (w : WatchRun) (since : DateTime) (calledAt : Nat) :
    List DiscoveredAgent :=
  replayedAlerts W since rs ++
    select DiscoveryEvent.shadowAgent
      (fun i => decide (calledAt ≤ i) || loggedSince w.logged since i) w.system.manager.sent

/-- What the stream has delivered and what is queued for it are the required alerts, each one
    once. -/
def DeliversAll (rs : List ActionLogRecord) (w : WatchRun) : Prop :=
  ∀ since calledAt seen subscribed next, w.watch = .streaming since calledAt seen subscribed next →
    w.alerts ++ shadows (w.system.manager.sent.drop next) = w.required W rs since calledAt

/-- The stream has not fallen behind when it takes an event. -/
def NoLag (w : WatchRun) (event : WatchEvent) : Prop :=
  ∀ since calledAt seen subscribed next, event = .take →
    w.watch = .streaming since calledAt seen subscribed next →
    unread w.system.manager.sent next ≤ channelCapacity

/-- No alert falls between the two parts: at the subscription the required alerts were in the log
    when it was read, and no older alert gets a record later that is not older than `since`. -/
def Seamless (w : WatchRun) (event : WatchEvent) : Prop :=
  match w.watch, event with
  | .replayed since calledAt seen, .subscribe =>
    ∀ i agent, w.system.manager.sent[i]? = some (.shadow agent) →
      (calledAt ≤ i ∨ loggedSince w.logged since i = true) → loggedSince seen since i = true
  | .streaming since _ _ subscribed _, .system event =>
    ∀ i timestamp, (i, timestamp) ∈ w.system.appended event → i < subscribed → timestamp < since
  | _, _ => True

end WatchRun

/-! ## The worker's place -/

namespace AlertSystem

variable {E : LogEnv} {s : AlertSystem}

/-- The events before this position are appended or passed over. -/
def reached (s : AlertSystem) : Nat :=
  match s.worker with
  | .spawned => s.manager.sent.length
  | .receiving _ next | .ended _ next => next
  | .appending _ next _ => next - 1

/-- The worker is not ahead of the channel, and has an alert in hand that was sent. -/
structure Placed (s : AlertSystem) : Prop where
  reached_le : s.reached ≤ s.manager.sent.length
  inHand : ∀ since next agent, s.worker = .appending since next agent →
    0 < next ∧ s.manager.sent[next - 1]? = some (.shadow agent)

/-- More events are sent. -/
theorem Placed.manages (h : s.Placed) {m : DiscoveryManager} (hsent : s.manager.sent <+: m.sent) :
    ({ s with manager := m } : AlertSystem).Placed ∧
      s.reached ≤ ({ s with manager := m } : AlertSystem).reached := by
  have hlength := hsent.length_le
  have hplace := h.reached_le
  refine ⟨⟨?_, ?_⟩, ?_⟩
  · -- the worker stands where it stood, in a longer channel
    cases hworker : s.worker <;> simp only [reached, hworker] at hplace ⊢ <;> omega
  · intro since next agent hworker
    obtain ⟨hpos, hagent⟩ := h.inHand since next agent hworker
    obtain ⟨more, hmore⟩ := hsent
    refine ⟨hpos, ?_⟩
    -- what it has in hand is where it was
    have hlt := (List.getElem?_eq_some_iff.mp hagent).1
    show m.sent[next - 1]? = _
    rw [← hmore, List.getElem?_append_left hlt]
    exact hagent
  · cases hworker : s.worker <;> simp only [reached, hworker] <;> omega

/-- The worker moves forward. -/
theorem Placed.receive (h : s.Placed) : s.receive.Placed ∧ s.reached ≤ s.receive.reached := by
  unfold AlertSystem.receive
  cases hworker : s.worker with
  | spawned | appending | ended => exact ⟨h, le_rfl⟩
  | receiving since next =>
    have hplace := h.reached_le
    simp only [reached, hworker] at hplace
    rcases recv_cases channelCapacity s.manager.sent next with
      ⟨-, hrecv⟩ | ⟨-, hrecv⟩ | ⟨event, hevent, -, hrecv⟩
    · simp only [hrecv]
      exact ⟨h, le_rfl⟩
    · -- after a lag the worker has nothing in hand
      simp only [hrecv]
      refine ⟨⟨hplace, ?_⟩, by simp [reached, hworker]⟩
      intro since' next' agent h
      cases h
    · have hlt := (List.getElem?_eq_some_iff.mp hevent).1
      simp only [hrecv]
      -- the worker moves on by one event, and keeps an alert in hand
      cases event with
      | presence agent =>
        refine ⟨⟨hlt, ?_⟩, by simp [reached, hworker]⟩
        intro since' next' agent h
        cases h
      | shadow agent =>
        refine ⟨⟨hplace, ?_⟩, by simp [reached, hworker]⟩
        intro since' next' agent' h
        cases h
        exact ⟨Nat.succ_pos next, hevent⟩

/-- What a step appends: nothing, and the log is the same, or the alert in hand. -/
theorem appended_cases (s : AlertSystem) (event : AlertEvent) :
    (s.appended event = [] ∧ (s.step E event).actionLog = s.actionLog) ∨
    ∃ since next agent recordId timestamp, s.worker = .appending since next agent ∧
      event = .append recordId timestamp ∧ s.appended event = [(next - 1, timestamp)] := by
  cases event with
  | append recordId timestamp =>
    cases hworker : s.worker with
    | appending since next agent =>
      -- the alert in hand is at the position before the worker's
      right
      exact ⟨since, next, agent, recordId, timestamp, rfl, rfl, by simp [appended, hworker]⟩
    | spawned | receiving | ended =>
      left
      simp [appended, AlertSystem.step, hworker]
  | reportPresence =>
    -- nothing else writes to the log
    left
    cases hworker : s.worker <;> simp [appended, AlertSystem.step, hworker]
  | registerAgent =>
    left
    cases hworker : s.worker <;> simp [appended, AlertSystem.step, hworker]
  | subscribe =>
    left
    cases hworker : s.worker <;> simp [appended, AlertSystem.step, hworker]
  | receive =>
    left
    cases hworker : s.worker with
    | spawned | appending | ended =>
      simp [appended, AlertSystem.step, AlertSystem.receive, hworker]
    | receiving since next =>
      simp only [appended, AlertSystem.step, AlertSystem.receive, hworker]
      refine ⟨trivial, ?_⟩
      split <;> rfl

/-- **Place**: over every step the worker moves forward, and past what it appends. -/
theorem Placed.step (h : s.Placed) (event : AlertEvent) :
    (s.step E event).Placed ∧ s.reached ≤ (s.step E event).reached ∧
      ∀ entry ∈ s.appended event, s.reached ≤ entry.1 ∧ entry.1 < (s.step E event).reached := by
  -- a step that appends nothing only moves the channel or the worker
  rcases s.appended_cases (E := E) event with ⟨hnone, -⟩ | hone
  · rw [hnone]
    refine and_assoc.mp ⟨?_, by simp⟩
    cases event with
    | reportPresence did name address source firstSeen lastSeen =>
      exact h.manages (s.manager.sent_reportPresence did name address source firstSeen lastSeen)
    | registerAgent did => exact h.manages (s.manager.sent_registerAgent did)
    | receive => exact h.receive
    | subscribe =>
      unfold AlertSystem.step
      cases hworker : s.worker with
      | spawned =>
        -- the worker begins at the end of the channel
        refine ⟨⟨le_rfl, ?_⟩, by simp [reached, hworker]⟩
        intro since next agent h
        cases h
      | receiving | appending | ended => exact ⟨h, le_rfl⟩
    | append recordId timestamp =>
      unfold AlertSystem.step
      cases hworker : s.worker with
      | appending since next agent => simp [appended, hworker] at hnone
      | spawned | receiving | ended => exact ⟨h, le_rfl⟩
  -- the alert in hand stands at `next - 1`, where the worker was
  · obtain ⟨since, next, agent, recordId, timestamp, hworker, rfl, happended⟩ := hone
    obtain ⟨hpos, hagent⟩ := h.inHand since next agent hworker
    have hlt := (List.getElem?_eq_some_iff.mp hagent).1
    simp only [AlertSystem.step, hworker, happended, List.mem_singleton, forall_eq]
    refine ⟨⟨?_, ?_⟩, ?_, ?_⟩
    · show next ≤ s.manager.sent.length
      omega
    · intro since' next' agent' h
      cases h
    · simp [reached, hworker]
    · simp only [reached, hworker]
      omega

end AlertSystem

/-! ## Logged alerts -/

theorem loggedSince_iff {logged : List (Nat × DateTime)} {since : DateTime} {i : Nat} :
    loggedSince logged since i = true ↔ ∃ timestamp, (i, timestamp) ∈ logged ∧ since ≤ timestamp := by
  simp only [loggedSince, List.any_eq_true, Bool.and_eq_true, decide_eq_true_eq, Prod.exists]
  constructor
  · rintro ⟨j, timestamp, hmem, rfl, hle⟩
    exact ⟨timestamp, hmem, hle⟩
  · rintro ⟨timestamp, hmem, hle⟩
    exact ⟨i, timestamp, hmem, rfl, hle⟩

theorem loggedSince_append (logged more : List (Nat × DateTime)) (since : DateTime) (i : Nat) :
    loggedSince (logged ++ more) since i = (loggedSince logged since i || loggedSince more since i) :=
  List.any_append

theorem loggedSince_mono {logged more : List (Nat × DateTime)} (h : ∀ entry ∈ logged, entry ∈ more)
    {since : DateTime} {i : Nat} (hi : loggedSince logged since i = true) :
    loggedSince more since i = true := by
  obtain ⟨timestamp, hmem, hle⟩ := loggedSince_iff.mp hi
  exact loggedSince_iff.mpr ⟨timestamp, h _ hmem, hle⟩

theorem lt_of_loggedSince {logged : List (Nat × DateTime)} {k : Nat}
    (h : ∀ entry ∈ logged, entry.1 < k) {since : DateTime} {i : Nat}
    (hi : loggedSince logged since i = true) : i < k := by
  obtain ⟨timestamp, hmem, -⟩ := loggedSince_iff.mp hi
  exact h _ hmem

section
variable {W : GrpcWire}

theorem replayedAlerts_append (since : DateTime) (rs more : List ActionLogRecord) :
    replayedAlerts W since (rs ++ more) = replayedAlerts W since rs ++ replayedAlerts W since more := by
  rw [replayedAlerts, List.filter_append, ServerState.replayedShadows, List.filterMap_append]
  rfl

/-- The record of an alert is replayed as that alert. -/
theorem replayedAlerts_alertRecord (hjson : ∀ event, W.eventFromJson event.toJson = some event)
    (log : FileActionLog) (recordId : Uuid) (since timestamp : DateTime) (agent : DiscoveredAgent) :
    replayedAlerts W since [log.stored (alertRecord recordId timestamp agent)] =
      if since ≤ timestamp then [agent] else [] := by
  have houtcome : (log.stored (alertRecord recordId timestamp agent)).outcome =
      .discoveryEvent (DiscoveryEvent.shadow agent).toJson := rfl
  rw [replayedAlerts, List.filter_cons, List.filter_nil]
  by_cases hle : since ≤ timestamp
  · -- the record is read back as the alert that it was written for
    have hkept : decide (since ≤ (log.stored (alertRecord recordId timestamp agent)).timestamp) =
        true := decide_eq_true hle
    rw [if_pos hkept, if_pos hle]
    simp only [ServerState.replayedShadows, List.filterMap_cons, houtcome, hjson, List.filterMap_nil]
  · -- an older record is not replayed
    have hdropped : ¬ decide (since ≤ (log.stored (alertRecord recordId timestamp agent)).timestamp) =
        true := fun h => hle (of_decide_eq_true h)
    rw [if_neg hdropped, if_neg hle]
    rfl

end

/-! ## The invariant -/

namespace WatchRun

/-- What the call knows: the log as it was read, and what was delivered so far. -/
def Watching (W : GrpcWire) (rs : List ActionLogRecord) (w : WatchRun) : Prop :=
  match w.watch with
  | .idle => True
  | .called _ calledAt => calledAt ≤ w.system.manager.sent.length
  | .replayed since calledAt seen =>
    calledAt ≤ w.system.manager.sent.length ∧ (∀ entry ∈ seen, entry ∈ w.logged) ∧
      w.alerts = replayedAlerts W since rs ++
        select DiscoveryEvent.shadowAgent (loggedSince seen since) w.system.manager.sent
  | .streaming since calledAt seen subscribed next =>
    calledAt ≤ subscribed ∧ subscribed ≤ next ∧ next ≤ w.system.manager.sent.length ∧
      (∀ entry ∈ seen, entry ∈ w.logged ∧ entry.1 < subscribed) ∧
      w.alerts ++ shadows (w.system.manager.sent.drop next) =
        replayedAlerts W since rs ++
          select DiscoveryEvent.shadowAgent (loggedSince seen since) w.system.manager.sent ++
          shadows (w.system.manager.sent.drop subscribed)

/-- The log holds the given records and the logged alerts. -/
structure Sound (E : LogEnv) (W : GrpcWire) (rs : List ActionLogRecord) (w : WatchRun) : Prop where
  log : ∃ rs', Stored E rs' w.system.actionLog ∧ ∀ since, replayedAlerts W since rs' =
    replayedAlerts W since rs ++
      select DiscoveryEvent.shadowAgent (loggedSince w.logged since) w.system.manager.sent
  placed : w.system.Placed
  logged_lt : ∀ entry ∈ w.logged, entry.1 < w.system.reached
  watching : w.Watching W rs

variable {E : LogEnv} {W : GrpcWire} {rs : List ActionLogRecord} {w : WatchRun}

theorem Sound.logged_lt_length (h : w.Sound E W rs) :
    ∀ entry ∈ w.logged, entry.1 < w.system.manager.sent.length :=
  fun entry hentry => (h.logged_lt entry hentry).trans_le h.placed.reached_le

/-- An alert in hand is the next one of the log. -/
theorem Sound.log_step (hjson : ∀ event, W.eventFromJson event.toJson = some event)
    (h : w.Sound E W rs) (event : AlertEvent) :
    ∃ rs', Stored E rs' (w.system.step E event).actionLog ∧ ∀ since, replayedAlerts W since rs' =
      replayedAlerts W since rs ++
        select DiscoveryEvent.shadowAgent (loggedSince (w.logged ++ w.system.appended event) since)
          (w.system.step E event).manager.sent := by
  obtain ⟨rs', hlog, hreplay⟩ := h.log
  -- positions in `logged` are old ones, so new events at the end are not selected
  rcases w.system.appended_cases (E := E) event with ⟨hnone, hsame⟩ | hone
  · refine ⟨rs', by rw [hsame]; exact hlog, ?_⟩
    intro since
    rw [hnone, List.append_nil, AlertSystem.sent_step,
      select_append_of_lt _ fun i => lt_of_loggedSince h.logged_lt_length]
    exact hreplay since
  · obtain ⟨worker, next, agent, recordId, timestamp, hworker, rfl, happended⟩ := hone
    have hagent := (h.placed.inHand worker next agent hworker).2
    have hreached : w.system.reached = next - 1 := by rw [AlertSystem.reached, hworker]
    have hsent : (w.system.step E (.append recordId timestamp)).manager.sent =
        w.system.manager.sent := by
      simp only [AlertSystem.step, hworker]
    have hstored : Stored E (rs' ++ [w.system.actionLog.stored (alertRecord recordId timestamp agent)])
        (w.system.step E (.append recordId timestamp)).actionLog := by
      simp only [AlertSystem.step, hworker]
      exact hlog.append (alertRecord recordId timestamp agent)
    refine ⟨_, hstored, ?_⟩
    intro since
    -- what is left is the selection before and after the new entry of `logged`
    rw [replayedAlerts_append, hreplay since, replayedAlerts_alertRecord hjson, hsent, happended,
      List.append_assoc]
    congr 1
    by_cases hle : since ≤ timestamp
    · -- the record adds its alert behind those that were selected
      have hbelow : ∀ i, loggedSince w.logged since i = true → i < next - 1 := by
        intro i hi
        rw [← hreached]
        exact lt_of_loggedSince h.logged_lt hi
      rw [if_pos hle]
      refine (select_insert hagent hbelow).symm.trans ?_
      apply select_congr
      intro i x _ _
      rw [loggedSince_append]
      simp [loggedSince, hle, eq_comm]
    · rw [if_neg hle, List.append_nil]
      apply select_congr
      intro i x _ _
      rw [loggedSince_append]
      simp [loggedSince, hle]

/-- More events are sent and logged. -/
theorem Sound.watching_step (h : w.Sound E W rs) (event : AlertEvent) :
    ({ w with
        system := w.system.step E event
        logged := w.logged ++ w.system.appended event } : WatchRun).Watching W rs := by
  have hwatching := h.watching
  have hlength : w.system.manager.sent.length ≤ (w.system.step E event).manager.sent.length := by
    rw [AlertSystem.sent_step, List.length_append]
    exact Nat.le_add_right _ _
  unfold Watching at hwatching ⊢
  cases hwatch : w.watch with
  | idle =>
    -- no stream is open
    trivial
  | called since calledAt =>
    rw [hwatch] at hwatching
    exact hwatching.trans hlength
  | replayed since calledAt seen =>
    -- what was read of the log is in it still
    rw [hwatch] at hwatching
    obtain ⟨hcalled, hseen, halerts⟩ := hwatching
    refine ⟨hcalled.trans hlength, fun entry hentry => List.mem_append_left _ (hseen entry hentry), ?_⟩
    -- and all of it was sent before this step
    have hseen_lt : ∀ entry ∈ seen, entry.1 < w.system.manager.sent.length :=
      fun entry hentry => h.logged_lt_length entry (hseen entry hentry)
    rw [AlertSystem.sent_step, select_append_of_lt _ fun i => lt_of_loggedSince hseen_lt]
    exact halerts
  | streaming since calledAt seen subscribed next =>
    rw [hwatch] at hwatching
    obtain ⟨hcalled, hsubscribed, hnext, hseen, halerts⟩ := hwatching
    refine ⟨hcalled, hsubscribed, hnext.trans hlength, ?_, ?_⟩
    · exact fun entry hentry => ⟨List.mem_append_left _ (hseen entry hentry).1, (hseen entry hentry).2⟩
    · have hseen_lt : ∀ entry ∈ seen, entry.1 < w.system.manager.sent.length :=
        fun entry hentry => (hseen entry hentry).2.trans_le (hsubscribed.trans hnext)
      -- what is sent now is queued for the stream, and was not in the log when it was read
      rw [AlertSystem.sent_step, select_append_of_lt _ fun i => lt_of_loggedSince hseen_lt,
        List.drop_append_of_le_length hnext, List.drop_append_of_le_length (hsubscribed.trans hnext),
        shadows_append, shadows_append, ← List.append_assoc, ← List.append_assoc]
      exact congrArg (· ++ _) halerts

/-- Reading the log delivers the logged alerts. -/
theorem Sound.initialAlerts (h : w.Sound E W rs) (since : DateTime) :
    w.initialAlerts E W since = replayedAlerts W since rs ++
      select DiscoveryEvent.shadowAgent (loggedSince w.logged since) w.system.manager.sent := by
  obtain ⟨rs', hlog, hreplay⟩ := h.log
  rw [WatchRun.initialAlerts, hlog.replaySince, ← hreplay since]
  rfl

/-- Without falling behind, the next event is taken from the queue. -/
theorem Sound.take (h : w.Sound E W rs) (hlag : w.NoLag .take) : w.take.Sound E W rs := by
  have hwatching := h.watching
  unfold WatchRun.take
  cases hwatch : w.watch with
  | idle | called | replayed => exact h
  | streaming since calledAt seen subscribed next =>
    unfold Watching at hwatching
    rw [hwatch] at hwatching
    obtain ⟨hcalled, hsubscribed, hnext, hseen, halerts⟩ := hwatching
    rcases recv_cases channelCapacity w.system.manager.sent next with
      ⟨-, hrecv⟩ | ⟨hbehind, -⟩ | ⟨event, hevent, -, hrecv⟩
    · -- nothing to take
      simpa only [hrecv] using h
    -- falling behind is excluded
    · exact absurd (hlag _ _ _ _ _ rfl hwatch) (Nat.not_le.mpr hbehind)
    · have hlt := (List.getElem?_eq_some_iff.mp hevent).1
      simp only [hrecv]
      refine ⟨h.log, h.placed, h.logged_lt, hcalled, hsubscribed.trans (Nat.le_succ next), hlt, hseen, ?_⟩
      -- an alert goes from the queue to the stream
      have hdrop : shadows (w.system.manager.sent.drop next) =
          event.shadowAgent.toList ++ shadows (w.system.manager.sent.drop (next + 1)) := by
        rw [drop_eq_cons hevent]
        cases event <;> rfl
      rw [← halerts, hdrop]
      exact List.append_assoc _ _ _

/-- **Invariant**: every step keeps it, as long as the stream does not fall behind. -/
theorem Sound.step (hjson : ∀ event, W.eventFromJson event.toJson = some event)
    (h : w.Sound E W rs) {event : WatchEvent} (hlag : w.NoLag event) :
    (w.step E W event).Sound E W rs := by
  cases event with
  | system event =>
    -- everything logged lies behind the worker, which only moves forward
    obtain ⟨hplaced, hforward, happended⟩ := h.placed.step (E := E) event
    refine ⟨h.log_step hjson event, hplaced, ?_, h.watching_step event⟩
    intro entry hentry
    rcases List.mem_append.mp hentry with hold | hnew
    · exact (h.logged_lt entry hold).trans_le hforward
    · exact (happended entry hnew).2
  | take => exact h.take hlag
  | call since =>
    unfold WatchRun.step
    cases hwatch : w.watch with
    | idle =>
      -- the call is made at the end of the channel
      exact ⟨h.log, h.placed, h.logged_lt, le_rfl⟩
    | called | replayed | streaming => exact h
  | replay =>
    unfold WatchRun.step
    cases hwatch : w.watch with
    | called since calledAt =>
      have hwatching := h.watching
      unfold Watching at hwatching
      rw [hwatch] at hwatching
      -- the replay reads the whole log
      exact ⟨h.log, h.placed, h.logged_lt, hwatching, fun entry hentry => hentry,
        h.initialAlerts since⟩
    | idle | replayed | streaming => exact h
  | subscribe =>
    unfold WatchRun.step
    cases hwatch : w.watch with
    | replayed since calledAt seen =>
      have hwatching := h.watching
      unfold Watching at hwatching
      rw [hwatch] at hwatching
      obtain ⟨hcalled, hseen, halerts⟩ := hwatching
      -- nothing is queued yet, and what was read was sent before
      refine ⟨h.log, h.placed, h.logged_lt, hcalled, le_rfl, le_rfl, ?_, ?_⟩
      · exact fun entry hentry => ⟨hseen entry hentry, h.logged_lt_length entry (hseen entry hentry)⟩
      · exact congrArg (· ++ _) halerts
    | idle | called | streaming => exact h

/-! ## The two parts of the stream -/

/-- The required alerts that were sent before the subscription were in the log when it was read. -/
def Complete (w : WatchRun) : Prop :=
  ∀ since calledAt seen subscribed next, w.watch = .streaming since calledAt seen subscribed next →
    ∀ i agent, i < subscribed → w.system.manager.sent[i]? = some (.shadow agent) →
      (calledAt ≤ i ∨ loggedSince w.logged since i = true) → loggedSince seen since i = true

/-- The stream delivers everything when nothing is missing from its first part. -/
theorem Sound.deliversAll_iff (h : w.Sound E W rs) : w.DeliversAll W rs ↔ w.Complete := by
  unfold DeliversAll Complete
  refine forall_congr' fun since => forall_congr' fun calledAt => forall_congr' fun seen => ?_
  refine forall_congr' fun subscribed => forall_congr' fun next => forall_congr' fun hwatch => ?_
  have hwatching := h.watching
  unfold Watching at hwatching
  rw [hwatch] at hwatching
  obtain ⟨hcalled, hsubscribed, hnext, hseen, halerts⟩ := hwatching
  have hle : subscribed ≤ w.system.manager.sent.length := hsubscribed.trans hnext
  have hlength : (w.system.manager.sent.take subscribed).length = subscribed := by
    rw [List.length_take, Nat.min_eq_left hle]
  -- both are the replayed alerts, a selection before the subscription, and all alerts after it
  -- the replay selects from what was sent before the subscription
  have hfirst : select DiscoveryEvent.shadowAgent (loggedSince seen since) w.system.manager.sent =
      select DiscoveryEvent.shadowAgent (loggedSince seen since)
        (w.system.manager.sent.take subscribed) := by
    conv_lhs => rw [← List.take_append_drop subscribed w.system.manager.sent]
    apply select_append_of_lt
    rw [hlength]
    exact fun i => lt_of_loggedSince fun entry hentry => (hseen entry hentry).2
  have hrequired := select_split (f := DiscoveryEvent.shadowAgent)
    w.system.manager.sent (k := subscribed) (p := fun i => decide (calledAt ≤ i) || loggedSince w.logged since i)
    (fun i hi => by simp [hcalled.trans hi])
  -- what was replayed is required
  have hmono : ∀ i, loggedSince seen since i = true →
      (decide (calledAt ≤ i) || loggedSince w.logged since i) = true := by
    intro i hi
    have hlogged := loggedSince_mono (fun entry hentry => (hseen entry hentry).1) hi
    simp [hlogged]
  -- so the two agree exactly when the selections before the subscription do
  rw [halerts, hfirst, required, hrequired, ← List.append_assoc]
  show _ ++ _ ++ (w.system.manager.sent.drop subscribed).filterMap DiscoveryEvent.shadowAgent = _ ↔ _
  rw [List.append_left_inj, List.append_right_inj, select_eq_iff hmono]
  constructor
  · intro hall i agent hi hagent hrequired
    refine hall i (.shadow agent) ?_ (by simp [DiscoveryEvent.shadowAgent]) (by simpa using hrequired)
    rw [List.getElem?_take_of_lt hi]
    exact hagent
  · intro hall i event hevent hshadow hrequired
    have hi : i < subscribed := by
      have hi := (List.getElem?_eq_some_iff.mp hevent).1
      rwa [hlength] at hi
    rw [List.getElem?_take_of_lt hi] at hevent
    cases event with
    | presence agent => exact absurd rfl hshadow
    | shadow agent => exact hall i agent hi hevent (by simpa using hrequired)

/-- Sending and logging keeps the first part complete unless it logs an alert that is missing
    there. -/
theorem Sound.complete_system_iff (h : w.Sound E W rs) (hcomplete : w.Complete)
    (event : AlertEvent) :
    (w.step E W (.system event)).Complete ↔ w.Seamless (.system event) := by
  cases hwatch : w.watch with
  | idle | called | replayed => simp [Complete, Seamless, WatchRun.step, hwatch]
  | streaming since calledAt seen subscribed next =>
    have hwatching := h.watching
    unfold Watching at hwatching
    rw [hwatch] at hwatching
    obtain ⟨-, hsubscribed, hnext, hseen, -⟩ := hwatching
    -- what was sent before the subscription is as before
    have hsent : ∀ i, i < subscribed →
        (w.system.step E event).manager.sent[i]? = w.system.manager.sent[i]? := by
      intro i hi
      rw [AlertSystem.sent_step, List.getElem?_append_left (by omega)]
    simp only [Seamless, hwatch]
    constructor
    · intro hnext i timestamp happended hi
      by_contra hlt
      obtain ⟨hfrom, -⟩ := (h.placed.step (E := E) event).2.2 _ happended
      -- the appended alert stands in the channel
      obtain ⟨agent, hagent⟩ : ∃ agent, w.system.manager.sent[i]? = some (.shadow agent) := by
        rcases w.system.appended_cases (E := E) event with ⟨hnone, -⟩ | hone
        · rw [hnone] at happended
          cases happended
        · obtain ⟨worker, next', agent, recordId, timestamp', hworker, -, hsome⟩ := hone
          rw [hsome, List.mem_singleton] at happended
          obtain ⟨rfl, -⟩ := Prod.mk.inj happended
          exact ⟨agent, (h.placed.inHand worker next' agent hworker).2⟩
      have hlogged : loggedSince (w.logged ++ w.system.appended event) since i = true :=
        loggedSince_iff.mpr ⟨timestamp, List.mem_append_right _ happended, not_lt.mp hlt⟩
      have hread := hnext since calledAt seen subscribed next hwatch i agent hi
        ((hsent i hi).trans hagent) (.inr hlogged)
      -- the worker appends in order, so this alert was not read before
      obtain ⟨timestamp', hmem, -⟩ := loggedSince_iff.mp hread
      exact absurd (h.logged_lt _ (hseen _ hmem).1) (Nat.not_lt.mpr hfrom)
    -- an alert that is required only since this step was appended by it, and is older than `since`
    · intro hseamless since' calledAt' seen' subscribed' next' hwatch' i agent hi hagent hrequired
      obtain ⟨rfl, rfl, rfl, rfl, rfl⟩ : since = since' ∧ calledAt = calledAt' ∧ seen = seen' ∧
          subscribed = subscribed' ∧ next = next' := by
        simpa using hwatch.symm.trans hwatch'
      apply hcomplete since calledAt seen subscribed next hwatch i agent hi
        ((hsent i hi).symm.trans hagent)
      refine hrequired.imp_right fun hlogged => ?_
      change loggedSince (w.logged ++ w.system.appended event) since i = true at hlogged
      rw [loggedSince_append, Bool.or_eq_true] at hlogged
      refine hlogged.resolve_right fun hnew => ?_
      obtain ⟨timestamp, hmem, hle⟩ := loggedSince_iff.mp hnew
      exact absurd hle (not_le.mpr (hseamless i timestamp hmem hi))

/-- **Step**: the first part of the stream stays complete exactly over seamless steps. -/
theorem Sound.complete_step_iff (h : w.Sound E W rs) (hcomplete : w.Complete) (event : WatchEvent) :
    (w.step E W event).Complete ↔ w.Seamless event := by
  cases event with
  | system event => exact h.complete_system_iff hcomplete event
  | call since =>
    cases hwatch : w.watch with
    | idle => simp [Complete, Seamless, WatchRun.step, hwatch]
    | called | replayed => simp [Complete, Seamless, WatchRun.step, hwatch]
    | streaming =>
      -- a second call of the same stream does nothing
      simpa [Seamless, WatchRun.step, hwatch] using hcomplete
  | replay =>
    cases hwatch : w.watch with
    | idle | called | replayed => simp [Complete, Seamless, WatchRun.step, hwatch]
    | streaming => simpa [Seamless, WatchRun.step, hwatch] using hcomplete
  | take =>
    -- taking from the queue does not change what was read
    refine iff_of_true ?_ (by unfold Seamless; split <;> trivial)
    show w.take.Complete
    unfold WatchRun.take
    split
    · rename_i since calledAt seen subscribed next hwatch
      split
      · exact hcomplete
      · intro since' calledAt' seen' subscribed' next' hwatch'
        cases hwatch'
        exact hcomplete _ _ _ _ _ hwatch
      · intro since' calledAt' seen' subscribed' next' hwatch'
        cases hwatch'
        exact hcomplete _ _ _ _ _ hwatch
    · exact hcomplete
  | subscribe =>
    cases hwatch : w.watch with
    | idle | called => simp [Complete, Seamless, WatchRun.step, hwatch]
    | streaming => simpa [Seamless, WatchRun.step, hwatch] using hcomplete
    | replayed since calledAt seen =>
      simp only [Seamless, hwatch, WatchRun.step]
      constructor
      -- at the subscription every sent event is an earlier one
      · intro hnext i agent hagent hrequired
        exact hnext since calledAt seen _ _ rfl i agent (List.getElem?_eq_some_iff.mp hagent).1
          hagent hrequired
      · intro hseamless since' calledAt' seen' subscribed' next' hwatch' i agent _ hagent hrequired
        cases hwatch'
        exact hseamless i agent hagent hrequired

end WatchRun

/-! ## Runs -/

open WatchRun

/-- **Streams**: over every interleaving, from a readable log and without a stream that falls
    behind, the stream delivers each required alert exactly once and in order, exactly when no
    alert falls between the reading of the log and the subscription. -/
theorem stream_complete_iff (E : LogEnv) (W : GrpcWire)
    (hjson : ∀ event : DiscoveryEvent, W.eventFromJson event.toJson = some event)
    (manager : DiscoveryManager) (actionLog : FileActionLog) (rs : List ActionLogRecord)
    (hlog : Stored E rs actionLog) (run : List WatchEvent)
    (hlag : AllSteps (WatchRun.step E W) NoLag ⟨⟨manager, actionLog, .spawned⟩, [], .idle, []⟩ run) :
    (∀ pre, pre <+: run →
      DeliversAll W rs
        (runFrom (WatchRun.step E W) ⟨⟨manager, actionLog, .spawned⟩, [], .idle, []⟩ pre)) ↔
    AllSteps (WatchRun.step E W) Seamless ⟨⟨manager, actionLog, .spawned⟩, [], .idle, []⟩ run := by
  have hsound : Sound E W rs ⟨⟨manager, actionLog, .spawned⟩, [], .idle, []⟩ := by
    -- before the first step there is nothing to deliver
    refine ⟨⟨rs, hlog, ?_⟩, ⟨le_rfl, ?_⟩, ?_, trivial⟩
    · intro since
      exact (congrArg (_ ++ ·) (select_false manager.sent)).trans (List.append_nil _) |>.symm
    · intro since next agent hworker
      cases hworker
    · intro entry hentry
      cases hentry
  -- sound states, in which delivering everything means that the first part is complete
  refine forall_prefix_iff_allSteps_of (I := Sound E W rs) ?_ ?_ hsound ?_ hlag
  · exact fun w event hlag h => h.step hjson hlag
  · intro w event hlag h hdelivers
    rw [(h.step hjson hlag).deliversAll_iff]
    exact h.complete_step_iff (h.deliversAll_iff.mp hdelivers) event
  · intro since calledAt seen subscribed next hwatch
    cases hwatch

/-! ## An alert between the two parts -/

/-- Serde's texts of events; nothing else is sent over gRPC. -/
noncomputable def eventWire : GrpcWire :=
  { silentWire with eventFromJson := eventOfJson }

/-- The daemon starts, and the worker runs. -/
noncomputable def watchStart : WatchRun :=
  ⟨⟨.new, blankLog, .spawned⟩, [], .idle, []⟩

/-- An agent is seen after the log was read and before the subscription. -/
def gapRun : List WatchEvent :=
  [.system .subscribe, .call 0, .replay, .system (firstReport 0), .subscribe]

theorem not_seamless_gap :
    ¬ AllSteps (WatchRun.step sampleEnv eventWire) Seamless watchStart gapRun := by
  obtain ⟨agent, hreport⟩ := DiscoveryManager.new.reportPresence_unknown (newcomer 0)
    rfl "agent" "127.0.0.1:9000" .active 0 0
  rintro ⟨-, -, -, -, hseamless, -⟩
  have hagent : (DiscoveryManager.new.reportPresence (newcomer 0) "agent" "127.0.0.1:9000" .active 0
      0).sent[0]? = some (.shadow agent) := by
    rw [hreport]
    rfl
  have hread := hseamless 0 agent hagent (.inl le_rfl)
  cases hread

/-- The witness: on that run the stream does not deliver the alert. -/
theorem stream_complete_gap :
    (∀ event : DiscoveryEvent, eventWire.eventFromJson event.toJson = some event) ∧
    Stored sampleEnv [] blankLog ∧
    AllSteps (WatchRun.step sampleEnv eventWire) NoLag watchStart gapRun ∧
    ¬ ∀ pre, pre <+: gapRun →
      DeliversAll eventWire [] (runFrom (WatchRun.step sampleEnv eventWire) watchStart pre) := by
  have hlog : Stored sampleEnv [] blankLog := FileActionLog.stored_open .blank rfl
  have hlag : AllSteps (WatchRun.step sampleEnv eventWire) NoLag watchStart gapRun := by
    simp [AllSteps, gapRun, NoLag]
  refine ⟨eventOfJson_toJson, hlog, hlag, ?_⟩
  intro h
  -- by the theorem a complete stream would have no gap
  exact not_seamless_gap ((stream_complete_iff sampleEnv eventWire eventOfJson_toJson .new blankLog []
    hlog gapRun hlag).mp h)

/-- A stream can miss an alert that is sent after the call. -/
theorem stream_not_complete :
    ¬ ∀ (E : LogEnv) (W : GrpcWire),
      (∀ event : DiscoveryEvent, W.eventFromJson event.toJson = some event) →
      ∀ run : List WatchEvent,
        AllSteps (WatchRun.step E W) NoLag ⟨⟨.new, .open E .blank, .spawned⟩, [], .idle, []⟩ run →
        DeliversAll W [] (runFrom (WatchRun.step E W)
          ⟨⟨.new, .open E .blank, .spawned⟩, [], .idle, []⟩ run) := by
  intro h
  have hlag : AllSteps (WatchRun.step sampleEnv eventWire) NoLag watchStart gapRun := by
    simp [AllSteps, gapRun, NoLag]
  have hdelivers : DeliversAll eventWire []
      (runFrom (WatchRun.step sampleEnv eventWire) watchStart gapRun) :=
    h sampleEnv eventWire eventOfJson_toJson gapRun hlag
  -- the first report of an unknown agent is an alert
  obtain ⟨agent, hreport⟩ := DiscoveryManager.new.reportPresence_unknown (newcomer 0)
    rfl "agent" "127.0.0.1:9000" .active 0 0
  simp only [gapRun, runFrom_cons, runFrom_nil] at hdelivers
  have hall := hdelivers 0 0 [] 1 1 (by
    simp only [WatchRun.step, watchStart, AlertSystem.step, firstReport, hreport]
    rfl)
  -- one alert is required, and none was delivered or is queued
  have hlength := congrArg List.length hall
  simp only [WatchRun.step, watchStart, AlertSystem.step, firstReport, hreport] at hlength
  cases hlength

end AgentGovernance.Daemon
