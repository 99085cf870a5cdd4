import AgentGovernance.Compliance.History
import AgentGovernance.Discovery.EventJson
import AgentGovernance.Lib.Broadcast
import AgentGovernance.Lib.Runs

/-!
# The background worker

The task in `AgentServer::run` that takes the discovery events from the broadcast channel and
keeps the shadow alerts in the action log.  Its loop ends with the first error, also when it
has only fallen behind.

`alerts_recorded_iff` says when the log has every alert of the worker's life.
-/

namespace AgentGovernance.Daemon

open AgentGovernance.Lib AgentGovernance.Mesh AgentGovernance.Compliance AgentGovernance.Discovery
open Broadcast (recv unread recv_cases drop_eq_cons)
open FileActionLog (Stored)

/-! ## The worker -/

/-- The capacity that `DiscoveryManager::new` gives the channel. -/
def channelCapacity : Nat := 100

/-- Where the worker is: it subscribed at one position and takes the event at another one next. -/
inductive AlertWorker where
  | spawned
  | receiving (since next : Nat)
  | appending (since next : Nat) (agent : DiscoveredAgent)
  /-- The loop has ended. -/
  | ended (since next : Nat)

/-- The discovery manager with the sent events, the log and the worker. -/
structure AlertSystem where
  manager : DiscoveryManager
  actionLog : FileActionLog
  worker : AlertWorker

/-- A call of the discovery manager or a step of the worker. -/
inductive AlertEvent where
  | reportPresence (did : AgentDID) (name address : String) (source : DiscoverySource)
      (firstSeen lastSeen : DateTime)
  | registerAgent (did : String)
  | subscribe
  | receive
  | append (recordId : Uuid) (timestamp : DateTime)

def alertRecord (recordId : Uuid) (timestamp : DateTime) (agent : DiscoveredAgent) :
    ActionLogRecord where
  recordId := recordId
  agentDid := agent.did.toText
  action := "discovery_alert"
  resourceCategory := .unknown
  timestamp := timestamp
  outcome := .discoveryEvent (DiscoveryEvent.shadow agent).toJson
  prevHash := ""

namespace AlertSystem

variable (E : LogEnv)

/-- The worker takes an event; its loop goes on with an event only. -/
def receive (s : AlertSystem) : AlertSystem :=
  match s.worker with
  | .receiving since next =>
    match recv channelCapacity s.manager.sent next with
    | (.empty, _) => s
    | (.lagged, _) => { s with worker := .ended since next }
    | (.value (.presence _), next) => { s with worker := .receiving since next }
    | (.value (.shadow agent), next) => { s with worker := .appending since next agent }
  | _ => s

/-- A step; a step that the worker cannot take changes nothing. -/
def step (s : AlertSystem) (event : AlertEvent) : AlertSystem :=
  match event with
  | .reportPresence did name address source firstSeen lastSeen =>
    { s with manager := s.manager.reportPresence did name address source firstSeen lastSeen }
  | .registerAgent did => { s with manager := s.manager.registerAgent did }
  | .subscribe =>
    match s.worker with
    | .spawned =>
      { s with worker := .receiving s.manager.sent.length s.manager.sent.length }
    | _ => s
  | .receive => s.receive
  | .append recordId timestamp =>
    match s.worker with
    | .appending since next agent =>
      { s with
        actionLog := (s.actionLog.append E (alertRecord recordId timestamp agent) .ok).1
        worker := .receiving since next }
    | _ => s

/-! ## What the log should hold -/

/-- The worker subscribed at the position and can take no further step. -/
def Stalled (s : AlertSystem) (since : Nat) : Prop :=
  (∃ next, s.worker = .receiving since next ∧ s.manager.sent.length ≤ next) ∨
    ∃ next, s.worker = .ended since next

end AlertSystem

/-- The texts of the discovery events among the records. -/
def eventTexts (rs : List ActionLogRecord) : List String :=
  rs.filterMap fun r =>
    match r.outcome with
    | .discoveryEvent text => some text
    | _ => none

/-- The texts of the alerts about agents. -/
def alertTexts (agents : List DiscoveredAgent) : List String :=
  agents.map fun agent => (DiscoveryEvent.shadow agent).toJson

theorem eventTexts_append (rs more : List ActionLogRecord) :
    eventTexts (rs ++ more) = eventTexts rs ++ eventTexts more :=
  List.filterMap_append

theorem alertTexts_append (agents more : List DiscoveredAgent) :
    alertTexts (agents ++ more) = alertTexts agents ++ alertTexts more :=
  List.map_append

namespace AlertSystem

/-- When the worker can take no further step, the log holds one record for each shadow event sent
    after it subscribed, in their order, behind the given records. -/
def Recorded (E : LogEnv) (rs : List ActionLogRecord) (s : AlertSystem) : Prop :=
  ∀ since, s.Stalled since → ∃ rs', E.records.decodeLines s.actionLog.writer.file = some rs' ∧
    eventTexts rs' = eventTexts rs ++ alertTexts (shadows (s.manager.sent.drop since))

/-- The events that a step sends. -/
def emitted (E : LogEnv) (s : AlertSystem) (event : AlertEvent) : List DiscoveryEvent :=
  (s.step E event).manager.sent.drop s.manager.sent.length

/-- The worker has not fallen behind when it takes an event. -/
def Unlagged (s : AlertSystem) (event : AlertEvent) : Prop :=
  ∀ since next, event = .receive → s.worker = .receiving since next →
    unread s.manager.sent next ≤ channelCapacity

/-- No shadow event is lost: none is queued when the worker falls behind, and none is sent after
    its loop has ended. -/
def Kept (E : LogEnv) (s : AlertSystem) (event : AlertEvent) : Prop :=
  match s.worker, event with
  | .receiving _ next, .receive =>
    unread s.manager.sent next ≤ channelCapacity ∨ shadows (s.manager.sent.drop next) = []
  | .ended _ _, event => shadows (s.emitted E event) = []
  | _, _ => True

/-! ## The invariant -/

variable {E : LogEnv} {rs : List ActionLogRecord} {s : AlertSystem}

/-- What the worker has taken and not appended yet. -/
def pending (s : AlertSystem) : List DiscoveredAgent :=
  match s.worker with
  | .appending _ _ agent => [agent]
  | _ => []

/-- Where the worker subscribed, and what it takes next. -/
def positions (s : AlertSystem) : Option (Nat × Nat) :=
  match s.worker with
  | .spawned => none
  | .receiving since next | .appending since next _ | .ended since next => some (since, next)

/-- Before the worker subscribes the log gains nothing; afterwards the log, the alert in hand and
    the queued ones make up the alerts since then. -/
structure Accounted (rs rs' : List ActionLogRecord) (s : AlertSystem) : Prop where
  spawned : s.positions = none → eventTexts rs' = eventTexts rs
  next_le : ∀ since next, s.positions = some (since, next) → next ≤ s.manager.sent.length
  since_le : ∀ since next, s.positions = some (since, next) → since ≤ s.manager.sent.length
  alerts : ∀ since next, s.positions = some (since, next) →
    eventTexts rs' ++ alertTexts (s.pending ++ shadows (s.manager.sent.drop next)) =
      eventTexts rs ++ alertTexts (shadows (s.manager.sent.drop since))

/-- The log is readable and accounted for. -/
def Sound (E : LogEnv) (rs : List ActionLogRecord) (s : AlertSystem) : Prop :=
  ∃ rs', Stored E rs' s.actionLog ∧ s.Accounted rs rs'

/-- A call of the discovery manager queues further events, if any. -/
theorem Sound.manages (h : s.Sound E rs) {m : DiscoveryManager}
    (hsent : s.manager.sent <+: m.sent) : ({ s with manager := m } : AlertSystem).Sound E rs := by
  obtain ⟨rs', hlog, haccounted⟩ := h
  obtain ⟨more, hmore⟩ := hsent
  have hlength : s.manager.sent.length ≤ m.sent.length := by
    rw [← hmore, List.length_append]
    exact Nat.le_add_right _ _
  refine ⟨rs', hlog, haccounted.spawned, ?_, ?_, ?_⟩
  · exact fun since next h => (haccounted.next_le since next h).trans hlength
  · exact fun since next h => (haccounted.since_le since next h).trans hlength
  · intro since next hpositions
    have hsince := haccounted.since_le since next hpositions
    have hnext := haccounted.next_le since next hpositions
    have halerts := haccounted.alerts since next hpositions
    -- what was sent since is unread, and is counted on both sides
    show eventTexts rs' ++ alertTexts (s.pending ++ shadows (m.sent.drop next)) =
      eventTexts rs ++ alertTexts (shadows (m.sent.drop since))
    rw [← hmore, List.drop_append_of_le_length hsince, List.drop_append_of_le_length hnext,
      shadows_append, shadows_append, ← List.append_assoc s.pending,
      alertTexts_append _ (shadows more), alertTexts_append _ (shadows more), ← List.append_assoc,
      halerts, List.append_assoc]

theorem Sound.subscribe (h : s.Sound E rs) (hworker : s.worker = .spawned) :
    ({ s with worker := .receiving s.manager.sent.length s.manager.sent.length } :
      AlertSystem).Sound E rs := by
  obtain ⟨rs', hlog, haccounted⟩ := h
  refine ⟨rs', hlog, ?_, ?_, ?_, ?_⟩
  · intro hnone
    cases hnone
  · intro since next hpositions
    cases hpositions
    exact le_rfl
  · intro since next hpositions
    cases hpositions
    exact le_rfl
  · -- nothing sent before the subscription is owed to the worker
    intro since next hpositions
    cases hpositions
    rw [haccounted.spawned (by rw [positions, hworker])]
    rfl

/-- The worker moves on from one position to another one. -/
theorem Sound.moves (h : s.Sound E rs) {since next next' : Nat} {worker : AlertWorker}
    (hworker : s.positions = some (since, next))
    (hpositions : ({ s with worker := worker } : AlertSystem).positions = some (since, next'))
    (hle : next' ≤ s.manager.sent.length)
    (hpending : s.pending ++ shadows (s.manager.sent.drop next) =
      ({ s with worker := worker } : AlertSystem).pending ++ shadows (s.manager.sent.drop next')) :
    ({ s with worker := worker } : AlertSystem).Sound E rs := by
  obtain ⟨rs', hlog, haccounted⟩ := h
  refine ⟨rs', hlog, ?_, ?_, ?_, ?_⟩
  · intro hnone
    rw [hpositions] at hnone
    cases hnone
  · intro since' next'' h
    rw [hpositions] at h
    cases h
    exact hle
  · -- the position of the subscription does not move
    intro since' next'' h
    rw [hpositions] at h
    cases h
    exact haccounted.since_le since next hworker
  · intro since' next'' h
    rw [hpositions] at h
    cases h
    -- the alert in hand and the queue together are the same as before
    show eventTexts rs' ++ alertTexts (_ ++ shadows (s.manager.sent.drop next')) = _
    rw [← hpending]
    exact haccounted.alerts since next hworker

/-- Falling behind ends the loop where it is. -/
theorem Sound.receive (h : s.Sound E rs) : s.receive.Sound E rs := by
  unfold AlertSystem.receive
  cases hworker : s.worker with
  | spawned => exact h
  | appending since next agent => exact h
  | ended since next => exact h
  | receiving since next =>
    have hpositions : s.positions = some (since, next) := by rw [positions, hworker]
    have hpending : s.pending = [] := by rw [pending, hworker]
    rcases recv_cases channelCapacity s.manager.sent next with
      ⟨-, hrecv⟩ | ⟨-, hrecv⟩ | ⟨event, hevent, -, hrecv⟩
    · -- an empty queue makes the worker wait
      simpa only [hrecv] using h
    · -- after a lag the loop is over, and nothing was taken
      have hle : next ≤ s.manager.sent.length := by
        obtain ⟨rs', -, haccounted⟩ := h
        exact haccounted.next_le since next hpositions
      simp only [hrecv]
      exact h.moves hpositions rfl hle (by rw [hpending]; rfl)
    -- the event leaves the queue, and an alert stays in hand
    · have hle : next + 1 ≤ s.manager.sent.length :=
        (List.getElem?_eq_some_iff.mp hevent).1
      have hdrop := congrArg shadows (drop_eq_cons hevent)
      simp only [hrecv]
      cases event with
      | presence agent =>
        -- a presence event is skipped
        refine h.moves hpositions rfl hle ?_
        rw [hpending, hdrop]
        rfl
      | shadow agent =>
        refine h.moves hpositions rfl hle ?_
        rw [hpending, hdrop]
        rfl

/-- The alert in hand goes to the log. -/
theorem Sound.append (h : s.Sound E rs) {since next : Nat} {agent : DiscoveredAgent}
    (hworker : s.worker = .appending since next agent) (recordId : Uuid) (timestamp : DateTime) :
    ({ s with
        actionLog := (s.actionLog.append E (alertRecord recordId timestamp agent) .ok).1
        worker := .receiving since next } : AlertSystem).Sound E rs := by
  obtain ⟨rs', hlog, haccounted⟩ := h
  have hpositions : s.positions = some (since, next) := by rw [positions, hworker]
  have hpending : s.pending = [agent] := by rw [pending, hworker]
  have halerts := haccounted.alerts since next hpositions
  refine ⟨_, hlog.append (alertRecord recordId timestamp agent), ?_, ?_, ?_, ?_⟩
  · -- only the log and the worker change, so the positions are as before
    intro hnone
    cases hnone
  · intro since' next' h
    cases h
    exact haccounted.next_le since next hpositions
  · intro since' next' h
    cases h
    exact haccounted.since_le since next hpositions
  · intro since' next' h
    cases h
    -- the alert moves from the hand to the log
    have htext : eventTexts [s.actionLog.stored (alertRecord recordId timestamp agent)] =
        alertTexts [agent] := rfl
    rw [← halerts, hpending, eventTexts_append, htext, alertTexts_append [agent],
      ← List.append_assoc]
    rfl

/-- **Invariant**: every step keeps the log accounted for. -/
theorem Sound.step (h : s.Sound E rs) (event : AlertEvent) : (s.step E event).Sound E rs := by
  cases event with
  | reportPresence did name address source firstSeen lastSeen =>
    -- the manager sends, and the worker stands still
    exact h.manages (s.manager.sent_reportPresence did name address source firstSeen lastSeen)
  | registerAgent did => exact h.manages (s.manager.sent_registerAgent did)
  | receive => exact h.receive
  | subscribe =>
    unfold AlertSystem.step
    cases hworker : s.worker with
    | spawned => exact h.subscribe hworker
    | receiving | appending | ended => exact h
  | append recordId timestamp =>
    unfold AlertSystem.step
    cases hworker : s.worker with
    | appending since next agent =>
      -- an append is possible in one state of the worker only
      exact h.append hworker recordId timestamp
    | spawned | receiving | ended => exact h

/-! ## Lost alerts -/

/-- What was queued when the loop ended holds no alert. -/
def Lossless (s : AlertSystem) : Prop :=
  ∀ since next, s.worker = .ended since next → shadows (s.manager.sent.drop next) = []

/-- The log has every alert unless the loop ended in front of one. -/
theorem Sound.recorded_iff (h : s.Sound E rs) : s.Recorded E rs ↔ s.Lossless := by
  obtain ⟨rs', hlog, haccounted⟩ := h
  -- a worker that is stuck has no alert in hand
  have hpending : ∀ since, s.Stalled since → s.pending = [] := by
    rintro since (⟨next, hworker, -⟩ | ⟨next, hworker⟩) <;> rw [pending, hworker]
  constructor
  · intro h since next hworker
    have hstalled : s.Stalled since := .inr ⟨next, hworker⟩
    obtain ⟨rs'', hfile, htexts⟩ := h since hstalled
    obtain rfl : rs' = rs'' := Option.some.inj (hlog.decodeLines.symm.trans hfile)
    -- the accounts leave no room for a queued alert
    have halerts := haccounted.alerts since next (by rw [positions, hworker])
    rw [htexts, hpending since hstalled, List.nil_append] at halerts
    have hnone : alertTexts (shadows (s.manager.sent.drop next)) = [] :=
      List.append_right_eq_self.mp halerts
    exact List.map_eq_nil_iff.mp hnone
  · intro h since hstalled
    refine ⟨rs', hlog.decodeLines, ?_⟩
    -- nothing is queued, because all was taken or by hypothesis
    obtain ⟨next, hpositions, hqueued⟩ : ∃ next, s.positions = some (since, next) ∧
        shadows (s.manager.sent.drop next) = [] := by
      rcases hstalled with ⟨next, hworker, hle⟩ | ⟨next, hworker⟩
      · refine ⟨next, by rw [positions, hworker], ?_⟩
        rw [List.drop_eq_nil_of_le hle]
        rfl
      · exact ⟨next, by rw [positions, hworker], h since next hworker⟩
    have halerts := haccounted.alerts since next hpositions
    rw [hpending since hstalled, hqueued] at halerts
    rw [← halerts]
    exact (List.append_nil _).symm

/-- The loop ends by falling behind. -/
theorem worker_step_eq_ended {event : AlertEvent} {since next : Nat} :
    (s.step E event).worker = .ended since next ↔
      s.worker = .ended since next ∨
        (event = .receive ∧ s.worker = .receiving since next ∧
          channelCapacity < unread s.manager.sent next) := by
  cases event with
  | reportPresence =>
    -- nobody but the worker moves the worker
    simp [AlertSystem.step]
  | registerAgent => simp [AlertSystem.step]
  | subscribe => cases hworker : s.worker <;> simp [AlertSystem.step, hworker]
  | append => cases hworker : s.worker <;> simp [AlertSystem.step, hworker]
  | receive =>
    cases hworker : s.worker with
    | spawned => simp [AlertSystem.step, AlertSystem.receive, hworker]
    | appending => simp [AlertSystem.step, AlertSystem.receive, hworker]
    | ended => simp [AlertSystem.step, AlertSystem.receive, hworker]
    | receiving since' next' =>
      -- of the three answers of the channel only a lag ends the loop
      rcases recv_cases channelCapacity s.manager.sent next' with
        ⟨hle, hrecv⟩ | ⟨hlag, hrecv⟩ | ⟨taken, -, hle, hrecv⟩
      · -- with an empty queue there is no lag
        have hunread : unread s.manager.sent next' = 0 := Nat.sub_eq_zero_of_le hle
        simp only [AlertSystem.step, AlertSystem.receive, hworker, hrecv]
        simp only [reduceCtorEq, false_or, true_and, AlertWorker.receiving.injEq, false_iff]
        rintro ⟨⟨rfl, rfl⟩, hlag⟩
        rw [hunread] at hlag
        cases hlag
      · simp only [AlertSystem.step, AlertSystem.receive, hworker, hrecv]
        simp only [AlertWorker.ended.injEq, reduceCtorEq, false_or, true_and,
          AlertWorker.receiving.injEq]
        constructor
        · rintro ⟨rfl, rfl⟩
          exact ⟨⟨rfl, rfl⟩, hlag⟩
        · exact fun h => h.1
      · have hnot : ¬ channelCapacity < unread s.manager.sent next' := Nat.not_lt.mpr hle
        cases taken <;>
          simp only [AlertSystem.step, AlertSystem.receive, hworker, hrecv, reduceCtorEq, false_or,
            true_and, AlertWorker.receiving.injEq, false_iff] <;>
          rintro ⟨⟨rfl, rfl⟩, hlag⟩ <;>
          exact hnot hlag

/-- Events are added behind those sent before. -/
theorem sent_step (event : AlertEvent) :
    (s.step E event).manager.sent = s.manager.sent ++ s.emitted E event := by
  -- every step keeps what was sent
  have hprefix : s.manager.sent <+: (s.step E event).manager.sent := by
    cases event with
    | reportPresence did name address source firstSeen lastSeen =>
      exact s.manager.sent_reportPresence did name address source firstSeen lastSeen
    | registerAgent did => exact s.manager.sent_registerAgent did
    | subscribe =>
      unfold AlertSystem.step
      cases s.worker <;> exact List.prefix_refl _
    | append =>
      unfold AlertSystem.step
      cases s.worker <;> exact List.prefix_refl _
    | receive =>
      simp only [AlertSystem.step, AlertSystem.receive]
      -- receiving only reads
      split
      · split <;> exact List.prefix_refl _
      · exact List.prefix_refl _
  obtain ⟨more, hmore⟩ := hprefix
  rw [emitted, ← hmore, List.drop_left]

/-- **Step**: an alert is lost by falling behind in front of it, or by sending it too late. -/
theorem Sound.lossless_step_iff (h : s.Sound E rs) (hlossless : s.Lossless) (event : AlertEvent) :
    (s.step E event).Lossless ↔ s.Kept E event := by
  simp only [Lossless, worker_step_eq_ended, sent_step]
  cases hworker : s.worker with
  | spawned =>
    -- a worker that has not ended loses nothing by this step
    simp [Kept, hworker]
  | appending since next agent => simp [Kept, hworker]
  | ended since next =>
    have hqueued := hlossless since next hworker
    obtain ⟨rs', -, haccounted⟩ := h
    -- nothing takes from the queue any more, so what is sent now stays there
    have hnext := haccounted.next_le since next (by rw [positions, hworker])
    have hdrop : shadows ((s.manager.sent ++ s.emitted E event).drop next) =
        shadows (s.emitted E event) := by
      rw [List.drop_append_of_le_length hnext, shadows_append, hqueued, List.nil_append]
    simp [Kept, hworker, hdrop]
  | receiving since next =>
    cases event with
    | reportPresence => simp [Kept, hworker]
    | registerAgent => simp [Kept, hworker]
    | subscribe => simp [Kept, hworker]
    | append => simp [Kept, hworker]
    | receive =>
      -- receiving sends nothing
      have hnone : s.emitted E .receive = [] := by
        apply List.drop_eq_nil_of_le
        simp only [AlertSystem.step, AlertSystem.receive, hworker]
        split <;> exact le_rfl
      simp only [Kept, hworker, hnone, List.append_nil, reduceCtorEq, false_or, true_and,
        AlertWorker.receiving.injEq]
      constructor
      -- the loop ends in front of what was queued
      · intro hqueued
        by_cases hlag : channelCapacity < unread s.manager.sent next
        · exact .inr (hqueued since next ⟨⟨rfl, rfl⟩, hlag⟩)
        · exact .inl (Nat.not_lt.mp hlag)
      · rintro hkept since' next' ⟨⟨rfl, rfl⟩, hlag⟩
        exact hkept.resolve_left (Nat.not_le.mpr hlag)

/-- A worker that does not fall behind loses nothing. -/
theorem Unlagged.kept {event : AlertEvent} (h : s.Unlagged event)
    (hgoing : ∀ since next, s.worker ≠ .ended since next) : s.Kept E event := by
  unfold Kept
  split
  · rename_i since next hworker
    exact .inl (h since next rfl hworker)
  · rename_i since next hworker
    exact absurd hworker (hgoing since next)
  · trivial

theorem Unlagged.going {event : AlertEvent} (h : s.Unlagged event)
    (hgoing : ∀ since next, s.worker ≠ .ended since next) (since next : Nat) :
    (s.step E event).worker ≠ .ended since next := by
  rw [Ne, worker_step_eq_ended]
  rintro (hended | ⟨hevent, hworker, hlag⟩)
  · exact hgoing since next hended
  · exact absurd (h since next hevent hworker) (Nat.not_le.mpr hlag)

/-- Over a run without falling behind. -/
theorem allSteps_kept {run : List AlertEvent}
    (hgoing : ∀ since next, s.worker ≠ .ended since next)
    (h : AllSteps (AlertSystem.step E) Unlagged s run) :
    AllSteps (AlertSystem.step E) (Kept E) s run := by
  induction run generalizing s with
  | nil => trivial
  | cons event run ih =>
    obtain ⟨hunlagged, hrest⟩ := h
    exact ⟨hunlagged.kept hgoing, ih (hunlagged.going hgoing) hrest⟩

end AlertSystem

/-! ## Runs -/

open AlertSystem

/-- **Alerts**: over every interleaving, from a readable log, the log has each alert of the
    worker's life exactly once and in order whenever the worker can take no further step, exactly
    when no alert is queued where the worker falls behind and none is sent afterwards.  A worker
    that never falls behind loses none. -/
theorem alerts_recorded_iff (E : LogEnv) (manager : DiscoveryManager) (actionLog : FileActionLog)
    (rs : List ActionLogRecord) (hlog : Stored E rs actionLog) (run : List AlertEvent) :
    ((∀ pre, pre <+: run →
        Recorded E rs (runFrom (AlertSystem.step E) ⟨manager, actionLog, .spawned⟩ pre)) ↔
      AllSteps (AlertSystem.step E) (Kept E) ⟨manager, actionLog, .spawned⟩ run) ∧
    (AllSteps (AlertSystem.step E) Unlagged ⟨manager, actionLog, .spawned⟩ run →
      AllSteps (AlertSystem.step E) (Kept E) ⟨manager, actionLog, .spawned⟩ run) := by
  constructor
  · have hsound : Sound E rs ⟨manager, actionLog, .spawned⟩ := by
      refine ⟨rs, hlog, fun _ => rfl, ?_, ?_, ?_⟩
      · -- the worker has no position before it subscribes
        intro since next hpositions
        cases hpositions
      · intro since next hpositions
        cases hpositions
      · intro since next hpositions
        cases hpositions
    -- the worker's states are sound, and in a sound state recorded means lossless
    refine forall_prefix_iff_allSteps (I := Sound E rs) ?_ ?_ hsound ?_
    · exact fun s event h => h.step event
    · intro s event h hrecorded
      rw [(h.step event).recorded_iff]
      exact h.lossless_step_iff (h.recorded_iff.mp hrecorded) event
    · apply hsound.recorded_iff.mpr
      intro since next hworker
      cases hworker
  · apply allSteps_kept
    intro since next hworker
    cases hworker

/-! ## A burst -/

/-- An agent that nobody has seen. -/
def newcomer (n : Nat) : AgentDID where
  method := "mesh"
  uniqueId := "agent-" ++ Nat.repr n

theorem newcomer_injective {m n : Nat} (h : (newcomer m).toText = (newcomer n).toText) : m = n := by
  apply Nat.repr_injective
  rw [← String.toList_inj] at h ⊢
  simpa [AgentDID.toText, newcomer] using h

def firstReport (n : Nat) : AlertEvent :=
  .reportPresence (newcomer n) "agent" "127.0.0.1:9000" .active 0 0

/-- The first reports of some agents. -/
def burst (n : Nat) : List AlertEvent :=
  (List.range n).map firstReport

/-- A burst is queued while the worker does not run. -/
theorem runFrom_burst (E : LogEnv) (actionLog : FileActionLog) (worker : AlertWorker) (n : Nat) :
    ∃ manager, runFrom (AlertSystem.step E) ⟨.new, actionLog, worker⟩ (burst n) =
        ⟨manager, actionLog, worker⟩ ∧
      manager.sent.length = n ∧ (shadows manager.sent).length = n ∧
      ∀ k, n ≤ k → manager.agents.lookup (newcomer k).toText = none := by
  -- by induction on the length of the burst, each of whose agents is unknown
  induction n with
  | zero => exact ⟨.new, rfl, rfl, rfl, fun k _ => rfl⟩
  | succ n ih =>
    obtain ⟨manager, hrun, hlength, hshadows, hunknown⟩ := ih
    obtain ⟨agent, hreport⟩ := manager.reportPresence_unknown (newcomer n) (hunknown n le_rfl) "agent"
      "127.0.0.1:9000" .active 0 0
    refine ⟨manager.reportPresence (newcomer n) "agent" "127.0.0.1:9000" .active 0 0, ?_, ?_, ?_, ?_⟩
    · rw [burst, List.range_succ, List.map_append, runFrom_append]
      -- only the last report is new; the worker does not run
      change runFrom _ (runFrom _ _ (burst n)) _ = _
      rw [hrun]
      rfl
    · rw [hreport, List.length_append, hlength]
      rfl
    · rw [hreport, shadows_append, List.length_append, hshadows]
      rfl
    · intro k hk
      -- the agents that are still to come are other ones
      have hne : (newcomer k).toText ≠ (newcomer n).toText := by
        intro h
        exact absurd (newcomer_injective h) (by omega)
      rw [hreport, Finmap.lookup_insert_of_ne _ hne]
      exact hunknown k (by omega)

/-- The worker subscribes, and 129 agents are seen before it runs again, which is also more than the
    next power of two. -/
def burstRun : List AlertEvent :=
  .subscribe :: (burst 129 ++ [.receive])

/-- The log of a daemon that starts. -/
noncomputable def blankLog : FileActionLog := .open sampleEnv .blank

/-- The worker is behind, and its loop ends. -/
theorem runFrom_burstRun :
    ∃ manager, runFrom (AlertSystem.step sampleEnv) ⟨.new, blankLog, .spawned⟩ burstRun =
        ⟨manager, blankLog, .ended 0 0⟩ ∧ (shadows manager.sent).length = 129 := by
  obtain ⟨manager, hrun, hlength, hshadows, -⟩ :=
    runFrom_burst sampleEnv blankLog (.receiving 0 0) 129
  refine ⟨manager, ?_, hshadows⟩
  have hsubscribe : AlertSystem.step sampleEnv ⟨.new, blankLog, .spawned⟩ .subscribe =
      ⟨.new, blankLog, .receiving 0 0⟩ := rfl
  rw [burstRun, runFrom_cons, hsubscribe, runFrom_append, hrun, runFrom_cons, runFrom_nil]
  -- one more event than the channel keeps
  have hlag : channelCapacity < unread manager.sent 0 := by
    rw [unread, hlength]
    decide
  have hrecv : recv channelCapacity manager.sent 0 = (.lagged, manager.sent.length - channelCapacity) := by
    rcases recv_cases channelCapacity manager.sent 0 with ⟨hle, -⟩ | ⟨-, hrecv⟩ | ⟨-, -, hle, -⟩
    · rw [hlength] at hle
      cases hle
    · exact hrecv
    · exact absurd hlag (Nat.not_lt.mpr hle)
  simp only [AlertSystem.step, receive, hrecv]

/-- The burst is not recorded. -/
theorem not_kept_burst :
    ¬ AllSteps (AlertSystem.step sampleEnv) (Kept sampleEnv) ⟨.new, blankLog, .spawned⟩ burstRun := by
  obtain ⟨manager, hrun, hlength, hshadows, -⟩ :=
    runFrom_burst sampleEnv blankLog (.receiving 0 0) 129
  have hsubscribe : AlertSystem.step sampleEnv ⟨.new, blankLog, .spawned⟩ .subscribe =
      ⟨.new, blankLog, .receiving 0 0⟩ := rfl
  rw [burstRun, AllSteps, hsubscribe, allSteps_append, hrun]
  rintro ⟨-, -, hlast, -⟩
  rcases hlast with hle | hnone
  · -- the worker is behind by 129 events, and they are alerts
    rw [unread, hlength] at hle
    exact absurd hle (by decide)
  · rw [List.drop_zero] at hnone
    rw [hnone] at hshadows
    cases hshadows

/-- The witness: on the burst the alerts are not all recorded. -/
theorem alerts_recorded_burst :
    Stored sampleEnv [] blankLog ∧
    ¬ ∀ pre, pre <+: burstRun →
      Recorded sampleEnv [] (runFrom (AlertSystem.step sampleEnv) ⟨.new, blankLog, .spawned⟩ pre) := by
  have hlog : Stored sampleEnv [] blankLog := FileActionLog.stored_open .blank rfl
  refine ⟨hlog, ?_⟩
  intro h
  exact not_kept_burst ((alerts_recorded_iff sampleEnv .new blankLog [] hlog burstRun).1.mp h)

/-- A burst of first reports can leave no record. -/
theorem alerts_not_recorded :
    ¬ ∀ (E : LogEnv) (run : List AlertEvent),
      Recorded E [] (runFrom (AlertSystem.step E) ⟨.new, .open E .blank, .spawned⟩ run) := by
  intro h
  have hrecorded : Recorded sampleEnv []
      (runFrom (AlertSystem.step sampleEnv) ⟨.new, blankLog, .spawned⟩ burstRun) :=
    h sampleEnv burstRun
  obtain ⟨manager, hrun, hshadows⟩ := runFrom_burstRun
  rw [hrun] at hrecorded
  have hlog : Stored sampleEnv [] blankLog := FileActionLog.stored_open .blank rfl
  obtain ⟨rs', hfile, htexts⟩ := hrecorded 0 (.inr ⟨0, rfl⟩)
  -- the log has no record, where 129 are owed
  rw [hlog.decodeLines] at hfile
  obtain rfl := Option.some.inj hfile
  have hlength := congrArg List.length htexts
  rw [List.drop_zero, List.length_append, alertTexts, List.length_map, hshadows] at hlength
  cases hlength

end AgentGovernance.Daemon
