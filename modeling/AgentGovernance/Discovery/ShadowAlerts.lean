import AgentGovernance.Discovery.Manager
import AgentGovernance.Lib.Runs

/-!
# Shadow alerts

Which calls of `report_presence` and `register_agent` make the manager send `Shadow` events about
an agent.  A known agent is alerted about at most once more: when it was noticed first, reports
itself later, and has not been registered in between.

An agent is its DID as a text, which is the key of the map.  `alertLaws` holds of every run of
calls.
-/

namespace AgentGovernance.Discovery

open AgentGovernance.Lib AgentGovernance.Mesh

/-! ## Calls -/

/-- A call of the manager with its clock readings, the first of which is taken for a new agent
    only. -/
inductive ManagerCall where
  | reportPresence (did : AgentDID) (name address : String) (source : DiscoverySource)
      (firstSeen lastSeen : DateTime)
  | registerAgent (did : String)

namespace ManagerCall

/-- The source of a report of the agent. -/
def sourceFor (key : String) : ManagerCall → Option DiscoverySource
  | .reportPresence did _ _ source _ _ => if did.toText = key then some source else none
  | .registerAgent _ => none

/-- The call registers the agent. -/
def Registers (key : String) : ManagerCall → Prop
  | .reportPresence _ _ _ _ _ _ => False
  | .registerAgent did => did = key

/-- The clock readings of a call. -/
def readings : ManagerCall → List DateTime
  | .reportPresence _ _ _ _ firstSeen lastSeen => [firstSeen, lastSeen]
  | .registerAgent _ => []

end ManagerCall

namespace DiscoveryManager

/-- The manager after a call. -/
def step (m : DiscoveryManager) : ManagerCall → DiscoveryManager
  | .reportPresence did name address source firstSeen lastSeen =>
    m.reportPresence did name address source firstSeen lastSeen
  | .registerAgent did => m.registerAgent did

end DiscoveryManager

/-- A `Shadow` event about the agent. -/
def DiscoveryEvent.alerts (key : String) : DiscoveryEvent → Bool
  | .presence _ => false
  | .shadow agent => agent.did.toText = key

/-- The number of `Shadow` events about the agent. -/
def DiscoveryManager.shadows (m : DiscoveryManager) (key : String) : Nat :=
  m.sent.countP (·.alerts key)

/-! ## Histories -/

def Reported (key : String) (calls : List ManagerCall) : Prop :=
  ∃ call ∈ calls, call.sourceFor key ≠ none

/-- The first report of the agent was passive, and since then it has neither reported itself nor
    been registered. -/
def Awaited (key : String) (calls : List ManagerCall) : Prop :=
  ∃ pre first since, calls = pre ++ first :: since ∧
    (∀ call ∈ pre, call.sourceFor key = none) ∧ first.sourceFor key = some .passive ∧
    ∀ call ∈ since, call.sourceFor key ≠ some .active ∧ ¬ call.Registers key

/-- The first report of the agent was passive, and no registration lies between it and the first
    active report. -/
def Upgraded (key : String) (calls : List ManagerCall) : Prop :=
  ∃ past report later, calls = past ++ report :: later ∧ Awaited key past ∧
    report.sourceFor key = some .active

variable {key : String} {calls : List ManagerCall} {call : ManagerCall}

theorem reported_concat :
    Reported key (calls ++ [call]) ↔ Reported key calls ∨ call.sourceFor key ≠ none := by
  simp [Reported, or_and_right, exists_or]

theorem not_reported_iff : ¬ Reported key calls ↔ ∀ call ∈ calls, call.sourceFor key = none := by
  simp [Reported]

/-- The last call goes on waiting, or it is the first report. -/
theorem awaited_concat :
    Awaited key (calls ++ [call]) ↔
      (Awaited key calls ∧ call.sourceFor key ≠ some .active ∧ ¬ call.Registers key) ∨
        (¬ Reported key calls ∧ call.sourceFor key = some .passive) := by
  rw [Awaited, exists_split_concat_iff, Awaited, not_reported_iff, or_comm]
  apply or_congr
  · simp only [List.forall_mem_append, List.forall_mem_singleton, ← and_assoc,
      exists_and_right]
  · simp

/-- The last call is the active report, or an earlier one was. -/
theorem upgraded_concat :
    Upgraded key (calls ++ [call]) ↔
      Upgraded key calls ∨ (Awaited key calls ∧ call.sourceFor key = some .active) := by
  rw [Upgraded, exists_split_concat_iff, or_comm]
  rfl

/-- An upgraded agent was reported. -/
theorem Upgraded.reported (h : Upgraded key calls) : Reported key calls := by
  obtain ⟨past, report, later, rfl, -, hreport⟩ := h
  exact ⟨report, by simp, by simp [hreport]⟩

/-- An awaited agent was reported. -/
theorem Awaited.reported (h : Awaited key calls) : Reported key calls := by
  obtain ⟨pre, first, since, rfl, -, hfirst, -⟩ := h
  exact ⟨first, by simp, by simp [hfirst]⟩

/-! ## What a call does to one agent -/

/-- The entry of the agent before and after a call, and the number of alerts the call adds. -/
inductive Change (key : String) (call : ManagerCall) :
    Option DiscoveredAgent → Option DiscoveredAgent → Nat → Prop where
  | other (entry : Option DiscoveredAgent) (hsource : call.sourceFor key = none)
      (hregisters : ¬ call.Registers key) : Change key call entry entry 0
  | first (agent : DiscoveredAgent) (hsource : call.sourceFor key = some agent.source)
      (hregisters : ¬ call.Registers key) (hfirst : agent.firstSeen ∈ call.readings)
      (hseen : call.readings.Pairwise (· ≤ ·) → agent.firstSeen ≤ agent.lastSeen)
      (hmark : agent.isRegistered = false) : Change key call none (some agent) 1
  | again (found agent : DiscoveredAgent) (source : DiscoverySource)
      (hsource : call.sourceFor key = some source) (hregisters : ¬ call.Registers key)
      (hfirst : agent.firstSeen = found.firstSeen) (hlast : agent.lastSeen ∈ call.readings)
      (hmark : agent.isRegistered = found.isRegistered)
      (hagent : agent.source = if source = .active then .active else found.source) :
      Change key call (some found) (some agent)
        (if source = .active ∧ found.source = .passive ∧ found.isRegistered = false then 1 else 0)
  | registered (entry : Option DiscoveredAgent) (hsource : call.sourceFor key = none)
      (hregisters : call.Registers key) :
      Change key call entry (entry.map fun agent => { agent with isRegistered := true }) 0

namespace DiscoveryManager

theorem alerts_eventOf (entry : DiscoveredAgent) (key : String) :
    (eventOf entry).alerts key = true ↔ entry.did.toText = key ∧ entry.isRegistered = false := by
  cases hmark : entry.isRegistered <;> simp [eventOf, hmark, DiscoveryEvent.alerts]

/-- A report of the agent. -/
theorem change_own {m : DiscoveryManager} (hm : m.Keyed) (did : AgentDID) (name address : String)
    (source : DiscoverySource) (firstSeen lastSeen : DateTime) :
    ∃ n, Change did.toText (.reportPresence did name address source firstSeen lastSeen)
        (m.agents.lookup did.toText)
        ((m.reportPresence did name address source firstSeen lastSeen).agents.lookup did.toText)
        n ∧
      (m.reportPresence did name address source firstSeen lastSeen).shadows did.toText =
        m.shadows did.toText + n := by
  cases hfound : m.agents.lookup did.toText with
  | none =>
    -- the agent is new
    rw [m.reportPresence_new did hfound]
    refine ⟨1, ?_, by simp [shadows, DiscoveryEvent.alerts]⟩
    rw [Finmap.lookup_insert]
    exact .first _ (by simp [ManagerCall.sourceFor]) id (by simp [ManagerCall.readings])
      (by simp [ManagerCall.readings]) rfl
  | some found =>
    have hdid : found.did.toText = did.toText := hm _ _ hfound
    rw [m.reportPresence_known did hfound, Finmap.lookup_insert]
    refine ⟨_, .again _ _ source (by simp [ManagerCall.sourceFor]) id (by simp)
      (by simp [ManagerCall.readings]) (by simp) (by rw [updated_source]), ?_⟩
    by_cases hup : source = .active ∧ found.source = .passive
    · -- a noticed agent reports itself
      simp [hup, shadows, alerts_eventOf, hdid, List.countP_singleton]
    · -- the entry is updated in silence
      simp [hup, shadows, ← and_assoc]

/-- A report of another agent. -/
theorem change_other {m : DiscoveryManager} (hm : m.Keyed) (did : AgentDID) (name address : String)
    (source : DiscoverySource) (firstSeen lastSeen : DateTime) {key : String}
    (hkey : did.toText ≠ key) :
    (m.reportPresence did name address source firstSeen lastSeen).agents.lookup key =
        m.agents.lookup key ∧
      (m.reportPresence did name address source firstSeen lastSeen).shadows key =
        m.shadows key := by
  refine ⟨Finmap.lookup_insert_of_ne _ hkey.symm, ?_⟩
  -- an event is about the reported agent only, so it counts for no other key
  cases hfound : m.agents.lookup did.toText with
  | none =>
    rw [m.reportPresence_new did hfound]
    simp [shadows, DiscoveryEvent.alerts, hkey]
  | some found =>
    have hdid : found.did.toText = did.toText := hm _ _ hfound
    rw [m.reportPresence_known did hfound]
    split <;> simp [shadows, alerts_eventOf, hdid, hkey]

/-- A registration. -/
theorem change_registerAgent (m : DiscoveryManager) (did key : String) :
    ((m.registerAgent did).agents.lookup key =
        if did = key then
          (m.agents.lookup key).map fun agent => { agent with isRegistered := true }
        else m.agents.lookup key) ∧
      (m.registerAgent did).shadows key = m.shadows key := by
  unfold registerAgent
  cases hfound : m.agents.lookup did with
  | none =>
    by_cases hkey : did = key
    · subst hkey
      simp [hfound]
    · simp [hkey]
  | some agent =>
    -- the event of a registration is no alert
    refine ⟨?_, by simp [shadows, DiscoveryEvent.alerts]⟩
    by_cases hkey : did = key
    · subst hkey
      simp [hfound]
    · simp [hkey, Finmap.lookup_insert_of_ne _ (Ne.symm hkey)]

/-- **One call, one agent.** -/
theorem change_step {m : DiscoveryManager} (hm : m.Keyed) (key : String) (call : ManagerCall) :
    ∃ n, Change key call (m.agents.lookup key) ((m.step call).agents.lookup key) n ∧
      (m.step call).shadows key = m.shadows key + n := by
  cases call with
  | reportPresence did name address source firstSeen lastSeen =>
    by_cases hkey : did.toText = key
    · subst hkey
      exact change_own hm did name address source firstSeen lastSeen
    · -- another agent was reported
      obtain ⟨hlookup, hshadows⟩ :=
        change_other hm did name address source firstSeen lastSeen hkey
      refine ⟨0, ?_, hshadows⟩
      rw [step, hlookup]
      exact .other _ (by simp [ManagerCall.sourceFor, hkey]) id
  | registerAgent did =>
    obtain ⟨hlookup, hshadows⟩ := change_registerAgent m did key
    refine ⟨0, ?_, hshadows⟩
    rw [step, hlookup]
    split
    · next hkey => exact .registered _ rfl hkey
    · next hkey => exact .other _ rfl hkey

theorem Keyed.step {m : DiscoveryManager} (hm : m.Keyed) (call : ManagerCall) :
    (m.step call).Keyed := by
  cases call with
  | reportPresence did name address source firstSeen lastSeen =>
    exact hm.reportPresence did name address source firstSeen lastSeen
  | registerAgent did => exact hm.registerAgent did

/-- The manager after a run of calls. -/
def after (calls : List ManagerCall) : DiscoveryManager :=
  runFrom step new calls

theorem after_append (calls more : List ManagerCall) :
    after (calls ++ more) = runFrom step (after calls) more :=
  runFrom_append step new calls more

theorem keyed_after (calls : List ManagerCall) : (after calls).Keyed :=
  runFrom_keeps (I := Keyed) (fun _ call hm => Keyed.step hm call) (by simp [Keyed, new]) calls

end DiscoveryManager

/-! ## Alerts over a run -/

open Classical in
/-- The entry of the agent and the number of its alerts, told from the history of calls. -/
structure Tracks (key : String) (calls : List ManagerCall) (entry : Option DiscoveredAgent)
    (alerts : Nat) : Prop where
  known : entry ≠ none ↔ Reported key calls
  waits : (∃ agent, entry = some agent ∧ agent.source = .passive ∧ agent.isRegistered = false) ↔
    Awaited key calls
  active : Upgraded key calls → ∀ agent, entry = some agent → agent.source = .active
  count : alerts = (if Reported key calls then 1 else 0) + (if Upgraded key calls then 1 else 0)

theorem tracks_nil (key : String) : Tracks key [] none 0 := by
  have hreported : ¬ Reported key [] := by simp [Reported]
  have hawaited : ¬ Awaited key [] := fun h => hreported h.reported
  have hupgraded : ¬ Upgraded key [] := fun h => hreported h.reported
  exact {
    known := by simp [hreported]
    waits := by simp [hawaited]
    active := fun h => absurd h hupgraded
    count := by simp [hreported, hupgraded] }

section Steps

open Classical

variable {entry : Option DiscoveredAgent} {found agent : DiscoveredAgent} {alerts n : Nat}

/-- A call about another agent adds nothing to the history of this one. -/
theorem Tracks.other (h : Tracks key calls entry alerts) (hsource : call.sourceFor key = none)
    (hregisters : ¬ call.Registers key) : Tracks key (calls ++ [call]) entry alerts := by
  -- the call is in the history of another agent, so nothing that is said of this one changes
  have hreported : Reported key (calls ++ [call]) ↔ Reported key calls := by
    simp [reported_concat, hsource]
  have hawaited : Awaited key (calls ++ [call]) ↔ Awaited key calls := by
    simp [awaited_concat, hsource, hregisters]
  have hupgraded : Upgraded key (calls ++ [call]) ↔ Upgraded key calls := by
    simp [upgraded_concat, hsource]
  refine ⟨?_, ?_, ?_, ?_⟩
  · rw [hreported, h.known]
  · rw [hawaited, h.waits]
  · rw [hupgraded]
    exact h.active
  · simp only [hreported, hupgraded, h.count]

/-- A registration ends the waiting, and leaves the source as it is. -/
theorem Tracks.registered (h : Tracks key calls entry alerts)
    (hsource : call.sourceFor key = none) (hregisters : call.Registers key) :
    Tracks key (calls ++ [call]) (entry.map fun agent => { agent with isRegistered := true })
      alerts := by
  have hreported : Reported key (calls ++ [call]) ↔ Reported key calls := by
    simp [reported_concat, hsource]
  have hawaited : ¬ Awaited key (calls ++ [call]) := by
    simp [awaited_concat, hsource, hregisters]
  have hupgraded : Upgraded key (calls ++ [call]) ↔ Upgraded key calls := by
    simp [upgraded_concat, hsource]
  refine ⟨?_, ?_, ?_, ?_⟩
  · simp [hreported, ← h.known]
  · simp [hawaited]
  · -- a mark changes neither the source nor the alerts
    rw [hupgraded]
    intro hup agent hagent
    obtain ⟨found, hfound, rfl⟩ := Option.map_eq_some_iff.mp hagent
    exact h.active hup found hfound
  · simp only [hreported, hupgraded, h.count]

/-- The first report is alerted about; when it is passive, the waiting begins. -/
theorem Tracks.first (h : Tracks key calls none alerts)
    (hsource : call.sourceFor key = some agent.source) (hmark : agent.isRegistered = false) :
    Tracks key (calls ++ [call]) (some agent) (alerts + 1) := by
  -- nothing was known of the agent, so nothing of its history has happened before
  have hnew : ¬ Reported key calls := by simp [← h.known]
  have hnotawaited : ¬ Awaited key calls := fun hawaited => hnew hawaited.reported
  have hnotup : ¬ Upgraded key calls := fun hup => hnew hup.reported
  have hreported : Reported key (calls ++ [call]) := by
    simp [reported_concat, hsource]
  have hawaited : Awaited key (calls ++ [call]) ↔ agent.source = .passive := by
    simp [awaited_concat, hsource, hnew, hnotawaited]
  have hupgraded : ¬ Upgraded key (calls ++ [call]) := by
    simp [upgraded_concat, hnotup, hnotawaited]
  refine ⟨?_, ?_, ?_, ?_⟩
  · simp [hreported]
  · simp [hawaited, hmark]
  · exact fun hup => absurd hup hupgraded
  · simp [h.count, hnew, hnotup, hreported, hupgraded]

/-- A later report is alerted about when it is the active one that was waited for. -/
theorem Tracks.again (h : Tracks key calls (some found) alerts) {source : DiscoverySource}
    (hsource : call.sourceFor key = some source) (hregisters : ¬ call.Registers key)
    (hmark : agent.isRegistered = found.isRegistered)
    (hagent : agent.source = if source = .active then .active else found.source) :
    Tracks key (calls ++ [call]) (some agent)
      (alerts + if source = .active ∧ found.source = .passive ∧ found.isRegistered = false
        then 1 else 0) := by
  have hold : Reported key calls := by simp [← h.known]
  have hwaits : found.source = .passive ∧ found.isRegistered = false ↔ Awaited key calls := by
    simpa using h.waits
  have hreported : Reported key (calls ++ [call]) := by
    simp [reported_concat, hold]
  have hawaited : Awaited key (calls ++ [call]) ↔ Awaited key calls ∧ source ≠ .active := by
    simp [awaited_concat, hsource, hregisters, hold]
  have hupgraded : Upgraded key (calls ++ [call]) ↔
      Upgraded key calls ∨ Awaited key calls ∧ source = .active := by
    simp [upgraded_concat, hsource]
  -- after the alert for the active report the source is active
  have hnotup : Awaited key calls → ¬ Upgraded key calls := by
    intro hwait hup
    have hpassive : found.source = .passive := (hwaits.mpr hwait).1
    rw [h.active hup found rfl] at hpassive
    cases hpassive
  -- reported and awaited as the history says; the source and the count follow
  refine ⟨?_, ?_, ?_, ?_⟩
  · simp [hreported]
  · rw [hawaited, ← hwaits]
    cases source <;> simp [hagent, hmark]
  · rw [hupgraded]
    rintro (hup | ⟨-, rfl⟩) _ ⟨⟩
    · rw [hagent, h.active hup found rfl, ite_self]
    · rw [hagent, if_pos rfl]
  -- the alert that the call adds is the one that the history counts
  · simp only [h.count, hupgraded, hwaits, hold, hreported, if_true, Nat.add_assoc]
    by_cases hwait : Awaited key calls ∧ source = .active
    · simp [hwait, hnotup hwait.1]
    · simp [hwait, and_comm (a := source = .active)]

/-- **Step.** -/
theorem Tracks.step {after : Option DiscoveredAgent} (h : Tracks key calls entry alerts)
    (hchange : Change key call entry after n) : Tracks key (calls ++ [call]) after (alerts + n) := by
  cases hchange with
  | other _ hsource hregisters => exact h.other hsource hregisters
  | first agent hsource hregisters hfirst hseen hmark => exact h.first hsource hmark
  | again found agent source hsource hregisters hfirst hlast hmark hagent =>
    exact h.again hsource hregisters hmark hagent
  | registered _ hsource hregisters => exact h.registered hsource hregisters

end Steps

/-- **Run.** -/
theorem tracks_after (key : String) (calls : List ManagerCall) :
    Tracks key calls ((DiscoveryManager.after calls).agents.lookup key)
      ((DiscoveryManager.after calls).shadows key) := by
  -- the map has to be keyed for an event to be about the agent whose entry changes
  refine (runFrom_tracks (T := fun past (m : DiscoveryManager) =>
    m.Keyed ∧ Tracks key past (m.agents.lookup key) (m.shadows key)) ?_ ?_).2
  · exact ⟨DiscoveryManager.keyed_after [], tracks_nil key⟩
  · rintro past call m ⟨hm, htracks⟩
    obtain ⟨n, hchange, hshadows⟩ := DiscoveryManager.change_step hm key call
    refine ⟨hm.step call, ?_⟩
    rw [hshadows]
    exact htracks.step hchange

/-! ## Entries over a run -/

/-- The entry stays, with its first sighting; an active source and a mark stay. -/
def Kept (before after : Option DiscoveredAgent) : Prop :=
  ∀ agent, before = some agent → ∃ agent', after = some agent' ∧
    agent'.firstSeen = agent.firstSeen ∧ (agent.source = .active → agent'.source = .active) ∧
    (agent.isRegistered = true → agent'.isRegistered = true)

theorem Kept.refl (entry : Option DiscoveredAgent) : Kept entry entry :=
  fun agent hagent => ⟨agent, hagent, rfl, id, id⟩

theorem Kept.trans {a b c : Option DiscoveredAgent} (hab : Kept a b) (hbc : Kept b c) :
    Kept a c := by
  intro agent hagent
  obtain ⟨agent₁, hagent₁, hfirst₁, hsource₁, hmark₁⟩ := hab agent hagent
  obtain ⟨agent₂, hagent₂, hfirst₂, hsource₂, hmark₂⟩ := hbc agent₁ hagent₁
  exact ⟨agent₂, hagent₂, hfirst₂.trans hfirst₁, hsource₂ ∘ hsource₁, hmark₂ ∘ hmark₁⟩

theorem Change.kept {before after : Option DiscoveredAgent} {n : Nat}
    (h : Change key call before after n) : Kept before after := by
  cases h with
  | other _ hsource hregisters => exact .refl before
  | first agent hsource hregisters hfirst hseen hmark => nofun
  | again found agent source hsource hregisters hfirst hlast hmark hagent =>
    rintro _ ⟨⟩
    refine ⟨agent, rfl, hfirst, ?_, fun hregistered => hmark.trans hregistered⟩
    -- a report writes the source only to make it active
    intro hactive
    rw [hagent, hactive, ite_self]
  | registered _ hsource hregisters =>
    rintro agent rfl
    exact ⟨_, rfl, rfl, id, fun _ => rfl⟩

/-- There is no alert about a registered agent. -/
theorem Change.silent {agent : DiscoveredAgent} {after : Option DiscoveredAgent} {n : Nat}
    (h : Change key call (some agent) after n) (hmark : agent.isRegistered = true) : n = 0 := by
  cases h with
  | other _ hsource hregisters => rfl
  | again found _ source hsource hregisters hfirst hlast hsame hagent => simp [hmark]
  | registered _ hsource hregisters => rfl

namespace DiscoveryManager

/-- An entry is kept over a run. -/
theorem kept_run {m : DiscoveryManager} (hm : m.Keyed) (key : String)
    (calls : List ManagerCall) :
    Kept (m.agents.lookup key) ((runFrom step m calls).agents.lookup key) := by
  refine (runFrom_keeps
    (I := fun t : DiscoveryManager => t.Keyed ∧ Kept (m.agents.lookup key) (t.agents.lookup key)) ?_
    ⟨hm, .refl _⟩ calls).2
  rintro t call ⟨ht, hkept⟩
  obtain ⟨n, hchange, -⟩ := change_step ht key call
  exact ⟨ht.step call, hkept.trans hchange.kept⟩

/-- A run adds no alert about a registered agent. -/
theorem silent_run {m : DiscoveryManager} (hm : m.Keyed) {key : String}
    {agent : DiscoveredAgent} (hagent : m.agents.lookup key = some agent)
    (hmark : agent.isRegistered = true) (calls : List ManagerCall) :
    (runFrom step m calls).shadows key = m.shadows key := by
  refine (runFrom_keeps
    (I := fun t : DiscoveryManager => (t.Keyed ∧ Kept (m.agents.lookup key) (t.agents.lookup key)) ∧
      t.shadows key = m.shadows key) ?_ ⟨⟨hm, .refl _⟩, rfl⟩ calls).2
  -- the entry is still there with its mark, so the next call adds nothing either
  rintro t call ⟨⟨ht, hkept⟩, hshadows⟩
  obtain ⟨n, hchange, hcount⟩ := change_step ht key call
  obtain ⟨agent', hagent', -, -, hmark'⟩ := hkept agent hagent
  have hn : n = 0 := (hagent' ▸ hchange).silent (hmark' hmark)
  refine ⟨⟨ht.step call, hkept.trans hchange.kept⟩, ?_⟩
  rw [hcount, hn, hshadows, Nat.add_zero]

end DiscoveryManager

/-- The clock readings of the calls. -/
def readingsOf (calls : List ManagerCall) : List DateTime :=
  calls.flatMap ManagerCall.readings

/-- The first sighting was read from the clock, and is not after the last one when the clock does
    not go back. -/
structure Sighted (calls : List ManagerCall) (agent : DiscoveredAgent) : Prop where
  read : agent.firstSeen ∈ readingsOf calls
  seen : (readingsOf calls).Pairwise (· ≤ ·) → agent.firstSeen ≤ agent.lastSeen

theorem readingsOf_concat :
    readingsOf (calls ++ [call]) = readingsOf calls ++ call.readings := by
  simp [readingsOf]

/-- What was sighted stays sighted. -/
theorem Sighted.concat {agent : DiscoveredAgent} (h : Sighted calls agent) (call : ManagerCall) :
    Sighted (calls ++ [call]) agent := by
  refine ⟨?_, fun hclock => h.seen ?_⟩
  · rw [readingsOf_concat]
    exact List.mem_append_left _ h.read
  · rw [readingsOf_concat] at hclock
    exact (List.pairwise_append.mp hclock).1

/-- One call keeps what is known about the sightings of an entry. -/
theorem Change.sighted {before after : Option DiscoveredAgent} {n : Nat}
    (h : Change key call before after n)
    (hbefore : ∀ agent, before = some agent → Sighted calls agent) :
    ∀ agent, after = some agent → Sighted (calls ++ [call]) agent := by
  cases h with
  | other _ hsource hregisters =>
    intro agent hagent
    exact (hbefore agent hagent).concat call
  | first agent hsource hregisters hfirst hseen hmark =>
    -- at the first sighting the reading of the clock is the call's own
    rintro _ ⟨⟩
    refine ⟨?_, fun hclock => hseen ?_⟩
    · rw [readingsOf_concat]
      exact List.mem_append_right _ hfirst
    · rw [readingsOf_concat] at hclock
      exact (List.pairwise_append.mp hclock).2.1
  | again found agent source hsource hregisters hfirst hlast hmark hagent =>
    rintro _ ⟨⟩
    have hfound : Sighted calls found := hbefore found rfl
    refine ⟨?_, fun hclock => ?_⟩
    · rw [readingsOf_concat, hfirst]
      exact List.mem_append_left _ hfound.read
    · -- the clock has been read again since the first sighting, which is among the old readings
      rw [readingsOf_concat] at hclock
      rw [hfirst]
      exact (List.pairwise_append.mp hclock).2.2 _ hfound.read _ hlast
  | registered _ hsource hregisters =>
    intro agent hagent
    obtain ⟨found, hfound, rfl⟩ := Option.map_eq_some_iff.mp hagent
    have hsighted : Sighted calls found := hbefore found hfound
    apply Sighted.concat
    exact ⟨hsighted.read, hsighted.seen⟩

theorem sighted_after (key : String) (calls : List ManagerCall) :
    ∀ agent, (DiscoveryManager.after calls).agents.lookup key = some agent →
      Sighted calls agent := by
  refine (runFrom_tracks (T := fun past (t : DiscoveryManager) => t.Keyed ∧
    ∀ agent, t.agents.lookup key = some agent → Sighted past agent) ?_ ?_).2
  · exact ⟨DiscoveryManager.keyed_after [], by simp [DiscoveryManager.new]⟩
  · rintro past call t ⟨ht, hsighted⟩
    obtain ⟨n, hchange, -⟩ := DiscoveryManager.change_step ht key call
    exact ⟨ht.step call, hchange.sighted hsighted⟩

/-! ## Laws -/

/-- What the manager does over a run of calls, and over every run that continues it. -/
structure AlertLaws (calls : List ManagerCall) : Prop where
  /-- The first report of an agent is the first alert about it. -/
  first : ∀ key call, ¬ Reported key calls → call.sourceFor key ≠ none →
    (DiscoveryManager.after calls).shadows key = 0 ∧
      (DiscoveryManager.after (calls ++ [call])).shadows key = 1
  /-- A second alert is about a noticed agent that reports itself before it is registered. -/
  second : ∀ key, (DiscoveryManager.after calls).shadows key ≤ 2 ∧
    ((DiscoveryManager.after calls).shadows key = 2 ↔ Upgraded key calls)
  /-- A registration that finds the agent is no alert, and none follows. -/
  silent : ∀ key call more, call.Registers key →
    (DiscoveryManager.after calls).agents.lookup key ≠ none →
      (DiscoveryManager.after (calls ++ call :: more)).shadows key =
        (DiscoveryManager.after calls).shadows key
  /-- An entry stays, with its first sighting; an active source and a mark stay. -/
  kept : ∀ key more, Kept ((DiscoveryManager.after calls).agents.lookup key)
    ((DiscoveryManager.after (calls ++ more)).agents.lookup key)
  /-- An agent is not seen last before it is seen first, when the clock does not go back. -/
  seen : (readingsOf calls).Pairwise (· ≤ ·) → ∀ key agent,
    (DiscoveryManager.after calls).agents.lookup key = some agent → agent.firstSeen ≤ agent.lastSeen

/-- **Shadow alerts**, over every run of calls. -/
theorem alertLaws (calls : List ManagerCall) : AlertLaws calls where
  first key call hnew hcall := by
    have hnotup : ¬ Upgraded key calls := fun h => hnew h.reported
    have hnotawaited : ¬ Awaited key calls := fun h => hnew h.reported
    rw [(tracks_after key calls).count, (tracks_after key (calls ++ [call])).count]
    simp [reported_concat, upgraded_concat, hnew, hnotup, hnotawaited, hcall]
  second key := by
    rw [(tracks_after key calls).count]
    by_cases hup : Upgraded key calls
    · simp [hup, hup.reported]
    · by_cases hold : Reported key calls <;> simp [hup, hold]
  silent key call more hcall hfound := by
    -- the agent is known, and nothing after its registration alerts
    obtain ⟨agent, hagent⟩ := Option.ne_none_iff_exists'.mp hfound
    cases call with
    | reportPresence did name address source firstSeen lastSeen => exact absurd hcall id
    | registerAgent did =>
      obtain rfl : did = key := hcall
      have hkeyed := (DiscoveryManager.keyed_after calls).registerAgent did
      obtain ⟨hlookup, hshadows⟩ :=
        DiscoveryManager.change_registerAgent (DiscoveryManager.after calls) did did
      rw [if_pos rfl, hagent, Option.map_some] at hlookup
      rw [DiscoveryManager.after_append, runFrom_cons, DiscoveryManager.step,
        DiscoveryManager.silent_run hkeyed hlookup rfl more, hshadows]
  kept key more := by
    rw [DiscoveryManager.after_append]
    exact DiscoveryManager.kept_run (DiscoveryManager.keyed_after calls) key more
  seen hclock key agent hagent := (sighted_after key calls agent hagent).seen hclock

end AgentGovernance.Discovery
