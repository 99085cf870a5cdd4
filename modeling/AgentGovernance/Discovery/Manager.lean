import AgentGovernance.Mesh.AgentId
import Mathlib.Data.Finmap

/-!
# The discovery manager

`crates/ext/discovery/src/lib.rs`: the agents that reported their presence or were noticed
as unregistered callers, and the events that were given to the broadcast channel.
-/

namespace AgentGovernance.Discovery

open AgentGovernance.Mesh

inductive DiscoverySource where
  | active
  | passive
  deriving DecidableEq, Repr

structure DiscoveredAgent where
  did : AgentDID
  name : String
  firstSeen : DateTime
  lastSeen : DateTime
  transportAddress : String
  isRegistered : Bool
  source : DiscoverySource
  deriving DecidableEq

inductive DiscoveryEvent where
  | presence (agent : DiscoveredAgent)
  | shadow (agent : DiscoveredAgent)
  deriving DecidableEq

/-- `DiscoveryManager`, with the events sent so far. -/
structure DiscoveryManager where
  agents : Finmap (fun _ : String => DiscoveredAgent)
  sent : List DiscoveryEvent

namespace DiscoveryManager

def new : DiscoveryManager where
  agents := ∅
  sent := []

/-- The event about an entry. -/
def eventOf (entry : DiscoveredAgent) : DiscoveryEvent :=
  if entry.isRegistered then .presence entry else .shadow entry

/-- `report_presence`, with the clock readings of a new entry and of the update. -/
def reportPresence (m : DiscoveryManager) (did : AgentDID) (name address : String)
    (source : DiscoverySource) (firstSeen lastSeen : DateTime) : DiscoveryManager :=
  let isNew := (m.agents.lookup did.toText).isNone
  let found := (m.agents.lookup did.toText).getD
    { did := did
      name := name
      firstSeen := firstSeen
      lastSeen := firstSeen
      transportAddress := address
      isRegistered := false
      source := source }
  let entry := { found with lastSeen := lastSeen, transportAddress := address }
  -- an agent that was noticed before reports itself
  let wasPassive := source = .active ∧ entry.source = .passive
  let entry := if wasPassive then { entry with source := .active, name := name } else entry
  { agents := m.agents.insert did.toText entry
    sent := if isNew ∨ wasPassive then m.sent ++ [eventOf entry] else m.sent }

/-- `register_agent`: only an agent that is already known is marked. -/
def registerAgent (m : DiscoveryManager) (did : String) : DiscoveryManager :=
  match m.agents.lookup did with
  | none => m
  | some agent =>
    let agent := { agent with isRegistered := true }
    { agents := m.agents.insert did agent
      sent := m.sent ++ [.presence agent] }

/-- `detect_shadow_agents`, in no order. -/
def detectShadowAgents (m : DiscoveryManager) : Multiset DiscoveredAgent :=
  (m.agents.entries.map (·.2)).filter fun agent => !agent.isRegistered

/-! ## The map of known agents -/

/-- The known agents, in no order. -/
def discovered (m : DiscoveryManager) : Multiset DiscoveredAgent :=
  m.agents.entries.map (·.2)

theorem mem_discovered {m : DiscoveryManager} {agent : DiscoveredAgent} :
    agent ∈ m.discovered ↔ ∃ did, m.agents.lookup did = some agent := by
  simp only [discovered, Multiset.mem_map, Sigma.exists, ← Finmap.mem_lookup_iff,
    Option.mem_def]
  constructor
  · rintro ⟨did, found, hfound, rfl⟩
    exact ⟨did, hfound⟩
  · rintro ⟨did, hagent⟩
    exact ⟨did, agent, hagent, rfl⟩

theorem mem_detectShadowAgents {m : DiscoveryManager} {agent : DiscoveredAgent} :
    agent ∈ m.detectShadowAgents ↔ agent ∈ m.discovered ∧ agent.isRegistered = false := by
  rw [detectShadowAgents, Multiset.mem_filter, Bool.not_eq_true']
  rfl

/-- Whether a known agent is marked as registered. -/
def mark (m : DiscoveryManager) (did : String) : Option Bool :=
  (m.agents.lookup did).map DiscoveredAgent.isRegistered

/-- The map is keyed by the DIDs of its agents. -/
def Keyed (m : DiscoveryManager) : Prop :=
  ∀ did agent, m.agents.lookup did = some agent → agent.did.toText = did

/-- A report keeps the mark of a known agent, and enters an unknown one as unregistered. -/
theorem mark_reportPresence (m : DiscoveryManager) (did : AgentDID) (name address : String)
    (source : DiscoverySource) (firstSeen lastSeen : DateTime) (key : String) :
    (m.reportPresence did name address source firstSeen lastSeen).mark key =
      if key = did.toText then some ((m.mark key).getD false) else m.mark key := by
  by_cases hkey : key = did.toText
  · subst hkey
    rw [if_pos rfl, mark, reportPresence]
    simp only [Finmap.lookup_insert, Option.map_some, mark]
    split <;> cases m.agents.lookup did.toText <;> rfl
  · rw [if_neg hkey, mark, reportPresence]
    simp only [Finmap.lookup_insert_of_ne _ hkey, mark]

/-- Registering marks a known agent. -/
theorem mark_registerAgent (m : DiscoveryManager) (did key : String) :
    (m.registerAgent did).mark key =
      if key = did then (m.mark key).map fun _ => true else m.mark key := by
  unfold registerAgent
  cases hdid : m.agents.lookup did with
  | none =>
    -- an agent that was never seen is not added by its registration
    by_cases hkey : key = did
    · subst hkey
      simp [mark, hdid]
    · rw [if_neg hkey]
  | some agent =>
    by_cases hkey : key = did
    · subst hkey
      simp [mark, hdid]
    · simp [mark, hkey, Finmap.lookup_insert_of_ne]

/-- A report sends at most one event, behind those sent before. -/
theorem sent_reportPresence (m : DiscoveryManager) (did : AgentDID) (name address : String)
    (source : DiscoverySource) (firstSeen lastSeen : DateTime) :
    m.sent <+: (m.reportPresence did name address source firstSeen lastSeen).sent := by
  simp only [reportPresence]
  split
  · apply List.prefix_append
  · apply List.prefix_refl

/-- A report of an unknown agent enters it, and is an alert. -/
theorem reportPresence_new (m : DiscoveryManager) (did : AgentDID)
    (h : m.agents.lookup did.toText = none) (name address : String) (source : DiscoverySource)
    (firstSeen lastSeen : DateTime) :
    let agent : DiscoveredAgent :=
      { did := did
        name := name
        firstSeen := firstSeen
        lastSeen := lastSeen
        transportAddress := address
        isRegistered := false
        source := source }
    m.reportPresence did name address source firstSeen lastSeen =
      { agents := m.agents.insert did.toText agent, sent := m.sent ++ [.shadow agent] } := by
  cases source <;> simp [reportPresence, h, eventOf]

/-- The first report of an agent is an alert. -/
theorem reportPresence_unknown (m : DiscoveryManager) (did : AgentDID)
    (h : m.agents.lookup did.toText = none) (name address : String) (source : DiscoverySource)
    (firstSeen lastSeen : DateTime) :
    ∃ agent, m.reportPresence did name address source firstSeen lastSeen =
      { agents := m.agents.insert did.toText agent, sent := m.sent ++ [.shadow agent] } :=
  ⟨_, m.reportPresence_new did h name address source firstSeen lastSeen⟩

/-- The entry of a known agent after a further report. -/
def updated (found : DiscoveredAgent) (name address : String) (source : DiscoverySource)
    (lastSeen : DateTime) : DiscoveredAgent :=
  let entry := { found with lastSeen := lastSeen, transportAddress := address }
  if source = .active ∧ found.source = .passive then
    { entry with source := .active, name := name }
  else entry

section Updated

variable (found : DiscoveredAgent) (name address : String) (source : DiscoverySource)
  (lastSeen : DateTime)

@[simp] theorem updated_did : (updated found name address source lastSeen).did = found.did := by
  unfold updated
  split <;> rfl

@[simp] theorem updated_firstSeen :
    (updated found name address source lastSeen).firstSeen = found.firstSeen := by
  unfold updated
  split <;> rfl

@[simp] theorem updated_lastSeen :
    (updated found name address source lastSeen).lastSeen = lastSeen := by
  unfold updated
  split <;> rfl

@[simp] theorem updated_isRegistered :
    (updated found name address source lastSeen).isRegistered = found.isRegistered := by
  unfold updated
  split <;> rfl

/-- An active source stays, and an active report makes one. -/
theorem updated_source :
    (updated found name address source lastSeen).source =
      if source = .active then .active else found.source := by
  unfold updated
  cases source <;> cases found.source <;> simp

end Updated

/-- A report of a known agent updates its entry, and sends an event when a noticed agent reports
    itself. -/
theorem reportPresence_known (m : DiscoveryManager) (did : AgentDID) {found : DiscoveredAgent}
    (h : m.agents.lookup did.toText = some found) (name address : String)
    (source : DiscoverySource) (firstSeen lastSeen : DateTime) :
    m.reportPresence did name address source firstSeen lastSeen =
      { agents := m.agents.insert did.toText (updated found name address source lastSeen)
        sent := if source = .active ∧ found.source = .passive then
          m.sent ++ [eventOf (updated found name address source lastSeen)] else m.sent } := by
  simp [reportPresence, h, updated]

theorem sent_registerAgent (m : DiscoveryManager) (did : String) :
    m.sent <+: (m.registerAgent did).sent := by
  unfold registerAgent
  split
  · apply List.prefix_refl
  · apply List.prefix_append

/-- An entry under its own DID keeps the map keyed. -/
theorem Keyed.insert {m : DiscoveryManager} (h : m.Keyed) {key : String}
    {agent : DiscoveredAgent} (hagent : agent.did.toText = key) (sent : List DiscoveryEvent) :
    Keyed { agents := m.agents.insert key agent, sent := sent } := by
  intro key' agent' hlookup
  by_cases hkey : key' = key
  · subst hkey
    rw [Finmap.lookup_insert] at hlookup
    obtain rfl : agent = agent' := Option.some.inj hlookup
    exact hagent
  · rw [Finmap.lookup_insert_of_ne _ hkey] at hlookup
    exact h key' agent' hlookup

theorem Keyed.reportPresence {m : DiscoveryManager} (h : m.Keyed) (did : AgentDID)
    (name address : String) (source : DiscoverySource) (firstSeen lastSeen : DateTime) :
    (m.reportPresence did name address source firstSeen lastSeen).Keyed := by
  cases hfound : m.agents.lookup did.toText with
  | none =>
    rw [m.reportPresence_new did hfound]
    apply h.insert
    rfl
  | some found =>
    rw [m.reportPresence_known did hfound]
    apply h.insert
    -- an agent that is seen again keeps its DID
    rw [updated_did]
    exact h _ found hfound

theorem Keyed.registerAgent {m : DiscoveryManager} (h : m.Keyed) (did : String) :
    (m.registerAgent did).Keyed := by
  unfold DiscoveryManager.registerAgent
  cases hfound : m.agents.lookup did with
  | none => exact h
  | some found =>
    apply h.insert
    exact h did found hfound

end DiscoveryManager

end AgentGovernance.Discovery
