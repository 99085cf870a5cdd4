import AgentGovernance.Discovery.Manager
import AgentGovernance.Lib.Rfc3339

/-!
# The text of a discovery event

The background worker keeps a discovery event in the log as a JSON text inside the JSON text
of the record.  The text tells the event.
-/

namespace AgentGovernance.Discovery

open AgentGovernance.Lib AgentGovernance.Mesh

/-- The JSON name of a source. -/
def DiscoverySource.toText : DiscoverySource → String
  | .active => "Active"
  | .passive => "Passive"

theorem DiscoverySource.toText_injective : Function.Injective DiscoverySource.toText := by
  intro a b h
  cases a <;> cases b <;> first | rfl | exact absurd h (by decide)

/-- A truth value as one of two. -/
def boolVariant (b : Bool) : Unit ⊕ Unit :=
  if b then .inl () else .inr ()

theorem boolVariant_injective : Function.Injective boolVariant := by
  intro a b h
  cases a <;> cases b <;> simp_all [boolVariant]

/-- `serde_json` of a truth value. -/
def boolJson : PrefixCode Char Bool :=
  (PrefixCode.choice "true".toList "false".toList (by decide) (by decide) (PrefixCode.const [])
    (PrefixCode.const [])).comap boolVariant boolVariant_injective

/-- The fields of an agent as they follow each other in its text. -/
def DiscoveredAgent.fields (a : DiscoveredAgent) :
    AgentDID × String × DateTime × DateTime × String × Bool × DiscoverySource :=
  (a.did, a.name, a.firstSeen, a.lastSeen, a.transportAddress, a.isRegistered, a.source)

theorem DiscoveredAgent.fields_injective : Function.Injective DiscoveredAgent.fields := by
  intro a b h
  cases a
  cases b
  simp_all [fields]

/-- `serde_json` of `DiscoveredAgent`. -/
def agentJson : PrefixCode Char DiscoveredAgent :=
  (((AgentDID.json.tagged (objectKey '{' "did")).pair
    ((jsonString.tagged (objectKey ',' "name")).pair
    ((Rfc3339.jsonInstant.tagged (objectKey ',' "first_seen")).pair
    ((Rfc3339.jsonInstant.tagged (objectKey ',' "last_seen")).pair
    ((jsonString.tagged (objectKey ',' "transport_address")).pair
    ((boolJson.tagged (objectKey ',' "is_registered")).pair
    ((jsonString.comap DiscoverySource.toText DiscoverySource.toText_injective).tagged
      (objectKey ',' "source")))))))).ended ['}']).comap
    DiscoveredAgent.fields DiscoveredAgent.fields_injective

def DiscoveryEvent.variant : DiscoveryEvent → DiscoveredAgent ⊕ DiscoveredAgent
  | .presence agent => .inl agent
  | .shadow agent => .inr agent

theorem DiscoveryEvent.variant_injective : Function.Injective DiscoveryEvent.variant := by
  intro a b h
  cases a <;> cases b <;> simp_all [variant]

/-- `serde_json` of `DiscoveryEvent`. -/
def discoveryJson : PrefixCode Char DiscoveryEvent :=
  ((PrefixCode.choice (objectKey '{' "Presence") (objectKey '{' "Shadow") (by decide) (by decide)
    agentJson agentJson).ended ['}']).comap DiscoveryEvent.variant DiscoveryEvent.variant_injective

def DiscoveryEvent.toJson (event : DiscoveryEvent) : String :=
  String.ofList (discoveryJson.enc event)

/-- The text tells the event. -/
theorem DiscoveryEvent.toJson_injective : Function.Injective DiscoveryEvent.toJson := by
  intro a b h
  exact discoveryJson.enc_injective (String.ofList_injective h)

open Classical in
/-- Reading a text: it is accepted when it is the text of an event. -/
noncomputable def eventOfJson (text : String) : Option DiscoveryEvent :=
  if h : ∃ event : DiscoveryEvent, event.toJson = text then some h.choose else none

theorem eventOfJson_toJson (event : DiscoveryEvent) : eventOfJson event.toJson = some event := by
  have h : ∃ other : DiscoveryEvent, other.toJson = event.toJson := ⟨event, rfl⟩
  rw [eventOfJson, dif_pos h]
  exact congrArg some (DiscoveryEvent.toJson_injective h.choose_spec)

def DiscoveryEvent.shadowAgent : DiscoveryEvent → Option DiscoveredAgent
  | .presence _ => none
  | .shadow agent => some agent

/-- The agents of the shadow events, in their order. -/
def shadows (events : List DiscoveryEvent) : List DiscoveredAgent :=
  events.filterMap DiscoveryEvent.shadowAgent

theorem shadows_append (events more : List DiscoveryEvent) :
    shadows (events ++ more) = shadows events ++ shadows more :=
  List.filterMap_append

end AgentGovernance.Discovery
