import AgentGovernance.Lib.Rfc3339
import AgentGovernance.Mesh.AgentId

/-!
# Escalation requests and events

`crates/core/mesh/src/identity/escalation.rs`: what an agent asks for, what an approver
signs, and the event that records a decision.
-/

namespace AgentGovernance.Mesh

open AgentGovernance.Lib

structure EscalationRequest where
  agentDid : String
  currentRing : PrivilegeRing
  requestedRing : PrivilegeRing
  reason : String
  timestamp : DateTime
  deriving DecidableEq

inductive EscalationOutcome where
  | approved
  | denied (cause : String)
  deriving DecidableEq, Repr

structure EscalationEvent where
  eventId : Uuid
  agentDid : String
  approverDid : String
  fromRing : PrivilegeRing
  toRing : PrivilegeRing
  outcome : EscalationOutcome
  reason : String
  timestamp : DateTime
  deriving DecidableEq

def approvalPayload (eventId : Uuid) (agentDid : String) (requestedRing : PrivilegeRing) : Bytes :=
  stringBytes (eventId.toText ++ ":" ++ agentDid ++ ":" ++ requestedRing.toText)

/-- The event of a decision on a request: everything but the decision itself is copied. -/
def EscalationRequest.decided (request : EscalationRequest) (eventId : Uuid)
    (approverDid : String) (outcome : EscalationOutcome) (now : DateTime) : EscalationEvent where
  eventId := eventId
  agentDid := request.agentDid
  approverDid := approverDid
  fromRing := request.currentRing
  toRing := request.requestedRing
  outcome := outcome
  reason := request.reason
  timestamp := now

/-! ## JSON texts -/

/-- `EscalationOutcome` as the data of its two variants. -/
def EscalationOutcome.variant : EscalationOutcome → Unit ⊕ String
  | .approved => .inl ()
  | .denied cause => .inr cause

theorem EscalationOutcome.variant_injective : Function.Injective EscalationOutcome.variant := by
  intro a b h
  cases a <;> cases b <;> simp_all [variant]

/-- Serde's externally tagged text of an outcome. -/
def EscalationOutcome.json : PrefixCode Char EscalationOutcome :=
  (PrefixCode.choice [quote] ['{'] quote_not_brace brace_not_quote
    (PrefixCode.const ("Approved".toList ++ [quote]))
    (((jsonString.tagged (objectKey '{' "cause")).tagged (quote :: "Denied".toList ++ [quote, ':'])).ended
      ['}', '}'])).comap
    EscalationOutcome.variant EscalationOutcome.variant_injective

def PrivilegeRing.json : PrefixCode Char PrivilegeRing :=
  jsonString.comap PrivilegeRing.toText PrivilegeRing.toText_injective

/-- `serde_json` of `EscalationEvent`. -/
def eventJson : PrefixCode Char EscalationEvent :=
  (((Uuid.json.tagged (objectKey '{' "event_id")).pair
    ((jsonString.tagged (objectKey ',' "agent_did")).pair
    ((jsonString.tagged (objectKey ',' "approver_did")).pair
    ((PrivilegeRing.json.tagged (objectKey ',' "from_ring")).pair
    ((PrivilegeRing.json.tagged (objectKey ',' "to_ring")).pair
    ((EscalationOutcome.json.tagged (objectKey ',' "outcome")).pair
    ((jsonString.tagged (objectKey ',' "reason")).pair
    (Rfc3339.jsonInstant.tagged (objectKey ',' "timestamp"))))))))).ended ['}']).comap
    (fun e => (e.eventId, e.agentDid, e.approverDid, e.fromRing, e.toRing, e.outcome, e.reason,
      e.timestamp)) (fun e f h => by
      cases e
      cases f
      simp_all)

theorem EscalationOutcome.json_printable : EscalationOutcome.json.Printable := by
  refine .comap (.choice ?_ ?_ _ _ (by decide) (by decide)) _ _
  · exact .const (by decide)
  · exact .ended (.tagged (.tagged jsonString_printable (by decide)) (by decide)) (by decide)

theorem PrivilegeRing.json_printable : PrivilegeRing.json.Printable :=
  .comap jsonString_printable _ _

theorem eventJson_printable : eventJson.Printable := by
  refine .comap (.ended (.pair (.tagged Uuid.json_printable (by decide)) ?_) (by decide)) _ _
  refine .pair (.tagged jsonString_printable (by decide)) ?_
  refine .pair (.tagged jsonString_printable (by decide)) ?_
  refine .pair (.tagged PrivilegeRing.json_printable (by decide)) ?_
  refine .pair (.tagged PrivilegeRing.json_printable (by decide)) ?_
  refine .pair (.tagged EscalationOutcome.json_printable (by decide)) ?_
  exact .pair (.tagged jsonString_printable (by decide))
    (.tagged Rfc3339.jsonInstant_printable (by decide))

/-- `serde_json::to_string` of an event, one line of the audit log. -/
def EscalationEvent.text (event : EscalationEvent) : Bytes :=
  (utf8.spell eventJson).enc event

theorem EscalationEvent.text_injective : Function.Injective EscalationEvent.text :=
  (utf8.spell eventJson).enc_injective

theorem EscalationEvent.text_lineSafe (event : EscalationEvent) : LineSafe event.text :=
  eventJson.spell_lineSafe eventJson_printable event

end AgentGovernance.Mesh
