import AgentGovernance.Lib.BufWriter
import AgentGovernance.Mesh.Escalation
import AgentGovernance.Mesh.Registry

/-!
# The escalation manager

`crates/core/runtime/src/rings/escalation.rs`.  Requests wait in a map until they are
approved or denied; a decision takes its request out of the map, writes an event to the
audit log and hands it to the SIEM exporter.

`approve` is put together from the steps between which the source awaits something
(`take`, `ringCheck`, `attestationCheck`, `logEvent`, `exportToSiem`), so that calls
running at the same time can be modelled with the same functions.
-/

namespace AgentGovernance.Runtime

open AgentGovernance.Lib AgentGovernance.Mesh

/-- `EscalationManager`.  The exporter is the events it was given; its answer is discarded. -/
structure EscalationManager where
  pending : Finmap (fun _ : Uuid => EscalationRequest)
  auditLog : Option BufWriter
  siemExporter : Option (List EscalationEvent)
  registryPubkey : String

/-- What one call to `approve` or `deny` gets from outside. -/
structure Surroundings where
  registry : AgentRegistry
  /-- The clock reading of `SignedAttestation::verify`. -/
  verifiedAt : DateTime
  /-- The clock reading of the event. -/
  decidedAt : DateTime
  /-- What the audit file does with the event line. -/
  io : LineOutcome

namespace EscalationManager

/-- `EscalationManager::new`, on an audit file with the given content. -/
def new (auditFile : Option Bytes) (registryPubkey : String) (hasExporter : Bool) :
    EscalationManager where
  pending := ∅
  auditLog := auditFile.map BufWriter.new
  siemExporter := if hasExporter then some [] else none
  registryPubkey := registryPubkey

/-- `request_escalation`, with the identifier that `Uuid::new_v4` gave. -/
def requestEscalation (m : EscalationManager) (eventId : Uuid) (request : EscalationRequest) :
    EscalationManager :=
  { m with pending := m.pending.insert eventId request }

/-- `pending.remove(&event_id)` under the lock. -/
def take (m : EscalationManager) (eventId : Uuid) :
    Option (EscalationRequest × EscalationManager) :=
  (m.pending.lookup eventId).map fun request =>
    (request, { m with pending := m.pending.erase eventId })

/-- `log_event`: the event's JSON text as one line, when there is an audit log. -/
def logEvent (m : EscalationManager) (event : EscalationEvent) (io : LineOutcome) :
    Bool × EscalationManager :=
  match m.auditLog with
  | none => (true, m)
  | some writer =>
    ((writer.writeLine event.text io).1,
      { m with auditLog := some (writer.writeLine event.text io).2 })

/-- `export_to_siem`, when there is an exporter. -/
def exportToSiem (m : EscalationManager) (event : EscalationEvent) : EscalationManager :=
  { m with siemExporter := m.siemExporter.map (· ++ [event]) }

/-- `let _ = self.log_event(&event); let _ = self.export_to_siem(&event).await;` -/
def publish (m : EscalationManager) (event : EscalationEvent) (io : LineOutcome) :
    EscalationManager :=
  (m.logEvent event io).2.exportToSiem event

/-- The ring check of `approve`: an error, a decision, or (`none`) go on. -/
def ringCheck (answer : Except String (Option PrivilegeRing)) :
    Except String (Option EscalationOutcome) :=
  match answer with
  | .error e => .error e
  | .ok none => .error "Approver DID not in registry"
  | .ok (some approverRing) =>
    if approverRing ≠ .system then
      .ok (some (.denied "Only System-ring agents can approve escalation"))
    else .ok none

variable (C : Crypto)

/-- The attestation, signature and ring transition checks of `approve`. -/
def attestationCheck (answer : Except String (Option SignedAttestation)) (registryPubkey : String)
    (verifiedAt : DateTime) (eventId : Uuid) (request : EscalationRequest) (signature : Bytes) :
    Except String EscalationOutcome :=
  match answer with
  | .error e => .error e
  | .ok none => .error "Approver attestation not found"
  | .ok (some attestation) =>
    match attestation.verify C registryPubkey verifiedAt with
    | .error e => .error ("Registry attestation verification failed: " ++ e.toText)
    | .ok () =>
      let payload := approvalPayload eventId request.agentDid request.requestedRing
      if !(identityStub attestation.claim.publicKeyB64).verifySignature C payload signature then
        .ok (.denied "Approval signature invalid")
      else if request.requestedRing ≥ request.currentRing then
        .ok (.denied "Requested ring must be more privileged")
      else .ok .approved

/-- All checks of `approve` on a request that was taken out of the map. -/
def decision (registryPubkey : String) (env : Surroundings) (eventId : Uuid)
    (request : EscalationRequest) (approverDid : String) (signature : Bytes) :
    Except String EscalationOutcome :=
  match ringCheck (env.registry.getRing approverDid) with
  | .error e => .error e
  | .ok (some outcome) => .ok outcome
  | .ok none =>
    attestationCheck C (env.registry.getAttestation approverDid) registryPubkey env.verifiedAt
      eventId request signature

/-- `approve`.  Every `?` after the removal leaves with an error and without the request. -/
def approve (m : EscalationManager) (env : Surroundings) (eventId : Uuid) (approverDid : String)
    (signature : Bytes) : EscalationManager × Except String EscalationEvent :=
  match m.take eventId with
  | none => (m, .error "Escalation request not found")
  | some (request, m) =>
    match decision C m.registryPubkey env eventId request approverDid signature with
    | .error e => (m, .error e)
    | .ok outcome =>
      let event := request.decided eventId approverDid outcome env.decidedAt
      (m.publish event env.io, .ok event)

def deny (m : EscalationManager) (env : Surroundings) (eventId : Uuid) (approverDid cause : String) :
    EscalationManager × Except String EscalationEvent :=
  match m.take eventId with
  | none => (m, .error "Escalation request not found")
  | some (request, m) =>
    let event := request.decided eventId approverDid (.denied cause) env.decidedAt
    (m.publish event env.io, .ok event)

/-! ## What the parts do -/

theorem take_eq_none {m : EscalationManager} {eventId : Uuid} :
    m.take eventId = none ↔ m.pending.lookup eventId = none := by
  simp [take]

theorem take_eq_some {m m' : EscalationManager} {eventId : Uuid} {request : EscalationRequest} :
    m.take eventId = some (request, m') ↔
      m.pending.lookup eventId = some request ∧
        m' = { m with pending := m.pending.erase eventId } := by
  simp [take, eq_comm]

@[simp] theorem logEvent_pending (m : EscalationManager) (event : EscalationEvent)
    (io : LineOutcome) : (m.logEvent event io).2.pending = m.pending := by
  unfold logEvent
  split <;> rfl

@[simp] theorem publish_pending (m : EscalationManager) (event : EscalationEvent)
    (io : LineOutcome) : (m.publish event io).pending = m.pending :=
  m.logEvent_pending event io

@[simp] theorem publish_auditLog (m : EscalationManager) (event : EscalationEvent)
    (io : LineOutcome) :
    (m.publish event io).auditLog = m.auditLog.map fun w => (w.writeLine event.text io).2 := by
  simp only [publish, exportToSiem, logEvent]
  cases hlog : m.auditLog <;> simp [hlog]

@[simp] theorem logEvent_registryPubkey (m : EscalationManager) (event : EscalationEvent)
    (io : LineOutcome) : (m.logEvent event io).2.registryPubkey = m.registryPubkey := by
  unfold logEvent
  split <;> rfl

theorem ringCheck_eq_ok_none (answer : Except String (Option PrivilegeRing)) :
    ringCheck answer = .ok none ↔ answer = .ok (some .system) := by
  unfold ringCheck
  split
  · simp
  · simp
  · split <;> simp_all

theorem ringCheck_ne_approved (answer : Except String (Option PrivilegeRing)) :
    ringCheck answer ≠ .ok (some .approved) := by
  unfold ringCheck
  split
  · simp
  · simp
  · split <;> simp

/-- The second group of checks approves with a verified attestation, a signature of the payload
    under the attested key, and a more privileged ring. -/
theorem attestationCheck_eq_approved (answer : Except String (Option SignedAttestation))
    (registryPubkey : String) (verifiedAt : DateTime) (eventId : Uuid)
    (request : EscalationRequest) (signature : Bytes) :
    attestationCheck C answer registryPubkey verifiedAt eventId request signature = .ok .approved ↔
      ∃ att, answer = .ok (some att) ∧ att.verify C registryPubkey verifiedAt = .ok () ∧
        (identityStub att.claim.publicKeyB64).verifySignature C
          (approvalPayload eventId request.agentDid request.requestedRing) signature = true ∧
        request.requestedRing < request.currentRing := by
  unfold attestationCheck
  -- the checks in the order of the source, each of which ends in a denial or an error
  cases answer with
  | error e => simp
  | ok found =>
    cases found with
    | none => simp
    | some att =>
      simp only [Except.ok.injEq, Option.some.injEq, exists_eq_left']
      cases att.verify C registryPubkey verifiedAt with
      | error e => simp
      | ok u =>
        cases (identityStub att.claim.publicKeyB64).verifySignature C
          (approvalPayload eventId request.agentDid request.requestedRing) signature with
        | false =>
          -- a signature of something else is denied
          simp
        | true =>
          -- all checks pass, so the rings decide
          by_cases hring : request.requestedRing ≥ request.currentRing
          · simp [hring]
          · simp [hring, lt_of_not_ge hring]

/-- **Approval**: all five checks pass. -/
theorem decision_eq_approved (registryPubkey : String) (env : Surroundings) (eventId : Uuid)
    (request : EscalationRequest) (approverDid : String) (signature : Bytes) :
    decision C registryPubkey env eventId request approverDid signature = .ok .approved ↔
      env.registry.getRing approverDid = .ok (some .system) ∧
      ∃ att, env.registry.getAttestation approverDid = .ok (some att) ∧
        att.verify C registryPubkey env.verifiedAt = .ok () ∧
        (identityStub att.claim.publicKeyB64).verifySignature C
          (approvalPayload eventId request.agentDid request.requestedRing) signature = true ∧
        request.requestedRing < request.currentRing := by
  rw [← ringCheck_eq_ok_none, ← attestationCheck_eq_approved C]
  unfold decision
  cases hring : ringCheck (env.registry.getRing approverDid) with
  | error e => simp
  | ok early =>
    cases early with
    | none => simp
    | some outcome =>
      -- the ring check alone never approves
      have hne : outcome ≠ .approved := by
        rintro rfl
        exact ringCheck_ne_approved _ hring
      simp [hne]

/-- What `approve` does: nothing without the request, and otherwise the request is gone and the
    decision, if there is one, is published. -/
theorem approve_cases (m : EscalationManager) (env : Surroundings) (eventId : Uuid)
    (approverDid : String) (signature : Bytes) :
    (m.pending.lookup eventId = none ∧ m.approve C env eventId approverDid signature =
      (m, .error "Escalation request not found")) ∨
    ∃ request, m.pending.lookup eventId = some request ∧
      ((∃ e, decision C m.registryPubkey env eventId request approverDid signature = .error e ∧
        m.approve C env eventId approverDid signature =
          ({ m with pending := m.pending.erase eventId }, .error e)) ∨
      (∃ outcome, decision C m.registryPubkey env eventId request approverDid signature =
          .ok outcome ∧
        m.approve C env eventId approverDid signature =
          (({ m with pending := m.pending.erase eventId } : EscalationManager).publish
            (request.decided eventId approverDid outcome env.decidedAt) env.io,
          .ok (request.decided eventId approverDid outcome env.decidedAt)))) := by
  unfold approve
  cases hlook : m.pending.lookup eventId with
  | none =>
    -- an unknown identifier is an error that changes nothing
    exact .inl ⟨rfl, by rw [take_eq_none.mpr hlook]⟩
  | some request =>
    refine .inr ⟨request, rfl, ?_⟩
    -- the request is out of the map before the decision is made
    rw [take_eq_some.mpr ⟨hlook, rfl⟩]
    dsimp only
    cases decision C m.registryPubkey env eventId request approverDid signature with
    | error e => exact .inl ⟨e, rfl, rfl⟩
    | ok outcome => exact .inr ⟨outcome, rfl, rfl⟩

/-- What `deny` does. -/
theorem deny_cases (m : EscalationManager) (env : Surroundings) (eventId : Uuid)
    (approverDid cause : String) :
    (m.pending.lookup eventId = none ∧ m.deny env eventId approverDid cause =
      (m, .error "Escalation request not found")) ∨
    ∃ request, m.pending.lookup eventId = some request ∧
      m.deny env eventId approverDid cause =
        (({ m with pending := m.pending.erase eventId } : EscalationManager).publish
          (request.decided eventId approverDid (.denied cause) env.decidedAt) env.io,
        .ok (request.decided eventId approverDid (.denied cause) env.decidedAt)) := by
  unfold deny
  cases hlook : m.pending.lookup eventId with
  | none => exact .inl ⟨rfl, by rw [take_eq_none.mpr hlook]⟩
  | some request =>
    refine .inr ⟨request, rfl, ?_⟩
    -- `deny` takes the request out and publishes it at once
    rw [take_eq_some.mpr ⟨hlook, rfl⟩]

end EscalationManager

end AgentGovernance.Runtime
