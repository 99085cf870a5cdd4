import AgentGovernance.Runtime.EscalationRuns

/-!
# The escalation audit log

A request that was returned an identifier should stay pending until there is an event
line for it.  `approve` takes the request out of the map before the registry has
answered, so an answer that is an error drops the request without a line; and the
result of the log write is discarded, so a failed write drops the line.

Without these two the accounting is exact: `audit_accounts` says that in every run in
which each decision gets its answers and its write, an identifier is pending or has
one line, and never both.
-/

namespace AgentGovernance.Runtime

open AgentGovernance.Lib AgentGovernance.Mesh

namespace EscalationManager

variable (C : Crypto)

def auditFile (m : EscalationManager) : Bytes :=
  (m.auditLog.map (·.file)).getD []

open Classical in
/-- The number of lines that are an event with the identifier. -/
noncomputable def eventLineCount (file : Bytes) (id : Uuid) : Nat :=
  (lines file).countP fun l => ∃ e : EscalationEvent, e.eventId = id ∧ e.text = l

/-- The registry knows the approver, and attests it when it is in the System ring. -/
def RegistryAnswers (registryPubkey : String) (env : Surroundings) (approverDid : String) : Prop :=
  ∃ ring, env.registry.getRing approverDid = .ok (some ring) ∧
    (ring = .system → ∃ att, env.registry.getAttestation approverDid = .ok (some att) ∧
      att.verify C registryPubkey env.verifiedAt = .ok ())

/-- A call that decides on a pending request gets the answers it asks for and its log write. -/
def Supported (m : EscalationManager) : Call → Prop
  | .request _ _ => True
  | .approve env eventId approverDid _ =>
    eventId ∈ m.pending → RegistryAnswers C m.registryPubkey env approverDid ∧ env.io = .ok
  | .deny env eventId _ _ => eventId ∈ m.pending → env.io = .ok

/-- Every call of a run is supported where it happens. -/
def SupportedRun (m : EscalationManager) : List Call → Prop
  | [] => True
  | c :: calls => Supported C m c ∧ SupportedRun (m.call C c).1 calls

theorem supportedRun_append (m : EscalationManager) (before after : List Call) :
    SupportedRun C m (before ++ after) ↔
      SupportedRun C m before ∧ SupportedRun C (m.run C before) after := by
  induction before generalizing m with
  | nil => simp [SupportedRun, run]
  | cons c before ih =>
    rw [List.cons_append, SupportedRun, SupportedRun, ih, and_assoc]
    rfl

/-- Answers lead to a decision. -/
theorem decision_of_registryAnswers {registryPubkey : String} {env : Surroundings}
    {approverDid : String} (h : RegistryAnswers C registryPubkey env approverDid) (eventId : Uuid)
    (request : EscalationRequest) (signature : Bytes) :
    ∃ outcome, decision C registryPubkey env eventId request approverDid signature = .ok outcome := by
  obtain ⟨ring, hring, hatt⟩ := h
  -- only for a System ring is the attestation read
  by_cases hsystem : ring = .system
  · obtain ⟨att, hatt, hverify⟩ := hatt hsystem
    simp only [decision, ringCheck, hring, hsystem, ne_eq, not_true_eq_false, if_false, hatt,
      attestationCheck, hverify]
    split_ifs
    exacts [⟨_, rfl⟩, ⟨_, rfl⟩, ⟨_, rfl⟩]
  · exact ⟨_, by simp [decision, ringCheck, hring, hsystem]; rfl⟩

/-! ## The invariant -/

/-- The audit log holds the earlier events and one event for each request that is not pending
    any more. -/
structure Accounted (prior : List EscalationEvent) (calls : List Call) (m : EscalationManager)
    (events : List EscalationEvent) : Prop where
  log : m.auditLog = some (.new (unlines ((prior ++ events).map EscalationEvent.text)))
  nodup : (events.map (·.eventId)).Nodup
  requested : ∀ id, id ∈ requestIds calls ↔ id ∈ m.pending ∨ id ∈ events.map (·.eventId)
  disjoint : ∀ id ∈ m.pending, id ∉ events.map (·.eventId)

variable {C} {prior events : List EscalationEvent} {calls : List Call} {m : EscalationManager}

/-- A decision moves its identifier from the map to the log. -/
theorem Accounted.publish (h : Accounted prior calls m events) {eventId : Uuid}
    {request : EscalationRequest} (hlook : m.pending.lookup eventId = some request)
    (event : EscalationEvent) (hevent : event.eventId = eventId) {c : Call}
    (hc : requestIds (calls ++ [c]) = requestIds calls) :
    Accounted prior (calls ++ [c])
      (({ m with pending := m.pending.erase eventId } : EscalationManager).publish event .ok)
      (events ++ [event]) := by
  have hmem : eventId ∈ m.pending := Finmap.mem_iff.mpr ⟨request, hlook⟩
  -- exactly one event joins the log, under the identifier that was pending
  have hids : ∀ id, id ∈ (events ++ [event]).map (·.eventId) ↔
      id ∈ events.map (·.eventId) ∨ id = eventId := by
    intro id
    rw [List.map_append, List.mem_append, List.map_singleton, List.mem_singleton, hevent]
  constructor
  · -- the line is appended to the audit file
    rw [publish_auditLog]
    simp only [h.log, Option.map_some, BufWriter.writeLine_done, BufWriter.contents_new]
    have htexts : (prior ++ (events ++ [event])).map (·.text) =
        (prior ++ events).map (·.text) ++ [event.text] := by
      rw [← List.append_assoc, List.map_append, List.map_singleton]
    rw [htexts, unlines_concat]
  · rw [List.map_append, List.map_singleton, hevent]
    refine List.nodup_append.mpr ⟨h.nodup, List.nodup_singleton _, ?_⟩
    intro id hid id' hid' heq
    -- the identifier was pending, so it has no event yet
    rw [List.mem_singleton.mp hid'] at heq
    exact h.disjoint eventId hmem (heq ▸ hid)
  · intro id
    rw [hc, h.requested, hids, publish_pending, Finmap.mem_erase]
    by_cases hid : id = eventId
    · simp [hid, hmem]
    · simp [hid]
  · intro id hid
    rw [publish_pending, Finmap.mem_erase] at hid
    -- the identifier leaves the map as its event appears
    rw [hids, not_or]
    exact ⟨h.disjoint id hid.2, hid.1⟩

/-- A decision on an identifier that is not pending changes nothing. -/
theorem Accounted.of_ids_eq (h : Accounted prior calls m events) {c : Call}
    (hc : requestIds (calls ++ [c]) = requestIds calls) :
    Accounted prior (calls ++ [c]) m events :=
  { h with requested := fun id => by rw [hc, h.requested] }

theorem Accounted.request (h : Accounted prior calls m events) (eventId : Uuid)
    (request : EscalationRequest)
    (hfresh : (requestIds (calls ++ [.request eventId request])).Nodup) :
    Accounted prior (calls ++ [.request eventId request]) (m.requestEscalation eventId request)
      events := by
  have hids : requestIds (calls ++ [.request eventId request]) = requestIds calls ++ [eventId] := by
    simp [requestIds]
  rw [hids] at hfresh
  -- the identifier is new, so it has no event and is not pending
  have hnew : eventId ∉ requestIds calls := fun hin =>
    (List.nodup_append.mp hfresh).2.2 eventId hin eventId List.mem_cons_self rfl
  rw [h.requested, not_or] at hnew
  refine { h with requested := ?_, disjoint := ?_ }
  · intro id
    rw [hids, List.mem_append, List.mem_singleton, h.requested, requestEscalation,
      Finmap.mem_insert]
    tauto
  · intro id hid
    rw [requestEscalation, Finmap.mem_insert] at hid
    rcases hid with rfl | hid
    · exact hnew.2
    · exact h.disjoint id hid

variable (C prior events calls m) in
/-- The accounts after one more call: an error left the manager alone, a returned event is one of
    the new events. -/
def AccountedAfter (c : Call) : Prop :=
  ∃ events', Accounted prior (calls ++ [c]) (m.call C c).1 (events ++ events') ∧
    (∀ e, (m.call C c).2 = .decided (.error e) → (m.call C c).1 = m) ∧
    (∀ event, (m.call C c).2 = .decided (.ok event) → event ∈ events')

theorem Accounted.after_request (h : Accounted prior calls m events) (eventId : Uuid)
    (request : EscalationRequest)
    (hfresh : (requestIds (calls ++ [.request eventId request])).Nodup) :
    AccountedAfter C prior events calls m (.request eventId request) := by
  refine ⟨[], ?_, ?_, ?_⟩
  · rw [List.append_nil]
    exact h.request eventId request hfresh
  · intro e he
    cases he
  · intro event he
    cases he

/-- A call that answers with an error and leaves the manager alone. -/
theorem Accounted.after_error (h : Accounted prior calls m events) {c : Call} {e : String}
    (hc : requestIds (calls ++ [c]) = requestIds calls)
    (heq : m.call C c = (m, .decided (.error e))) : AccountedAfter C prior events calls m c := by
  refine ⟨[], ?_, ?_, ?_⟩
  · rw [List.append_nil, heq]
    exact h.of_ids_eq hc
  · intro e' _
    rw [heq]
  · intro event he
    rw [heq] at he
    cases he

/-- A call that decides on a pending request and writes its event. -/
theorem Accounted.after_publish (h : Accounted prior calls m events) {c : Call} {eventId : Uuid}
    {request : EscalationRequest} {event : EscalationEvent}
    (hc : requestIds (calls ++ [c]) = requestIds calls)
    (hlook : m.pending.lookup eventId = some request) (hevent : event.eventId = eventId)
    (heq : m.call C c =
      (({ m with pending := m.pending.erase eventId } : EscalationManager).publish event .ok,
        .decided (.ok event))) : AccountedAfter C prior events calls m c := by
  refine ⟨[event], ?_, ?_, ?_⟩
  · rw [heq]
    exact h.publish hlook event hevent hc
  · -- the call did not fail
    intro e he
    rw [heq] at he
    cases he
  · intro event' he
    rw [heq] at he
    cases he
    exact List.mem_cons_self

/-- **Step.** A supported call keeps the accounts. -/
theorem Accounted.call (h : Accounted prior calls m events) (c : Call)
    (hfresh : (requestIds (calls ++ [c])).Nodup) (hsupp : Supported C m c) :
    AccountedAfter C prior events calls m c := by
  cases c with
  | request eventId request => exact h.after_request eventId request hfresh
  | approve env eventId approverDid signature =>
    have hids : requestIds (calls ++ [.approve env eventId approverDid signature]) =
        requestIds calls := by simp [requestIds]
    rcases m.approve_cases C env eventId approverDid signature with
      ⟨-, heq⟩ | ⟨request, hlook, hcases⟩
    · exact h.after_error hids (by rw [EscalationManager.call, heq])
    · -- the call decides a pending request, so the registry answers
      obtain ⟨hans, hio⟩ := hsupp (Finmap.mem_iff.mpr ⟨request, hlook⟩)
      obtain ⟨outcome, hdec⟩ := decision_of_registryAnswers C hans eventId request signature
      rcases hcases with ⟨e, herr, -⟩ | ⟨outcome, -, heq⟩
      · -- the answers of the registry rule the error out
        rw [hdec] at herr
        cases herr
      · exact h.after_publish hids hlook rfl (by rw [EscalationManager.call, heq, hio])
  | deny env eventId approverDid cause =>
    have hids : requestIds (calls ++ [.deny env eventId approverDid cause]) =
        requestIds calls := by simp [requestIds]
    rcases m.deny_cases env eventId approverDid cause with ⟨-, heq⟩ | ⟨request, hlook, heq⟩
    · exact h.after_error hids (by rw [EscalationManager.call, heq])
    · have hio := hsupp (Finmap.mem_iff.mpr ⟨request, hlook⟩)
      exact h.after_publish hids hlook rfl (by rw [EscalationManager.call, heq, hio])

/-- **Run.** The accounts hold after every supported run. -/
theorem accounted_run (prior : List EscalationEvent) (registryPubkey : String) (hasExporter : Bool)
    (calls : List Call) (hfresh : (requestIds calls).Nodup)
    (hsupp : SupportedRun C
      (new (some (unlines (prior.map EscalationEvent.text))) registryPubkey hasExporter) calls) :
    ∃ events, Accounted prior calls
      ((new (some (unlines (prior.map EscalationEvent.text))) registryPubkey hasExporter).run C
        calls) events := by
  -- by induction on the calls
  induction calls using List.reverseRecOn with
  | nil =>
    refine ⟨[], ⟨?_, List.nodup_nil, ?_, ?_⟩⟩
    · -- no request has been filed, and the log holds what it held
      simp [new, run]
    · intro id
      rw [List.map_nil]
      exact ⟨fun h => absurd h List.not_mem_nil,
        fun h => h.elim (fun h => absurd h Finmap.notMem_empty) (fun h => absurd h List.not_mem_nil)⟩
    · intro id _
      exact List.not_mem_nil
  | append_singleton calls c ih =>
    have hfront : (requestIds calls).Nodup := by
      refine List.Nodup.sublist ?_ hfresh
      exact (List.sublist_append_left calls [c]).filterMap _
    -- the calls before the last one, then the step lemma
    obtain ⟨hbefore, hc, -⟩ := (supportedRun_append C _ calls [c]).mp hsupp
    obtain ⟨events, h⟩ := ih hfront hbefore
    obtain ⟨events', h', -⟩ := h.call c hfresh hc
    exact ⟨events ++ events', by rw [run_concat]; exact h'⟩

/-! ## Counting lines -/

theorem auditFile_of_log {file : Bytes} (h : m.auditLog = some (.new file)) :
    m.auditFile = file := by
  rw [auditFile, h]
  rfl

/-- The lines of a log of events are the events. -/
theorem lines_log (events : List EscalationEvent) :
    lines (unlines (events.map EscalationEvent.text)) = events.map EscalationEvent.text := by
  refine lines_unlines _ ?_
  intro l hl
  obtain ⟨e, -, rfl⟩ := List.mem_map.mp hl
  exact e.text_lineSafe

/-- Counting lines is counting events. -/
theorem eventLineCount_log (events : List EscalationEvent) (id : Uuid) :
    eventLineCount (unlines (events.map EscalationEvent.text)) id =
      (events.map (·.eventId)).count id := by
  rw [eventLineCount, lines_log, List.countP_map, List.count, List.countP_map]
  refine List.countP_congr fun e _ => ?_
  simp only [Function.comp_apply, decide_eq_true_eq, beq_iff_eq]
  constructor
  · rintro ⟨f, hid, htext⟩
    rw [← EscalationEvent.text_injective htext, hid]
  · intro hid
    exact ⟨e, hid, rfl⟩

variable (C)

/-- What the log promises after some calls: an identifier is pending without a line or not pending
    with one line; an error left the pending map alone; a returned event is in the file. -/
def AccountsFor (m : EscalationManager) (calls : List Call) : Prop :=
  (∀ id ∈ requestIds calls,
    (id ∈ (m.run C calls).pending ∧ eventLineCount (m.run C calls).auditFile id = 0) ∨
    (id ∉ (m.run C calls).pending ∧ eventLineCount (m.run C calls).auditFile id = 1)) ∧
  (∀ before c after, calls = before ++ c :: after →
    (∀ e, ((m.run C before).call C c).2 = .decided (.error e) →
      (m.run C (before ++ [c])).pending = (m.run C before).pending) ∧
    (∀ event, ((m.run C before).call C c).2 = .decided (.ok event) →
      event.text ∈ lines (m.run C (before ++ [c])).auditFile))

/-- **Audit accounts.** In every run whose decisions get their registry answers and their log
    writes, every identifier is accounted for. -/
theorem audit_accounts (prior : List EscalationEvent) (registryPubkey : String)
    (hasExporter : Bool) (calls : List Call) (hfresh : (requestIds calls).Nodup)
    (hprior : ∀ id ∈ requestIds calls, id ∉ prior.map (·.eventId))
    (hsupp : SupportedRun C
      (new (some (unlines (prior.map EscalationEvent.text))) registryPubkey hasExporter) calls) :
    AccountsFor C
      (new (some (unlines (prior.map EscalationEvent.text))) registryPubkey hasExporter) calls := by
  constructor
  · obtain ⟨events, h⟩ := accounted_run prior registryPubkey hasExporter calls hfresh hsupp
    intro id hid
    rw [auditFile_of_log h.log, eventLineCount_log, List.map_append, List.count_append,
      List.count_eq_zero_of_not_mem (hprior id hid), Nat.zero_add]
    -- none of the earlier events has the identifier, so only the events of the run count
    by_cases hpending : id ∈ ((new (some (unlines (prior.map EscalationEvent.text))) registryPubkey
      hasExporter).run C calls).pending
    · exact .inl ⟨hpending, List.count_eq_zero_of_not_mem (h.disjoint id hpending)⟩
    · have hlogged := ((h.requested id).mp hid).resolve_left hpending
      exact .inr ⟨hpending, List.count_eq_one_of_mem h.nodup hlogged⟩
  · rintro before c after rfl
    rw [← List.singleton_append, ← List.append_assoc] at hfresh hsupp
    have hfront : (requestIds (before ++ [c])).Nodup :=
      hfresh.sublist ((List.sublist_append_left _ after).filterMap _)
    obtain ⟨hbefore, hc, -⟩ :=
      (supportedRun_append C _ before [c]).mp ((supportedRun_append C _ _ after).mp hsupp).1
    -- the accounts before the call, and what the call adds to them
    obtain ⟨events, h⟩ := accounted_run prior registryPubkey hasExporter before
      (hfront.sublist ((List.sublist_append_left before [c]).filterMap _)) hbefore
    obtain ⟨events', h', herr, hok⟩ := h.call c hfront hc
    rw [run_concat]
    refine ⟨fun e he => by rw [herr e he], fun event he => ?_⟩
    rw [auditFile_of_log h'.log, lines_log]
    exact List.mem_map_of_mem
      (List.mem_append_right _ (List.mem_append_right _ (hok event he)))

/-- The signed approval is accounted for. -/
theorem audit_accounts_signed :
    AccountsFor (Crypto.ofVectors approvalVectors)
      (new (some (unlines (([] : List EscalationEvent).map EscalationEvent.text)))
        approvalManager.registryPubkey false)
      [.request (Uuid.fill 7) trustedRequest,
        .approve approvalSurroundings (Uuid.fill 7) "did:mesh:admin" approvalSignature] := by
  obtain ⟨att, hatt, hverify, -⟩ := getAttestation_approval
  -- the approver is a System agent whose attestation verifies
  exact audit_accounts (Crypto.ofVectors approvalVectors) [] approvalManager.registryPubkey false
    [.request (Uuid.fill 7) trustedRequest,
      .approve approvalSurroundings (Uuid.fill 7) "did:mesh:admin" approvalSignature]
    (by decide) (by decide)
    ⟨trivial, fun _ => ⟨⟨.system, getRing_approval, fun _ => ⟨att, hatt, hverify⟩⟩, rfl⟩, trivial⟩

/-- A registry that cannot be reached. -/
def unreachableSurroundings : Surroundings where
  registry := { getAttestation := fun _ => .error "timeout", getRing := fun _ => .error "timeout" }
  verifiedAt := 0
  decidedAt := 0
  io := .ok

/-- A request followed by an approval that gets no registry answer. -/
def lostRequest : List Call :=
  [.request (Uuid.fill 7) trustedRequest,
    .approve unreachableSurroundings (Uuid.fill 7) "did:mesh:admin" []]

/-- The request is gone without a line in the log. -/
theorem audit_loses_request :
    ¬ ∀ (C : Crypto) (prior : List EscalationEvent) (registryPubkey : String) (hasExporter : Bool)
      (calls : List Call), (requestIds calls).Nodup →
      (∀ id ∈ requestIds calls, id ∉ prior.map (·.eventId)) →
      AccountsFor C
        (new (some (unlines (prior.map EscalationEvent.text))) registryPubkey hasExporter) calls := by
  intro h
  have haccounts := (h (Crypto.ofVectors approvalVectors) [] "" false lostRequest (by decide)
    (by decide)).1 (Uuid.fill 7) (by decide)
  have hgone : Uuid.fill 7 ∉ ((new (some (unlines (([] : List EscalationEvent).map
      EscalationEvent.text))) "" false).run (Crypto.ofVectors approvalVectors) lostRequest).pending := by
    decide
  have hempty : ((new (some (unlines (([] : List EscalationEvent).map EscalationEvent.text))) ""
      false).run (Crypto.ofVectors approvalVectors) lostRequest).auditFile = [] := by
    decide
  -- the request is neither pending nor in the log
  rcases haccounts with ⟨hpending, -⟩ | ⟨-, hline⟩
  · exact hgone hpending
  · rw [hempty] at hline
    simp [eventLineCount] at hline

end EscalationManager

end AgentGovernance.Runtime
