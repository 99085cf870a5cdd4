import AgentGovernance.Runtime.EscalationRuns
import Mathlib.Algebra.Order.BigOperators.Group.List
import Mathlib.Logic.Relation

/-!
# Concurrent calls of the escalation manager

Any number of `request_escalation`, `approve` and `deny` calls at once.  A call is a
task that moves from one await point or lock to the next: the locked access to the
pending map, each registry answer, the audit log write and the export are steps of
their own, and between them every other task may move.

The invariant is a count.  An identifier is held by the pending map or by the task that
will insert it, took it out, or returned its event; `weight` adds these up, and no step
makes the sum larger.  The locked removal is where the identifier changes hands.
-/

namespace AgentGovernance.Runtime

open AgentGovernance.Lib AgentGovernance.Mesh

/-- The arguments of `approve`. -/
structure Approval where
  eventId : Uuid
  approverDid : String
  signature : Bytes

/-- Where a call stands. -/
inductive Task where
  /-- `request_escalation` has its identifier and waits for the lock. -/
  | insert (eventId : Uuid) (request : EscalationRequest)
  | requested (eventId : Uuid)
  /-- `approve` and `deny` wait for the lock. -/
  | approve (a : Approval)
  | deny (eventId : Uuid) (approverDid cause : String)
  /-- `approve` waits for the registry. -/
  | ringCheck (a : Approval) (request : EscalationRequest)
  | attestationCheck (a : Approval) (request : EscalationRequest)
  /-- A decision is made and has to be logged, then exported. -/
  | logEvent (event : EscalationEvent)
  | exportToSiem (event : EscalationEvent)
  | returned (result : Except String EscalationEvent)

/-- The event that a finished call returned for an identifier. -/
def Task.returnedEvent (id : Uuid) : Task → Option EscalationEvent
  | .returned (.ok event) => if event.eventId = id then some event else none
  | _ => none

open EscalationManager

variable (C : Crypto)

/-- The next step of a task, with what it gets from outside. -/
def advance (m : EscalationManager) (env : Surroundings) : Task → EscalationManager × Task
  | .insert eventId request => (m.requestEscalation eventId request, .requested eventId)
  | .approve a =>
    match m.take a.eventId with
    | none => (m, .returned (.error "Escalation request not found"))
    | some (request, m) => (m, .ringCheck a request)
  | .deny eventId approverDid cause =>
    match m.take eventId with
    | none => (m, .returned (.error "Escalation request not found"))
    | some (request, m) =>
      (m, .logEvent (request.decided eventId approverDid (.denied cause) env.decidedAt))
  | .ringCheck a request =>
    match EscalationManager.ringCheck (env.registry.getRing a.approverDid) with
    | .error e => (m, .returned (.error e))
    | .ok (some outcome) =>
      (m, .logEvent (request.decided a.eventId a.approverDid outcome env.decidedAt))
    | .ok none => (m, .attestationCheck a request)
  | .attestationCheck a request =>
    match EscalationManager.attestationCheck C (env.registry.getAttestation a.approverDid)
      m.registryPubkey env.verifiedAt a.eventId request a.signature with
    | .error e => (m, .returned (.error e))
    | .ok outcome =>
      (m, .logEvent (request.decided a.eventId a.approverDid outcome env.decidedAt))
  | .logEvent event => ((m.logEvent event env.io).2, .exportToSiem event)
  | .exportToSiem event => (m.exportToSiem event, .returned (.ok event))
  | .requested eventId => (m, .requested eventId)
  | .returned result => (m, .returned result)

/-! ## A call on its own -/

/-- Some steps of a task that nothing interleaves with. -/
def advanceAlone (env : Surroundings) (n : Nat) (m : EscalationManager) (t : Task) :
    EscalationManager × Task :=
  (fun s => advance C s.1 env s.2)^[n] (m, t)

theorem advanceAlone_succ (env : Surroundings) (n : Nat) (m : EscalationManager) (t : Task) :
    advanceAlone C env (n + 1) m t =
      advanceAlone C env n (advance C m env t).1 (advance C m env t).2 := rfl

theorem advanceAlone_returned (env : Surroundings) (n : Nat) (m : EscalationManager)
    (result : Except String EscalationEvent) :
    advanceAlone C env n m (.returned result) = (m, .returned result) := by
  induction n with
  | zero => rfl
  | succ n ih => exact ih

theorem advanceAlone_logEvent (env : Surroundings) (n : Nat) (m : EscalationManager)
    (event : EscalationEvent) :
    advanceAlone C env (n + 2) m (.logEvent event) =
      (m.publish event env.io, .returned (.ok event)) :=
  advanceAlone_returned C env n (m.publish event env.io) (.ok event)

/-- **The steps of `approve` are `approve`** when nothing interleaves with them. -/
theorem advanceAlone_approve (env : Surroundings) (m : EscalationManager) (a : Approval) :
    advanceAlone C env 5 m (.approve a) =
      ((m.approve C env a.eventId a.approverDid a.signature).1,
        .returned (m.approve C env a.eventId a.approverDid a.signature).2) := by
  -- one step takes the request, and the next ones are the two checks and the log write
  rw [advanceAlone_succ, EscalationManager.approve]
  cases htake : m.take a.eventId with
  | none =>
    simp only [advance, htake]
    exact advanceAlone_returned C env 4 m _
  | some p =>
    obtain ⟨request, m'⟩ := p
    simp only [advance, htake]
    rw [advanceAlone_succ, decision]
    cases hring : EscalationManager.ringCheck (env.registry.getRing a.approverDid) with
    | error e =>
      -- an error of the registry ends the call, and the request is gone
      simp only [advance, hring]
      exact advanceAlone_returned C env 3 m' _
    | ok early =>
      cases early with
      | some outcome =>
        simp only [advance, hring]
        -- an approver below System is denied without a look at the attestation
        exact advanceAlone_logEvent C env 1 m' _
      | none =>
        simp only [advance, hring]
        rw [advanceAlone_succ]
        cases hatt : EscalationManager.attestationCheck C
          (env.registry.getAttestation a.approverDid) m'.registryPubkey env.verifiedAt a.eventId
          request a.signature with
        | error e =>
          simp only [advance, hatt]
          exact advanceAlone_returned C env 2 m' _
        | ok outcome =>
          simp only [advance, hatt]
          exact advanceAlone_logEvent C env 0 m' _

/-- The steps of `deny` are `deny`. -/
theorem advanceAlone_deny (env : Surroundings) (m : EscalationManager) (eventId : Uuid)
    (approverDid cause : String) :
    advanceAlone C env 3 m (.deny eventId approverDid cause) =
      ((m.deny env eventId approverDid cause).1,
        .returned (m.deny env eventId approverDid cause).2) := by
  rw [advanceAlone_succ, EscalationManager.deny]
  cases htake : m.take eventId with
  | none =>
    -- the request is not pending, so nothing is logged
    simp only [advance, htake]
    exact advanceAlone_returned C env 2 m _
  | some p =>
    simp only [advance, htake]
    exact advanceAlone_logEvent C env 0 p.2 _

/-! ## Interleavings -/

/-- The manager, the calls so far, and the identifiers that `Uuid::new_v4` gave out. -/
structure Race where
  manager : EscalationManager
  tasks : List Task
  issued : List Uuid

namespace Race

/-- One step of some task, or a new call. -/
inductive Step : Race → Race → Prop where
  /-- A request gets an identifier that nobody had. -/
  | request (m : EscalationManager) (ts : List Task) (ids : List Uuid) (eventId : Uuid)
      (request : EscalationRequest) (hfresh : eventId ∉ ids) :
      Step ⟨m, ts, ids⟩ ⟨m, .insert eventId request :: ts, eventId :: ids⟩
  | approve (m : EscalationManager) (ts : List Task) (ids : List Uuid) (a : Approval) :
      Step ⟨m, ts, ids⟩ ⟨m, .approve a :: ts, ids⟩
  | deny (m : EscalationManager) (ts : List Task) (ids : List Uuid) (eventId : Uuid)
      (approverDid cause : String) :
      Step ⟨m, ts, ids⟩ ⟨m, .deny eventId approverDid cause :: ts, ids⟩
  | advance (m : EscalationManager) (before after : List Task) (t : Task) (ids : List Uuid)
      (env : Surroundings) :
      Step ⟨m, before ++ t :: after, ids⟩
        ⟨(advance C m env t).1, before ++ (advance C m env t).2 :: after, ids⟩

/-- Some interleaving leads from one state to the other. -/
def Reaches : Race → Race → Prop :=
  Relation.ReflTransGen (Step C)

/-- No calls yet. -/
def start (auditFile : Option Bytes) (registryPubkey : String) (hasExporter : Bool) : Race where
  manager := EscalationManager.new auditFile registryPubkey hasExporter
  tasks := []
  issued := []

/-- The events that finished calls returned for an identifier. -/
def returnedEvents (w : Race) (id : Uuid) : List EscalationEvent :=
  w.tasks.filterMap (Task.returnedEvent id)

end Race

/-! ## Who holds an identifier -/

/-- 1 when the identifier is pending. -/
def EscalationManager.weight (m : EscalationManager) (id : Uuid) : Nat :=
  if (m.pending.lookup id).isSome then 1 else 0

/-- 1 when the task will insert the identifier. -/
def Task.inserting (id : Uuid) : Task → Nat
  | .insert eventId _ => if eventId = id then 1 else 0
  | _ => 0

/-- 1 when the task will insert the identifier, took it out, or returned its event. -/
def Task.weight (id : Uuid) : Task → Nat
  | .insert eventId _ => if eventId = id then 1 else 0
  | .ringCheck a _ | .attestationCheck a _ => if a.eventId = id then 1 else 0
  | .logEvent event | .exportToSiem event => if event.eventId = id then 1 else 0
  | .returned (.ok event) => if event.eventId = id then 1 else 0
  | _ => 0

/-- Taking out moves the weight from the map to the task. -/
theorem take_weight {m m' : EscalationManager} {eventId : Uuid} {request : EscalationRequest}
    (h : m.take eventId = some (request, m')) (id : Uuid) :
    m'.weight id + (if eventId = id then 1 else 0) = m.weight id := by
  obtain ⟨hlook, rfl⟩ := take_eq_some.mp h
  by_cases hid : eventId = id
  · subst hid
    simp [EscalationManager.weight, hlook]
  · simp [EscalationManager.weight, hid, Finmap.lookup_erase_ne (Ne.symm hid)]

theorem requestEscalation_weight (m : EscalationManager) (eventId : Uuid)
    (request : EscalationRequest) (id : Uuid) :
    (m.requestEscalation eventId request).weight id ≤
      m.weight id + (if eventId = id then 1 else 0) := by
  by_cases hid : eventId = id
  · subst hid
    simp [EscalationManager.weight, requestEscalation]
  · simp [EscalationManager.weight, requestEscalation, hid,
      Finmap.lookup_insert_of_ne _ (Ne.symm hid)]

@[simp] theorem logEvent_weight (m : EscalationManager) (event : EscalationEvent)
    (io : LineOutcome) (id : Uuid) : (m.logEvent event io).2.weight id = m.weight id := by
  rw [EscalationManager.weight, logEvent_pending]
  rfl

/-- **No step makes an identifier held more often.** -/
theorem advance_weight (m : EscalationManager) (env : Surroundings) (t : Task) (id : Uuid) :
    (advance C m env t).1.weight id + (advance C m env t).2.weight id ≤
      m.weight id + t.weight id := by
  -- taking a request moves its weight to the task, and an error drops it
  cases t with
  | insert eventId request => exact requestEscalation_weight m eventId request id
  | requested eventId => exact le_rfl
  | approve a =>
    cases htake : m.take a.eventId with
    | none =>
      -- no request was taken, so nothing moves
      simp [advance, htake, Task.weight]
    | some p => simp [advance, htake, Task.weight, take_weight htake]
  | deny eventId approverDid cause =>
    cases htake : m.take eventId with
    | none => simp [advance, htake, Task.weight]
    | some p => simp [advance, htake, Task.weight, EscalationRequest.decided, take_weight htake]
  | ringCheck a request =>
    cases hring : EscalationManager.ringCheck (env.registry.getRing a.approverDid) with
    | error e => simp [advance, hring, Task.weight]
    | ok early =>
      -- the task keeps its request, or turns it into the event
      cases early <;> simp [advance, hring, Task.weight, EscalationRequest.decided]
  | attestationCheck a request =>
    cases hatt : EscalationManager.attestationCheck C (env.registry.getAttestation a.approverDid)
      m.registryPubkey env.verifiedAt a.eventId request a.signature with
    | error e => simp [advance, hatt, Task.weight]
    | ok outcome => simp [advance, hatt, Task.weight, EscalationRequest.decided]
  | logEvent event => simp [advance, Task.weight]
  | exportToSiem event => exact le_rfl
  | returned result => exact le_rfl

/-- No task becomes an insertion. -/
theorem advance_inserting (m : EscalationManager) (env : Surroundings) (t : Task) (id : Uuid) :
    (advance C m env t).2.inserting id = 0 := by
  cases t <;> simp only [advance] <;> (repeat' split) <;> rfl

/-- A step brings an identifier into the map only by inserting it. -/
theorem advance_pending (m : EscalationManager) (env : Surroundings) (t : Task) (id : Uuid) :
    (advance C m env t).1.weight id ≤ m.weight id + t.inserting id := by
  cases t with
  | insert eventId request => exact requestEscalation_weight m eventId request id
  | requested eventId => exact Nat.le_add_right _ _
  | approve a =>
    cases htake : m.take a.eventId with
    | none => simp [advance, htake]
    | some p =>
      -- what is taken leaves the map
      have hmove := take_weight htake id
      simp only [advance, htake]
      omega
  | deny eventId approverDid cause =>
    cases htake : m.take eventId with
    | none => simp [advance, htake]
    | some p =>
      have hmove := take_weight htake id
      simp only [advance, htake]
      omega
  | ringCheck a request =>
    -- the checks do not write to the map
    simp only [advance]
    split <;> exact Nat.le_add_right _ _
  | attestationCheck a request =>
    simp only [advance]
    split <;> exact Nat.le_add_right _ _
  | logEvent event => simp [advance]
  | exportToSiem event => exact Nat.le_add_right _ _
  | returned result => exact Nat.le_add_right _ _

theorem Task.inserting_le_weight (id : Uuid) (t : Task) : t.inserting id ≤ t.weight id := by
  cases t <;> simp [Task.inserting, Task.weight]

theorem Task.weight_of_returnedEvent {id : Uuid} {t : Task} {event : EscalationEvent}
    (h : t.returnedEvent id = some event) : t.weight id = 1 := by
  unfold Task.returnedEvent at h
  split at h
  · next e =>
    split at h
    · next hid => simp [Task.weight, hid]
    · cases h
  · cases h

/-! ## The invariant -/

namespace Race

/-- How often an identifier is held. -/
def count (w : Race) (id : Uuid) : Nat :=
  w.manager.weight id + (w.tasks.map (Task.weight id)).sum

/-- How many tasks will insert an identifier. -/
def insertions (w : Race) (id : Uuid) : Nat :=
  (w.tasks.map (Task.inserting id)).sum

/-- Every identifier is held once at most, and only identifiers that were given out are held. -/
structure Inv (w : Race) : Prop where
  once : ∀ id, w.count id ≤ 1
  issued : ∀ id, id ∉ w.issued → w.count id = 0

theorem inv_start (auditFile : Option Bytes) (registryPubkey : String) (hasExporter : Bool) :
    Inv (start auditFile registryPubkey hasExporter) where
  once id := by simp [count, start, EscalationManager.weight, EscalationManager.new]
  issued id _ := by simp [count, start, EscalationManager.weight, EscalationManager.new]

/-- A step adds to the count of an identifier only when it gives it out. -/
theorem count_step {w w' : Race} (h : Step C w w') (id : Uuid) :
    w'.count id ≤ w.count id ∨ (id ∉ w.issued ∧ id ∈ w'.issued ∧ w'.count id = w.count id + 1) := by
  cases h with
  | request m ts ids eventId request hfresh =>
    -- a filing call is the only way for a count to grow, and its identifier is fresh
    by_cases hid : eventId = id
    · subst hid
      exact .inr ⟨hfresh, List.mem_cons_self, by simp [count, Task.weight]; omega⟩
    · exact .inl (by simp [count, Task.weight, hid])
  | approve m ts ids a => exact .inl (by simp [count, Task.weight])
  | deny m ts ids eventId approverDid cause => exact .inl (by simp [count, Task.weight])
  | advance m before after t ids env =>
    -- a step of a task moves weight between the map and that task
    have hstep := advance_weight C m env t id
    refine .inl ?_
    simp only [count, List.map_append, List.map_cons, List.sum_append, List.sum_cons]
    omega

theorem issued_step {w w' : Race} (h : Step C w w') {id : Uuid} (hid : id ∈ w.issued) :
    id ∈ w'.issued := by
  cases h with
  | request m ts ids eventId request hfresh => exact List.mem_cons_of_mem _ hid
  | approve | deny | advance => exact hid

theorem inv_step {w w' : Race} (hw : Inv w) (h : Step C w w') : Inv w' where
  once id := by
    rcases count_step C h id with hle | ⟨hfresh, -, heq⟩
    · exact hle.trans (hw.once id)
    · rw [heq, hw.issued id hfresh]
  issued id hid := by
    rcases count_step C h id with hle | ⟨-, hin, -⟩
    · have hzero := hw.issued id (fun hin => hid (issued_step C h hin))
      omega
    · exact absurd hin hid

theorem inv_of_reaches {w w' : Race} (hw : Inv w) (h : Reaches C w w') : Inv w' := by
  induction h with
  | refl => exact hw
  | tail _ hstep ih => exact inv_step C ih hstep

/-! ## Identifiers that left the map -/

/-- Neither pending nor about to be inserted, though it was given out. -/
structure Gone (w : Race) (id : Uuid) : Prop where
  issued : id ∈ w.issued
  absent : w.manager.weight id = 0
  noInsertion : w.insertions id = 0

theorem insertions_step {w w' : Race} (h : Step C w w') {id : Uuid} (hid : id ∈ w.issued) :
    w'.insertions id ≤ w.insertions id := by
  cases h with
  | request m ts ids eventId request hfresh =>
    -- the identifier was issued, so no call can draw it again
    have hne : eventId ≠ id := fun e => hfresh (e ▸ hid)
    simp [insertions, Task.inserting, hne]
  | approve m ts ids a => simp [insertions, Task.inserting]
  | deny m ts ids eventId approverDid cause => simp [insertions, Task.inserting]
  | advance m before after t ids env =>
    have hstep := advance_inserting C m env t id
    simp only [insertions, List.map_append, List.map_cons, List.sum_append, List.sum_cons]
    omega

/-- **What is gone stays gone.** -/
theorem gone_step {w w' : Race} {id : Uuid} (hw : Gone w id) (h : Step C w w') : Gone w' id := by
  have hins := insertions_step C h hw.issued
  refine ⟨issued_step C h hw.issued, ?_, by rw [hw.noInsertion] at hins; omega⟩
  cases h with
  | request | approve | deny => exact hw.absent
  | advance m before after t ids env =>
    -- without a task that inserts the identifier it cannot come back
    have hstep := advance_pending C m env t id
    have habs : m.weight id = 0 := hw.absent
    have hzero := hw.noInsertion
    simp only [insertions, List.map_append, List.map_cons, List.sum_append, List.sum_cons] at hzero
    show (Runtime.advance C m env t).1.weight id = 0
    omega

theorem gone_of_reaches {w w' : Race} {id : Uuid} (hw : Gone w id) (h : Reaches C w w') :
    Gone w' id := by
  induction h with
  | refl => exact hw
  | tail _ hstep ih => exact gone_step C ih hstep

/-- While an identifier is pending nobody is about to insert it, and that stays so. -/
theorem insertions_of_reaches {w w' : Race} {id : Uuid} (hid : id ∈ w.issued)
    (hw : w.insertions id = 0) (h : Reaches C w w') : id ∈ w'.issued ∧ w'.insertions id = 0 := by
  induction h with
  | refl => exact ⟨hid, hw⟩
  | tail _ hstep ih =>
    have hle := insertions_step C hstep ih.1
    exact ⟨issued_step C hstep ih.1, by omega⟩

theorem weight_eq_zero {m : EscalationManager} {id : Uuid} :
    m.weight id = 0 ↔ id ∉ m.pending := by
  rw [← Finmap.lookup_eq_none]
  cases h : m.pending.lookup id <;> simp [EscalationManager.weight, h]

/-- An identifier that left the map is gone. -/
theorem gone_of_left {w w' : Race} {id : Uuid} (hw : Inv w) (h : Reaches C w w')
    (hin : id ∈ w.manager.pending) (hout : id ∉ w'.manager.pending) : Gone w' id := by
  have hweight : w.manager.weight id ≠ 0 := fun h => weight_eq_zero.mp h hin
  have hcount : w.count id ≤ 1 := hw.once id
  -- what is pending has been issued
  have hissued : id ∈ w.issued := by
    by_contra hnot
    have hzero := hw.issued id hnot
    simp only [count] at hzero
    omega
  -- its whole weight is in the map, so no task is about to insert it
  have hins : w.insertions id = 0 := by
    have hle : w.insertions id ≤ (w.tasks.map (Task.weight id)).sum :=
      List.sum_le_sum fun t _ => t.inserting_le_weight id
    simp only [count] at hcount
    omega
  obtain ⟨hissued', hins'⟩ := insertions_of_reaches C hissued hins h
  exact ⟨hissued', weight_eq_zero.mpr hout, hins'⟩

/-! ## Main result -/

/-- Returned events are counted. -/
theorem length_returnedEvents_le (w : Race) (id : Uuid) :
    (w.returnedEvents id).length ≤ w.count id := by
  have htasks : ∀ ts : List Task,
      (ts.filterMap (Task.returnedEvent id)).length ≤ (ts.map (Task.weight id)).sum := by
    -- by induction on the tasks: a returned event has weight one
    intro ts
    induction ts with
    | nil => exact le_rfl
    | cons t ts ih =>
      rw [List.map_cons, List.sum_cons]
      cases ht : t.returnedEvent id with
      | none =>
        rw [List.filterMap_cons_none ht]
        omega
      | some event =>
        rw [List.filterMap_cons_some ht, List.length_cons, Task.weight_of_returnedEvent ht]
        omega
  exact (htasks w.tasks).trans (Nat.le_add_left _ _)

/-- **Racing decisions.** However the calls interleave, an identifier yields one event at most,
    so never an approval and a denial, and once it has left the pending map it stays out. -/
theorem escalation_race (auditFile : Option Bytes) (registryPubkey : String) (hasExporter : Bool)
    (w : Race) (h : Reaches C (start auditFile registryPubkey hasExporter) w) :
    (∀ id, (w.returnedEvents id).length ≤ 1) ∧
    (∀ id, ∀ e ∈ w.returnedEvents id, ∀ f ∈ w.returnedEvents id,
      ¬ (e.outcome = .approved ∧ ∃ cause, f.outcome = .denied cause)) ∧
    (∀ id w₁ w₂, Reaches C w w₁ → Reaches C w₁ w₂ →
      id ∈ w.manager.pending → id ∉ w₁.manager.pending → id ∉ w₂.manager.pending) := by
  have hinv := inv_of_reaches C (inv_start auditFile registryPubkey hasExporter) h
  have hone : ∀ id, (w.returnedEvents id).length ≤ 1 := fun id =>
    (w.length_returnedEvents_le id).trans (hinv.once id)
  refine ⟨hone, ?_, ?_⟩
  · -- at most one event is returned, so it cannot be of both kinds
    rintro id e he f hf ⟨happroved, cause, hdenied⟩
    obtain ⟨event, hevents⟩ : ∃ event, w.returnedEvents id = [event] :=
      List.length_eq_one_iff.mp (le_antisymm (hone id) (List.length_pos_of_mem he))
    rw [hevents, List.mem_singleton] at he hf
    subst he hf
    rw [happroved] at hdenied
    cases hdenied
  · -- an identifier that left the map is gone for good
    intro id w₁ w₂ h₁ h₂ hin hout
    exact weight_eq_zero.mp (gone_of_reaches C (gone_of_left C hinv h₁ hin hout) h₂).absent

def pendingRace : Race where
  manager := (EscalationManager.new none "" false).requestEscalation (Uuid.fill 7) trustedRequest
  tasks := [.requested (Uuid.fill 7)]
  issued := [Uuid.fill 7]

/-- A request that a racing denial took out of the map never comes back. -/
theorem escalation_race_denied :
    ∃ w₁, Reaches (Crypto.ofVectors approvalVectors) (start none "" false) pendingRace ∧
      Reaches (Crypto.ofVectors approvalVectors) pendingRace w₁ ∧
      Uuid.fill 7 ∈ pendingRace.manager.pending ∧ Uuid.fill 7 ∉ w₁.manager.pending ∧
      ∀ w₂, Reaches (Crypto.ofVectors approvalVectors) w₁ w₂ → Uuid.fill 7 ∉ w₂.manager.pending := by
  -- the request is filed, and then denied
  have hw : Reaches (Crypto.ofVectors approvalVectors) (start none "" false) pendingRace :=
    .tail (.single (.request _ [] [] (Uuid.fill 7) trustedRequest (by decide)))
      (.advance _ [] [] _ _ approvalSurroundings)
  have hw₁ : Reaches (Crypto.ofVectors approvalVectors) pendingRace ⟨_, _, [Uuid.fill 7]⟩ :=
    .tail (.single (.deny _ _ [Uuid.fill 7] (Uuid.fill 7) "did:mesh:admin" "no"))
      (.advance pendingRace.manager [] [.requested (Uuid.fill 7)]
        (.deny (Uuid.fill 7) "did:mesh:admin" "no") _ approvalSurroundings)
  have hin : Uuid.fill 7 ∈ pendingRace.manager.pending := by decide
  have hout : Uuid.fill 7 ∉ pendingRace.manager.pending.erase (Uuid.fill 7) := by decide
  exact ⟨_, hw, hw₁, hin, hout, fun w₂ h₂ =>
    (escalation_race (Crypto.ofVectors approvalVectors) none "" false _ hw).2.2 _ _ w₂ hw₁ h₂ hin
      hout⟩

end Race

end AgentGovernance.Runtime
