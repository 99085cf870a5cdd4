import AgentGovernance.Lib.Runs
import AgentGovernance.Runtime.EscalationRace
import Mathlib.Data.List.Induction

/-!
# The two registry reads of an approval

`approve` awaits `get_ring` and later `get_attestation`, and the registry may be written between
the two.  Registrations are numbered in the order in which they take the lock; the run keeps
the number of the one that each read was answered from.
-/

namespace AgentGovernance.Runtime

open AgentGovernance.Lib AgentGovernance.Mesh EscalationManager

/-! ## Numbered registrations -/

/-- The number of the registration that the registry's entry of a DID comes from. -/
def registrationOf (did : String) (history : List (AgentIdentity × PrivilegeRing)) : Option Nat :=
  ((history.zipIdx.filter fun p => p.1.1.did.toText = did).getLast?).map (·.2)

theorem registrationOf_concat (did : String) (history : List (AgentIdentity × PrivilegeRing))
    (identity : AgentIdentity) (ring : PrivilegeRing) :
    registrationOf did (history ++ [(identity, ring)]) =
      if identity.did.toText = did then some history.length else registrationOf did history := by
  rw [registrationOf, List.zipIdx_append, List.filter_append]
  by_cases h : identity.did.toText = did
  · simp [h]
  · simp [h, registrationOf]

theorem registrationOf_lt {did : String} {history : List (AgentIdentity × PrivilegeRing)} {i : Nat}
    (h : registrationOf did history = some i) : i < history.length := by
  induction history using List.reverseRecOn with
  | nil => cases h
  | append_singleton history r ih =>
    rw [registrationOf_concat] at h
    rw [List.length_append, List.length_singleton]
    split at h
    · rw [← Option.some.inj h]
      exact Nat.lt_succ_self _
    · exact Nat.lt_succ_of_lt (ih h)

/-- The registry answers from the registration with that number. -/
theorem lookup_registerAll (r : MemoryAgentRegistry) (hr : r.entries = ∅) (did : String)
    (history : List (AgentIdentity × PrivilegeRing)) :
    (r.registerAll history).entries.lookup did =
      (registrationOf did history).bind fun i =>
        history[i]?.map fun call => (call.1.publicKey, call.2) := by
  induction history using List.reverseRecOn with
  | nil => simp [MemoryAgentRegistry.registerAll, hr, registrationOf]
  | append_singleton history call ih =>
    obtain ⟨identity, ring⟩ := call
    have hstep : r.registerAll (history ++ [(identity, ring)]) =
        (r.registerAll history).register identity ring := List.foldl_concat _ _ _ _
    rw [hstep, registrationOf_concat]
    by_cases hdid : identity.did.toText = did
    · subst hdid
      simp
    · rw [if_neg hdid, MemoryAgentRegistry.lookup_register_of_ne _ _ _ (Ne.symm hdid), ih]
      -- the earlier registrations keep their numbers
      cases hi : registrationOf did history with
      | none => rfl
      | some i =>
        rw [Option.bind_some, Option.bind_some, List.getElem?_append_left (registrationOf_lt hi)]

/-! ## One approval among registrations -/

/-- The registrations so far, the manager, one `approve` call, and the numbers of the
    registrations whose ring it has checked and with whose key it has verified the signature. -/
structure ApproveRace where
  history : List (AgentIdentity × PrivilegeRing)
  manager : EscalationManager
  task : Task
  ringFrom : Option Nat
  keyFrom : Option Nat

/-- A registration, or the next step of the call with its clock readings and file answer. -/
inductive ApproveEvent where
  | register (identity : AgentIdentity) (ring : PrivilegeRing)
  | advance (issued expiryBase verifiedAt decidedAt : DateTime) (io : LineOutcome)

namespace ApproveRace

variable (C : Crypto) (registryIdentity : ByteArr 32) (registryDid : String)

/-- The registry after the registrations so far. -/
def registry (w : ApproveRace) : MemoryAgentRegistry :=
  (MemoryAgentRegistry.new registryIdentity registryDid).registerAll w.history

/-- The call has the identifier of a request and waits for the lock. -/
def start (history : List (AgentIdentity × PrivilegeRing)) (manager : EscalationManager)
    (a : Approval) : ApproveRace where
  history := history
  manager := manager
  task := .approve a
  ringFrom := none
  keyFrom := none

/-- The ring is read where the call stands before its ring check. -/
def ringRead (w : ApproveRace) : Option Nat :=
  match w.task with
  | .ringCheck a _ => registrationOf a.approverDid w.history
  | _ => w.ringFrom

/-- The key is used where the attestation that holds it is found and passes its check. -/
def keyRead (w : ApproveRace) (env : Surroundings) : Option Nat :=
  match w.task with
  | .attestationCheck a _ =>
    match env.registry.getAttestation a.approverDid with
    | .ok (some attestation) =>
      match attestation.verify C w.manager.registryPubkey env.verifiedAt with
      | .ok () => registrationOf a.approverDid w.history
      | .error _ => w.keyFrom
    | _ => w.keyFrom
  | _ => w.keyFrom

/-- What a step of the call gets from outside. -/
def surroundings (w : ApproveRace) (issued expiryBase verifiedAt decidedAt : DateTime)
    (io : LineOutcome) : Surroundings where
  registry := (w.registry registryIdentity registryDid).answers C issued expiryBase
  verifiedAt := verifiedAt
  decidedAt := decidedAt
  io := io

def step (w : ApproveRace) : ApproveEvent → ApproveRace
  | .register identity ring => { w with history := w.history ++ [(identity, ring)] }
  | .advance issued expiryBase verifiedAt decidedAt io =>
    let env := w.surroundings C registryIdentity registryDid issued expiryBase verifiedAt decidedAt io
    let next := Runtime.advance C w.manager env w.task
    { w with
      manager := next.1
      task := next.2
      ringFrom := w.ringRead
      keyFrom := w.keyRead C env }

/-- The key that the signature was verified with comes from the registration whose ring was
    checked. -/
def SameRegistration (w : ApproveRace) : Prop :=
  ∀ i, w.keyFrom = some i → w.ringFrom = some i

/-- The event is no registration of the approver between the two reads. -/
def Undisturbed (w : ApproveRace) (event : ApproveEvent) : Prop :=
  ∀ identity ring a request, event = .register identity ring →
    w.task = .attestationCheck a request → identity.did.toText ≠ a.approverDid

/-! ## Phases of the call -/

/-- What the numbers are in each phase; `calm` is that the events so far left the call
    undisturbed. -/
def Follows (a : Approval) (calm : Prop) (w : ApproveRace) : Prop :=
  match w.task with
  | .approve b => b = a ∧ w.ringFrom = none ∧ w.keyFrom = none ∧ calm
  | .ringCheck b _ => b = a ∧ w.ringFrom = none ∧ w.keyFrom = none ∧ calm
  | .attestationCheck b _ => b = a ∧ w.keyFrom = none ∧
      ∃ i j, w.ringFrom = some i ∧ registrationOf a.approverDid w.history = some j ∧ i ≤ j ∧
        (calm ↔ i = j)
  | _ => w.keyFrom = none ∨ ∃ i j, w.ringFrom = some i ∧ w.keyFrom = some j ∧ (calm ↔ i = j)

variable {C registryIdentity registryDid} {a : Approval} {calm : Prop} {w : ApproveRace}

/-- Events other than a registration between the reads disturb nothing. -/
theorem undisturbed_of_task (event : ApproveEvent)
    (h : ∀ b request, w.task ≠ .attestationCheck b request) : w.Undisturbed event := by
  intro identity ring b request _ htask
  exact absurd htask (h b request)

theorem undisturbed_advance (issued expiryBase verifiedAt decidedAt : DateTime) (io : LineOutcome) :
    w.Undisturbed (.advance issued expiryBase verifiedAt decidedAt io) := by
  intro identity ring b request h
  cases h

theorem Follows.register (h : w.Follows a calm) (identity : AgentIdentity) (ring : PrivilegeRing) :
    (w.step C registryIdentity registryDid (.register identity ring)).Follows a
      (calm ∧ w.Undisturbed (.register identity ring)) := by
  obtain ⟨history, manager, task, ringFrom, keyFrom⟩ := w
  cases task with
  | approve b =>
    -- before its first read the call notices no registration
    obtain ⟨hb, hring, hkey, hcalm⟩ := h
    exact ⟨hb, hring, hkey, hcalm, undisturbed_of_task _ (by simp)⟩
  | ringCheck b request =>
    obtain ⟨hb, hring, hkey, hcalm⟩ := h
    exact ⟨hb, hring, hkey, hcalm, undisturbed_of_task _ (by simp)⟩
  | attestationCheck b request =>
    obtain ⟨rfl, hkey, i, j, hring, hreg, hle, hcalm⟩ := h
    -- between the reads a registration of the approver disturbs the call
    have hundisturbed : Undisturbed ⟨history, manager, .attestationCheck b request, ringFrom, keyFrom⟩
        (.register identity ring) ↔ identity.did.toText ≠ b.approverDid := by
      constructor
      · exact fun hu => hu identity ring b request rfl rfl
      · rintro hne identity' ring' b' request' ⟨rfl, rfl⟩ ⟨rfl, rfl⟩
        exact hne
    -- the ring's registration stays, and the key's may become the new one
    refine ⟨rfl, hkey, i, ?_⟩
    simp only [hundisturbed]
    show ∃ j, ringFrom = some i ∧ registrationOf b.approverDid (history ++ [(identity, ring)]) =
      some j ∧ i ≤ j ∧ (calm ∧ identity.did.toText ≠ b.approverDid ↔ i = j)
    rw [registrationOf_concat]
    by_cases hdid : identity.did.toText = b.approverDid
    · -- the new registration has a number that no earlier read can have
      have hlt : j < history.length := registrationOf_lt hreg
      exact ⟨history.length, hring, if_pos hdid, by omega,
        iff_of_false (fun hc => hc.2 hdid) (by omega)⟩
    · exact ⟨j, hring, (if_neg hdid).trans hreg, hle, by rw [and_iff_left hdid, hcalm]⟩
  | insert | requested | deny | logEvent | exportToSiem | returned =>
    -- after both reads nothing can change them
    rcases h with hnone | ⟨i, j, hring, hkey, hcalm⟩
    · exact .inl hnone
    · refine .inr ⟨i, j, hring, hkey, Iff.trans (and_iff_left ?_) hcalm⟩
      exact undisturbed_of_task _ (by simp)

/-- A ring check that lets the call go on was answered from a registration. -/
theorem registrationOf_of_ringCheck {did : String}
    {issued expiryBase : DateTime}
    (h : EscalationManager.ringCheck
      (((w.registry registryIdentity registryDid).answers C issued expiryBase).getRing did) =
        .ok none) :
    ∃ i, registrationOf did w.history = some i := by
  have hring := Except.ok.inj ((EscalationManager.ringCheck_eq_ok_none _).mp h)
  obtain ⟨entry, hentry, -⟩ := Option.map_eq_some_iff.mp hring
  rw [registry, lookup_registerAll _ rfl] at hentry
  obtain ⟨i, hi, -⟩ := Option.bind_eq_some_iff.mp hentry
  exact ⟨i, hi⟩

/-- The key is that of the last registration of the approver, if the step uses one. -/
theorem keyRead_attestationCheck {b : Approval} {request : EscalationRequest} {j : Nat}
    (htask : w.task = .attestationCheck b request) (hkey : w.keyFrom = none)
    (hreg : registrationOf b.approverDid w.history = some j) (env : Surroundings) :
    w.keyRead C env = none ∨ w.keyRead C env = some j := by
  simp only [keyRead, htask]
  split
  · split
    · exact .inr hreg
    · exact .inl hkey
  · exact .inl hkey

theorem Follows.advance (h : w.Follows a calm) (issued expiryBase verifiedAt decidedAt : DateTime)
    (io : LineOutcome) :
    (w.step C registryIdentity registryDid
      (.advance issued expiryBase verifiedAt decidedAt io)).Follows a calm := by
  obtain ⟨history, manager, task, ringFrom, keyFrom⟩ := w
  cases task with
  | approve b =>
    obtain ⟨hb, hring, hkey, hcalm⟩ := h
    simp only [step, Runtime.advance, ringRead, keyRead]
    cases manager.take b.eventId with
    | none => exact .inl hkey
    | some taken => exact ⟨hb, hring, hkey, hcalm⟩
  | ringCheck b request =>
    obtain ⟨rfl, hring, hkey, hcalm⟩ := h
    simp only [step, Runtime.advance, ringRead, keyRead]
    cases hcheck : EscalationManager.ringCheck
      ((surroundings C registryIdentity registryDid ⟨history, manager, .ringCheck b request, ringFrom,
        keyFrom⟩ issued expiryBase verifiedAt decidedAt io).registry.getRing b.approverDid) with
    | error e => exact .inl hkey
    | ok early =>
      cases early with
      | some outcome => exact .inl hkey
      | none =>
        -- the ring has just been read, from the registration that is the last one now
        obtain ⟨i, hi⟩ := registrationOf_of_ringCheck hcheck
        exact ⟨rfl, hkey, i, i, hi, hi, le_rfl, iff_of_true hcalm rfl⟩
  | attestationCheck b request =>
    obtain ⟨rfl, hkey, i, j, hring, hreg, hle, hcalm⟩ := h
    -- the second read takes the registration that is the last one then
    have hdone : ∀ env, keyRead C ⟨history, manager, .attestationCheck b request, ringFrom, keyFrom⟩
        env = none ∨ ∃ i j, ringFrom = some i ∧
          keyRead C ⟨history, manager, .attestationCheck b request, ringFrom, keyFrom⟩ env = some j ∧
          (calm ↔ i = j) := by
      intro env
      exact (keyRead_attestationCheck rfl hkey hreg env).imp_right fun hj =>
        ⟨i, j, hring, hj, hcalm⟩
    simp only [step, Runtime.advance, ringRead]
    split
    · exact hdone _
    · exact hdone _
  | deny eventId approverDid cause =>
    simp only [step, Runtime.advance, ringRead, keyRead]
    cases manager.take eventId with
    | none => exact h
    | some taken => exact h
  | insert | requested | logEvent | exportToSiem | returned => exact h

/-! ## Runs -/

/-- A key that was used is that of the checked ring exactly when nothing disturbed the call. -/
theorem Follows.of_key (h : w.Follows a calm) {k : Nat} (hk : w.keyFrom = some k) :
    ∃ i, w.ringFrom = some i ∧ (calm ↔ i = k) := by
  obtain ⟨history, manager, task, ringFrom, keyFrom⟩ := w
  cases task with
  | approve b | ringCheck b request =>
    -- without a key read there is no number to compare
    obtain ⟨-, -, hnone, -⟩ := h
    exact absurd (hk.symm.trans hnone) (by simp)
  | attestationCheck b request =>
    obtain ⟨-, hnone, -⟩ := h
    exact absurd (hk.symm.trans hnone) (by simp)
  | insert | requested | deny | logEvent | exportToSiem | returned =>
    rcases h with hnone | ⟨i, j, hring, hkey, hcalm⟩
    · exact absurd (hk.symm.trans hnone) (by simp)
    · obtain rfl : j = k := Option.some.inj (hkey.symm.trans hk)
      exact ⟨i, hring, hcalm⟩

theorem follows_run (C : Crypto) (registryIdentity : ByteArr 32) (registryDid : String)
    (history : List (AgentIdentity × PrivilegeRing)) (manager : EscalationManager) (a : Approval)
    (run : List ApproveEvent) :
    (runFrom (step C registryIdentity registryDid) (start history manager a) run).Follows a
      (AllSteps (step C registryIdentity registryDid) Undisturbed (start history manager a) run) := by
  induction run using List.reverseRecOn with
  | nil => exact ⟨rfl, rfl, rfl, trivial⟩
  | append_singleton past event ih =>
    rw [runFrom_append, runFrom_cons, runFrom_nil]
    -- one more event leaves the call undisturbed if the events before and the event itself do
    simp only [allSteps_append, AllSteps, and_true]
    cases event with
    | register identity ring => exact ih.register identity ring
    | advance issued expiryBase verifiedAt decidedAt io =>
      rw [and_iff_left (undisturbed_advance _ _ _ _ _)]
      exact ih.advance issued expiryBase verifiedAt decidedAt io

/-- **One registration**: the ring that `approve` checks and the key that it verifies with come
    from one registration in every run that registers the approver at no moment between the two
    reads.  In a run that uses a key, only then. -/
theorem same_registration_iff (C : Crypto) (registryIdentity : ByteArr 32) (registryDid : String)
    (history : List (AgentIdentity × PrivilegeRing)) (manager : EscalationManager) (a : Approval)
    (run : List ApproveEvent) :
    (AllSteps (step C registryIdentity registryDid) Undisturbed (start history manager a) run →
      ∀ pre, pre <+: run → (runFrom (step C registryIdentity registryDid) (start history manager a)
        pre).SameRegistration) ∧
    ((runFrom (step C registryIdentity registryDid) (start history manager a) run).keyFrom ≠ none →
      ((runFrom (step C registryIdentity registryDid) (start history manager a)
        run).SameRegistration ↔
      AllSteps (step C registryIdentity registryDid) Undisturbed (start history manager a) run)) := by
  constructor
  · -- a prefix of an undisturbed run is undisturbed
    rintro hrun pre ⟨post, rfl⟩ k hk
    have hcalm := (allSteps_append.mp hrun).1
    obtain ⟨i, hring, hi⟩ := (follows_run C registryIdentity registryDid history manager a pre).of_key hk
    rw [hring, hi.mp hcalm]
  · intro hused
    obtain ⟨k, hk⟩ := Option.ne_none_iff_exists'.mp hused
    obtain ⟨i, hring, hi⟩ := (follows_run C registryIdentity registryDid history manager a run).of_key hk
    rw [hi]
    -- the two numbers agree exactly when the run was undisturbed
    constructor
    · intro h
      exact Option.some.inj (hring.symm.trans (h k hk))
    · rintro rfl j hj
      rw [hring, ← hk, hj]

/-! ## A registration between the reads -/

/-- The approver with a public key. -/
def adminWith (pubkeyB64 : String) : AgentIdentity :=
  { identityStub pubkeyB64 with did := { method := "mesh", uniqueId := "admin" } }

/-- First with another key, in the System ring. -/
def systemHistory : List (AgentIdentity × PrivilegeRing) :=
  [(adminWith "iodf/x6zhFFXes1a/uQFRWVo3XyJ4JCGOgVXvHr0nxc=", .system)]

/-- The approval is signed with the key of the later registration. -/
def swappedApproval : Approval where
  eventId := .fill 7
  approverDid := "did:mesh:admin"
  signature := approvalSignature

/-- After the ring check the approver is registered anew, in the Standard ring. -/
def swappedRun : List ApproveEvent :=
  [.advance 0 0 0 0 .ok, .advance 0 0 0 0 .ok,
    .register (adminWith "gTl3Dqh9F19Wo1Rmw0x+zMuNipG07jeiXfYPW4/Js5Q=") .standard,
    .advance 0 0 0 0 .ok]

/-- What the run leads to. -/
def swappedRace : ApproveRace :=
  runFrom (step (Crypto.ofVectors approvalVectors) approvalVectors.seed "did:mesh:registry")
    (start systemHistory (approvalManager.requestEscalation (.fill 7) trustedRequest)
      swappedApproval) swappedRun

/-- The manager has given out the request. -/
def swappedManager : EscalationManager :=
  { approvalManager.requestEscalation (.fill 7) trustedRequest with
    pending := (approvalManager.requestEscalation (.fill 7) trustedRequest).pending.erase (.fill 7) }

/-- The registry at the second read. -/
def swappedRegistry : MemoryAgentRegistry :=
  ((MemoryAgentRegistry.new approvalVectors.seed "did:mesh:registry").registerAll
    systemHistory).register (adminWith "gTl3Dqh9F19Wo1Rmw0x+zMuNipG07jeiXfYPW4/Js5Q=") .standard

/-- The registry attests the later key, and the approval passes all checks under it. -/
theorem attestation_swapped :
    ∃ att, swappedRegistry.getAttestation (Crypto.ofVectors approvalVectors) "did:mesh:admin" 0 0 =
        some att ∧
      att.verify (Crypto.ofVectors approvalVectors) approvalManager.registryPubkey 0 = .ok () ∧
      EscalationManager.attestationCheck (Crypto.ofVectors approvalVectors) (.ok (some att))
        approvalManager.registryPubkey 0 (.fill 7) trustedRequest approvalSignature =
          .ok .approved := by
  -- the attestation is made from the registration of now, with the second key
  have hatt : swappedRegistry.getAttestation (Crypto.ofVectors approvalVectors) "did:mesh:admin" 0 0 =
      some ((MemoryAgentRegistry.claimFor "did:mesh:admin"
        "gTl3Dqh9F19Wo1Rmw0x+zMuNipG07jeiXfYPW4/Js5Q=" 0 0).attest (Crypto.ofVectors approvalVectors)
        approvalVectors.seed "did:mesh:registry") := by
    rw [MemoryAgentRegistry.getAttestation]
    exact congrArg _ (MemoryAgentRegistry.lookup_register_self _ _ _)
  have hlife : (0 : DateTime) ≤ 0 + hours 24 := by decide
  have hverify := (swappedRegistry.verify_getAttestation _ hatt).mpr hlife
  refine ⟨_, hatt, hverify, ?_⟩
  -- the second key signed the approval
  apply (EscalationManager.attestationCheck_eq_approved _ _ _ _ _ _ _).mpr
  exact ⟨_, rfl, hverify, verifySignature_approval, by decide⟩

/-- A ring check that passes. -/
theorem step_ringCheck {history : List (AgentIdentity × PrivilegeRing)} {m : EscalationManager}
    {b : Approval} {request : EscalationRequest} {i k : Option Nat}
    {issued expiryBase verifiedAt decidedAt : DateTime} {io : LineOutcome}
    (h : EscalationManager.ringCheck (.ok (((MemoryAgentRegistry.new registryIdentity
      registryDid).registerAll history).getRing b.approverDid)) = .ok none) :
    step C registryIdentity registryDid ⟨history, m, .ringCheck b request, i, k⟩
        (.advance issued expiryBase verifiedAt decidedAt io) =
      ⟨history, m, .attestationCheck b request, registrationOf b.approverDid history, k⟩ := by
  simp only [step, Runtime.advance, surroundings, registry, MemoryAgentRegistry.answers, h, ringRead,
    keyRead]

/-- A signature check, whatever it decides. -/
theorem step_attestationCheck {history : List (AgentIdentity × PrivilegeRing)}
    {m : EscalationManager} {b : Approval} {request : EscalationRequest} {i k : Option Nat}
    {issued expiryBase verifiedAt decidedAt : DateTime} {io : LineOutcome} {att : SignedAttestation}
    {outcome : EscalationOutcome}
    (hatt : ((MemoryAgentRegistry.new registryIdentity registryDid).registerAll
      history).getAttestation C b.approverDid issued expiryBase = some att)
    (hverify : att.verify C m.registryPubkey verifiedAt = .ok ())
    (h : EscalationManager.attestationCheck C (.ok (some att)) m.registryPubkey verifiedAt b.eventId
      request b.signature = .ok outcome) :
    step C registryIdentity registryDid ⟨history, m, .attestationCheck b request, i, k⟩
        (.advance issued expiryBase verifiedAt decidedAt io) =
      ⟨history, m, .logEvent (request.decided b.eventId b.approverDid outcome decidedAt), i,
        registrationOf b.approverDid history⟩ := by
  simp only [step, Runtime.advance, surroundings, registry, MemoryAgentRegistry.answers, hatt, h,
    ringRead, keyRead, hverify]

/-- The ring is that of the first registration and the key that of the second, and the request is
    approved. -/
theorem approve_mixes_registrations :
    (∃ event, swappedRace.task = .logEvent event ∧ event.outcome = .approved) ∧
      ¬ swappedRace.SameRegistration := by
  have htake : (approvalManager.requestEscalation (.fill 7) trustedRequest).take (.fill 7) =
      some (trustedRequest, swappedManager) :=
    EscalationManager.take_eq_some.mpr ⟨Finmap.lookup_insert _, rfl⟩
  -- the ring is read from the first registration
  have hring : EscalationManager.ringCheck (.ok (((MemoryAgentRegistry.new approvalVectors.seed
      "did:mesh:registry").registerAll systemHistory).getRing "did:mesh:admin")) = .ok none :=
    (EscalationManager.ringCheck_eq_ok_none _).mpr (congrArg Except.ok
      (congrArg (Option.map Prod.snd) (MemoryAgentRegistry.lookup_register_self _ _ _)))
  obtain ⟨att, hatt, hverify, happroved⟩ := attestation_swapped
  -- the call takes the request, checks the ring and, after the registration, the signature
  have hfirst : step (Crypto.ofVectors approvalVectors) approvalVectors.seed "did:mesh:registry"
      (start systemHistory (approvalManager.requestEscalation (.fill 7) trustedRequest)
        swappedApproval) (.advance 0 0 0 0 .ok) =
      ⟨systemHistory, swappedManager, .ringCheck swappedApproval trustedRequest, none, none⟩ := by
    simp only [step, start, Runtime.advance, swappedApproval, htake]
    rfl
  have hrace : swappedRace = ⟨systemHistory ++ [(adminWith
      "gTl3Dqh9F19Wo1Rmw0x+zMuNipG07jeiXfYPW4/Js5Q=", .standard)], swappedManager,
      .logEvent (trustedRequest.decided (.fill 7) "did:mesh:admin" .approved 0),
      registrationOf "did:mesh:admin" systemHistory, registrationOf "did:mesh:admin"
        (systemHistory ++ [(adminWith "gTl3Dqh9F19Wo1Rmw0x+zMuNipG07jeiXfYPW4/Js5Q=",
          .standard)])⟩ := by
    rw [swappedRace, swappedRun, runFrom_cons, hfirst, runFrom_cons, step_ringCheck hring,
      runFrom_cons, runFrom_cons, runFrom_nil]
    exact step_attestationCheck hatt hverify happroved
  rw [hrace]
  refine ⟨⟨_, rfl, rfl⟩, fun hsame => ?_⟩
  -- the ring came from number 1, and the key from number 2
  have h : registrationOf "did:mesh:admin" systemHistory = some 1 := hsame 1 (by decide)
  exact absurd h (by decide)

end ApproveRace

end AgentGovernance.Runtime
