import AgentGovernance.Lib.Runs
import AgentGovernance.Mesh.RegistryJson
import Mathlib.Logic.Function.Basic

/-!
# Overlapping registrations

`register` updates the memory under the lock of the entries and then appends the text and the line
feed of the record to the file, under no lock.  So the steps of overlapping calls interleave: the
memory and the file may see the calls in different orders, and two texts may share a line.
-/

namespace AgentGovernance.Mesh

open AgentGovernance.Lib

/-! ## Steps of a call -/

/-- How far a call of `register` has come. -/
inductive RegisterPhase where
  | begun
  /-- The memory is updated. -/
  | remembered
  /-- The text is in the file. -/
  | written
  /-- The line feed is in the file, and the call has returned `Ok`. -/
  | returned
  deriving DecidableEq

namespace RegisterPhase

/-- The phase behind the next step. -/
def next : RegisterPhase → RegisterPhase
  | .begun => .remembered
  | .remembered => .written
  | .written => .returned
  | .returned => .returned

/-- The number of steps taken. -/
def rank : RegisterPhase → Nat
  | .begun => 0
  | .remembered => 1
  | .written => 2
  | .returned => 3

theorem rank_injective : Function.Injective rank := by
  intro a b h
  cases a <;> cases b <;> simp_all [rank]

theorem rank_next_le (p : RegisterPhase) : p.next.rank ≤ p.rank + 1 := by
  cases p <;> decide

/-- What the next step of a call does. -/
def act (E : RegistryEnv) (record : RegistryRecord) (r : FileAgentRegistry) :
    RegisterPhase → FileAgentRegistry
  | .begun => r.remember record
  | .remembered => r.appendBytes (E.records.encode record.stored)
  | .written => r.appendBytes [newline]
  | .returned => r

/-- The steps of a call are `register`. -/
theorem act_register (E : RegistryEnv) (record : RegistryRecord) (r : FileAgentRegistry) :
    act E record (act E record (act E record r .begun) .remembered) .written =
      (r.register E record .ok).1 := rfl

end RegisterPhase

/-- A registry with the phases of the calls on it. -/
structure Race (ι : Type) where
  registry : FileAgentRegistry
  phase : ι → RegisterPhase

namespace Race

variable {ι : Type} [DecidableEq ι] (E : RegistryEnv) (calls : ι → RegistryRecord)

/-- No call has taken a step. -/
def start (registry : FileAgentRegistry) : Race ι where
  registry := registry
  phase _ := .begun

/-- The same, after registrations that did not overlap. -/
def startAfter (registryIdentity : ByteArr 32) (registryDid : String)
    (before : List RegistryRecord) : Race ι :=
  start ((FileAgentRegistry.fresh registryIdentity registryDid).registerEach E before)

/-- One call takes its next step. -/
def step (s : Race ι) (i : ι) : Race ι where
  registry := (s.phase i).act E (calls i) s.registry
  phase := Function.update s.phase i (s.phase i).next

/-- All calls have returned. -/
def Done (s : Race ι) : Prop :=
  ∀ i, s.phase i = .returned

/-- The records of the calls that leave a phase, in that order. -/
def leaving (p : RegisterPhase) : Race ι → List ι → List RegistryRecord
  | _, [] => []
  | s, i :: run =>
    (if s.phase i = p then [calls i] else []) ++ leaving p (step E calls s i) run

/-- The records in the order of the memory updates. -/
def updates (s : Race ι) (run : List ι) : List RegistryRecord :=
  leaving E calls .begun s run

/-- The records in the order in which their texts were appended. -/
def appends (s : Race ι) (run : List ι) : List RegistryRecord :=
  leaving E calls .remembered s run

/-- A text is only appended while no other call is between its text and its line feed. -/
def Alone (s : Race ι) (i : ι) : Prop :=
  s.phase i = .remembered → ∀ j, s.phase j ≠ .written

/-- Opening the file succeeds and answers as the live registry does. -/
def OpenAgrees (r : FileAgentRegistry) : Prop :=
  ∀ (registryIdentity : ByteArr 32) (registryDid : String),
    ∃ r', FileAgentRegistry.open E r.file registryIdentity registryDid = .ok r' ∧
      ∀ did, FileAgentRegistry.SameAnswers r' r did

/-- The file holds the texts of the records, all ended but perhaps the last one, whose call is then
    the only one between its two appends. -/
def Framed (records : List RegistryRecord) (s : Race ι) : Prop :=
  ((∀ j, s.phase j ≠ .written) ∧
      s.registry.file.getD [] = FileAgentRegistry.fileOf E records) ∨
    ∃ rs record i, records = rs ++ [record] ∧ s.phase i = .written ∧
      (∀ j, s.phase j = .written → j = i) ∧
      s.registry.file.getD [] =
        FileAgentRegistry.fileOf E rs ++ E.records.encode record.stored

/-- Two texts share a line of the file. -/
def Joined (s : Race ι) : Prop :=
  ∃ records a b rest, s.registry.file.getD [] =
    FileAgentRegistry.fileOf E records ++ (E.records.encode a ++ E.records.encode b ++ rest)

variable {E calls} {s : Race ι} {run : List ι}

/-! ## Who took part -/

theorem mem_of_mem_leaving {p : RegisterPhase} {record : RegistryRecord}
    (h : record ∈ leaving E calls p s run) : ∃ i, calls i = record := by
  induction run generalizing s with
  | nil => cases h
  | cons i run ih =>
    rcases List.mem_append.mp h with hhead | htail
    · split at hhead
      · exact ⟨i, (List.mem_singleton.mp hhead).symm⟩
      · cases hhead
    · exact ih htail

/-- A call that passes through a phase leaves it. -/
theorem mem_leaving {p : RegisterPhase} {i : ι} (hbefore : (s.phase i).rank ≤ p.rank)
    (hafter : p.rank < ((runFrom (step E calls) s run).phase i).rank) :
    calls i ∈ leaving E calls p s run := by
  induction run generalizing s with
  | nil => exact absurd hbefore (Nat.not_le.mpr hafter)
  | cons j run ih =>
    rw [leaving, List.mem_append]
    by_cases hji : j = i
    · subst hji
      -- the next step is either the one that leaves `p`, or an earlier one
      rcases hbefore.eq_or_lt with heq | hlt
      · left
        rw [if_pos (RegisterPhase.rank_injective heq)]
        exact List.mem_singleton.mpr rfl
      · right
        refine ih ?_ hafter
        have hnext := (s.phase j).rank_next_le
        -- one step moves by one phase, so `p` is not passed over
        simp only [step, Function.update_self]
        omega
    · right
      refine ih ?_ hafter
      simp only [step, Function.update_of_ne (Ne.symm hji)]
      exact hbefore

/-- When all calls have returned, every one of them has left every earlier phase. -/
theorem mem_leaving_iff {r : FileAgentRegistry} {p : RegisterPhase} (hp : p ≠ .returned)
    (hdone : (runFrom (step E calls) (start r) run).Done) (record : RegistryRecord) :
    record ∈ leaving E calls p (start r) run ↔ ∃ i, calls i = record := by
  refine ⟨mem_of_mem_leaving, ?_⟩
  rintro ⟨i, rfl⟩
  refine mem_leaving (Nat.zero_le _) ?_
  -- a call that returned has left every earlier phase
  rw [hdone i]
  cases p with
  | returned => exact absurd rfl hp
  | begun => decide
  | remembered => decide
  | written => decide

/-! ## The memory -/

theorem memory_step (s : Race ι) (i : ι) :
    (step E calls s i).registry.memory =
      s.registry.memory.registerRecords (if s.phase i = .begun then [calls i] else []) := by
  unfold step RegisterPhase.act
  cases s.phase i <;> rfl

/-- The memory has the calls in the order of their updates. -/
theorem memory_run (s : Race ι) (run : List ι) :
    (runFrom (step E calls) s run).registry.memory =
      s.registry.memory.registerRecords (updates E calls s run) := by
  induction run generalizing s with
  | nil => rfl
  | cons i run ih =>
    rw [runFrom_cons, ih, memory_step, ← MemoryAgentRegistry.registerRecords_append]
    rfl

/-! ## The file -/

/-- Only the call that takes the step changes its phase. -/
theorem phase_step_of_ne {i j : ι} (h : j ≠ i) : (step E calls s i).phase j = s.phase j :=
  Function.update_of_ne h _ _

theorem phase_step_self (i : ι) : (step E calls s i).phase i = (s.phase i).next :=
  Function.update_self _ _ _

omit [DecidableEq ι] in
/-- What `Framed` looks at. -/
theorem Framed.of_same {records : List RegistryRecord} {t : Race ι} (h : Framed E records s)
    (hphase : ∀ j, t.phase j = .written ↔ s.phase j = .written)
    (hfile : t.registry.file = s.registry.file) : Framed E records t := by
  rcases h with ⟨hidle, hf⟩ | ⟨rs, record, i, hrs, hi, honly, hf⟩
  · left
    refine ⟨fun j hj => hidle j ((hphase j).mp hj), ?_⟩
    rw [hfile, hf]
  · right
    refine ⟨rs, record, i, hrs, (hphase i).mpr hi, fun j hj => honly j ((hphase j).mp hj), ?_⟩
    rw [hfile, hf]

/-- A step that does not touch the file. -/
theorem Framed.step_of_act_eq {records : List RegistryRecord} (h : Framed E records s) {i : ι}
    (hnow : s.phase i ≠ .written) (hnext : (s.phase i).next ≠ .written)
    (hfile : (step E calls s i).registry.file = s.registry.file) :
    Framed E records (step E calls s i) := by
  refine h.of_same (fun j => ?_) hfile
  by_cases hj : j = i
  · subst hj
    rw [phase_step_self]
    exact iff_of_false hnext hnow
  · rw [phase_step_of_ne hj]

/-- A text opens a line: its call is now the only one between its appends. -/
theorem Framed.step_remembered {records : List RegistryRecord} (h : Framed E records s) {i : ι}
    (hphase : s.phase i = .remembered) (hi : Alone s i) :
    Framed E (records ++ [calls i]) (step E calls s i) := by
  rcases h with ⟨hidle, hf⟩ | ⟨rs, record, j, -, hj, -⟩
  · -- no other call stands between its text and its newline
    right
    refine ⟨records, calls i, i, rfl, ?_, ?_, ?_⟩
    · rw [phase_step_self, hphase]
      rfl
    · intro j hj
      by_contra hne
      rw [phase_step_of_ne hne] at hj
      exact hidle j hj
    · simp only [Race.step, hphase, RegisterPhase.act, FileAgentRegistry.appendBytes,
        Option.getD_some, hf]
  · -- with another newline missing the call would not be alone
    exact absurd hj (hi hphase j)

/-- A line feed ends the line of the only call between its appends. -/
theorem Framed.step_written {records : List RegistryRecord} (h : Framed E records s) {i : ι}
    (hphase : s.phase i = .written) : Framed E records (step E calls s i) := by
  rcases h with ⟨hidle, -⟩ | ⟨rs, record, j, rfl, -, honly, hf⟩
  · exact absurd hphase (hidle i)
  · left
    -- the call in this phase is the one whose newline is missing
    obtain rfl : i = j := honly i hphase
    constructor
    · intro j hj
      by_cases hji : j = i
      · subst hji
        rw [phase_step_self, hphase] at hj
        cases hj
      · rw [phase_step_of_ne hji] at hj
        exact hji (honly j hj)
    · simp only [Race.step, hphase, RegisterPhase.act, FileAgentRegistry.appendBytes,
        Option.getD_some, hf, FileAgentRegistry.fileOf_concat]

/-- **Step.** A step that is alone keeps the file framed. -/
theorem Framed.step {records : List RegistryRecord} (h : Framed E records s) {i : ι}
    (hi : Alone s i) :
    Framed E (records ++ (if s.phase i = .remembered then [calls i] else []))
      (step E calls s i) := by
  cases hphase : s.phase i with
  | begun =>
    -- this phase writes to the map alone
    rw [if_neg (by decide), List.append_nil]
    apply h.step_of_act_eq
    · rw [hphase]
      decide
    · rw [hphase]
      decide
    · simp only [Race.step, hphase]
      rfl
  | remembered =>
    rw [if_pos rfl]
    exact h.step_remembered hphase hi
  | written =>
    rw [if_neg (by decide), List.append_nil]
    exact h.step_written hphase
  | returned =>
    -- a call that returned does nothing more
    rw [if_neg (by decide), List.append_nil]
    apply h.step_of_act_eq
    · rw [hphase]
      decide
    · rw [hphase]
      decide
    · simp only [Race.step, hphase]
      rfl

/-- **Run.** So do all the steps of a run. -/
theorem framed_run {records : List RegistryRecord} (h : Framed E records s)
    (hrun : AllSteps (Race.step E calls) Alone s run) :
    Framed E (records ++ appends E calls s run) (runFrom (Race.step E calls) s run) := by
  induction run generalizing s records with
  | nil =>
    rw [appends, leaving, List.append_nil]
    exact h
  | cons i run ih =>
    -- the first step decides which records the rest starts from
    have htail := ih (h.step hrun.1) hrun.2
    rw [List.append_assoc] at htail
    exact htail

/-- The file only grows. -/
theorem file_step (E : RegistryEnv) (calls : ι → RegistryRecord) (s : Race ι) (i : ι) :
    ∃ more, (step E calls s i).registry.file.getD [] = s.registry.file.getD [] ++ more := by
  unfold step RegisterPhase.act
  cases s.phase i with
  | begun => exact ⟨[], (List.append_nil _).symm⟩
  | remembered => exact ⟨_, rfl⟩
  | written => exact ⟨_, rfl⟩
  | returned => exact ⟨[], (List.append_nil _).symm⟩

theorem Joined.step (h : Joined E s) (i : ι) : Joined E (step E calls s i) := by
  obtain ⟨records, a, b, rest, hfile⟩ := h
  obtain ⟨more, hmore⟩ := file_step E calls s i
  refine ⟨records, a, b, rest ++ more, ?_⟩
  rw [hmore, hfile]
  simp only [List.append_assoc]

/-- A text that is appended while another line is unfinished shares the line with it. -/
theorem joined_of_not_alone {records : List RegistryRecord} (h : Framed E records s) {i : ι}
    (hi : ¬ Alone s i) : Joined E (step E calls s i) := by
  simp only [Alone, not_forall, not_not] at hi
  obtain ⟨hphase, j, hj⟩ := hi
  rcases h with ⟨hidle, -⟩ | ⟨rs, record, k, -, -, -, hf⟩
  · exact absurd hj (hidle j)
  · refine ⟨rs, record.stored, (calls i).stored, [], ?_⟩
    simp only [step, hphase, RegisterPhase.act, FileAgentRegistry.appendBytes, Option.getD_some, hf,
      List.append_assoc, List.append_nil]

theorem joined_of_not_allSteps {records : List RegistryRecord} (h : Framed E records s)
    (hrun : ¬ AllSteps (step E calls) Alone s run) :
    Joined E (runFrom (step E calls) s run) := by
  -- the file is framed until the first text that is appended into another line
  refine (allSteps_or_of_absorbing (I := fun s => ∃ records, Framed E records s) (B := Joined E)
    ?_ ?_ ?_ ⟨records, h⟩ run).resolve_left hrun
  · rintro s i hi ⟨_, hs⟩
    exact ⟨_, hs.step hi⟩
  · rintro s i ⟨_, hs⟩ hi
    exact joined_of_not_alone hs hi
  · exact fun s i hs => hs.step i

/-! ## Opening the file -/

omit [DecidableEq ι] in
/-- A file where two texts share a line cannot be opened. -/
theorem Joined.not_openAgrees (h : Joined E s) : ¬ OpenAgrees E s.registry := by
  obtain ⟨records, a, b, rest, hfile⟩ := h
  intro hagrees
  obtain ⟨r', hopen, -⟩ := hagrees zeroKey ""
  -- the line with both texts is neither blank nor a record
  have hsafe : LineSafe (E.records.encode a ++ E.records.encode b) :=
    (E.records.encode_lineSafe a).append (E.records.encode_lineSafe b)
  have hne : E.records.encode a ++ E.records.encode b ≠ [] := by
    intro hnil
    exact E.records.encode_ne_nil a (List.append_eq_nil_iff.mp hnil).1
  obtain ⟨more, ls, hlines⟩ := lines_lineSafe_append _ rest hsafe hne
  refine FileAgentRegistry.open_ne_ok hfile hlines ?_ (E.decode_trailing a b more) zeroKey "" r' hopen
  rw [List.append_assoc]
  exact FileAgentRegistry.not_isBlank_encode E a _

omit [DecidableEq ι] in
/-- A file of whole lines gives the last registrations in it. -/
theorem openAgrees_iff_of_fileOf {records : List RegistryRecord}
    (hfile : s.registry.file.getD [] = FileAgentRegistry.fileOf E records) :
    OpenAgrees E s.registry ↔
      ∀ did, lastRegistration did records = s.registry.memory.entries.lookup did := by
  constructor
  · intro h did
    obtain ⟨r', hopen, hsame⟩ := h zeroKey ""
    obtain ⟨r'', hopen', hrecorded⟩ := FileAgentRegistry.open_fileOf hfile zeroKey ""
    -- the file determines what is opened
    obtain rfl : r' = r'' := Except.ok.inj (hopen.symm.trans hopen')
    rw [← hrecorded.lookup did]
    exact FileAgentRegistry.lookup_of_sameAnswers (hsame did)
  · intro h registryIdentity registryDid
    obtain ⟨r', hopen, hrecorded⟩ :=
      FileAgentRegistry.open_fileOf hfile registryIdentity registryDid
    -- both sides are the last registration of the DID
    refine ⟨r', hopen, fun did => FileAgentRegistry.sameAnswers_of_lookup ?_⟩
    rw [hrecorded.lookup did, h did]

theorem or_eq_or_iff {α : Type} {a b l : Option α} (h : a.isSome = true ↔ b.isSome = true) :
    a.or l = b.or l ↔ b = a := by
  cases a <;> cases b <;> simp_all [eq_comm]

/-- A DID has a last memory update exactly when it has a last text. -/
theorem lastRegistration_appends_iff {r : FileAgentRegistry}
    (hdone : (runFrom (step E calls) (start r) run).Done) (did : String) :
    (lastRegistration did (appends E calls (start r) run)).isSome = true ↔
      (lastRegistration did (updates E calls (start r) run)).isSome = true := by
  simp only [lastRegistration_isSome_iff, appends, updates,
    mem_leaving_iff (p := .remembered) (by decide) hdone,
    mem_leaving_iff (p := .begun) (by decide) hdone]

end Race

open Race in
/-- **Overlapping registrations**: once all calls have returned, opening the file gives what the
    live registry has exactly when each text was followed by its own line feed and, for every DID,
    the last memory update and the last text are of the same key and ring. -/
theorem race_agrees_iff {ι : Type} [DecidableEq ι] (E : RegistryEnv) (registryIdentity : ByteArr 32)
    (registryDid : String) (before : List RegistryRecord) (calls : ι → RegistryRecord)
    (run : List ι)
    (hdone : (runFrom (step E calls) (startAfter E registryIdentity registryDid before) run).Done) :
    OpenAgrees E
        (runFrom (step E calls) (startAfter E registryIdentity registryDid before) run).registry ↔
      AllSteps (step E calls) Alone (startAfter E registryIdentity registryDid before) run ∧
      ∀ did,
        lastRegistration did
            (updates E calls (startAfter E registryIdentity registryDid before) run) =
          lastRegistration did
            (appends E calls (startAfter E registryIdentity registryDid before) run) := by
  have hbefore : FileAgentRegistry.Recorded E before
      ((FileAgentRegistry.fresh registryIdentity registryDid).registerEach E before) :=
    (FileAgentRegistry.recorded_fresh registryIdentity registryDid).registerEach before
  unfold startAfter at *
  generalize (FileAgentRegistry.fresh registryIdentity registryDid).registerEach E before = r at *
  have hframed : Framed E before (start r : Race ι) := .inl ⟨fun _ => nofun, hbefore.file⟩
  by_cases halone : AllSteps (step E calls) Alone (start r) run
  · -- every line is whole, so only the orders of memory and file matter
    rcases framed_run hframed halone with ⟨-, hfile⟩ | ⟨rs, record, i, -, hi, -⟩
    · rw [openAgrees_iff_of_fileOf hfile, and_iff_right halone]
      refine forall_congr' fun did => ?_
      rw [lastRegistration_append, memory_run, MemoryAgentRegistry.lookup_registerRecords]
      -- what both orders share is the memory before the run
      show _ = (lastRegistration did _).or (r.memory.entries.lookup did) ↔ _
      rw [hbefore.lookup did]
      exact or_eq_or_iff (lastRegistration_appends_iff hdone did)
    · rw [hdone i] at hi
      cases hi
  -- two texts share a line, and the file cannot be opened
  · refine iff_of_false ?_ (fun h => halone h.1)
    exact (joined_of_not_allSteps hframed halone).not_openAgrees

/-- One agent registered with two rings. -/
def twoRings (trusted : Bool) : RegistryRecord :=
  sampleRegistration "agent-1" (if trusted then .trusted else .standard)

open Race in
/-- Two calls that overlap, with their appends in the order of their updates. -/
theorem race_agrees_in_order :
    OpenAgrees .serde (runFrom (step .serde twoRings)
      (startAfter .serde registrySeed "did:mesh:registry" [])
      [false, true, false, false, true, true]).registry := by
  refine (race_agrees_iff .serde registrySeed "did:mesh:registry" [] twoRings _ ?_).mpr ⟨?_, ?_⟩
  · intro i
    cases i <;> rfl
  · -- each text is followed by its newline before the next text
    refine ⟨nofun, nofun, fun _ j => ?_, nofun, fun _ j => ?_, nofun, trivial⟩
    · cases j <;> nofun
    · cases j <;> nofun
  · intro did
    rfl

open Race in
/-- Two calls whose texts follow each other. -/
theorem race_not_agreeing :
    (runFrom (step .serde twoRings) (startAfter .serde registrySeed "did:mesh:registry" [])
      [false, true, false, true, false, true]).Done ∧
    ¬ OpenAgrees .serde (runFrom (step .serde twoRings)
      (startAfter .serde registrySeed "did:mesh:registry" [])
      [false, true, false, true, false, true]).registry := by
  constructor
  · intro i
    cases i <;> rfl
  · have hframed : Framed .serde []
        (startAfter .serde registrySeed "did:mesh:registry" [] : Race Bool) :=
      .inl ⟨fun _ => nofun, rfl⟩
    refine (joined_of_not_allSteps hframed ?_).not_openAgrees
    rintro ⟨-, -, -, halone, -⟩
    -- the fourth step writes a text while a newline is missing
    exact halone rfl false rfl

end AgentGovernance.Mesh
