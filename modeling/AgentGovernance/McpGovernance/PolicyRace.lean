import AgentGovernance.Lib.FileSystem
import AgentGovernance.McpGovernance.FilePolicyStore

/-!
# Overlapping saves of a policy

`FilePolicyStore::save_policy` opens a temporary file, writes it and renames it, under no lock,
and all saves for one DID use the same temporary name.

When no save opens the file while another one is between its open and its rename, every load sees
a whole policy and every save succeeds; otherwise one of the saves fails:
`race_succeeds_iff`.
-/

namespace AgentGovernance.McpGovernance

open AgentGovernance.Lib

/-! ## Steps of a call -/

/-- The files of the store's directory. -/
abbrev PolicyFiles := FileSystem FileName UInt8

/-- How far a call of `save_policy` has come. -/
inductive SavePhase where
  | begun
  /-- The temporary file is open and empty. -/
  | opened (inode : Nat)
  /-- The text is written and the file closed. -/
  | written
  | returned (result : Except String Unit)

/-- How far a call of `load_policy` has come. -/
inductive LoadPhase where
  | begun
  /-- `path.exists()` was true. -/
  | found
  /-- The file is open, and the text was read so far. -/
  | reading (inode : Nat) (text : Bytes)
  | returned (result : Except String (Option McpPolicy))

/-- The call is between its open and its rename. -/
def SavePhase.Pending : SavePhase → Prop
  | .begun => False
  | .opened _ => True
  | .written => True
  | .returned _ => False

/-- The number of steps taken. -/
def SavePhase.rank : SavePhase → Nat
  | .begun => 0
  | .opened _ => 1
  | .written => 2
  | .returned _ => 3

section Steps

variable (E : PolicyFileEnv) (agentDid : String)

/-- The temporary name. -/
def tmpPath : FileName :=
  (FilePolicyStore.getPath E agentDid).withExtension "tmp"

def SavePhase.next (policy : McpPolicy) (files : PolicyFiles) : SavePhase → PolicyFiles × SavePhase
  | .begun => ((files.create (tmpPath E agentDid)).1, .opened (files.create (tmpPath E agentDid)).2)
  -- the text goes to the inode, whatever has become of its name
  | .opened inode => (files.write inode (E.encode policy), .written)
  | .written =>
    match files.rename (tmpPath E agentDid) (FilePolicyStore.getPath E agentDid) with
    | none => (files, .returned (.error E.notFound))
    | some files => (files, .returned (.ok ()))
  | .returned result => (files, .returned result)

/-- What `load_policy` makes of the text. -/
def parsePolicy (text : Bytes) : Except String (Option McpPolicy) :=
  match E.readFile text with
  | .unreadable e => .error e
  | .malformed e => .error e
  | .value policy => .ok (some policy)

/-- The next step of a load; a read delivers some bytes, and none at the end of the file. -/
def LoadPhase.next (files : PolicyFiles) (more : Nat) : LoadPhase → LoadPhase
  | .begun =>
    match files.names (FilePolicyStore.getPath E agentDid) with
    | none => .returned (.ok none)
    | some _ => .found
  -- `exists` and `read_to_string` look the name up one after the other
  | .found =>
    match files.names (FilePolicyStore.getPath E agentDid) with
    | none => .returned (.error E.notFound)
    | some inode => .reading inode []
  | .reading inode text =>
    if (files.contents inode).length ≤ text.length then .returned (parsePolicy E text)
    else .reading inode (text ++ ((files.contents inode).drop text.length).take (more + 1))
  | .returned result => .returned result

end Steps

theorem SavePhase.rank_le (phase : SavePhase) : phase.rank ≤ 3 := by
  cases phase <;> simp [SavePhase.rank]

theorem SavePhase.rank_next (E : PolicyFileEnv) (agentDid : String) (policy : McpPolicy)
    (files : PolicyFiles) (phase : SavePhase) :
    (phase.next E agentDid policy files).2.rank = min 3 (phase.rank + 1) := by
  cases phase with
  | begun => rfl
  | opened inode => rfl
  | written =>
    simp only [SavePhase.next]
    split <;> rfl
  | returned result => rfl

/-! ## Calls without interruption -/

section Uninterrupted

variable {E : PolicyFileEnv} {agentDid : String} {files : PolicyFiles} {store : FilePolicyStore}

theorem tmpPath_ne : tmpPath E agentDid ≠ FilePolicyStore.getPath E agentDid :=
  (FilePolicyStore.getPath_ne_tmp agentDid agentDid).symm

/-- The three steps of a save are `save_policy`. -/
theorem save_uninterrupted (h : ∀ name, files.read name = store.files.lookup name)
    (policy : McpPolicy) :
    ∃ files' : PolicyFiles,
      (fun p : PolicyFiles × SavePhase => p.2.next E agentDid policy p.1)^[3] (files, .begun) =
        (files', .returned (store.savePolicy E agentDid policy).2) ∧
      ∀ name, files'.read name = (store.savePolicy E agentDid policy).1.files.lookup name := by
  have hne : tmpPath E agentDid ≠ FilePolicyStore.getPath E agentDid := tmpPath_ne
  obtain ⟨files', hrename, htmp, hpath, hother⟩ :=
    FileSystem.read_put files hne (E.encode policy)
  rw [FilePolicyStore.savePolicy_eq]
  refine ⟨files', ?_, ?_⟩
  · -- three steps: the file is created, filled and renamed
    simp only [Function.iterate_succ, Function.iterate_zero, Function.comp_apply, id_eq,
      SavePhase.next, hrename]
  · -- the temporary name is gone, the path has the text, and other names are as before
    intro name
    by_cases hn : name = tmpPath E agentDid
    · rw [hn, htmp]
      exact (Directory.lookup_put_tmp _ _ hne).symm
    by_cases hn' : name = FilePolicyStore.getPath E agentDid
    · rw [hn', hpath, Directory.lookup_put_self]
    · rw [hother name hn hn', h name]
      exact (Directory.lookup_put_of_ne _ _ hn' hn).symm

/-- The steps of a load whose first read delivers the whole file are `load_policy`. -/
theorem load_uninterrupted (h : ∀ name, files.read name = store.files.lookup name) {more : Nat}
    (hmore : ∀ text, files.read (FilePolicyStore.getPath E agentDid) = some text →
      text.length ≤ more + 1) :
    (LoadPhase.next E agentDid files more)^[4] .begun =
      .returned (store.loadPolicy E agentDid) := by
  simp only [FilePolicyStore.loadPolicy, ← h (FilePolicyStore.getPath E agentDid),
    Function.iterate_succ, Function.iterate_zero, Function.comp_apply, id_eq]
  cases hname : files.names (FilePolicyStore.getPath E agentDid) with
  | none => simp only [LoadPhase.next, hname, FileSystem.read, Option.map_none]
  | some inode =>
    have hread : files.read (FilePolicyStore.getPath E agentDid) = some (files.contents inode) := by
      rw [FileSystem.read, hname, Option.map_some]
    have hlen : (files.contents inode).length ≤ more + 1 := hmore _ hread
    rw [hread]
    simp only [LoadPhase.next, hname, List.length_nil, List.drop_zero, List.nil_append]
    by_cases hempty : (files.contents inode).length ≤ 0
    · -- an empty file ends before the first read
      rw [if_pos hempty, List.eq_nil_of_length_eq_zero (Nat.le_zero.mp hempty)]
      rfl
    · -- one read takes the whole file, and the next one meets its end
      rw [if_neg hempty, List.take_of_length_le hlen]
      simp only [le_refl, if_true]
      rfl

end Uninterrupted

/-! ## Runs -/

/-- The files with the phases of the calls for one DID. -/
structure PolicyRace (ι κ : Type) where
  files : PolicyFiles
  saving : ι → SavePhase
  loading : κ → LoadPhase

/-- One call takes its next step. -/
inductive RaceEvent (ι κ : Type) where
  | save (i : ι)
  | load (k : κ) (more : Nat)

namespace PolicyRace

variable {ι κ : Type} [DecidableEq ι] [DecidableEq κ] (E : PolicyFileEnv) (agentDid : String)
  (policies : ι → McpPolicy)

/-- No call has taken a step. -/
def start (files : PolicyFiles) : PolicyRace ι κ where
  files := files
  saving _ := .begun
  loading _ := .begun

def step (s : PolicyRace ι κ) : RaceEvent ι κ → PolicyRace ι κ
  | .save i =>
    { s with
      files := ((s.saving i).next E agentDid (policies i) s.files).1
      saving := Function.update s.saving i ((s.saving i).next E agentDid (policies i) s.files).2 }
  | .load k more =>
    { s with
      loading := Function.update s.loading k ((s.loading k).next E agentDid s.files more) }

/-- The file of the DID holds a policy, or there is none. -/
def Holds (files : PolicyFiles) : Option McpPolicy → Prop
  | none => files.read (FilePolicyStore.getPath E agentDid) = none
  | some policy => ∃ text, files.read (FilePolicyStore.getPath E agentDid) = some text ∧
      E.readFile text = .value policy

/-- The previous policy or one of the saved ones. -/
def Allowed (previous loaded : Option McpPolicy) : Prop :=
  loaded = previous ∨ ∃ i, loaded = some (policies i)

/-- All saves have returned. -/
def Settled (s : PolicyRace ι κ) : Prop :=
  ∀ i, ∃ result, s.saving i = .returned result

/-- What the callers expect. -/
structure Succeeds (previous : Option McpPolicy) (s : PolicyRace ι κ) : Prop where
  loads : ∀ k result, s.loading k = .returned result →
    ∃ loaded, result = .ok loaded ∧ Allowed policies previous loaded
  saves : ∀ i, s.saving i = .returned (.ok ())
  final : ∃ i, Holds E agentDid s.files (some (policies i))

/-- A save opens the temporary file only while no other save is between its open and its
    rename. -/
def Alone (s : PolicyRace ι κ) : RaceEvent ι κ → Prop
  | .save i => s.saving i = .begun → ∀ j, ¬ (s.saving j).Pending
  | .load _ _ => True

variable {E agentDid policies} {previous : Option McpPolicy} {s : PolicyRace ι κ}

/-! ## One step of a save -/

theorem saving_save_self (i : ι) :
    (s.step E agentDid policies (.save i)).saving i =
      ((s.saving i).next E agentDid (policies i) s.files).2 :=
  Function.update_self _ _ _

theorem saving_save_of_ne {i j : ι} (h : j ≠ i) :
    (s.step E agentDid policies (.save i)).saving j = s.saving j :=
  Function.update_of_ne h _ _

/-- A rename without a temporary file fails. -/
theorem save_written_of_none {i : ι} (hphase : s.saving i = .written)
    (htmp : s.files.names (tmpPath E agentDid) = none) :
    (s.step E agentDid policies (.save i)).saving i = .returned (.error E.notFound) := by
  rw [saving_save_self, hphase]
  simp only [SavePhase.next, FileSystem.rename_eq_none htmp]

/-- A call that has returned takes no more steps. -/
theorem save_returned {i : ι} {result : Except String Unit} (h : s.saving i = .returned result) :
    s.step E agentDid policies (.save i) = s := by
  obtain ⟨files, saving, loading⟩ := s
  simp only at h
  simp only [step, h, SavePhase.next]
  rw [← h, Function.update_eq_self]

/-! ## Returning -/

def IsSave (i : ι) : RaceEvent ι κ → Bool
  | .save j => decide (j = i)
  | .load _ _ => false

theorem rank_step (s : PolicyRace ι κ) (i : ι) (event : RaceEvent ι κ) :
    ((s.step E agentDid policies event).saving i).rank =
      min 3 ((s.saving i).rank + if IsSave i event then 1 else 0) := by
  have hle := (s.saving i).rank_le
  cases event with
  | load k more =>
    -- a step of a load moves no save
    simpa [IsSave, PolicyRace.step] using hle
  | save j =>
    by_cases hji : j = i
    · subst hji
      rw [saving_save_self, SavePhase.rank_next]
      simp [IsSave]
    · -- nor does a step of another save
      rw [saving_save_of_ne (Ne.symm hji)]
      simpa [IsSave, hji] using hle

/-- A save is as far as the number of its own steps. -/
theorem rank_run (s : PolicyRace ι κ) (i : ι) (run : List (RaceEvent ι κ)) :
    ((runFrom (step E agentDid policies) s run).saving i).rank =
      min 3 ((s.saving i).rank + run.countP (IsSave i)) := by
  induction run generalizing s with
  | nil =>
    have hle := (s.saving i).rank_le
    simpa using hle
  | cons event run ih =>
    -- the minimum absorbs the steps after the third
    rw [runFrom_cons, ih, rank_step, List.countP_cons]
    omega

/-- When every save has taken three steps, all have returned, whatever the loads do. -/
theorem settled_of_steps (files : PolicyFiles) {run : List (RaceEvent ι κ)}
    (h : ∀ i, 3 ≤ run.countP (IsSave i)) :
    (runFrom (step E agentDid policies) (start files) run).Settled := by
  intro i
  -- after three steps of its own a save has the highest rank
  have hrank : ((runFrom (step E agentDid policies) (start files) run).saving i).rank =
      min 3 (0 + run.countP (IsSave i)) := rank_run _ i run
  rw [Nat.min_eq_left ((h i).trans (Nat.le_add_left _ _))] at hrank
  -- only a save that returned has that rank
  generalize (runFrom (step E agentDid policies) (start files) run).saving i = phase at hrank ⊢
  cases phase with
  | begun => cases hrank
  | opened inode => cases hrank
  | written => cases hrank
  | returned result => exact ⟨result, rfl⟩

/-! ## Two saves at a time -/

variable (E agentDid) in
/-- A save has failed, or there are more saves between open and rename than temporary files for
    them. -/
def Crowded (s : PolicyRace ι κ) : Prop :=
  (∃ i e, s.saving i = .returned (.error e)) ∨
  (∃ i j, i ≠ j ∧ (s.saving i).Pending ∧ (s.saving j).Pending) ∨
  ((∃ i, (s.saving i).Pending) ∧ s.files.names (tmpPath E agentDid) = none)

theorem crowded_of_not_alone {event : RaceEvent ι κ} (h : ¬ s.Alone event) :
    Crowded E agentDid (s.step E agentDid policies event) := by
  cases event with
  | load k more => exact absurd trivial h
  | save i =>
    simp only [Alone, not_forall, not_not] at h
    obtain ⟨hphase, j, hj⟩ := h
    -- the open save is another one, since this one has just begun
    have hne : j ≠ i := by
      rintro rfl
      rw [hphase] at hj
      exact hj
    refine .inr (.inl ⟨i, j, hne.symm, ?_, ?_⟩)
    · rw [saving_save_self, hphase]
      trivial
    · rw [saving_save_of_ne hne]
      exact hj

/-- Only its rename ends a save. -/
theorem pending_save {i j : ι} (hj : (s.saving j).Pending) (hi : s.saving i ≠ .written) :
    ((s.step E agentDid policies (.save i)).saving j).Pending := by
  by_cases hji : j = i
  · subst hji
    rw [saving_save_self]
    cases hphase : s.saving j with
    | begun => trivial
    | opened inode => trivial
    | written =>
      -- a save before its rename stays pending after one step
      exact absurd hphase hi
    | returned result =>
      rw [hphase] at hj
      exact hj
  · rw [saving_save_of_ne hji]
    exact hj

theorem failed_save {i j : ι} {e : String} (h : s.saving j = .returned (.error e)) :
    (s.step E agentDid policies (.save i)).saving j = .returned (.error e) := by
  by_cases hji : j = i
  · subst hji
    rw [save_returned h]
    exact h
  · rw [saving_save_of_ne hji]
    exact h

/-- A rename leaves one file fewer and one save fewer. -/
theorem Crowded.save_written (h : Crowded E agentDid s) {i : ι} (hphase : s.saving i = .written) :
    Crowded E agentDid (s.step E agentDid policies (.save i)) := by
  cases htmp : s.files.names (tmpPath E agentDid) with
  | none => exact .inl ⟨i, E.notFound, save_written_of_none hphase htmp⟩
  | some inode =>
    rcases h with ⟨j, e, hj⟩ | ⟨a, b, hab, ha, hb⟩ | ⟨-, hnone⟩
    · exact .inl ⟨j, e, failed_save hj⟩
    · -- one of the two is not the call that renames
      obtain ⟨c, hci, hc⟩ : ∃ c, c ≠ i ∧ (s.saving c).Pending := by
        by_cases hai : a = i
        · exact ⟨b, fun hbi => hab (hai.trans hbi.symm), hb⟩
        · exact ⟨a, hai, ha⟩
      obtain ⟨files, hrename, hgone, -⟩ := FileSystem.rename_eq_some htmp tmpPath_ne
      refine .inr (.inr ⟨⟨c, ?_⟩, ?_⟩)
      · rw [saving_save_of_ne hci]
        exact hc
      · simp only [PolicyRace.step, hphase, SavePhase.next, hrename]
        exact hgone
    · rw [htmp] at hnone
      cases hnone

/-- **Step.** There is no way out of a crowd but a failure. -/
theorem Crowded.step (h : Crowded E agentDid s) (event : RaceEvent ι κ) :
    Crowded E agentDid (s.step E agentDid policies event) := by
  cases event with
  | load k more => exact h
  | save i =>
    by_cases hwritten : s.saving i = .written
    · exact h.save_written hwritten
    -- any other step ends no save and takes no name away
    rcases h with ⟨j, e, hj⟩ | ⟨a, b, hab, ha, hb⟩ | ⟨⟨a, ha⟩, hnone⟩
    · exact .inl ⟨j, e, failed_save hj⟩
    · exact .inr (.inl ⟨a, b, hab, pending_save ha hwritten, pending_save hb hwritten⟩)
    · cases hphase : s.saving i with
      | begun =>
        -- the call that opens the file joins the one that misses it
        have hai : a ≠ i := by
          rintro rfl
          rw [hphase] at ha
          exact ha
        refine .inr (.inl ⟨a, i, hai, pending_save ha hwritten, ?_⟩)
        rw [saving_save_self, hphase]
        trivial
      | opened inode =>
        refine .inr (.inr ⟨⟨a, pending_save ha hwritten⟩, ?_⟩)
        simp only [PolicyRace.step, hphase, SavePhase.next]
        exact hnone
      | written => exact absurd hphase hwritten
      | returned result =>
        rw [save_returned hphase]
        exact .inr (.inr ⟨⟨a, ha⟩, hnone⟩)

/-- **Run.** A save that opens the file too early makes a crowd for the rest of the run. -/
theorem crowded_of_not_allSteps {run : List (RaceEvent ι κ)}
    (hrun : ¬ AllSteps (PolicyRace.step E agentDid policies) Alone s run) :
    Crowded E agentDid (runFrom (PolicyRace.step E agentDid policies) s run) := by
  refine (allSteps_or_of_absorbing (I := fun _ => True) (B := Crowded E agentDid) ?_ ?_ ?_ trivial
    run).resolve_left hrun
  · exact fun _ _ _ _ => trivial
  · exact fun s event _ h => crowded_of_not_alone h
  · exact fun s event h => h.step event

omit [DecidableEq ι] [DecidableEq κ] in
/-- A crowd has a save that has failed or not returned. -/
theorem Crowded.not_succeeds (h : Crowded E agentDid s) :
    ¬ Succeeds E agentDid policies previous s := by
  intro hs
  -- a save that returned is no longer pending
  have hidle : ∀ i, ¬ (s.saving i).Pending := by
    intro i
    rw [hs.saves i]
    exact id
  -- a failed save; two saves that are open at once; an open save whose file is gone
  rcases h with ⟨i, e, hi⟩ | ⟨i, -, -, hi, -⟩ | ⟨⟨i, hi⟩, -⟩
  · rw [hs.saves i] at hi
    cases hi
  · exact hidle i hi
  · exact hidle i hi

/-! ## One save at a time -/

variable (E agentDid policies previous) in
/-- A load has seen nothing but a whole policy, in a file that the temporary name does not lead
    to. -/
def Fits (files : PolicyFiles) : LoadPhase → Prop
  | .begun => True
  | .found => files.names (FilePolicyStore.getPath E agentDid) ≠ none
  | .reading inode text => files.Detached (tmpPath E agentDid) inode ∧
      text <+: files.contents inode ∧
      ∃ policy, Allowed policies previous (some policy) ∧
        E.readFile (files.contents inode) = .value policy
  | .returned result => ∃ loaded, result = .ok loaded ∧ Allowed policies previous loaded

variable (E agentDid policies previous) in
/-- At most one save is between its open and its rename, and its text is under the temporary name;
    everything else is whole. -/
structure Tidy (s : PolicyRace ι κ) : Prop where
  alone : ∀ i j, (s.saving i).Pending → (s.saving j).Pending → i = j
  opened : ∀ i inode, s.saving i = .opened inode →
    s.files.names (tmpPath E agentDid) = some inode ∧ s.files.contents inode = []
  written : ∀ i, s.saving i = .written →
    s.files.read (tmpPath E agentDid) = some (E.encode (policies i))
  returned : ∀ i result, s.saving i = .returned result →
    result = .ok () ∧ ∃ j, Holds E agentDid s.files (some (policies j))
  current : ∃ policy, Allowed policies previous policy ∧ Holds E agentDid s.files policy
  loads : ∀ k, Fits E agentDid policies previous s.files (s.loading k)

section Files

variable {files files' : PolicyFiles}

theorem Holds.congr {policy : Option McpPolicy} (h : Holds E agentDid files policy)
    (hread : files'.read (FilePolicyStore.getPath E agentDid) =
      files.read (FilePolicyStore.getPath E agentDid)) : Holds E agentDid files' policy := by
  cases policy with
  | none => exact hread.trans h
  | some policy =>
    obtain ⟨text, htext, hvalue⟩ := h
    exact ⟨text, hread.trans htext, hvalue⟩

/-- What a file holds is read from its inode. -/
theorem Holds.readFile {policy : Option McpPolicy} (h : Holds E agentDid files policy) {inode : Nat}
    (hname : files.names (FilePolicyStore.getPath E agentDid) = some inode) :
    ∃ p, policy = some p ∧ E.readFile (files.contents inode) = .value p := by
  have hread : files.read (FilePolicyStore.getPath E agentDid) = some (files.contents inode) := by
    rw [FileSystem.read, hname, Option.map_some]
  cases policy with
  | none =>
    -- a store without a policy has no file to read
    rw [Holds, hread] at h
    cases h
  | some p =>
    obtain ⟨text, htext, hvalue⟩ := h
    obtain rfl : files.contents inode = text := Option.some.inj (hread.symm.trans htext)
    exact ⟨p, rfl, hvalue⟩

omit [DecidableEq ι] in
/-- A load goes on to see whole policies only. -/
theorem Fits.next {phase : LoadPhase} (h : Fits E agentDid policies previous files phase)
    (hcurrent : ∃ policy, Allowed policies previous policy ∧ Holds E agentDid files policy)
    (more : Nat) :
    Fits E agentDid policies previous files (phase.next E agentDid files more) := by
  obtain ⟨policy, hallowed, hholds⟩ := hcurrent
  cases phase with
  | begun =>
    simp only [LoadPhase.next]
    split
    next hnone =>
      -- no file is found exactly when there was no policy
      refine ⟨none, rfl, ?_⟩
      cases policy with
      | none => exact hallowed
      | some p =>
        obtain ⟨text, htext, -⟩ := hholds
        rw [FileSystem.read, hnone] at htext
        cases htext
    next inode hsome =>
      rw [Fits, hsome]
      exact Option.some_ne_none inode
  | found =>
    simp only [LoadPhase.next]
    split
    next hnone => exact absurd hnone h
    next inode hsome =>
      obtain ⟨p, rfl, hvalue⟩ := hholds.readFile hsome
      -- the inode keeps its bytes although the name may be replaced
      exact ⟨FileSystem.detached_of_names hsome tmpPath_ne.symm, List.nil_prefix, p, hallowed,
        hvalue⟩
  | reading inode text =>
    obtain ⟨hdetached, hsofar, p, hp, hvalue⟩ := h
    simp only [LoadPhase.next]
    split
    next hend =>
      -- at the end of the file the text is its content
      rw [hsofar.eq_of_length_le hend, parsePolicy, hvalue]
      exact ⟨some p, rfl, hp⟩
    next =>
      -- a further read extends the prefix
      refine ⟨hdetached, ?_, p, hp, hvalue⟩
      obtain ⟨rest, hrest⟩ := hsofar
      rw [← hrest, List.drop_left]
      exact (List.prefix_append_right_inj text).mpr (List.take_prefix _ _)
  | returned result => exact h

omit [DecidableEq ι] in
/-- What a load has seen stays as it is. -/
theorem Fits.mono {phase : LoadPhase} (h : Fits E agentDid policies previous files phase)
    (hspares : FileSystem.Spares files files' (tmpPath E agentDid))
    (hname : files.names (FilePolicyStore.getPath E agentDid) ≠ none →
      files'.names (FilePolicyStore.getPath E agentDid) ≠ none) :
    Fits E agentDid policies previous files' phase := by
  cases phase with
  | begun => trivial
  | found => exact hname h
  | reading inode text =>
    -- a detached inode is never written again
    obtain ⟨hdetached, hrest⟩ := h
    obtain ⟨hdetached', hcontents⟩ := hspares inode hdetached
    rw [← hcontents] at hrest
    exact ⟨hdetached', hrest⟩
  | returned result => exact h

end Files

omit [DecidableEq ι] [DecidableEq κ] in
theorem tidy_start {files : PolicyFiles} (h : Holds E agentDid files previous) :
    Tidy E agentDid policies previous (start files : PolicyRace ι κ) where
  alone _ _ h := h.elim
  opened _ _ h := by cases h
  written _ h := by cases h
  returned _ _ h := by cases h
  current := ⟨previous, .inl rfl, h⟩
  loads _ := trivial

theorem Tidy.load (h : Tidy E agentDid policies previous s) (k : κ) (more : Nat) :
    Tidy E agentDid policies previous (s.step E agentDid policies (.load k more)) := by
  -- a load changes no file and no save
  refine ⟨h.alone, h.opened, h.written, h.returned, h.current, ?_⟩
  intro l
  by_cases hl : l = k
  · subst hl
    simp only [PolicyRace.step, Function.update_self]
    exact (h.loads l).next h.current more
  · simp only [PolicyRace.step, Function.update_of_ne hl]
    exact h.loads l

/-- What remains to be shown after a step of a save when no other save is pending. -/
theorem tidy_save (h : Tidy E agentDid policies previous s) {i : ι}
    (hothers : ∀ j, j ≠ i → ¬ (s.saving j).Pending) {files : PolicyFiles} {phase : SavePhase}
    (hnext : (s.saving i).next E agentDid (policies i) s.files = (files, phase))
    (hopened : ∀ inode, phase = .opened inode →
      files.names (tmpPath E agentDid) = some inode ∧ files.contents inode = [])
    (hwritten : phase = .written →
      files.read (tmpPath E agentDid) = some (E.encode (policies i)))
    (hreturned : ∀ result, phase = .returned result → result = .ok ())
    (hspares : FileSystem.Spares s.files files (tmpPath E agentDid))
    (hcurrent : Holds E agentDid files (some (policies i)) ∨
      (∀ result, phase ≠ .returned result) ∧
        files.names (FilePolicyStore.getPath E agentDid) =
          s.files.names (FilePolicyStore.getPath E agentDid)) :
    Tidy E agentDid policies previous (s.step E agentDid policies (.save i)) := by
  have hfiles : (s.step E agentDid policies (.save i)).files = files := congrArg Prod.fst hnext
  have hself : (s.step E agentDid policies (.save i)).saving i = phase :=
    (saving_save_self i).trans (congrArg Prod.snd hnext)
  have hpending : ∀ j, ((s.step E agentDid policies (.save i)).saving j).Pending → j = i := by
    intro j hj
    by_contra hne
    rw [saving_save_of_ne hne] at hj
    exact hothers j hne hj
  -- under the name of the policy there is the new text, or what was there before
  have hread : Holds E agentDid files (some (policies i)) ∨
      files.read (FilePolicyStore.getPath E agentDid) =
        s.files.read (FilePolicyStore.getPath E agentDid) :=
    hcurrent.imp_right fun ⟨_, hnames⟩ => hspares.read_eq tmpPath_ne.symm hnames
  refine ⟨?_, ?_, ?_, ?_, ?_, ?_⟩
  -- for the saves, only the one that took the step matters
  · intro a b ha hb
    rw [hpending a ha, hpending b hb]
  · intro j inode hj
    obtain rfl : j = i := hpending j (hj ▸ trivial)
    rw [hfiles]
    exact hopened inode (hself.symm.trans hj)
  · intro j hj
    obtain rfl : j = i := hpending j (hj ▸ trivial)
    rw [hfiles]
    exact hwritten (hself.symm.trans hj)
  · intro j result hj
    rw [hfiles]
    by_cases hji : j = i
    · subst hji
      have hphase : phase = .returned result := hself.symm.trans hj
      refine ⟨hreturned result hphase, j, ?_⟩
      exact hcurrent.resolve_right fun hno => hno.1 result hphase
    · rw [saving_save_of_ne hji] at hj
      obtain ⟨hok, l, hl⟩ := h.returned j result hj
      refine ⟨hok, ?_⟩
      rcases hread with hnew | hold
      · exact ⟨i, hnew⟩
      · exact ⟨l, hl.congr hold⟩
  -- the file holds the new policy or the one it held before
  · rw [hfiles]
    rcases hread with hnew | hold
    · exact ⟨some (policies i), .inr ⟨i, rfl⟩, hnew⟩
    · obtain ⟨policy, hallowed, hholds⟩ := h.current
      exact ⟨policy, hallowed, hholds.congr hold⟩
  -- open files of loads are spared, and the name stays taken
  · intro k
    rw [hfiles]
    refine (h.loads k).mono hspares ?_
    intro hname
    rcases hcurrent with ⟨text, htext, -⟩ | ⟨-, hnames⟩
    · intro hnone
      rw [FileSystem.read, hnone] at htext
      cases htext
    · rw [hnames]
      exact hname

/-- **Step.** A save that is alone with the temporary file keeps everything tidy. -/
theorem Tidy.save (h : Tidy E agentDid policies previous s) {i : ι} (halone : s.Alone (.save i)) :
    Tidy E agentDid policies previous (s.step E agentDid policies (.save i)) := by
  have hothers : (s.saving i).Pending → ∀ j, j ≠ i → ¬ (s.saving j).Pending := by
    intro hi j hne hj
    exact hne (h.alone j i hj hi)
  cases hphase : s.saving i with
  | begun =>
    have hnext : (s.saving i).next E agentDid (policies i) s.files =
        ((s.files.create (tmpPath E agentDid)).1,
          .opened (s.files.create (tmpPath E agentDid)).2) := by
      simp only [hphase, SavePhase.next]
    -- a new file, or the leftover one made empty
    apply tidy_save h (fun j _ => halone hphase j) hnext
    · rintro inode ⟨⟩
      exact ⟨FileSystem.create_names_self, FileSystem.create_contents_self⟩
    · exact nofun
    · exact nofun
    · exact FileSystem.spares_create _
    · exact .inr ⟨nofun, FileSystem.create_names_of_ne tmpPath_ne.symm⟩
  | opened inode =>
    obtain ⟨hname, hempty⟩ := h.opened i inode hphase
    have hnext : (s.saving i).next E agentDid (policies i) s.files =
        (s.files.write inode (E.encode (policies i)), .written) := by
      simp only [hphase, SavePhase.next]
    -- nobody else has renamed the file since it was opened
    apply tidy_save h (hothers (by rw [hphase]; trivial)) hnext
    · exact nofun
    · intro _
      have hread : (s.files.write inode (E.encode (policies i))).read (tmpPath E agentDid) =
          some ((s.files.write inode (E.encode (policies i))).contents inode) :=
        congrArg (Option.map _) hname
      rw [hread, FileSystem.write_contents_self, hempty, List.drop_nil, List.append_nil]
    · exact nofun
    · exact FileSystem.spares_write hname _
    · exact .inr ⟨nofun, rfl⟩
  | written =>
    obtain ⟨inode, hname, htext⟩ := Option.map_eq_some_iff.mp (h.written i hphase)
    obtain ⟨files, hrename, -, hpath, -, hcontents, -⟩ :=
      FileSystem.rename_eq_some hname tmpPath_ne
    have hnext : (s.saving i).next E agentDid (policies i) s.files =
        (files, .returned (.ok ())) := by
      simp only [hphase, SavePhase.next, hrename]
    apply tidy_save h (hothers (by rw [hphase]; trivial)) hnext
    · exact nofun
    · exact nofun
    · rintro result ⟨⟩
      rfl
    · exact FileSystem.spares_rename tmpPath_ne hrename
    · -- the whole text gets the name of the policy
      refine .inl ⟨E.encode (policies i), ?_, E.readFile_encode _⟩
      rw [FileSystem.read, hpath, Option.map_some, hcontents, htext]
  | returned result =>
    rw [save_returned hphase]
    exact h

/-- **Step.** -/
theorem Tidy.step (h : Tidy E agentDid policies previous s) {event : RaceEvent ι κ}
    (halone : s.Alone event) :
    Tidy E agentDid policies previous (s.step E agentDid policies event) := by
  cases event with
  | save i => exact h.save halone
  | load k more => exact h.load k more

omit [DecidableEq ι] [DecidableEq κ] in
/-- When all saves have returned, everyone has what they expect. -/
theorem Tidy.succeeds [Nonempty ι] (h : Tidy E agentDid policies previous s) (hdone : s.Settled) :
    Succeeds E agentDid policies previous s where
  loads k result hk := by
    have hfits := h.loads k
    rw [hk] at hfits
    exact hfits
  saves i := by
    obtain ⟨result, hi⟩ := hdone i
    rw [hi, (h.returned i result hi).1]
  final := by
    -- once a save has returned the file holds the policy of one of them
    obtain ⟨i⟩ := ‹Nonempty ι›
    obtain ⟨result, hi⟩ := hdone i
    exact (h.returned i result hi).2

end PolicyRace

open PolicyRace in
/-- **Overlapping saves**: once all saves have returned, they have all succeeded, the file holds a
    saved policy, and all loads have returned the previous policy or a saved one, exactly when no
    save opened the temporary file while another one was between its open and its rename. -/
theorem race_succeeds_iff {ι κ : Type} [DecidableEq ι] [DecidableEq κ] [Nonempty ι]
    (E : PolicyFileEnv) (agentDid : String) (policies : ι → McpPolicy)
    (previous : Option McpPolicy) (files : PolicyFiles) (hfiles : Holds E agentDid files previous)
    (run : List (RaceEvent ι κ))
    (hdone : (runFrom (step E agentDid policies) (start files) run).Settled) :
    Succeeds E agentDid policies previous (runFrom (step E agentDid policies) (start files) run) ↔
      AllSteps (step E agentDid policies) Alone (start files) run := by
  constructor
  · -- once two saves share the temporary name, nothing later repairs the run
    intro hsucceeds
    by_contra hrun
    exact (crowded_of_not_allSteps hrun).not_succeeds hsucceeds
  · -- while each save runs alone the race stays tidy
    intro hrun
    exact (hrun.keeps (fun s event halone h => h.step halone) (tidy_start hfiles)).succeeds hdone

/-! ## Two saves and a load -/

namespace PolicyRace

open FilePolicyStore (sampleFiles readerPolicy)

def twoPolicies : Bool → McpPolicy
  | true => McpPolicy.default
  | false => readerPolicy

/-- One save after the other, and a load in between. -/
def sequentialRun : List (RaceEvent Bool Unit) :=
  [.save true, .save true, .load () 99, .save true, .save false, .load () 99, .save false,
    .load () 99, .save false, .load () 99]

/-- The second save opens the file before the first one renames it. -/
def overlappingRun : List (RaceEvent Bool Unit) :=
  [.save true, .save false, .save true, .save true, .save false, .save false]

theorem race_succeeds_sample :
    Succeeds sampleFiles "did:mesh:agent-1" twoPolicies none
        (runFrom (step sampleFiles "did:mesh:agent-1" twoPolicies) (start .empty)
          sequentialRun) ↔
      AllSteps (step sampleFiles "did:mesh:agent-1" twoPolicies) Alone (start .empty)
        sequentialRun :=
  race_succeeds_iff sampleFiles "did:mesh:agent-1" twoPolicies none .empty rfl sequentialRun
    (settled_of_steps _ (by decide))

/-- Of two saves that overlap one fails. -/
theorem overlapping_save_fails :
    ¬ ∀ (E : PolicyFileEnv) (agentDid : String) (policies : Bool → McpPolicy)
      (previous : Option McpPolicy) (files : PolicyFiles), Holds E agentDid files previous →
      ∀ run : List (RaceEvent Bool Unit),
        (runFrom (step E agentDid policies) (start files) run).Settled →
        Succeeds E agentDid policies previous
          (runFrom (step E agentDid policies) (start files) run) := by
  intro h
  have hsucceeds := h sampleFiles "did:mesh:agent-1" twoPolicies none .empty rfl overlappingRun
    (settled_of_steps _ (by decide))
  -- the file is open for the first save when the second one opens it
  have hrun : ¬ AllSteps (step sampleFiles "did:mesh:agent-1" twoPolicies) Alone (start .empty)
      overlappingRun :=
    fun h => h.2.1 rfl true trivial
  exact (crowded_of_not_allSteps hrun).not_succeeds hsucceeds

end PolicyRace

end AgentGovernance.McpGovernance
