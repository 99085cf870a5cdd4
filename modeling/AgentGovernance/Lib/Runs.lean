import Mathlib.Data.List.Forall2
import Mathlib.Data.List.Induction

/-!
# Runs of a step function

A run is a list of inputs, taken from the left by a step function.  `AllSteps P` says that
every step is taken in a state where `P` holds of the state and the input.
-/

namespace AgentGovernance.Lib

variable {σ ι : Type*} (step : σ → ι → σ)

def runFrom (s : σ) (run : List ι) : σ :=
  run.foldl step s

/-- Every step of the run satisfies `P` in the state it is taken in. -/
def AllSteps (P : σ → ι → Prop) : σ → List ι → Prop
  | _, [] => True
  | s, i :: run => P s i ∧ AllSteps P (step s i) run

@[simp] theorem runFrom_nil (s : σ) : runFrom step s [] = s := rfl

@[simp] theorem runFrom_cons (s : σ) (i : ι) (run : List ι) :
    runFrom step s (i :: run) = runFrom step (step s i) run := rfl

theorem runFrom_append (s : σ) (run more : List ι) :
    runFrom step s (run ++ more) = runFrom step (runFrom step s run) more :=
  List.foldl_append

variable {step} {P Q : σ → ι → Prop} {s : σ} {run : List ι}

theorem AllSteps.mono (hPQ : ∀ s i, P s i → Q s i) (h : AllSteps step P s run) :
    AllSteps step Q s run := by
  induction run generalizing s with
  | nil => trivial
  | cons i run ih => exact ⟨hPQ s i h.1, ih h.2⟩

theorem allSteps_congr (hPQ : ∀ s i, P s i ↔ Q s i) :
    AllSteps step P s run ↔ AllSteps step Q s run :=
  ⟨AllSteps.mono fun s i => (hPQ s i).mp, AllSteps.mono fun s i => (hPQ s i).mpr⟩

theorem AllSteps.and (hP : AllSteps step P s run) (hQ : AllSteps step Q s run) :
    AllSteps step (fun s i => P s i ∧ Q s i) s run := by
  induction run generalizing s with
  | nil => trivial
  | cons i run ih => exact ⟨⟨hP.1, hQ.1⟩, ih hP.2 hQ.2⟩

theorem allSteps_append {more : List ι} :
    AllSteps step P s (run ++ more) ↔
      AllSteps step P s run ∧ AllSteps step P (runFrom step s run) more := by
  induction run generalizing s with
  | nil => exact ⟨fun h => ⟨trivial, h⟩, fun h => h.2⟩
  | cons i run ih =>
    simp only [List.cons_append, AllSteps, runFrom_cons, ih, and_assoc]

/-- A relation that holds between the two ends of every step holds between the two ends of
    the run. -/
theorem AllSteps.relates {R : σ → σ → Prop} (hrefl : ∀ s, R s s)
    (htrans : ∀ s t u, R s t → R t u → R s u) (hstep : ∀ s i, P s i → R s (step s i))
    (h : AllSteps step P s run) : R s (runFrom step s run) := by
  induction run generalizing s with
  | nil => exact hrefl s
  | cons i run ih =>
    have hhead : R s (step s i) := hstep s i h.1
    have htail : R (step s i) (runFrom step (step s i) run) := ih h.2
    exact htrans _ _ _ hhead htail

/-- What holds of all steps holds of the steps of a run. -/
theorem allSteps_of_forall (h : ∀ s i, P s i) : AllSteps step P s run := by
  induction run generalizing s with
  | nil => trivial
  | cons i run ih => exact ⟨h s i, ih⟩

/-- What holds of the inputs of a run, in any state, holds of its steps. -/
theorem allSteps_of_forall_mem (h : ∀ i ∈ run, ∀ s, P s i) : AllSteps step P s run := by
  induction run generalizing s with
  | nil => trivial
  | cons i run ih =>
    obtain ⟨hi, hrun⟩ := List.forall_mem_cons.mp h
    exact ⟨hi s, ih hrun⟩

/-- `P` and `Q` hold of the same runs when they agree wherever `I` holds and a step that satisfies
    `Q` keeps `I`.  The steps of the run satisfy `G`. -/
theorem allSteps_iff_allSteps_of {I : σ → Prop} {G : σ → ι → Prop}
    (hagree : ∀ s i, G s i → I s → (P s i ↔ Q s i))
    (hinv : ∀ s i, G s i → I s → Q s i → I (step s i)) (hs : I s) (hG : AllSteps step G s run) :
    AllSteps step P s run ↔ AllSteps step Q s run := by
  induction run generalizing s with
  | nil => exact Iff.rfl
  | cons i run ih =>
    obtain ⟨hi, hrun⟩ := hG
    simp only [AllSteps]
    rw [hagree s i hi hs]
    exact and_congr_right fun hQ => ih (hinv s i hi hs hQ) hrun

/-- The same for runs of any steps. -/
theorem allSteps_iff_allSteps {I : σ → Prop} (hagree : ∀ s i, I s → (P s i ↔ Q s i))
    (hinv : ∀ s i, I s → Q s i → I (step s i)) (hs : I s) :
    AllSteps step P s run ↔ AllSteps step Q s run :=
  allSteps_iff_allSteps_of (G := fun _ _ => True) (fun s i _ => hagree s i) (fun s i _ => hinv s i)
    hs (allSteps_of_forall fun _ _ => trivial)

/-- What every step that satisfies `P` keeps is kept by a run of such steps. -/
theorem AllSteps.keeps {I : σ → Prop} (hstep : ∀ s i, P s i → I s → I (step s i))
    (h : AllSteps step P s run) (hs : I s) : I (runFrom step s run) := by
  induction run generalizing s with
  | nil => exact hs
  | cons i run ih => exact ih h.2 (hstep s i h.1 hs)

/-- Where steps that satisfy `G` keep `I`, and with it satisfy `P`, so do the steps of a run. -/
theorem AllSteps.of_keeps {I : σ → Prop} {G : σ → ι → Prop}
    (hkeep : ∀ s i, G s i → I s → I (step s i)) (hP : ∀ s i, G s i → I s → P s i) (hs : I s)
    (hG : AllSteps step G s run) : AllSteps step P s run := by
  induction run generalizing s with
  | nil => trivial
  | cons i run ih => exact ⟨hP s i hG.1 hs, ih (hkeep s i hG.1 hs) hG.2⟩

/-- What every step keeps is kept by every run. -/
theorem runFrom_keeps {I : σ → Prop} (hstep : ∀ s i, I s → I (step s i)) (hs : I s)
    (run : List ι) : I (runFrom step s run) :=
  (allSteps_of_forall (P := fun _ _ => True) fun _ _ => trivial).keeps (fun s i _ => hstep s i) hs

/-- Where the first step that violates `P` leads to `B`, and `B` is never left, a run ends in `B`
    unless all its steps satisfy `P`.  `I` is what the steps before it keep. -/
theorem allSteps_or_of_absorbing {I B : σ → Prop} (hinv : ∀ s i, P s i → I s → I (step s i))
    (hbad : ∀ s i, I s → ¬ P s i → B (step s i)) (hkeep : ∀ s i, B s → B (step s i)) (hs : I s)
    (run : List ι) : AllSteps step P s run ∨ B (runFrom step s run) := by
  induction run generalizing s with
  | nil => exact .inl trivial
  | cons i run ih =>
    by_cases hi : P s i
    · exact (ih (hinv s i hi hs)).imp_left fun hrun => ⟨hi, hrun⟩
    · exact .inr (runFrom_keeps hkeep (hbad s i hs hi) run)

/-- An invariant between the inputs taken so far and the state they lead to. -/
theorem runFrom_tracks {T : List ι → σ → Prop} (hinit : T [] s)
    (hstep : ∀ past i s, T past s → T (past ++ [i]) (step s i)) : T run (runFrom step s run) := by
  induction run using List.reverseRecOn with
  | nil => exact hinit
  | append_singleton past i ih =>
    rw [runFrom_append]
    exact hstep past i _ ih

/-- An input of a run that is one longer is the last one, or one before it. -/
theorem exists_split_concat_iff {past : List ι} {last : ι} {P : List ι → ι → List ι → Prop} :
    (∃ pre i post, past ++ [last] = pre ++ i :: post ∧ P pre i post) ↔
      P past last [] ∨ ∃ pre i post, past = pre ++ i :: post ∧ P pre i (post ++ [last]) := by
  constructor
  · rintro ⟨pre, i, post, heq, hP⟩
    -- the cut is at the last input, or before it with the last input behind
    rcases List.eq_nil_or_concat' post with rfl | ⟨post, j, rfl⟩
    · obtain ⟨rfl, hi⟩ := List.append_inj' heq rfl
      obtain rfl := List.singleton_inj.mp hi
      exact .inl hP
    · rw [← List.cons_append, ← List.append_assoc] at heq
      obtain ⟨rfl, hj⟩ := List.append_inj' heq rfl
      obtain rfl := List.singleton_inj.mp hj
      exact .inr ⟨pre, i, post, rfl, hP⟩
  · rintro (hP | ⟨pre, i, post, rfl, hP⟩)
    · exact ⟨past, last, [], rfl, hP⟩
    · exact ⟨pre, i, post ++ [last], by simp, hP⟩

/-- Where each step writes its value under its key or nothing, and no other key, what is read under
    a key is what was there at first or a value that the run has for the key. -/
theorem read_runFrom {κ β : Type*} {read : σ → κ → β} {key : ι → κ} {value : ι → β}
    (hown : ∀ s i, read (step s i) (key i) = read s (key i) ∨ read (step s i) (key i) = value i)
    (hothers : ∀ s i k, k ≠ key i → read (step s i) k = read s k) (s : σ) (k : κ) (run : List ι) :
    read (runFrom step s run) k = read s k ∨
      ∃ i ∈ run, key i = k ∧ read (runFrom step s run) k = value i := by
  induction run using List.reverseRecOn with
  | nil => exact .inl rfl
  | append_singleton past i ih =>
    rw [runFrom_append, runFrom_cons, runFrom_nil]
    -- where the last step does not write under the key, the earlier ones decide
    have hkept : read (step (runFrom step s past) i) k = read (runFrom step s past) k →
        read (step (runFrom step s past) i) k = read s k ∨
          ∃ j ∈ past ++ [i], key j = k ∧ read (step (runFrom step s past) i) k = value j := by
      intro hsame
      rw [hsame]
      refine ih.imp_right ?_
      rintro ⟨j, hj, hread⟩
      exact ⟨j, List.mem_append_left _ hj, hread⟩
    by_cases hkey : k = key i
    · subst hkey
      rcases hown (runFrom step s past) i with hold | hnew
      · exact hkept hold
      · exact .inr ⟨i, List.mem_append_right _ List.mem_cons_self, rfl, hnew⟩
    · exact hkept (hothers _ i k hkey)

/-! ## Two runs side by side -/

/-- All states of a run satisfy `P` exactly when all its steps satisfy `Q`, where `Q` keeps an
    invariant `I` that implies `P` and any other step from `I` leads out of `P`.  The steps of the
    run satisfy `G`. -/
theorem forall_prefix_iff_allSteps_of_keeps {I P : σ → Prop} {G : σ → ι → Prop}
    (hIP : ∀ s, I s → P s) (hkeep : ∀ s i, G s i → I s → Q s i → I (step s i))
    (hleave : ∀ s i, G s i → I s → ¬ Q s i → ¬ P (step s i)) (hs : I s)
    (hG : AllSteps step G s run) :
    (∀ pre, pre <+: run → P (runFrom step s pre)) ↔ AllSteps step Q s run := by
  induction run generalizing s with
  | nil =>
    refine ⟨fun _ => trivial, ?_⟩
    intro _ pre hpre
    rw [List.prefix_nil.mp hpre]
    exact hIP s hs
  | cons i run ih =>
    obtain ⟨hi, hrun⟩ := hG
    constructor
    · intro h
      -- `P` after the first step rules out that it leaves, and the rest is a run from there
      have hnext : P (step s i) := h [i] (by simp)
      have hQ : Q s i := by
        by_contra hQ
        exact hleave s i hi hs hQ hnext
      refine ⟨hQ, (ih (hkeep s i hi hs hQ) hrun).mp ?_⟩
      intro pre hpre
      exact h (i :: pre) (List.cons_prefix_cons.mpr ⟨rfl, hpre⟩)
    · rintro ⟨hQ, hrest⟩ pre hpre
      cases pre with
      | nil => exact hIP s hs
      | cons j pre =>
        obtain ⟨rfl, htail⟩ := List.cons_prefix_cons.mp hpre
        exact (ih (hkeep s j hi hs hQ) hrun).mpr hrest pre htail

/-- Where a step that satisfies `G` keeps `P` exactly when it satisfies `Q`, all states of a run
    of such steps satisfy `P` exactly when all its steps satisfy `Q`.  `I` is what holds in any
    case. -/
theorem forall_prefix_iff_allSteps_of {I P : σ → Prop} {G : σ → ι → Prop}
    (hinv : ∀ s i, G s i → I s → I (step s i))
    (hstep : ∀ s i, G s i → I s → P s → (P (step s i) ↔ Q s i)) (hs : I s) (hP : P s)
    (hG : AllSteps step G s run) :
    (∀ pre, pre <+: run → P (runFrom step s pre)) ↔ AllSteps step Q s run := by
  refine forall_prefix_iff_allSteps_of_keeps (I := fun s => I s ∧ P s) (fun s h => h.2) ?_ ?_
    ⟨hs, hP⟩ hG
  · intro s i hi h hQ
    exact ⟨hinv s i hi h.1, (hstep s i hi h.1 h.2).mpr hQ⟩
  · intro s i hi h hQ hnext
    exact hQ ((hstep s i hi h.1 h.2).mp hnext)

/-- The same for runs of any steps. -/
theorem forall_prefix_iff_allSteps {I P : σ → Prop} (hinv : ∀ s i, I s → I (step s i))
    (hstep : ∀ s i, I s → P s → (P (step s i) ↔ Q s i)) (hs : I s) (hP : P s) :
    (∀ pre, pre <+: run → P (runFrom step s pre)) ↔ AllSteps step Q s run :=
  forall_prefix_iff_allSteps_of (G := fun _ _ => True) (fun s i _ => hinv s i)
    (fun s i _ => hstep s i) hs hP (allSteps_of_forall fun _ _ => trivial)

/-- The prefixes of a run that is one longer. -/
theorem forall_prefix_concat_iff {H : List ι → Prop} {past : List ι} {i : ι} :
    (∀ pre, pre <+: past ++ [i] → H pre) ↔ (∀ pre, pre <+: past → H pre) ∧ H (past ++ [i]) := by
  simp only [List.prefix_concat_iff, or_imp, forall_and, forall_eq, and_comm]

/-- Where the inputs so far tell whether a step satisfies `P`, they tell it of a run. -/
theorem allSteps_iff_forall_prefix {H : List ι → Prop} (hnil : H [])
    (hP : ∀ past i, H past → (P (runFrom step s past) i ↔ H (past ++ [i]))) :
    AllSteps step P s run ↔ ∀ pre, pre <+: run → H pre := by
  induction run using List.reverseRecOn with
  | nil =>
    refine iff_of_true trivial ?_
    intro pre hpre
    rw [List.prefix_nil.mp hpre]
    exact hnil
  | append_singleton past i ih =>
    -- a run that is one longer has one prefix more, which tells of its last step
    rw [allSteps_append, ih, forall_prefix_concat_iff]
    refine and_congr_right ?_
    intro hpast
    rw [← hP past i (hpast past (List.prefix_refl past))]
    exact and_iff_left trivial

/-! ## Answers -/

variable {τ α β : Type*}

/-- What a machine answers to the inputs of a run. -/
def answers (call : σ → ι → σ × α) : σ → List ι → List α
  | _, [] => []
  | s, i :: run => (call s i).2 :: answers call (call s i).1 run

/-- What no single call answers is no answer of a run. -/
theorem notMem_answers {call : σ → ι → σ × α} {a : α} (h : ∀ s i, (call s i).2 ≠ a) (s : σ)
    (run : List ι) : a ∉ answers call s run := by
  induction run generalizing s with
  | nil => exact List.not_mem_nil
  | cons i run ih =>
    rw [answers, List.mem_cons, not_or]
    exact ⟨(h s i).symm, ih _⟩

/-- Two machines in states that stay related answer every run alike. -/
theorem forall₂_answers {call : σ → ι → σ × α} {call' : τ → ι → τ × β} {R : σ → τ → Prop}
    {A : α → β → Prop}
    (hcall : ∀ s t i, R s t → R (call s i).1 (call' t i).1 ∧ A (call s i).2 (call' t i).2)
    {s : σ} {t : τ} (hst : R s t) (run : List ι) :
    List.Forall₂ A (answers call s run) (answers call' t run) := by
  induction run generalizing s t with
  | nil => exact .nil
  | cons i run ih =>
    obtain ⟨hnext, hanswer⟩ := hcall s t i hst
    exact .cons hanswer (ih hnext)

/-- The same answers, when single calls give the same answers.  `G` is what is known of the
    inputs. -/
theorem answers_eq_of {call : σ → ι → σ × α} {call' : τ → ι → τ × α} {R : σ → τ → Prop}
    {G : ι → Prop}
    (hcall : ∀ s t i, G i → R s t → R (call s i).1 (call' t i).1 ∧ (call s i).2 = (call' t i).2)
    {s : σ} {t : τ} (hst : R s t) {run : List ι} (hrun : ∀ i ∈ run, G i) :
    answers call s run = answers call' t run := by
  induction run generalizing s t with
  | nil => rfl
  | cons i run ih =>
    obtain ⟨hi, hrest⟩ := List.forall_mem_cons.mp hrun
    -- the same answer now, and states that are still related for the rest
    obtain ⟨hnext, hanswer⟩ := hcall s t i hi hst
    simp only [answers]
    rw [hanswer, ih hnext hrest]

/-- The same for any inputs. -/
theorem answers_eq {call : σ → ι → σ × α} {call' : τ → ι → τ × α} {R : σ → τ → Prop}
    (hcall : ∀ s t i, R s t → R (call s i).1 (call' t i).1 ∧ (call s i).2 = (call' t i).2)
    {s : σ} {t : τ} (hst : R s t) (run : List ι) : answers call s run = answers call' t run :=
  List.forall₂_eq_eq_eq ▸ forall₂_answers hcall hst run

/-- A machine answers as another one does that only hears a note on each step.  `G` is what is known
    of the inputs. -/
theorem answers_eq_answers_notes_of {κ : Type*} {call : σ → ι → σ × α} {note : σ → ι → κ}
    {call' : τ → κ → τ × α} {R : σ → τ → Prop} {G : ι → Prop}
    (hcall : ∀ s t i, G i → R s t →
      R (call s i).1 (call' t (note s i)).1 ∧ (call s i).2 = (call' t (note s i)).2)
    {s : σ} {t : τ} (hst : R s t) {run : List ι} (hrun : ∀ i ∈ run, G i) :
    answers call s run = answers call' t (answers (fun s i => ((call s i).1, note s i)) s run) := by
  induction run generalizing s t with
  | nil => rfl
  | cons i run ih =>
    obtain ⟨hi, hrest⟩ := List.forall_mem_cons.mp hrun
    -- the second machine takes the note of this step and stays related
    obtain ⟨hnext, hanswer⟩ := hcall s t i hi hst
    simp only [answers]
    rw [hanswer, ih hnext hrest]

/-- The same for any inputs. -/
theorem answers_eq_answers_notes {κ : Type*} {call : σ → ι → σ × α} {note : σ → ι → κ}
    {call' : τ → κ → τ × α} {R : σ → τ → Prop}
    (hcall : ∀ s t i, R s t →
      R (call s i).1 (call' t (note s i)).1 ∧ (call s i).2 = (call' t (note s i)).2)
    {s : σ} {t : τ} (hst : R s t) (run : List ι) :
    answers call s run = answers call' t (answers (fun s i => ((call s i).1, note s i)) s run) :=
  answers_eq_answers_notes_of (G := fun _ => True) (fun s t i _ => hcall s t i) hst
    fun _ _ => trivial

end AgentGovernance.Lib
