import AgentGovernance.Lib.Runs

/-!
# Inputs that leave no trace

A machine hides some of its inputs: `purge` is what remains of a run without them.  Where a hidden
input keeps the state alike and any other one keeps alike states alike and answers the same in
both, a run answers its visible inputs as the purged run does (`unwinding`).  The purged run may be
one of another machine.

Whether an input is hidden may depend on the state it arrives in.
-/

namespace AgentGovernance.Lib

variable {σ ι α : Type*} (step : σ → ι → σ) (V : σ → ι → Prop) (answer : σ → ι → α)

open Classical in
/-- The inputs of a run that are visible in the state they arrive in. -/
noncomputable def purge : σ → List ι → List ι
  | _, [] => []
  | s, i :: run => if V s i then i :: purge (step s i) run else purge (step s i) run

open Classical in
/-- The answers to the visible inputs of a run. -/
noncomputable def seen : σ → List ι → List α
  | _, [] => []
  | s, i :: run => if V s i then answer s i :: seen (step s i) run else seen (step s i) run

variable {step V answer} {s : σ} {i : ι} {run : List ι}

theorem purge_cons_of_visible (h : V s i) :
    purge step V s (i :: run) = i :: purge step V (step s i) run := by
  rw [purge, if_pos h]

theorem purge_cons_of_hidden (h : ¬ V s i) :
    purge step V s (i :: run) = purge step V (step s i) run := by
  rw [purge, if_neg h]

theorem seen_cons_of_visible (h : V s i) :
    seen step V answer s (i :: run) = answer s i :: seen step V answer (step s i) run := by
  rw [seen, if_pos h]

theorem seen_cons_of_hidden (h : ¬ V s i) :
    seen step V answer s (i :: run) = seen step V answer (step s i) run := by
  rw [seen, if_neg h]

/-- Where the state has no part in it, purging is filtering. -/
theorem purge_eq_filter (step : σ → ι → σ) (s : σ) (visible : ι → Bool) :
    purge step (fun _ i => visible i = true) s run = run.filter visible := by
  induction run generalizing s with
  | nil => rfl
  | cons i run ih =>
    rw [purge, ih]
    by_cases h : visible i = true
    · rw [if_pos h, List.filter_cons_of_pos h]
    · rw [if_neg h, List.filter_cons_of_neg h]

variable {τ : Type*} (step' : τ → ι → τ) {W : τ → ι → Prop} (answer' : τ → ι → α) {t : τ}

variable (step answer) in
/-- **Unwinding**: alike states stay alike over a run and its purge, and the visible inputs get
    the same answers.  `G` is what is known of the inputs. -/
theorem unwinding {R : σ → τ → Prop} {G : ι → Prop}
    (hhidden : ∀ s t i, G i → R s t → ¬ V s i → R (step s i) t)
    (hvisible : ∀ s t i, G i → R s t → V s i →
      R (step s i) (step' t i) ∧ W t i ∧ answer s i = answer' t i)
    (hst : R s t) (hrun : ∀ i ∈ run, G i) :
    R (runFrom step s run) (runFrom step' t (purge step V s run)) ∧
      AllSteps step' W t (purge step V s run) ∧
      seen step V answer s run =
        answers (fun t i => (step' t i, answer' t i)) t (purge step V s run) := by
  induction run generalizing s t with
  | nil => exact ⟨hst, trivial, rfl⟩
  | cons i run ih =>
    obtain ⟨hi, hrest⟩ := List.forall_mem_cons.mp hrun
    by_cases hV : V s i
    · -- both runs take the step, with the same answer
      obtain ⟨hnext, hVt, hanswer⟩ := hvisible s t i hi hst hV
      obtain ⟨hend, hall, hseen⟩ := ih hnext hrest
      rw [purge_cons_of_visible hV, seen_cons_of_visible hV, hseen, hanswer]
      exact ⟨hend, ⟨hVt, hall⟩, rfl⟩
    -- the purged run does not move
    · have hnext := hhidden s t i hi hst hV
      rw [purge_cons_of_hidden hV, seen_cons_of_hidden hV]
      exact ih hnext hrest

end AgentGovernance.Lib
