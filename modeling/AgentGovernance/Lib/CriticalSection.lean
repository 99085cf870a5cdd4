import Mathlib.Logic.Relation
import Mathlib.Data.List.Induction

/-!
# Critical sections under one mutex

Any number of threads run jobs on a shared state.  A job is a sequence of small
actions, fixed when the thread acquires the mutex, and the mutex is held until the
last action is done.  Steps of different threads interleave freely outside the
mutex; those touch nothing shared, so they are left out.

`reachable_shared` is the serialization theorem: in every reachable state the
shared state is that of the jobs run one after another in lock order, the last one
possibly stopped after some of its actions.  The states at which a process can be
killed are exactly the reachable ones, so the same theorem bounds what a crash
leaves behind.
-/

namespace AgentGovernance.Lib

/-- The shared state, the thread inside the section with the actions it has left, and the
    jobs in the order in which they got the mutex. -/
structure Section (σ ι : Type) where
  shared : σ
  holder : Option (ι × List (σ → σ))
  order : List ι

namespace Section

variable {σ ι : Type} (body : ι → σ → List (σ → σ))

/-- Actions one after another. -/
def perform (actions : List (σ → σ)) (s : σ) : σ :=
  actions.foldl (fun s action => action s) s

/-- A whole job without interruption. -/
def runJob (s : σ) (j : ι) : σ :=
  perform (body j s) s

/-- Whole jobs one after another. -/
def runJobs (s : σ) (js : List ι) : σ :=
  js.foldl (runJob body) s

/-- Nobody holds the mutex and nobody has had it. -/
def start (s : σ) : Section σ ι where
  shared := s
  holder := none
  order := []

/-- One step of some thread. -/
inductive Step : Section σ ι → Section σ ι → Prop where
  /-- A thread gets the free mutex; its actions depend on the state it finds. -/
  | acquire (s : σ) (js : List ι) (j : ι) :
      Step ⟨s, none, js⟩ ⟨s, some (j, body j s), js ++ [j]⟩
  /-- The thread inside performs its next action. -/
  | act (s : σ) (js : List ι) (j : ι) (a : σ → σ) (rest : List (σ → σ)) :
      Step ⟨s, some (j, a :: rest), js⟩ ⟨a s, some (j, rest), js⟩
  /-- The thread inside is done and gives the mutex back. -/
  | release (s : σ) (js : List ι) (j : ι) :
      Step ⟨s, some (j, []), js⟩ ⟨s, none, js⟩

/-- The states that some interleaving leads to. -/
def Reachable (s : σ) (w : Section σ ι) : Prop :=
  Relation.ReflTransGen (Step body) (start s) w

theorem perform_append (as bs : List (σ → σ)) (s : σ) :
    perform (as ++ bs) s = perform bs (perform as s) :=
  List.foldl_append

theorem runJobs_concat (s : σ) (js : List ι) (j : ι) :
    runJobs body s (js ++ [j]) = runJob body (runJobs body s js) j := by
  simp [runJobs]

/-- What holds at every step: outside, the jobs ran one after another in lock order; inside,
    the last job has performed an initial part of its actions. -/
def Serialized (s : σ) (w : Section σ ι) : Prop :=
  match w.holder with
  | none => w.shared = runJobs body s w.order
  | some (j, rest) => ∃ js done, w.order = js ++ [j] ∧
      body j (runJobs body s js) = done ++ rest ∧
      w.shared = perform done (runJobs body s js)

theorem serialized_step (s : σ) {w w' : Section σ ι} (hw : Serialized body s w)
    (h : Step body w w') : Serialized body s w' := by
  cases h with
  | acquire t js j =>
    obtain rfl : t = runJobs body s js := hw
    exact ⟨js, [], rfl, rfl, rfl⟩
  | act t js j a rest =>
    -- the actions done so far are a prefix of the holder's job
    obtain ⟨js', done, hjs, hbody, rfl⟩ := hw
    refine ⟨js', done ++ [a], hjs, ?_, ?_⟩
    · rw [hbody, List.append_assoc, List.singleton_append]
    · rw [perform_append]
      rfl
  | release t js j =>
    -- with nothing left to do, that prefix is the whole job
    obtain ⟨js', done, rfl, hbody, rfl⟩ := hw
    show perform done (runJobs body s js') = runJobs body s (js' ++ [j])
    rw [runJobs_concat, runJob, hbody, List.append_nil]

theorem serialized_of_reachable (s : σ) (w : Section σ ι) (h : Reachable body s w) :
    Serialized body s w := by
  induction h with
  | refl => rfl
  | tail _ hstep ih => exact serialized_step body s ih hstep

/-- **Serialization.** Every reachable shared state is that of whole jobs in lock order,
    followed by an initial part of one more job when a thread is still inside. -/
theorem reachable_shared (s : σ) (w : Section σ ι) (h : Reachable body s w) :
    (w.holder = none ∧ w.shared = runJobs body s w.order) ∨
    (∃ js j done rest, w.order = js ++ [j] ∧ body j (runJobs body s js) = done ++ rest ∧
      w.shared = perform done (runJobs body s js)) := by
  have hw := serialized_of_reachable body s w h
  match hh : w.holder with
  | none =>
    rw [Serialized, hh] at hw
    exact .inl ⟨rfl, hw⟩
  | some (j, rest) =>
    -- a holder has done a part of its job since the last release
    rw [Serialized, hh] at hw
    obtain ⟨js, done, hjs, hbody, hshared⟩ := hw
    exact .inr ⟨js, j, done, rest, hjs, hbody, hshared⟩

/-- A thread that is inside can finish. -/
theorem reachable_perform {s t : σ} {js : List ι} {j : ι} (actions : List (σ → σ))
    (h : Reachable body s ⟨t, some (j, actions), js⟩) :
    Reachable body s ⟨perform actions t, none, js⟩ := by
  induction actions generalizing t with
  | nil => exact h.tail (.release t js j)
  | cons a rest ih => exact ih (h.tail (.act t js j a rest))

/-- Every sequence of whole jobs is one of the interleavings. -/
theorem reachable_runJobs (s : σ) (js : List ι) :
    Reachable body s ⟨runJobs body s js, none, js⟩ := by
  induction js using List.reverseRecOn with
  | nil => exact .refl
  | append_singleton js j ih =>
    rw [runJobs_concat]
    exact reachable_perform body _ (ih.tail (.acquire _ js j))

end Section

end AgentGovernance.Lib
