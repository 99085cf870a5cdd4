import AgentGovernance.Lib.Unwinding
import AgentGovernance.Os.MemoryBackend

/-!
# The stateless kernel

`StatelessKernel` in `crates/core/os/src/lib.rs`.  An execution loads the state that its context
refers to, checks the policies that the context names, performs the action and stores what the
action wants to keep.

`execute_simulates` is about the kernel around any backend and any way to perform actions.  With
the backend of the repository it answers like one that keeps its states in a plain map,
`execute_refines`; with its way to perform actions it leaves no trace, `execute_unseen`.
-/

namespace AgentGovernance.Os

open AgentGovernance.Lib

/-! ## Contexts and results -/

/-- `serde_json::Value`, with numbers by their text. -/
inductive Value where
  | null
  | bool (value : Bool)
  | number (text : String)
  | string (value : String)
  | array (elements : List Value)
  | object (entries : List (String × Value))

/-- `HashMap<String, serde_json::Value>`. -/
abbrev Fields := Finmap fun _ : String => Value

structure ExecutionContext where
  agentId : String
  policies : List String
  history : List Fields
  stateRef : Option String
  metadata : Fields

structure ExecutionResult where
  success : Bool
  data : Option Value
  error : Option String
  signal : Option String
  updatedContext : Option ExecutionContext
  metadata : Fields

/-- The arguments of `execute`. -/
structure Execution where
  action : String
  params : Fields
  context : ExecutionContext

/-- `new_state_ref` where the state is stored; what is loaded has the same key. -/
def Execution.target (e : Execution) : String :=
  e.context.stateRef.getD ("state:" ++ e.context.agentId)

/-- `Value::get` with a key. -/
def Value.get (key : String) : Value → Option Value
  | .object entries => entries.lookup key
  | _ => none

def Value.asArray : Value → Option (List Value)
  | .array elements => some elements
  | _ => none

/-- The comparison of a `Value` with a string. -/
def Value.eqStr (text : String) : Value → Bool
  | .string value => value = text
  | _ => false

/-- `StateBackend` as far as the kernel uses it: `get`, and `set` without a time to live.  A result
    of `none` is a call that does not return `Ok`. -/
structure StateBackend (σ : Type) where
  get : σ → String → σ × Option (Option Fields)
  set : σ → String → Fields → σ × Option Unit

/-- `StatelessKernel`, beside its backend. -/
structure StatelessKernel where
  policies : Fields

namespace StatelessKernel

/-! ## Executions -/

/-- The policy has the action in its `blocked_actions`. -/
def blocks (policy : Value) (action : String) : Bool :=
  match (policy.get "blocked_actions").bind Value.asArray with
  | some blocked => blocked.any (·.eqStr action)
  | none => false

/-- The message of a blocked action. -/
def blockedBy (action policyName : String) : String :=
  "Action '" ++ action ++ "' blocked by policy '" ++ policyName ++ "'"

def checkPolicies (k : StatelessKernel) (action : String) : List String → Except String Unit
  | [] => .ok ()
  | policyName :: policyNames =>
    match k.policies.lookup policyName with
    | some policy =>
      if blocks policy action then .error (blockedBy action policyName)
      else k.checkPolicies action policyNames
    | none => k.checkPolicies action policyNames

/-- What an execution has to perform its action with: `execute_action` gets the action, the
    parameters and the state. -/
abbrev Performer := String → Fields → Fields → Fields

/-- `execute_action`, a placeholder. -/
def executeAction : Performer := fun _ _ _ =>
  Finmap.singleton "data" (.object [("status", .string "executed")])

/-- The state that the context refers to. -/
def load {σ : Type} (backend : StateBackend σ) (s : σ) : Option String → σ × Option Fields
  | none => (s, some ∅)
  | some stateRef =>
    match backend.get s stateRef with
    | (s, some state) => (s, some (state.getD ∅))
    | (s, none) => (s, none)

/-- The entries of a state update, one after the other. -/
def applyUpdate (state : Fields) : Value → Fields
  | .object entries => entries.foldl (fun state e => state.insert e.1 e.2) state
  | _ => state

/-- The result of an action that is blocked. -/
def killed (e : String) : ExecutionResult where
  success := false
  data := none
  error := some e
  signal := some "SIGKILL"
  updatedContext := none
  metadata := ∅

/-- The result of an action that is performed. -/
def performed (context : ExecutionContext) (stateRef : Option String) (result : Fields) :
    ExecutionResult where
  success := true
  data := some ((result.lookup "data").getD .null)
  error := none
  signal := none
  updatedContext := some { context with stateRef := stateRef }
  metadata := ∅

/-- `execute`, around any `execute_action`. -/
def executeWith {σ : Type} (perform : Performer) (backend : StateBackend σ) (k : StatelessKernel)
    (s : σ) (e : Execution) : σ × Option ExecutionResult :=
  match load backend s e.context.stateRef with
  | (s, none) => (s, none)
  | (s, some externalState) =>
    match k.checkPolicies e.action e.context.policies with
    | .error message => (s, some (killed message))
    | .ok () =>
      let result := perform e.action e.params externalState
      match result.lookup "state_update" with
      | none => (s, some (performed e.context e.context.stateRef result))
      | some stateUpdate =>
        match backend.set s e.target (applyUpdate externalState stateUpdate) with
        | (s, none) => (s, none)
        | (s, some ()) => (s, some (performed e.context (some e.target) result))

def execute {σ : Type} : StateBackend σ → StatelessKernel → σ → Execution →
    σ × Option ExecutionResult :=
  executeWith executeAction

/-! ## Any backend -/

variable {σ τ : Type} {perform : Performer} {k : StatelessKernel} {e : Execution} {s : σ} {t : τ}

/-- Loading touches no key but the one that the execution stores under. -/
theorem load_simulates {backend : StateBackend σ} {other : StateBackend τ} {R : σ → τ → Prop}
    (hget : ∀ s t, R s t → R (backend.get s e.target).1 (other.get t e.target).1 ∧
      (backend.get s e.target).2 = (other.get t e.target).2)
    (hst : R s t) :
    R (load backend s e.context.stateRef).1 (load other t e.context.stateRef).1 ∧
      (load backend s e.context.stateRef).2 = (load other t e.context.stateRef).2 := by
  cases href : e.context.stateRef with
  | none => exact ⟨hst, rfl⟩
  | some stateRef =>
    -- what is loaded is the entry that the execution stores under
    have htarget : e.target = stateRef := by rw [Execution.target, href, Option.getD_some]
    rw [htarget] at hget
    obtain ⟨hnext, hanswer⟩ := hget s t hst
    dsimp only [load]
    generalize backend.get s stateRef = x at hnext hanswer
    generalize other.get t stateRef = y at hnext hanswer
    obtain ⟨s', state⟩ := x
    obtain ⟨t', state'⟩ := y
    obtain rfl : state = state' := hanswer
    cases state with
    | none => exact ⟨hnext, rfl⟩
    | some state => exact ⟨hnext, rfl⟩

/-- **Simulation**: two backends that answer alike under the key of an execution lead to the same
    result, and stay alike. -/
theorem execute_simulates (perform : Performer) (backend : StateBackend σ)
    (other : StateBackend τ) {R : σ → τ → Prop}
    (hget : ∀ s t, R s t → R (backend.get s e.target).1 (other.get t e.target).1 ∧
      (backend.get s e.target).2 = (other.get t e.target).2)
    (hset : ∀ s t value, R s t →
      R (backend.set s e.target value).1 (other.set t e.target value).1 ∧
        (backend.set s e.target value).2 = (other.set t e.target value).2)
    (hst : R s t) :
    R (executeWith perform backend k s e).1 (executeWith perform other k t e).1 ∧
      (executeWith perform backend k s e).2 = (executeWith perform other k t e).2 := by
  obtain ⟨hloaded, hstate⟩ := load_simulates hget hst
  unfold executeWith
  generalize load backend s e.context.stateRef = x at hloaded hstate
  generalize load other t e.context.stateRef = y at hloaded hstate
  obtain ⟨s, externalState⟩ := x
  obtain ⟨t, externalState'⟩ := y
  obtain rfl : externalState = externalState' := hstate
  cases externalState with
  | none => exact ⟨hloaded, rfl⟩
  | some externalState =>
    -- both have loaded the same state, so the policies and the action decide the same
    dsimp only at hloaded ⊢
    cases k.checkPolicies e.action e.context.policies with
    | error message => exact ⟨hloaded, rfl⟩
    | ok =>
      dsimp only
      cases (perform e.action e.params externalState).lookup "state_update" with
      | none => exact ⟨hloaded, rfl⟩
      | some stateUpdate =>
        -- both store the same value
        obtain ⟨hstored, hdone⟩ := hset s t (applyUpdate externalState stateUpdate) hloaded
        dsimp only
        generalize backend.set s e.target _ = x at hstored hdone
        generalize other.set t e.target _ = y at hstored hdone
        obtain ⟨s', done⟩ := x
        obtain ⟨t', done'⟩ := y
        obtain rfl : done = done' := hdone
        cases done with
        | none => exact ⟨hstored, rfl⟩
        | some => exact ⟨hstored, rfl⟩

/-- What a backend keeps under the key of an execution is kept by the execution. -/
theorem execute_keeps {backend : StateBackend σ} {I : σ → Prop}
    (hget : ∀ s, I s → I (backend.get s e.target).1)
    (hset : ∀ s value, I s → I (backend.set s e.target value).1) (hs : I s) :
    I (executeWith perform backend k s e).1 := by
  have h := execute_simulates perform backend backend (R := fun s t => s = t ∧ I s) (k := k)
    (e := e) (s := s) (t := s) ?_ ?_ ⟨rfl, hs⟩
  · exact h.1.2
  · rintro s _ ⟨rfl, hs⟩
    exact ⟨⟨rfl, hget s hs⟩, rfl⟩
  · rintro s _ value ⟨rfl, hs⟩
    exact ⟨⟨rfl, hset s value hs⟩, rfl⟩

/-! ## Sessions -/

/-- `MemoryBackend` with the clock at a reading.  Only `get` looks at the clock, since a value
    without a time to live never expires. -/
def memory (limit now : Instant) : StateBackend (MemoryBackend Fields) where
  get b key :=
    match b.call limit now (.get key) with
    | (b, .got state) => (b, some state)
    | (b, _) => (b, none)
  set b key value :=
    match b.call limit now (.set key value none) with
    | (b, .done) => (b, some ())
    | (b, _) => (b, none)

/-- The backend of a single session: a cell. -/
def cell : StateBackend (Option Fields) where
  get state _ := (state, some state)
  set _ _ value := (some value, some ())

/-- Nothing has panicked, and the state under a key is in the cell. -/
structure Holds (key : String) (b : MemoryBackend Fields) (state : Option Fields) : Prop where
  clean : b.poisoned = false
  lookup : b.store.lookup key = state.map (·, none)

variable {limit now : Instant} {key other : String} {b : MemoryBackend Fields}
  {state : Option Fields}

theorem Holds.get (h : Holds key b state) :
    Holds key ((memory limit now).get b key).1 state ∧
      ((memory limit now).get b key).2 = some state := by
  have hcall : b.get key now = (b, state) := by
    unfold MemoryBackend.get
    rw [h.lookup]
    cases state with
    | none => rfl
    | some state => rfl
  simp only [memory, MemoryBackend.call, h.clean, Bool.false_eq_true, if_false, hcall]
  exact ⟨h, trivial⟩

theorem Holds.set (h : Holds key b state) (value : Fields) :
    Holds key ((memory limit now).set b key value).1 (some value) ∧
      ((memory limit now).set b key value).2 = some () := by
  simp only [memory, MemoryBackend.call, h.clean, Bool.false_eq_true, if_false, MemoryBackend.set,
    MemoryBackend.expiryOf]
  exact ⟨⟨rfl, Finmap.lookup_insert _⟩, trivial⟩

/-- Reading another key removes at most the entry of that key. -/
theorem Holds.get_other (h : Holds key b state) (hne : key ≠ other) :
    Holds key ((memory limit now).get b other).1 state := by
  simp only [memory, MemoryBackend.call, h.clean, Bool.false_eq_true, if_false]
  unfold MemoryBackend.get
  rcases b.store.lookup other with _ | ⟨value, _ | expiry⟩
  · -- an expired entry of another key is removed, and no other one
    exact h
  · exact h
  · by_cases hexpired : now ≥ expiry
    · simp only [hexpired, if_true]
      refine ⟨h.clean, ?_⟩
      rw [Finmap.lookup_erase_ne hne, h.lookup]
    · simp only [hexpired, if_false]
      exact h

theorem Holds.set_other (h : Holds key b state) (hne : key ≠ other) (value : Fields) :
    Holds key ((memory limit now).set b other value).1 state := by
  simp only [memory, MemoryBackend.call, h.clean, Bool.false_eq_true, if_false, MemoryBackend.set,
    MemoryBackend.expiryOf]
  refine ⟨rfl, ?_⟩
  rw [Finmap.lookup_insert_of_ne _ hne, h.lookup]

/-- An execution around a cell returns. -/
theorem execute_cell_ne_none (state : Option Fields) :
    (executeWith perform cell k state e).2 ≠ none := by
  have hload : ∃ externalState, load cell state e.context.stateRef = (state, some externalState) := by
    cases e.context.stateRef with
    | none => exact ⟨∅, rfl⟩
    | some stateRef => exact ⟨state.getD ∅, rfl⟩
  obtain ⟨externalState, hload⟩ := hload
  rw [executeWith, hload]
  -- a cell neither fails to load nor to store
  cases k.checkPolicies e.action e.context.policies with
  | error message => exact Option.some_ne_none _
  | ok =>
    dsimp only
    cases (perform e.action e.params externalState).lookup "state_update" with
    | none => exact Option.some_ne_none _
    | some stateUpdate => exact Option.some_ne_none _

/-- **A session is private**: however the actions of a kernel are performed, in any order and
    whatever the clock says, the executions that touch one key all return, with the results that
    they would get from a kernel of their own whose backend is a single cell. -/
theorem session_private (perform : Performer) (limit : Instant) (k : StatelessKernel)
    (key : String) (run : List (Instant × Execution)) :
    let results := seen (fun b i => (executeWith perform (memory limit i.1) k b i.2).1)
      (fun _ i => decide (i.2.target = key) = true)
      (fun b i => (executeWith perform (memory limit i.1) k b i.2).2) MemoryBackend.new run
    none ∉ results ∧
      results = answers (fun state i => executeWith perform cell k state i.2) none
        (run.filter fun i => i.2.target = key) := by
  intro results
  have hresults : results = answers (fun state i => executeWith perform cell k state i.2) none
      (run.filter fun i => i.2.target = key) := by
    rw [← purge_eq_filter (fun b i => (executeWith perform (memory limit i.1) k b i.2).1)
      MemoryBackend.new]
    refine (unwinding _ _
      (fun state (i : Instant × Execution) => (executeWith perform cell k state i.2).1) _
      (R := Holds key) (G := fun _ => True) (W := fun _ _ => True)
      ?_ ?_ ⟨rfl, rfl⟩ fun _ _ => trivial).2.2
    -- an execution under another key leaves the entry alone
    · intro b state i _ h hother
      have hne : key ≠ i.2.target := by
        simpa [eq_comm] using hother
      exact execute_keeps (I := fun b => Holds key b state) (fun _ h => h.get_other hne)
        (fun _ value h => h.set_other hne value) h
    · -- one under this key does with the map what it does with the cell
      intro b state i _ h hkey
      obtain rfl : i.2.target = key := by simpa using hkey
      have hboth := execute_simulates perform (memory limit i.1) cell (k := k)
        (R := Holds i.2.target) (fun _ _ h => h.get) (fun _ _ value h => h.set value) h
      exact ⟨hboth.1, trivial, hboth.2⟩
  refine ⟨?_, hresults⟩
  rw [hresults]
  exact notMem_answers (fun state i => execute_cell_ne_none state) none _

/-! ## The placeholder -/

/-- The policy of this name is known and blocks the action. -/
def namesBlock (k : StatelessKernel) (action policyName : String) : Bool :=
  (k.policies.lookup policyName).any (blocks · action)

/-- The result of an execution, told from the policies alone: the first policy of the context that
    blocks the action kills it. -/
def verdict (k : StatelessKernel) (e : Execution) : ExecutionResult :=
  match e.context.policies.find? (k.namesBlock e.action) with
  | some policyName => killed (blockedBy e.action policyName)
  | none =>
    { success := true
      data := some (.object [("status", .string "executed")])
      error := none
      signal := none
      updatedContext := some e.context
      metadata := ∅ }

/-- The loop returns at the first policy that blocks the action. -/
theorem checkPolicies_eq (k : StatelessKernel) (action : String) (policyNames : List String) :
    k.checkPolicies action policyNames =
      match policyNames.find? (k.namesBlock action) with
      | some policyName => .error (blockedBy action policyName)
      | none => .ok () := by
  induction policyNames with
  | nil => rfl
  | cons policyName policyNames ih =>
    rw [checkPolicies, List.find?_cons, namesBlock]
    cases k.policies.lookup policyName with
    | none => simpa using ih
    | some policy =>
      -- the first policy of the list that blocks the action gives the message
      cases hblocks : blocks policy action with
      | true => simp [hblocks]
      | false => simpa [hblocks] using ih

/-- With the placeholder an execution only loads. -/
theorem execute_eq {backend : StateBackend σ} (k : StatelessKernel) (s : σ) (e : Execution) :
    execute backend k s e =
      ((load backend s e.context.stateRef).1,
        (load backend s e.context.stateRef).2.map fun _ => k.verdict e) := by
  -- the placeholder asks for no update
  have hkeeps : ∀ state, (executeAction e.action e.params state).lookup "state_update" = none := by
    intro state
    rw [executeAction, Finmap.lookup_eq_none, Finmap.mem_singleton]
    decide
  rw [execute, executeWith, verdict, checkPolicies_eq]
  obtain ⟨s, externalState⟩ := load backend s e.context.stateRef
  cases externalState with
  | none => rfl
  | some externalState =>
    cases e.context.policies.find? (k.namesBlock e.action) with
    | some policyName => rfl
    | none =>
      dsimp only
      rw [hkeeps]
      rfl

/-- A call of someone who shares the backend of a kernel, or an execution. -/
inductive KernelCall where
  | backend (c : BackendCall Fields)
  | execute (e : Execution)

/-- The backend after a call at a time. -/
def step (limit : Instant) (k : StatelessKernel) (b : MemoryBackend Fields) :
    Instant × KernelCall → MemoryBackend Fields
  | (now, .backend c) => b.step limit (now, c)
  | (now, .execute e) => (execute (memory limit now) k b e).1

/-- The call, where it is not an execution. -/
def direct : Instant × KernelCall → Option (Instant × BackendCall Fields)
  | (now, .backend c) => some (now, c)
  | (_, .execute _) => none

/-- What a call does to the backend: an execution reads the key that its context refers to. -/
def touches : Instant × KernelCall → Option (Instant × BackendCall Fields)
  | (now, .backend c) => some (now, c)
  | (now, .execute e) => e.context.stateRef.map fun stateRef => (now, .get stateRef)

theorem runFrom_step (limit : Instant) (k : StatelessKernel) (b : MemoryBackend Fields)
    (run : List (Instant × KernelCall)) :
    runFrom (k.step limit) b run = runFrom (MemoryBackend.step limit) b (run.filterMap touches) := by
  induction run generalizing b with
  | nil => rfl
  | cons i run ih =>
    obtain ⟨now, c⟩ := i
    rw [runFrom_cons, ih]
    cases c with
    | backend c => rfl
    | execute e =>
      -- the action of the repository stores nothing, so an execution only loads
      rw [step, execute_eq]
      cases href : e.context.stateRef with
      | none => simp [touches, href, load]
      | some stateRef =>
        have hload : (load (memory limit now) b (some stateRef)).1 =
            b.step limit (now, .get stateRef) := by
          simp only [load, memory, MemoryBackend.step]
          generalize b.call limit now (.get stateRef) = x
          obtain ⟨b', reply⟩ := x
          cases reply <;> rfl
        simp [touches, href, hload]

/-- Reads are no writes: the executions play no part in what is stored. -/
theorem lastEntry_touches (run : List (Instant × KernelCall)) (key : String) :
    MemoryBackend.lastEntry (run.filterMap touches) key =
      MemoryBackend.lastEntry (run.filterMap direct) key := by
  induction run using List.reverseRecOn with
  | nil => rfl
  | append_singleton run i ih =>
    obtain ⟨now, c⟩ := i
    rw [List.filterMap_append, List.filterMap_append]
    cases c with
    | backend c =>
      simp only [List.filterMap_cons, List.filterMap_nil, touches, direct]
      rw [MemoryBackend.lastEntry_concat, MemoryBackend.lastEntry_concat, ih]
    | execute e =>
      -- a load is a `get`, which writes no entry
      simp only [List.filterMap_cons, List.filterMap_nil, touches, direct, List.append_nil]
      cases e.context.stateRef with
      | none => simpa using ih
      | some stateRef =>
        simp only [Option.map_some]
        rw [MemoryBackend.lastEntry_concat, ih]
        rfl

/-- The calls that a run makes to the backend keep its times. -/
theorem times_sublist {f : Instant × KernelCall → Option (Instant × BackendCall Fields)}
    (htime : ∀ i c, f i = some c → c.1 = i.1) (run : List (Instant × KernelCall)) :
    ((run.filterMap f).map Prod.fst).Sublist (run.map Prod.fst) := by
  induction run with
  | nil => exact .slnil
  | cons i run ih =>
    rw [List.map_cons]
    cases hf : f i with
    | none =>
      rw [List.filterMap_cons_none hf]
      -- each call that is kept has the time of its execution
      exact ih.cons _
    | some c =>
      rw [List.filterMap_cons_some hf, List.map_cons, htime i c hf]
      exact ih.cons_cons _

theorem time_direct (i : Instant × KernelCall) (c : Instant × BackendCall Fields)
    (h : direct i = some c) : c.1 = i.1 := by
  obtain ⟨now, call⟩ := i
  cases call with
  | backend d => rw [← Option.some.inj h]
  | execute e => cases h

theorem time_touches (i : Instant × KernelCall) (c : Instant × BackendCall Fields)
    (h : touches i = some c) : c.1 = i.1 := by
  obtain ⟨now, call⟩ := i
  cases call with
  | backend d => rw [← Option.some.inj h]
  | execute e =>
    obtain ⟨stateRef, -, rfl⟩ := Option.map_eq_some_iff.mp h
    rfl

/-- Executions do not make a run panic. -/
theorem fits_touches_iff (run : List (Instant × KernelCall)) :
    (∀ c ∈ run.filterMap touches, MemoryBackend.Fits limit c) ↔
      ∀ c ∈ run.filterMap direct, MemoryBackend.Fits limit c := by
  induction run with
  | nil => exact Iff.rfl
  | cons i run ih =>
    obtain ⟨now, c⟩ := i
    cases c with
    | backend c =>
      simp only [List.filterMap_cons, touches, direct, List.forall_mem_cons, ih]
    | execute e =>
      cases href : e.context.stateRef with
      | none => simpa [touches, direct, href] using ih
      | some stateRef =>
        -- a `get` always fits
        have hread : MemoryBackend.Fits limit (now, (.get stateRef : BackendCall Fields)) := by
          rintro key value secs ⟨⟩
        simp only [List.filterMap_cons, touches, direct, href, Option.map_some,
          List.forall_mem_cons, ih, hread, true_and]

/-- Where all values fit, the backend that a run of calls leaves tracks them. -/
theorem tracks_of_fits {f : Instant × KernelCall → Option (Instant × BackendCall Fields)}
    (htime : ∀ i c, f i = some c → c.1 = i.1) {run : List (Instant × KernelCall)}
    (hclock : (run.map Prod.fst ++ [now]).Pairwise (· ≤ ·))
    (hfits : ∀ c ∈ run.filterMap f, MemoryBackend.Fits limit c) :
    MemoryBackend.Tracks (run.filterMap f)
        (runFrom (MemoryBackend.step limit) MemoryBackend.new (run.filterMap f)) ∧
      ∀ c ∈ run.filterMap f, c.1 ≤ now := by
  obtain ⟨hsorted, -, hlast⟩ := List.pairwise_append.mp hclock
  have hsub := times_sublist htime run
  refine ⟨?_, ?_⟩
  · -- the times of the calls are among the times of the run
    apply MemoryBackend.tracks_run limit (hsorted.sublist hsub)
    intro c hc
    exact (MemoryBackend.representable_iff_fits limit c).mpr (hfits c hc)
  · intro c hc
    exact hlast c.1 (hsub.subset (List.mem_map_of_mem hc)) now (by simp)

theorem call_of_poisoned (h : b.poisoned = true) (c : BackendCall Fields) :
    b.call limit now c = (b, .panicked) := by
  unfold MemoryBackend.call
  rw [if_pos h]

/-- Where nothing has panicked, an execution loads. -/
theorem load_memory (limit now : Instant) (h : b.poisoned = false) (stateRef : Option String) :
    ∃ externalState, (load (memory limit now) b stateRef).2 = some externalState := by
  cases stateRef with
  | none => exact ⟨∅, rfl⟩
  | some stateRef =>
    simp only [load, memory, MemoryBackend.call, h, Bool.false_eq_true, if_false]
    exact ⟨_, rfl⟩

/-- **Executions are unseen.**  While a kernel shares its backend, every call of anybody else is
    answered as if nothing had ever been executed; and as long as no call has panicked, every
    execution ends with the verdict of the policies that its context names. -/
theorem execute_unseen (limit : Instant) (k : StatelessKernel) (run : List (Instant × KernelCall))
    (now : Instant) (hclock : (run.map Prod.fst ++ [now]).Pairwise (· ≤ ·)) :
    (∀ c, ((runFrom (k.step limit) MemoryBackend.new run).call limit now c).2 =
      ((runFrom (MemoryBackend.step limit) MemoryBackend.new (run.filterMap direct)).call limit
        now c).2) ∧
    ((∀ c ∈ run.filterMap direct, MemoryBackend.Fits limit c) →
      ∀ e, (execute (memory limit now) k (runFrom (k.step limit) MemoryBackend.new run) e).2 =
        some (k.verdict e)) := by
  rw [runFrom_step]
  refine ⟨?_, ?_⟩
  · intro c
    by_cases hfits : ∀ c ∈ run.filterMap direct, MemoryBackend.Fits limit c
    · obtain ⟨hshared, hpast⟩ := tracks_of_fits time_touches hclock ((fits_touches_iff run).mpr hfits)
      obtain ⟨halone, hpast'⟩ := tracks_of_fits time_direct hclock hfits
      generalize runFrom _ _ (run.filterMap touches) = b at hshared
      generalize runFrom _ _ (run.filterMap direct) = b' at halone
      simp only [MemoryBackend.call, hshared.poisoned, halone.poisoned, Bool.false_eq_true, if_false]
      cases c with
      | get key =>
        -- both return what the latest write left
        have hentries := hshared.entries key now hpast
        rw [lastEntry_touches, ← halone.entries key now hpast'] at hentries
        simp only [MemoryBackend.get_snd, hentries]
      | set key value ttl =>
        simp only [MemoryBackend.set]
        cases MemoryBackend.expiryOf limit now ttl <;> rfl
      | delete key => rfl
    -- a value that does not fit has poisoned both
    · have hpanicked : ∀ {history : List (Instant × BackendCall Fields)},
          ¬ (∀ c ∈ history, MemoryBackend.Fits limit c) →
            (runFrom (MemoryBackend.step limit) MemoryBackend.new history).poisoned = true := by
        intro history hnot
        rw [← Bool.not_eq_false, MemoryBackend.runFrom_poisoned]
        exact fun h => hnot h.2
      rw [call_of_poisoned (hpanicked (mt (fits_touches_iff run).mp hfits)),
        call_of_poisoned (hpanicked hfits)]
  · -- a shared map that is not poisoned loads some state, and the verdict does not depend on it
    intro hfits e
    have hshared := (tracks_of_fits time_touches hclock ((fits_touches_iff run).mpr hfits)).1
    obtain ⟨externalState, hload⟩ := load_memory limit now hshared.poisoned
      e.context.stateRef
    rw [execute_eq, hload, Option.map_some]

/-- The kernel of the tests, whose one policy blocks writing. -/
def readOnly : StatelessKernel where
  policies := Finmap.singleton "read_only"
    (.object [("blocked_actions", .array [.string "file_write"])])

/-- An execution in a session, under two policies of which the kernel knows the second. -/
def inSession (action : String) : Execution where
  action := action
  params := ∅
  context :=
    { agentId := "test-agent"
      policies := ["strict", "read_only"]
      history := []
      stateRef := some "session"
      metadata := ∅ }

/-- A state that lives for a second is read by an execution, and is gone when a write is killed. -/
theorem execute_unseen_readOnly :
    ((runFrom (readOnly.step 10000000000) MemoryBackend.new
        [(0, .backend (.set "session" ∅ (some 1))),
          (500000000, .execute (inSession "read_file"))]).call 10000000000 2000000000
            (.get "session")).2 =
      ((runFrom (MemoryBackend.step 10000000000) MemoryBackend.new
        [(0, .set "session" ∅ (some 1))]).call 10000000000 2000000000 (.get "session")).2 ∧
    (execute (memory 10000000000 2000000000) readOnly
      (runFrom (readOnly.step 10000000000) MemoryBackend.new
        [(0, .backend (.set "session" ∅ (some 1))),
          (500000000, .execute (inSession "read_file"))]) (inSession "file_write")).2 =
      some (killed "Action 'file_write' blocked by policy 'read_only'") := by
  have h := execute_unseen 10000000000 readOnly
    [(0, .backend (.set "session" ∅ (some 1))), (500000000, .execute (inSession "read_file"))]
    2000000000 (by decide)
  -- the value fits into the clock
  refine ⟨h.1 (.get "session"), h.2 ?_ (inSession "file_write")⟩
  intro c hc
  obtain rfl := List.mem_singleton.mp hc
  rintro key value secs ⟨⟩
  decide

end StatelessKernel

end AgentGovernance.Os
