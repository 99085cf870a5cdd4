import AgentGovernance.Lib.LastMatch
import AgentGovernance.Mesh.Namespace

/-!
# Communication between namespaces

`can_communicate` goes through the hash map of the namespaces, whose order is arbitrary, and keeps
the last one that has each of the two DIDs.  For a DID in several namespaces this depends on the
order.

`canCommunicate_iff`: two DIDs get one answer in every order, and may communicate in a namespace that
they share, exactly when they share all of their namespaces or none.
-/

namespace AgentGovernance.Mesh

open AgentGovernance.Lib

namespace NamespaceManager

/-- The entries of the map in the order of an iteration. -/
abbrev Listing := List (Σ _ : String, AgentNamespace)

/-- The namespaces that the loop of `can_communicate` ends with. -/
def foundNamespaces (order : Listing) (fromDid toDid : String) : Option String × Option String :=
  order.foldl (fun found entry =>
    (if fromDid ∈ entry.2.members then some entry.1 else found.1,
      if toDid ∈ entry.2.members then some entry.1 else found.2)) (none, none)

/-- `can_communicate`, with the order of the iteration. -/
def canCommunicate (m : NamespaceManager) (order : Listing) (fromDid toDid : String) : Bool :=
  match foundNamespaces order fromDid toDid with
  | (some f, some t) =>
    f = t || m.rules.any fun r => r.sourceNamespace = f && r.targetNamespace = t && r.allowed
  | _ => false

/-- An iteration goes through all entries. -/
def Lists (m : NamespaceManager) (order : Listing) : Prop :=
  (order : Multiset (Σ _ : String, AgentNamespace)) = m.namespaces.entries

/-- Some namespace has both DIDs as members. -/
def Share (m : NamespaceManager) (a b : String) : Prop :=
  ∃ name ns, m.namespaces.lookup name = some ns ∧ a ∈ ns.members ∧ b ∈ ns.members

/-- Every namespace has both DIDs as members or neither. -/
def ShareAll (m : NamespaceManager) (a b : String) : Prop :=
  ∀ name ns, m.namespaces.lookup name = some ns → (a ∈ ns.members ↔ b ∈ ns.members)

/-! ## The order of the iteration -/

def hasMember (did : String) (entry : Σ _ : String, AgentNamespace) : Bool :=
  did ∈ entry.2.members

variable {m : NamespaceManager} {order order' : Listing}

theorem Lists.mem_iff (h : m.Lists order) {entry : Σ _ : String, AgentNamespace} :
    entry ∈ order ↔ m.namespaces.lookup entry.1 = some entry.2 := by
  rw [← Multiset.mem_coe, h]
  exact Finmap.mem_lookup_iff.symm

theorem Lists.perm (h : m.Lists order) (h' : m.Lists order') : order.Perm order' :=
  Multiset.coe_eq_coe.mp (h.trans h'.symm)

theorem Lists.of_perm (h : m.Lists order) (hperm : order'.Perm order) : m.Lists order' :=
  (Multiset.coe_eq_coe.mpr hperm).trans h

theorem exists_lists (m : NamespaceManager) : ∃ order, m.Lists order :=
  Quot.exists_rep m.namespaces.entries

/-- The loop looks for two last matches. -/
theorem foundNamespaces_eq (order : Listing) (a b : String) :
    foundNamespaces order a b =
      ((lastMatch (hasMember a) order).map Sigma.fst,
        (lastMatch (hasMember b) order).map Sigma.fst) := by
  -- by induction from the end, since a later namespace overwrites an earlier one
  induction order using List.reverseRecOn with
  | nil => rfl
  | append_singleton order entry ih =>
    have hstep : foundNamespaces (order ++ [entry]) a b =
        (if a ∈ entry.2.members then some entry.1 else (foundNamespaces order a b).1,
          if b ∈ entry.2.members then some entry.1 else (foundNamespaces order a b).2) := by
      rw [foundNamespaces, List.foldl_append]
      rfl
    rw [hstep, ih, lastMatch_concat, lastMatch_concat]
    by_cases ha : a ∈ entry.2.members <;> by_cases hb : b ∈ entry.2.members <;>
      simp [hasMember, ha, hb]

/-- Without rules, two DIDs may communicate when both are last found in one namespace. -/
theorem canCommunicate_eq_true_iff (hrules : m.rules = []) (h : m.Lists order) (a b : String) :
    m.canCommunicate order a b = true ↔
      ∃ entry, lastMatch (hasMember a) order = some entry ∧
        lastMatch (hasMember b) order = some entry := by
  rw [canCommunicate, foundNamespaces_eq, hrules]
  -- an agent that no namespace lists is connected to nobody
  cases ha : lastMatch (hasMember a) order with
  | none => simp
  | some entry =>
    cases hb : lastMatch (hasMember b) order with
    | none => simp
    | some entry' =>
      simp only [Option.map_some, List.any_nil, Bool.or_false, decide_eq_true_eq,
        Option.some.injEq, exists_eq_left']
      constructor
      · -- entries under one name are one entry
        intro hname
        have hlookup := h.mem_iff.mp (mem_of_lastMatch ha).1
        have hlookup' := h.mem_iff.mp (mem_of_lastMatch hb).1
        obtain ⟨name, ns⟩ := entry
        obtain ⟨name', ns'⟩ := entry'
        obtain rfl : name = name' := hname
        obtain rfl : ns = ns' := Option.some.inj (hlookup.symm.trans hlookup')
        rfl
      · intro hentry
        rw [hentry]

/-- DIDs that may communicate share a namespace. -/
theorem share_of_canCommunicate (hrules : m.rules = []) (h : m.Lists order) {a b : String}
    (hcan : m.canCommunicate order a b = true) : m.Share a b := by
  obtain ⟨entry, ha, hb⟩ := (canCommunicate_eq_true_iff hrules h a b).mp hcan
  refine ⟨entry.1, entry.2, h.mem_iff.mp (mem_of_lastMatch ha).1, ?_, ?_⟩
  · exact of_decide_eq_true (mem_of_lastMatch ha).2
  · exact of_decide_eq_true (mem_of_lastMatch hb).2

/-- DIDs that share a namespace may communicate when the last matches are the same. -/
theorem canCommunicate_of_share (hrules : m.rules = []) (h : m.Lists order) {a b : String}
    (hshare : m.Share a b) :
    m.canCommunicate order a b = true ↔
      lastMatch (hasMember a) order = lastMatch (hasMember b) order := by
  rw [canCommunicate_eq_true_iff hrules h]
  constructor
  · rintro ⟨entry, ha, hb⟩
    rw [ha, hb]
  · -- both agents have a last namespace, so equal lookups are the same entry
    intro hsame
    obtain ⟨name, ns, hlookup, ha, -⟩ := hshare
    have hentry : (⟨name, ns⟩ : Σ _ : String, AgentNamespace) ∈ order := h.mem_iff.mpr hlookup
    cases hlast : lastMatch (hasMember a) order with
    | none =>
      have hno := lastMatch_eq_none_iff.mp hlast ⟨name, ns⟩ hentry
      exact absurd ha (of_decide_eq_false hno)
    | some entry => exact ⟨entry, rfl, hsame ▸ hlast⟩

/-- Where all orders have the same last matches, the DIDs share all of their namespaces. -/
theorem forall_lastMatch_iff_shareAll (a b : String) :
    (∀ order, m.Lists order → lastMatch (hasMember a) order = lastMatch (hasMember b) order) ↔
      m.ShareAll a b := by
  obtain ⟨order, horder⟩ := exists_lists m
  -- every order of the map is a permutation of one of them
  have hperm : (∀ order', m.Lists order' →
      lastMatch (hasMember a) order' = lastMatch (hasMember b) order') ↔
      ∀ order', order'.Perm order →
        lastMatch (hasMember a) order' = lastMatch (hasMember b) order' :=
    ⟨fun h order' hperm => h order' (horder.of_perm hperm),
      fun h order' hlists => h order' (hlists.perm horder)⟩
  rw [hperm, forall_perm_lastMatch_eq_iff]
  constructor
  · intro h name ns hlookup
    have hsame := h ⟨name, ns⟩ (horder.mem_iff.mpr hlookup)
    simpa [hasMember] using hsame
  · intro h entry hentry
    have hsame := h entry.1 entry.2 (horder.mem_iff.mp hentry)
    simpa [hasMember] using hsame

/-! ## Every state -/

/-- One answer in every order, and permission in a shared namespace. -/
def Determined (m : NamespaceManager) (a b : String) : Prop :=
  (∀ order order', m.Lists order → m.Lists order' →
    m.canCommunicate order a b = m.canCommunicate order' a b) ∧
  (m.Share a b → ∀ order, m.Lists order → m.canCommunicate order a b = true)

theorem determined_iff (hrules : m.rules = []) (a b : String) :
    m.Determined a b ↔ m.ShareAll a b ∨ ¬ m.Share a b := by
  by_cases hshare : m.Share a b
  · -- with a shared namespace the answer must be yes in every order
    have hall : (∀ order, m.Lists order → m.canCommunicate order a b = true) ↔ m.ShareAll a b := by
      rw [← forall_lastMatch_iff_shareAll]
      exact forall_congr' fun order => forall_congr' fun h =>
        canCommunicate_of_share hrules h hshare
    rw [or_iff_left (not_not_intro hshare), ← hall]
    constructor
    · exact fun h => h.2 hshare
    · intro h
      refine ⟨?_, fun _ => h⟩
      intro order order' hlists hlists'
      rw [h order hlists, h order' hlists']
  · -- without a shared namespace the answer is no
    refine iff_of_true ⟨?_, fun h => absurd h hshare⟩ (.inr hshare)
    have hno : ∀ order, m.Lists order → m.canCommunicate order a b = false := by
      intro order hlists
      by_contra hyes
      exact hshare (share_of_canCommunicate hrules hlists (Bool.eq_true_of_not_eq_false hyes))
    intro order order' hlists hlists'
    rw [hno order hlists, hno order' hlists']

/-- Nothing adds a rule. -/
theorem rules_run (calls : List NamespaceCall) : (runFrom step new calls).rules = [] := by
  apply runFrom_keeps (I := fun m : NamespaceManager => m.rules = []) _ rfl
  intro m c h
  unfold step
  rcases m.call_cases c with ⟨e, heq⟩ | ⟨_, _, _, -, -, heq⟩ | ⟨_, _, _, -, heq⟩
  · rw [heq, h]
  · rw [heq, h]
  · rw [heq, h]

/-- **Communication**: after any calls, two DIDs get one answer in every order of the map and may
    communicate in a namespace that they share, exactly when they share all of their namespaces or
    none. -/
theorem canCommunicate_iff (calls : List NamespaceCall) (a b : String) :
    (runFrom step new calls).Determined a b ↔
      (runFrom step new calls).ShareAll a b ∨ ¬ (runFrom step new calls).Share a b :=
  determined_iff (rules_run calls) a b

/-! ## A member of two teams -/

theorem step_createNamespace {name : String} (h : m.namespaces.lookup name = none)
    (description : String) :
    m.step (.createNamespace name description none) =
      { m with
        namespaces := m.namespaces.insert name
          { name := name, description := description, parent := none, members := ∅ } } := by
  have hfree : name ∉ m.namespaces := Finmap.lookup_eq_none.mp h
  simp only [step, call, createNamespace, if_neg hfree, checkParent]

/-- A member of the namespace that was changed last. -/
theorem step_addMember_insert (s : Finmap fun _ : String => AgentNamespace)
    (rules : List NamespaceRule) (name : String) (ns : AgentNamespace) (agentDid : String) :
    step { namespaces := s.insert name ns, rules := rules } (.addMember name agentDid) =
      { namespaces := s.insert name { ns with members := insert agentDid ns.members }
        rules := rules } := by
  simp only [step, call, addMember, Finmap.lookup_insert, Finmap.insert_insert]

/-- Two teams, one of which has only one of two agents. -/
def twoTeams : List NamespaceCall :=
  [.createNamespace "team-a" "" none, .addMember "team-a" "did:mesh:agent-1",
    .addMember "team-a" "did:mesh:agent-2", .createNamespace "team-b" "" none,
    .addMember "team-b" "did:mesh:agent-1"]

/-- The team of both agents. -/
def teamA : Σ _ : String, AgentNamespace :=
  ⟨"team-a",
    { name := "team-a"
      description := ""
      parent := none
      members := {"did:mesh:agent-2", "did:mesh:agent-1"} }⟩

def teamB : Σ _ : String, AgentNamespace :=
  ⟨"team-b",
    { name := "team-b", description := "", parent := none, members := {"did:mesh:agent-1"} }⟩

theorem run_twoTeams :
    runFrom step new twoTeams =
      { namespaces := ((∅ : Finmap fun _ : String => AgentNamespace).insert teamA.1 teamA.2).insert
          teamB.1 teamB.2
        rules := [] } := by
  have hfree : ∀ ns : AgentNamespace,
      ((∅ : Finmap fun _ : String => AgentNamespace).insert "team-a" ns).lookup "team-b" = none := by
    intro ns
    rw [Finmap.lookup_insert_of_ne _ (by decide), Finmap.lookup_empty]
  have hnew : new.namespaces.lookup "team-a" = none := Finmap.lookup_empty _
  have hfirst := step_createNamespace hnew ""
  simp only [twoTeams, runFrom_cons, runFrom_nil, hfirst]
  rw [step_addMember_insert, step_addMember_insert, step_createNamespace (hfree _),
    step_addMember_insert]
  rfl

theorem lists_twoTeams : (runFrom step new twoTeams).Lists [teamB, teamA] := by
  have hfree : teamB.1 ∉ (∅ : Finmap fun _ : String => AgentNamespace).insert teamA.1 teamA.2 := by
    rw [Finmap.mem_insert, not_or]
    exact ⟨by decide, Finmap.notMem_empty⟩
  rw [Lists, run_twoTeams]
  dsimp only
  rw [Finmap.entries_insert_of_notMem hfree, Finmap.entries_insert_of_notMem Finmap.notMem_empty]
  rfl

/-- The agents share a team, but may communicate only when it comes last. -/
theorem canCommunicate_not_determined :
    let m := runFrom step new twoTeams
    m.Share "did:mesh:agent-1" "did:mesh:agent-2" ∧ m.Lists [teamB, teamA] ∧ m.Lists [teamA, teamB] ∧
      m.canCommunicate [teamB, teamA] "did:mesh:agent-1" "did:mesh:agent-2" = true ∧
      m.canCommunicate [teamA, teamB] "did:mesh:agent-1" "did:mesh:agent-2" = false := by
  intro m
  have hlists : m.Lists [teamB, teamA] := lists_twoTeams
  -- the first order finds one team for both agents, the second two teams
  refine ⟨⟨"team-a", teamA.2, ?_, ?_, ?_⟩, hlists, hlists.of_perm (List.Perm.swap _ _ _), ?_, ?_⟩
  · have hmem : teamA ∈ [teamB, teamA] := by simp
    exact hlists.mem_iff.mp hmem
  · decide
  · decide
  · decide +kernel
  · decide +kernel

end NamespaceManager

end AgentGovernance.Mesh
