import AgentGovernance.Lib.ParentForest
import AgentGovernance.Lib.Runs
import Mathlib.Data.Finmap
import Mathlib.Data.Finset.Insert

/-!
# Namespaces

`NamespaceManager` in `crates/core/mesh/src/governance/namespace.rs`: namespaces with a parent and
members, and rules between them.

No call looks for cycles of parents.  There are none because a namespace is created below one that
exists, `namespaces_forest`.
-/

namespace AgentGovernance.Mesh

open AgentGovernance.Lib AgentGovernance.Lib.ParentForest

/-! ## The manager -/

structure AgentNamespace where
  name : String
  description : String
  parent : Option String
  members : Finset String
  deriving DecidableEq

structure NamespaceRule where
  sourceNamespace : String
  targetNamespace : String
  allowed : Bool

structure NamespaceManager where
  namespaces : Finmap (fun _ : String => AgentNamespace)
  rules : List NamespaceRule

namespace NamespaceManager

def new : NamespaceManager where
  namespaces := ∅
  rules := []

/-- The check of the parent in `create_namespace`. -/
def checkParent (m : NamespaceManager) : Option String → Except String Unit
  | none => .ok ()
  | some p =>
    if p ∈ m.namespaces then .ok () else .error ("Parent namespace does not exist: " ++ p)

def createNamespace (m : NamespaceManager) (name description : String) (parent : Option String) :
    NamespaceManager × Except String Unit :=
  if name ∈ m.namespaces then (m, .error ("Namespace already exists: " ++ name))
  else
    match m.checkParent parent with
    | .error e => (m, .error e)
    | .ok () =>
      let ns := { name := name, description := description, parent := parent, members := ∅ }
      ({ m with namespaces := m.namespaces.insert name ns }, .ok ())

def addMember (m : NamespaceManager) (namespaceName agentDid : String) :
    NamespaceManager × Except String Unit :=
  match m.namespaces.lookup namespaceName with
  | none => (m, .error "Namespace not found")
  | some ns =>
    let ns := { ns with members := insert agentDid ns.members }
    ({ m with namespaces := m.namespaces.insert namespaceName ns }, .ok ())

/-- The parent of the namespace with this name. -/
def parentOf (m : NamespaceManager) (name : String) : Option String :=
  (m.namespaces.lookup name).bind (·.parent)

end NamespaceManager

/-! ## Runs -/

/-- A call that changes the manager. -/
inductive NamespaceCall where
  | createNamespace (name description : String) (parent : Option String)
  | addMember (namespaceName agentDid : String)

namespace NamespaceManager

def call (m : NamespaceManager) : NamespaceCall → NamespaceManager × Except String Unit
  | .createNamespace name description parent => m.createNamespace name description parent
  | .addMember namespaceName agentDid => m.addMember namespaceName agentDid

/-- The manager after a call. -/
def step (m : NamespaceManager) (c : NamespaceCall) : NamespaceManager :=
  (m.call c).1

/-! ## What a call does -/

variable {m : NamespaceManager}

/-- A namespace is created when the name is free and the parent exists. -/
theorem createNamespace_cases (m : NamespaceManager) (name description : String)
    (parent : Option String) :
    (∃ e, m.createNamespace name description parent = (m, .error e)) ∨
      (name ∉ m.namespaces ∧ (∀ p, parent = some p → p ∈ m.namespaces) ∧
        m.createNamespace name description parent =
          ({ m with
              namespaces := m.namespaces.insert name
                { name := name, description := description, parent := parent, members := ∅ } },
            .ok ())) := by
  unfold createNamespace
  -- the name is looked at before the parent
  by_cases hname : name ∈ m.namespaces
  · rw [if_pos hname]
    exact .inl ⟨_, rfl⟩
  · rw [if_neg hname]
    cases parent with
    | none => exact .inr ⟨hname, nofun, rfl⟩
    | some p =>
      by_cases hp : p ∈ m.namespaces
      · have hcheck : m.checkParent (some p) = .ok () := if_pos hp
        rw [hcheck]
        -- the parent is the one that was found
        refine .inr ⟨hname, ?_, rfl⟩
        rintro q ⟨⟩
        exact hp
      · have hcheck : m.checkParent (some p) =
            .error ("Parent namespace does not exist: " ++ p) := if_neg hp
        rw [hcheck]
        exact .inl ⟨_, rfl⟩

/-- A member is added when the namespace exists. -/
theorem addMember_cases (m : NamespaceManager) (name agentDid : String) :
    (∃ e, m.addMember name agentDid = (m, .error e)) ∨
      ∃ ns, m.namespaces.lookup name = some ns ∧
        m.addMember name agentDid =
          ({ m with
              namespaces := m.namespaces.insert name
                { ns with members := insert agentDid ns.members } }, .ok ()) := by
  unfold addMember
  cases hlookup : m.namespaces.lookup name with
  | none => exact .inl ⟨_, rfl⟩
  | some ns => exact .inr ⟨ns, rfl, rfl⟩

/-- **What a call does**: nothing, with an error, or it adds a namespace or a member. -/
theorem call_cases (m : NamespaceManager) (c : NamespaceCall) :
    (∃ e, m.call c = (m, .error e)) ∨
      (∃ name description parent, name ∉ m.namespaces ∧
        (∀ p, parent = some p → p ∈ m.namespaces) ∧
        m.call c =
          ({ m with
              namespaces := m.namespaces.insert name
                { name := name, description := description, parent := parent, members := ∅ } },
            .ok ())) ∨
      ∃ name agentDid ns, m.namespaces.lookup name = some ns ∧
        m.call c =
          ({ m with
              namespaces := m.namespaces.insert name
                { ns with members := insert agentDid ns.members } }, .ok ()) := by
  -- each operation of the source has its own case lemma
  cases c with
  | createNamespace name description parent =>
    exact (m.createNamespace_cases name description parent).imp_right fun h =>
      .inl ⟨name, description, parent, h⟩
  | addMember name agentDid =>
    exact (m.addMember_cases name agentDid).imp_right fun ⟨ns, h⟩ =>
      .inr ⟨name, agentDid, ns, h⟩

/-- **A call that fails** changes nothing. -/
theorem call_of_error {c : NamespaceCall} {e : String} (h : (m.call c).2 = .error e) :
    (m.call c).1 = m := by
  rcases m.call_cases c with ⟨e', heq⟩ | ⟨_, _, _, -, -, heq⟩ | ⟨_, _, _, -, heq⟩
  · rw [heq]
  · rw [heq] at h
    cases h
  · rw [heq] at h
    cases h

/-! ## What lasts -/

/-- All namespaces are still there, with their parents and their members. -/
def Extends (m m' : NamespaceManager) : Prop :=
  ∀ key ns, m.namespaces.lookup key = some ns →
    ∃ ns', m'.namespaces.lookup key = some ns' ∧ ns'.name = ns.name ∧
      ns'.description = ns.description ∧ ns'.parent = ns.parent ∧ ns.members ⊆ ns'.members

theorem Extends.refl (m : NamespaceManager) : m.Extends m :=
  fun _ ns h => ⟨ns, h, rfl, rfl, rfl, Finset.Subset.refl _⟩

theorem Extends.trans {m' m'' : NamespaceManager} (h : m.Extends m') (h' : m'.Extends m'') :
    m.Extends m'' := by
  intro key ns hkey
  obtain ⟨ns', hkey', hname, hdescription, hparent, hmembers⟩ := h key ns hkey
  obtain ⟨ns'', hkey'', hname', hdescription', hparent', hmembers'⟩ := h' key ns' hkey'
  exact ⟨ns'', hkey'', hname'.trans hname, hdescription'.trans hdescription,
    hparent'.trans hparent, hmembers.trans hmembers'⟩

/-- **Step.** -/
theorem extends_step (m : NamespaceManager) (c : NamespaceCall) : m.Extends (m.step c) := by
  unfold step
  rcases m.call_cases c with ⟨e, heq⟩ | ⟨name, description, parent, hfree, -, heq⟩ |
    ⟨name, agentDid, found, hfound, heq⟩
  · rw [heq]
    exact Extends.refl m
  · rw [heq]
    intro key ns hkey
    -- only a free name is taken, so no namespace that is there is replaced
    have hne : key ≠ name := by
      rintro rfl
      exact hfree (Finmap.mem_of_lookup_eq_some hkey)
    exact ⟨ns, by rw [Finmap.lookup_insert_of_ne _ hne, hkey], rfl, rfl, rfl,
      Finset.Subset.refl _⟩
  · rw [heq]
    intro key ns hkey
    -- a new member is added to one namespace, and its parent stays
    by_cases hkn : key = name
    · subst hkn
      obtain rfl : found = ns := Option.some.inj (hfound.symm.trans hkey)
      exact ⟨_, Finmap.lookup_insert _, rfl, rfl, rfl, Finset.subset_insert _ _⟩
    · exact ⟨ns, by rw [Finmap.lookup_insert_of_ne _ hkn, hkey], rfl, rfl, rfl,
        Finset.Subset.refl _⟩

/-- **Run.** -/
theorem extends_run (m : NamespaceManager) (calls : List NamespaceCall) :
    m.Extends (runFrom step m calls) :=
  (allSteps_of_forall (P := fun _ _ => True) fun _ _ => trivial).relates Extends.refl
    (fun _ _ _ h h' => h.trans h') (fun s i _ => extends_step s i)

/-! ## The forest -/

/-- The namespaces are a forest: parents exist, and come before their children in a ranking. -/
structure IsForest (m : NamespaceManager) : Prop where
  named : ∀ key ns, m.namespaces.lookup key = some ns → ns.name = key
  parents : ∀ key p, m.parentOf key = some p → p ∈ m.namespaces
  ranked : ∃ rank, Ranked m.parentOf rank ∧
    ∀ key ∈ m.namespaces, rank key < m.namespaces.keys.card

theorem isForest_new : IsForest new where
  named _ _ h := by cases h
  parents _ _ h := by cases h
  ranked := by
    refine ⟨fun _ => 0, ?_, ?_⟩
    · intro key p h
      cases h
    · intro key hkey
      exact absurd hkey Finmap.notMem_empty

theorem parentOf_insert (m : NamespaceManager) (name : String) (ns : AgentNamespace) :
    parentOf { m with namespaces := m.namespaces.insert name ns } =
      Function.update m.parentOf name ns.parent := by
  funext key
  by_cases hkey : key = name
  · subst hkey
    rw [Function.update_self, parentOf, Finmap.lookup_insert]
    rfl
  · rw [Function.update_of_ne hkey, parentOf, Finmap.lookup_insert_of_ne _ hkey]
    rfl

theorem keys_insert (s : Finmap fun _ : String => AgentNamespace) (name : String)
    (ns : AgentNamespace) : (s.insert name ns).keys = insert name s.keys := by
  ext key
  rw [Finmap.mem_keys, Finmap.mem_insert, Finset.mem_insert, Finmap.mem_keys]

/-- An entry under its own name leaves all entries under theirs. -/
theorem named_insert {name : String} {ns : AgentNamespace}
    (h : ∀ key ns, m.namespaces.lookup key = some ns → ns.name = key) (hns : ns.name = name) :
    ∀ key ns', (m.namespaces.insert name ns).lookup key = some ns' → ns'.name = key := by
  intro key ns' hkey
  by_cases hkn : key = name
  · subst hkn
    rw [Finmap.lookup_insert] at hkey
    rw [← Option.some.inj hkey, hns]
  · rw [Finmap.lookup_insert_of_ne _ hkn] at hkey
    exact h key ns' hkey

/-- A new namespace is a new leaf of the forest. -/
theorem IsForest.createNamespace (h : m.IsForest) {name description : String}
    {parent : Option String} (hfree : name ∉ m.namespaces)
    (hparent : ∀ p, parent = some p → p ∈ m.namespaces) :
    IsForest { m with
      namespaces := m.namespaces.insert name
        { name := name, description := description, parent := parent, members := ∅ } } := by
  obtain ⟨rank, hranked, hbound⟩ := h.ranked
  refine ⟨named_insert h.named (by rfl), ?_, ?_⟩
  · intro key p hp
    rw [parentOf_insert] at hp
    apply Finmap.mem_insert.mpr
    -- the new namespace has the parent that was checked, and the others keep theirs
    by_cases hkey : key = name
    · subst hkey
      rw [Function.update_self] at hp
      exact .inr (hparent p hp)
    · rw [Function.update_of_ne hkey] at hp
      exact .inr (h.parents key p hp)
  · have hcard : (insert name m.namespaces.keys).card = m.namespaces.keys.card + 1 := by
      apply Finset.card_insert_of_notMem
      rwa [Finmap.mem_keys]
    -- its rank is the number of the namespaces before it
    refine ⟨Function.update rank name m.namespaces.keys.card, ?_, ?_⟩
    · rw [parentOf_insert]
      apply hranked.graft
      · -- the name was free, so no namespace can have it as a parent
        intro key hkey
        exact hfree (h.parents key name hkey)
      · intro p hp
        refine ⟨?_, hbound p (hparent p hp)⟩
        rintro rfl
        exact hfree (hparent p hp)
    · intro key hkey
      rw [keys_insert, hcard]
      by_cases hkn : key = name
      · subst hkn
        rw [Function.update_self]
        exact Nat.lt_succ_self _
      · rw [Function.update_of_ne hkn]
        have hold := hbound key ((Finmap.mem_insert.mp hkey).resolve_left hkn)
        omega

/-- A new member leaves the forest as it is. -/
theorem IsForest.addMember (h : m.IsForest) {name : String} {ns : AgentNamespace}
    (hns : m.namespaces.lookup name = some ns) (members : Finset String) :
    IsForest { m with namespaces := m.namespaces.insert name { ns with members := members } } := by
  have hmem : name ∈ m.namespaces := Finmap.mem_of_lookup_eq_some hns
  -- the parents are as before, so the same ranks will do
  have hsame : parentOf { m with
      namespaces := m.namespaces.insert name { ns with members := members } } = m.parentOf := by
    have hparent : ns.parent = m.parentOf name := by
      rw [parentOf, hns]
      rfl
    rw [parentOf_insert, hparent, Function.update_eq_self]
  obtain ⟨rank, hranked, hbound⟩ := h.ranked
  refine ⟨named_insert h.named (by exact h.named name ns hns), ?_, ?_⟩
  · intro key p hp
    rw [hsame] at hp
    exact Finmap.mem_insert.mpr (.inr (h.parents key p hp))
  · refine ⟨rank, by rwa [hsame], ?_⟩
    intro key hkey
    rw [keys_insert, Finset.insert_eq_of_mem (Finmap.mem_keys.mpr hmem)]
    rcases Finmap.mem_insert.mp hkey with rfl | hold
    · exact hbound key hmem
    · exact hbound key hold

/-- **Step.** -/
theorem IsForest.step (h : m.IsForest) (c : NamespaceCall) : (m.step c).IsForest := by
  unfold NamespaceManager.step
  rcases m.call_cases c with ⟨e, heq⟩ | ⟨name, description, parent, hfree, hparent, heq⟩ |
    ⟨name, agentDid, ns, hns, heq⟩
  · rw [heq]
    exact h
  · rw [heq]
    exact h.createNamespace hfree hparent
  · rw [heq]
    exact h.addMember hns _

/-- **Run.** -/
theorem isForest_run (calls : List NamespaceCall) : (runFrom NamespaceManager.step new calls).IsForest :=
  runFrom_keeps (fun _ c h => h.step c) isForest_new calls

/-- **The namespaces are a forest** after any calls: every namespace is stored under its name, its
    parent exists, and the way up from it ends within as many steps as there are namespaces, so
    that none is its own ancestor.  Later calls leave its parent as it is, and a call that fails
    changes nothing. -/
theorem namespaces_forest (calls later : List NamespaceCall) :
    let m := runFrom NamespaceManager.step new calls
    let m' := runFrom NamespaceManager.step m later
    (∀ key ns, m.namespaces.lookup key = some ns →
      ns.name = key ∧ (∀ p, ns.parent = some p → p ∈ m.namespaces) ∧
        climb m.parentOf m.namespaces.keys.card key = none) ∧
    (∀ key, ¬ Ancestor m.parentOf key key) ∧
    (∀ key ns, m.namespaces.lookup key = some ns →
      ∃ ns', m'.namespaces.lookup key = some ns' ∧ ns'.parent = ns.parent) ∧
    ∀ c e, (m.call c).2 = .error e → (m.call c).1 = m := by
  intro m m'
  have hforest : m.IsForest := isForest_run calls
  -- a rank below the number of the namespaces bounds every climb
  obtain ⟨rank, hranked, hbound⟩ := hforest.ranked
  refine ⟨?_, hranked.not_ancestor_self, ?_, fun c e => call_of_error⟩
  · intro key ns hns
    refine ⟨hforest.named key ns hns, ?_, ?_⟩
    · intro p hp
      apply hforest.parents key p
      rw [parentOf, hns]
      exact hp
    · exact hranked.climb_eq_none (hbound key (Finmap.mem_of_lookup_eq_some hns))
  · intro key ns hns
    obtain ⟨ns', hns', -, -, hparent, -⟩ := extends_run m later key ns hns
    exact ⟨ns', hns', hparent⟩

end NamespaceManager

end AgentGovernance.Mesh
