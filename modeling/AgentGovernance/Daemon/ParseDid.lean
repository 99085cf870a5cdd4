import AgentGovernance.Daemon.Server
import AgentGovernance.Lib.Separated

/-!
# Reading a DID

The two copies of `parse_did`, in `crates/daemon/src/lib.rs` and `crates/daemon/src/grpc/discovery.rs`,
cut a text at its colons.  They read exactly the DIDs of the mesh, and each of them as the DID
that prints as the text.
-/

namespace AgentGovernance.Daemon

open AgentGovernance.Lib AgentGovernance.Mesh

/-- `parse_did` of `grpc/discovery.rs`. -/
def discoveryParseDid (s : String) : Except String AgentDID :=
  let parts := s.toList.splitOn ':'
  if parts.length ≠ 3 ∨ parts[0]? ≠ some "did".toList ∨ parts[1]? ≠ some "mesh".toList then
    .error "Invalid DID format"
  else .ok { method := "mesh", uniqueId := String.ofList (parts[2]?.getD []) }

/-- The grammar of the DIDs of the mesh: the scheme, the method and a text without a colon. -/
def IsMeshDid (s : String) : Prop :=
  ∃ uniqueId : String, ':' ∉ uniqueId.toList ∧ s = "did:mesh:" ++ uniqueId

/-! ## The parts of a text -/

/-- A text is read by its three parts. -/
theorem parseDid_eq_ok_iff_splitOn {s : String} {d : AgentDID} :
    parseDid s = .ok d ↔
      s.toList.splitOn ':' = ["did".toList, "mesh".toList, d.uniqueId.toList] ∧
        d.method = "mesh" := by
  unfold parseDid
  split
  -- three parts
  · rename_i scheme method uniqueId hparts
    rw [hparts]
    obtain ⟨m, u⟩ := d
    by_cases hmesh : scheme ≠ "did".toList ∨ method ≠ "mesh".toList
    · rw [if_pos hmesh]
      simp only [reduceCtorEq, List.cons.injEq, false_iff]
      rintro ⟨⟨hscheme, hmethod, -⟩, -⟩
      exact hmesh.elim (absurd hscheme) (absurd hmethod)
    · rw [if_neg hmesh]
      obtain ⟨rfl, rfl⟩ : scheme = "did".toList ∧ method = "mesh".toList := by
        simpa [not_or] using hmesh
      have huid : u = String.ofList uniqueId ↔ uniqueId = u.toList := by
        rw [← String.toList_inj, String.toList_ofList, eq_comm]
      simp [huid, and_comm, eq_comm]
  -- more or fewer
  · rename_i hparts
    simp only [reduceCtorEq, false_iff]
    rintro ⟨heq, -⟩
    exact hparts _ _ _ heq

/-- **Reading and printing**: a text is read as a DID exactly if the DID prints as the text and is
    one of the mesh without a colon in its identifier. -/
theorem parseDid_eq_ok_iff {s : String} {d : AgentDID} :
    parseDid s = .ok d ↔ d.toText = s ∧ d.method = "mesh" ∧ ':' ∉ d.uniqueId.toList := by
  -- the three parts joined by colons are the text of the DID
  have hjoin : [':'].intercalate ["did".toList, "mesh".toList, d.uniqueId.toList] =
      ("did:mesh:" ++ d.uniqueId).toList := by
    simp [List.intercalate]
  -- of the parts only the last can have a colon
  have hcolon : (∀ p ∈ ["did".toList, "mesh".toList, d.uniqueId.toList], ':' ∉ p) ↔
      ':' ∉ d.uniqueId.toList := by
    simp
  rw [parseDid_eq_ok_iff_splitOn, splitOn_eq_iff, hjoin, hcolon, String.toList_inj]
  constructor
  · rintro ⟨⟨-, hfree, htext⟩, hmethod⟩
    refine ⟨?_, hmethod, hfree⟩
    rw [AgentDID.toText, hmethod]
    exact htext
  · rintro ⟨htext, hmethod, hfree⟩
    refine ⟨⟨List.cons_ne_nil _ _, hfree, ?_⟩, hmethod⟩
    rw [AgentDID.toText, hmethod] at htext
    exact htext

/-- A text that is read as a DID is the text of that DID. -/
theorem toText_of_parseDid {s : String} {did : AgentDID} (h : parseDid s = .ok did) :
    did.toText = s :=
  (parseDid_eq_ok_iff.mp h).1

/-- The texts that are read are those of the grammar. -/
theorem exists_parseDid_iff (s : String) : (∃ d, parseDid s = .ok d) ↔ IsMeshDid s := by
  constructor
  · rintro ⟨d, h⟩
    obtain ⟨rfl, hmethod, hfree⟩ := parseDid_eq_ok_iff.mp h
    exact ⟨d.uniqueId, hfree, by rw [AgentDID.toText, hmethod]; rfl⟩
  · rintro ⟨uniqueId, hfree, rfl⟩
    exact ⟨{ method := "mesh", uniqueId := uniqueId }, parseDid_eq_ok_iff.mpr ⟨rfl, rfl, hfree⟩⟩

/-- The two copies read alike. -/
theorem discoveryParseDid_eq (s : String) : discoveryParseDid s = parseDid s := by
  unfold discoveryParseDid parseDid
  split
  · rename_i scheme method uniqueId hparts
    simp [hparts]
  -- the other copy counts the parts before it looks at them
  · rename_i hparts
    rw [if_pos]
    by_contra h
    simp only [ne_eq, not_or, Decidable.not_not] at h
    obtain ⟨scheme, method, uniqueId, hthree⟩ := List.length_eq_three.mp h.1
    exact hparts _ _ _ hthree

/-- **Inverse on the mesh**: `parse_did` reads the texts of the grammar and no others, a text it
    reads is printed back, the printed DIDs it reads back are those of the mesh without a colon in
    their identifier, and its two copies agree. -/
theorem parseDid_inverse :
    (∀ s, (∃ d, parseDid s = .ok d) ↔ IsMeshDid s) ∧
    (∀ s d, parseDid s = .ok d ↔ d.toText = s ∧ d.method = "mesh" ∧ ':' ∉ d.uniqueId.toList) ∧
    (∀ d : AgentDID, parseDid d.toText = .ok d ↔ d.method = "mesh" ∧ ':' ∉ d.uniqueId.toList) ∧
    ∀ s, discoveryParseDid s = parseDid s := by
  refine ⟨exists_parseDid_iff, fun _ _ => parseDid_eq_ok_iff, ?_, discoveryParseDid_eq⟩
  intro d
  rw [parseDid_eq_ok_iff]
  exact and_iff_right rfl

/-- A method other than that of the mesh, and a colon too many. -/
example : parseDid "did:web:agent-1" = .error "Invalid DID format" ∧
    discoveryParseDid "did:mesh:a:b" = .error "Invalid DID format" := by
  decide +kernel

end AgentGovernance.Daemon
