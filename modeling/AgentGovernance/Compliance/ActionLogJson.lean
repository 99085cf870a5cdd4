import AgentGovernance.Compliance.ActionLog
import AgentGovernance.Lib.Base64
import Mathlib.Data.List.Nodup

/-!
# The serde texts of the action log

The laws that the log relies on hold for the JSON texts `serde_json` writes: records
and checkpoints are self-delimiting texts without control characters, so they are read
back, fit on a line, and are rejected when cut short or joined.
-/

namespace AgentGovernance.Compliance

open AgentGovernance.Lib AgentGovernance.Mesh

/-- `serde_json` of `Checkpoint`; the closing brace ends the number. -/
def checkpointJson : PrefixCode Char Checkpoint :=
  ((jsonString.tagged (objectKey '{' "last_hash")).pair
    ((number 0 '}' rfl).tagged (objectKey ',' "byte_offset"))).comap
    (fun cp => (cp.lastHash, cp.byteOffset)) (fun a b h => by
      cases a
      cases b
      simp_all)

theorem checkpointJson_printable : checkpointJson.Printable :=
  .comap (.pair (.tagged jsonString_printable (by decide))
    (.tagged (number_printable _ _ _ (by decide)) (by decide))) _ _

/-- The environment of the log with serde's texts. -/
noncomputable def LogEnv.serde (sha256 : Bytes → Bytes) : LogEnv where
  records := recordJson.toTextCodec recordJson_printable (fun _ h => by
    simp [recordJson, PrefixCode.comap, PrefixCode.ended] at h)
  checkpoints := checkpointJson.toTextCodec checkpointJson_printable (fun _ h => by
    simp [checkpointJson, PrefixCode.comap, PrefixCode.pair, PrefixCode.tagged, objectKey] at h)
  sha256 := sha256
  parseError _ := "invalid record"
  openError := "No such file or directory (os error 2)"
  writeError := "No space left on device (os error 28)"

/-! ## Test vectors -/

/-- A hash function given by recorded digests; any other input gets a value that is longer than
    every digest. -/
def digestVectors (table : List (Bytes × Bytes)) (bs : Bytes) : Bytes :=
  (table.lookup bs).getD (List.replicate 33 0 ++ bs)

/-- Different recorded digests of 32 bytes make the function free of collisions. -/
theorem digestVectors_injective {table : List (Bytes × Bytes)}
    (hlen : ∀ p ∈ table, p.2.length = 32) (hnodup : (table.map Prod.snd).Nodup) :
    Function.Injective (digestVectors table) := by
  intro as bs h
  have hmem : ∀ {as d}, table.lookup as = some d → (as, d) ∈ table := by
    intro as d hd
    obtain ⟨l₁, l₂, heq, -⟩ := List.lookup_eq_some_iff.mp hd
    rw [heq]
    exact List.mem_append_right _ List.mem_cons_self
  unfold digestVectors at h
  -- the table decides which of the two texts have a digest of 32 bytes
  cases ha : table.lookup as with
  | none =>
    cases hb : table.lookup bs with
    | none =>
      rw [ha, hb] at h
      exact List.append_cancel_left h
    | some d =>
      rw [ha, hb] at h
      -- the digest outside the table is longer than one of the table
      have hd := hlen _ (hmem hb)
      rw [← show _ = d from h] at hd
      simp at hd
  | some d =>
    cases hb : table.lookup bs with
    | none =>
      rw [ha, hb] at h
      have hd := hlen _ (hmem ha)
      rw [show d = _ from h] at hd
      simp at hd
    | some d' =>
      rw [ha, hb] at h
      obtain rfl : d = d' := h
      -- the digests of the table differ pairwise
      exact congrArg Prod.fst (List.inj_on_of_nodup_map hnodup (hmem ha) (hmem hb) rfl)

/-- A record of one action at the epoch, before it is stored. -/
def sampleRecord (id : UInt8) (action : String) : ActionLogRecord where
  recordId := .fill id
  agentDid := "agent-1"
  action := action
  resourceCategory := .personalData
  timestamp := 0
  outcome := .permitted
  prevHash := ""

/-- SHA-256 of the canonical bytes of three records. -/
def sampleDigests : List (Bytes × Bytes) :=
  [((sampleRecord 1 "read").canonicalBytes,
      (Base64.decodeText "gBjJxUxpitxSWtBtk+7kwxAyl7wEwgtPSLLviCpeWgw=").getD []),
    ((sampleRecord 1 "write").canonicalBytes,
      (Base64.decodeText "tGtPNgN96HgSlq9T6/7S/rkpJ7l4Um9xNAphlU+zl4o=").getD []),
    ((sampleRecord 2 "read").canonicalBytes,
      (Base64.decodeText "PbV9+h7r2pML7emWUaomO1xb5Z+8LPgXuKQ4o1KCn14=").getD [])]

theorem collisionFree_sampleDigests : CollisionFree (digestVectors sampleDigests) := by
  have hlen : (sampleDigests.map Prod.snd).map List.length = [32, 32, 32] := by decide +kernel
  have hnodup : (sampleDigests.map Prod.snd).Nodup := by decide +kernel
  intro r s h
  refine digestVectors_injective ?_ hnodup h
  intro p hp
  have hmem : p.2.length ∈ (sampleDigests.map Prod.snd).map List.length :=
    List.mem_map_of_mem (List.mem_map_of_mem hp)
  rw [hlen] at hmem
  simpa using hmem

/-- The environment with serde's texts and the recorded digests. -/
noncomputable def sampleEnv : LogEnv :=
  .serde (digestVectors sampleDigests)

end AgentGovernance.Compliance
