import AgentGovernance.Compliance.ActionLogJson
import AgentGovernance.Lib.LinkedLog

/-!
# The hash chain of the action log

`verify_chain` accepts a file exactly when every line is a record and the records are
linked by their hashes.  The hash of a record does not cover its `prev_hash`, so the
last hash commits to the last record only: with two or more records there are different
logs that are both accepted and have the same head, as ADR-005's tamper-evident log
should not have.
-/

namespace AgentGovernance.Compliance

open AgentGovernance.Lib AgentGovernance.Mesh

/-- Action records as linked records: `prev_hash` is the link, the hash is the tag. -/
def recordChain (sha256 : Bytes → Bytes) : LinkedRecords ActionLogRecord HashableRecord String where
  content r := r.toHashableRecord
  link r := r.prevHash
  setLink h r := { r with prevHash := h }
  tag h := hexEncode (sha256 ((utf8.spell hashableJson).enc h))
  content_setLink _ _ := rfl
  link_setLink _ _ := rfl
  setLink_link r s h := by
    cases r
    cases s
    simp_all

theorem tagOf_eq_computeHash (sha256 : Bytes → Bytes) (r : ActionLogRecord) :
    (recordChain sha256).tagOf r = r.computeHash sha256 := rfl

namespace FileActionLog

variable (E : LogEnv)

/-! ## What the readers compute -/

/-- Parsing line by line succeeds with the records that the lines decode to. -/
theorem parseLines_eq_ok_iff (ls : List Bytes) (rs : List ActionLogRecord) :
    parseLines E ls = .ok rs ↔ ls.mapM E.records.decode = some rs := by
  induction ls generalizing rs with
  | nil => simp [parseLines, eq_comm]
  | cons l ls ih =>
    rw [parseLines, List.mapM_cons]
    cases E.records.decode l with
    | none => simp
    | some record =>
      -- a later line that is no record fails both sides
      cases hrest : parseLines E ls with
      | error e =>
        have hnone : ls.mapM E.records.decode = none := by
          cases hm : ls.mapM E.records.decode with
          | none => rfl
          | some ss =>
            rw [← ih ss, hrest] at hm
            cases hm
        simp [Except.map, hnone]
      | ok ss =>
        have hsome := (ih ss).mp hrest
        simp [Except.map, hsome]

/-- The violations of a list of records. -/
def violationsFrom (index : Nat) (expected : String) : List ActionLogRecord → List ChainViolation
  | [] => []
  | r :: rs =>
    (if r.prevHash ≠ expected then [⟨index, r.recordId, expected, r.prevHash⟩] else []) ++
      violationsFrom (index + 1) (r.computeHash E.sha256) rs

/-- The loop parses every line and collects the violations of the records. -/
theorem verifyLoop_eq (index : Nat) (expected : String) (violations : List ChainViolation)
    (ls : List Bytes) :
    verifyLoop E index expected violations ls =
      (parseLines E ls).map fun rs => violations ++ violationsFrom E index expected rs := by
  induction ls generalizing index expected violations with
  | nil => simp [verifyLoop, parseLines, Except.map, violationsFrom]
  | cons l ls ih =>
    rw [verifyLoop, parseLines]
    cases E.records.decode l with
    | none => rfl
    | some record =>
      -- what was found so far goes in front of what the rest shows
      simp only [ih]
      cases parseLines E ls with
      | error e => rfl
      | ok rs =>
        by_cases hprev : record.prevHash ≠ expected <;>
          simp [Except.map, violationsFrom, hprev]

theorem violationsFrom_eq_nil_iff (index : Nat) (expected : String) (rs : List ActionLogRecord) :
    violationsFrom E index expected rs = [] ↔ (recordChain E.sha256).Linked expected rs := by
  induction rs generalizing index expected with
  | nil => simp [violationsFrom, LinkedRecords.Linked]
  | cons r rs ih =>
    rw [violationsFrom, LinkedRecords.Linked, List.append_eq_nil_iff, ih, tagOf_eq_computeHash]
    refine and_congr_left fun _ => ?_
    show _ ↔ r.prevHash = expected
    by_cases hprev : r.prevHash = expected <;> simp [hprev]

/-- **Verification**: a file is accepted when its lines are records linked from the genesis. -/
theorem verifyChain_eq_nil_iff (file : Bytes) :
    verifyChain E (some file) = .ok [] ↔
      ∃ rs, E.records.decodeLines file = some rs ∧ (recordChain E.sha256).Linked genesis rs := by
  simp only [verifyChain, verifyLoop_eq, ← violationsFrom_eq_nil_iff E 0, TextCodec.decodeLines,
    ← parseLines_eq_ok_iff]
  cases parseLines E (lines file) with
  | error e => simp [Except.map]
  | ok rs => simp [Except.map]

/-- A file with a line that is no record is an error. -/
theorem verifyChain_ne_ok {file : Bytes} (h : E.records.decodeLines file = none)
    (vs : List ChainViolation) : verifyChain E (some file) ≠ .ok vs := by
  intro hok
  rw [verifyChain, verifyLoop_eq] at hok
  cases hparse : parseLines E (lines file) with
  | error e =>
    rw [hparse] at hok
    cases hok
  | ok rs =>
    -- a chain is only verified when every line is a record
    rw [parseLines_eq_ok_iff] at hparse
    rw [TextCodec.decodeLines, hparse] at h
    cases h

/-- The history is read exactly when every line is a record. -/
theorem loadHistory_eq_ok_iff (file : Bytes) (agentDid : String) (history : List ActionRecord) :
    loadHistory E (some file) agentDid = .ok history ↔
      ∃ rs, E.records.decodeLines file = some rs ∧
        history = rs.filterMap (historyEntry agentDid) := by
  simp only [loadHistory, TextCodec.decodeLines, ← parseLines_eq_ok_iff]
  cases parseLines E (lines file) with
  | error e => simp [Except.map]
  | ok rs => simp [Except.map, eq_comm]

/-- What a writer that fills in the links stores is accepted. -/
theorem verifyChain_chain (rs : List ActionLogRecord) :
    verifyChain E (some (E.records.encodeLines ((recordChain E.sha256).chain genesis rs))) =
      .ok [] :=
  (verifyChain_eq_nil_iff E _).mpr
    ⟨_, E.records.decodeLines_encodeLines _, (recordChain E.sha256).linked_chain _ _⟩

/-! ## What the head commits to -/

/-- Two accepted logs of `n` records with the same head are the same. -/
def HeadCommits (n : Nat) : Prop :=
  ∀ (f g : Bytes) (rs ss : List ActionLogRecord),
    E.records.decodeLines f = some rs → E.records.decodeLines g = some ss →
    rs.length = n → ss.length = n →
    verifyChain E (some f) = .ok [] → verifyChain E (some g) = .ok [] →
    rs.getLast?.map (·.computeHash E.sha256) = ss.getLast?.map (·.computeHash E.sha256) → rs = ss

/-- The hashed fields of the last record, from its hash. -/
theorem content_getLast?_eq (hfree : CollisionFree E.sha256) {rs ss : List ActionLogRecord}
    (hhead : rs.getLast?.map (·.computeHash E.sha256) = ss.getLast?.map (·.computeHash E.sha256)) :
    rs.getLast?.map (·.toHashableRecord) = ss.getLast?.map (·.toHashableRecord) := by
  cases hr : rs.getLast? with
  | none =>
    cases hs : ss.getLast? with
    | none => rfl
    | some s => simp [hr, hs] at hhead
  | some r =>
    cases hs : ss.getLast? with
    | none => simp [hr, hs] at hhead
    | some s =>
      -- equal hashes of the last records have equal contents, since nothing collides
      rw [hr, hs] at hhead
      exact congrArg some ((hfree.computeHash_eq_iff r s).mp (Option.some.inj hhead))

/-- Accepted logs with the same head are the same when the fields of all records before the last
    agree. -/
theorem eq_of_dropLast (hfree : CollisionFree E.sha256) {f g : Bytes}
    {rs ss : List ActionLogRecord} (hf : E.records.decodeLines f = some rs)
    (hg : E.records.decodeLines g = some ss) (hvf : verifyChain E (some f) = .ok [])
    (hvg : verifyChain E (some g) = .ok [])
    (hhead : rs.getLast?.map (·.computeHash E.sha256) = ss.getLast?.map (·.computeHash E.sha256))
    (hfront : rs.dropLast.map (·.toHashableRecord) = ss.dropLast.map (·.toHashableRecord)) :
    rs = ss := by
  obtain ⟨rs', hf', hlr⟩ := (verifyChain_eq_nil_iff E f).mp hvf
  obtain ⟨ss', hg', hls⟩ := (verifyChain_eq_nil_iff E g).mp hvg
  rw [hf] at hf'
  rw [hg] at hg'
  obtain rfl := Option.some.inj hf'
  obtain rfl := Option.some.inj hg'
  -- in a linked log the hashes follow from the contents
  refine (recordChain E.sha256).linked_ext hlr hls ?_
  have hlast := content_getLast?_eq E hfree hhead
  show rs.map (·.toHashableRecord) = ss.map (·.toHashableRecord)
  -- the fronts agree by assumption, and the last records by their hashes
  rcases rs.eq_nil_or_concat' with rfl | ⟨front, r, rfl⟩ <;>
    rcases ss.eq_nil_or_concat' with rfl | ⟨front', s, rfl⟩
  · rfl
  · simp at hlast
  · simp at hlast
  · rw [List.dropLast_concat, List.dropLast_concat] at hfront
    rw [List.getLast?_concat, List.getLast?_concat] at hlast
    rw [List.map_append, List.map_append, hfront, List.map_singleton, List.map_singleton,
      show r.toHashableRecord = s.toHashableRecord from Option.some.inj hlast]

/-- **Tampering.** Replacing the first of several records leaves the head as it is. -/
theorem tampered_same_head (a b : ActionLogRecord) (rs : List ActionLogRecord) (hrs : rs ≠ []) :
    ((recordChain E.sha256).chain genesis (a :: rs)).getLast?.map (·.computeHash E.sha256) =
      ((recordChain E.sha256).chain genesis (b :: rs)).getLast?.map (·.computeHash E.sha256) := by
  rcases rs.eq_nil_or_concat' with rfl | ⟨front, r, rfl⟩
  · exact absurd rfl hrs
  · have hhash : ∀ h, ((recordChain E.sha256).setLink h r).computeHash E.sha256 =
        r.computeHash E.sha256 := fun h => (recordChain E.sha256).tagOf_setLink h r
    rw [← List.cons_append, ← List.cons_append, LinkedRecords.chain_concat,
      LinkedRecords.chain_concat, List.getLast?_concat, List.getLast?_concat, Option.map_some,
      Option.map_some, hhash, hhash]

/-- Logs of two or more records are not determined by their head. -/
theorem not_headCommits {a b : ActionLogRecord} (hab : a.toHashableRecord ≠ b.toHashableRecord)
    (rs : List ActionLogRecord) (hrs : rs ≠ []) : ¬ HeadCommits E (rs.length + 1) := by
  intro h
  have heq := h _ _ _ _ (E.records.decodeLines_encodeLines _) (E.records.decodeLines_encodeLines _)
    ((recordChain E.sha256).length_chain genesis (a :: rs))
    ((recordChain E.sha256).length_chain genesis (b :: rs)) (verifyChain_chain E _)
    (verifyChain_chain E _) (tampered_same_head E a b rs hrs)
  have hcontent := congrArg (List.map (recordChain E.sha256).content) heq
  rw [LinkedRecords.map_content_chain, LinkedRecords.map_content_chain] at hcontent
  exact hab (List.cons.inj hcontent).1

/-- **Commitment of the head.** The head determines the logs of at most one record, and no more:
    beyond that, accepted logs with the same head are the same exactly when the fields of the
    records before the last agree. -/
theorem headCommits_iff (hfree : CollisionFree E.sha256) :
    (∀ n, HeadCommits E n ↔ n ≤ 1) ∧
    (∀ (f g : Bytes) (rs ss : List ActionLogRecord),
      E.records.decodeLines f = some rs → E.records.decodeLines g = some ss →
      verifyChain E (some f) = .ok [] → verifyChain E (some g) = .ok [] →
      rs.getLast?.map (·.computeHash E.sha256) = ss.getLast?.map (·.computeHash E.sha256) →
      (rs = ss ↔
        rs.dropLast.map (·.toHashableRecord) = ss.dropLast.map (·.toHashableRecord))) := by
  constructor
  · intro n
    constructor
    · intro h
      by_contra hn
      -- two records are enough: the first one is free
      obtain ⟨k, rfl⟩ : ∃ k, n = k + 2 := ⟨n - 2, by omega⟩
      refine not_headCommits E (a := sampleRecord 1 "read") (b := sampleRecord 1 "write") (by decide)
        (List.replicate (k + 1) (sampleRecord 2 "read")) (by simp) ?_
      rw [List.length_replicate]
      exact h
    · -- of one record or none, the front is empty
      intro hn f g rs ss hf hg hr hs hvf hvg hhead
      have hnil : ∀ l : List ActionLogRecord, l.length = n → l.dropLast = [] := by
        intro l hl
        refine List.length_eq_zero_iff.mp ?_
        rw [List.length_dropLast]
        omega
      refine eq_of_dropLast E hfree hf hg hvf hvg hhead ?_
      rw [hnil rs hr, hnil ss hs]
  · -- equal logs have equal fronts, and the other way round by the last hash
    intro f g rs ss hf hg hvf hvg hhead
    exact ⟨fun h => by rw [h], eq_of_dropLast E hfree hf hg hvf hvg hhead⟩

/-- The recorded digests have no collision, so with them the head determines one record and not
    two. -/
theorem headCommits_iff_sample :
    CollisionFree sampleEnv.sha256 ∧ HeadCommits sampleEnv 1 ∧ ¬ HeadCommits sampleEnv 2 :=
  ⟨collisionFree_sampleDigests,
    ((headCommits_iff sampleEnv collisionFree_sampleDigests).1 1).mpr le_rfl,
    fun h => absurd (((headCommits_iff sampleEnv collisionFree_sampleDigests).1 2).mp h) (by decide)⟩

/-- The first of two records says "write" where it said "read", and the head is the same. -/
theorem head_not_committing :
    ¬ ∀ E : LogEnv, CollisionFree E.sha256 → ∀ n, HeadCommits E n := by
  intro h
  exact not_headCommits sampleEnv (a := sampleRecord 1 "read") (b := sampleRecord 1 "write")
    (by decide) [sampleRecord 2 "read"] (by decide) (h sampleEnv collisionFree_sampleDigests 2)

end FileActionLog

end AgentGovernance.Compliance
