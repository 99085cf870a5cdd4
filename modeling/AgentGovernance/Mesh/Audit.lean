import AgentGovernance.Lib.Rfc3339
import AgentGovernance.Mesh.Basic

/-!
# Action records and their hash

`crates/core/mesh/src/audit.rs`.  The hash of a record is taken over a serialization of
`HashableRecord`, which has every field of the record except `prev_hash`.
-/

namespace AgentGovernance.Mesh

open AgentGovernance.Lib

inductive DataCategory where
  | personalData
  | financialRecord
  | auditLog
  | systemConfig
  | unknown
  deriving DecidableEq, Repr

/-- `impl Display for DataCategory`, which is also its JSON name. -/
def DataCategory.toText : DataCategory → String
  | .personalData => "PersonalData"
  | .financialRecord => "FinancialRecord"
  | .auditLog => "AuditLog"
  | .systemConfig => "SystemConfig"
  | .unknown => "Unknown"

theorem DataCategory.toText_injective : Function.Injective DataCategory.toText := by
  intro a b h
  cases a <;> cases b <;> first | rfl | exact absurd h (by decide)

inductive ActionOutcome where
  | permitted
  | denied (rule reason : String)
  | discoveryEvent (eventJson : String)
  deriving DecidableEq, Repr

/-- `HashableRecord`: the fields that `canonical_bytes` serializes. -/
structure HashableRecord where
  recordId : Uuid
  agentDid : String
  action : String
  resourceCategory : DataCategory
  timestamp : DateTime
  outcome : ActionOutcome
  deriving DecidableEq

structure ActionLogRecord extends HashableRecord where
  prevHash : String
  deriving DecidableEq

/-! ## JSON texts -/

/-- The variants of `ActionOutcome` that carry data. -/
def ActionOutcome.variant : ActionOutcome → Unit ⊕ (String × String) ⊕ String
  | .permitted => .inl ()
  | .denied rule reason => .inr (.inl (rule, reason))
  | .discoveryEvent eventJson => .inr (.inr eventJson)

theorem ActionOutcome.variant_injective : Function.Injective ActionOutcome.variant := by
  intro a b h
  cases a <;> cases b <;> simp_all [variant]

/-- Serde's externally tagged text of an outcome. -/
def ActionOutcome.json : PrefixCode Char ActionOutcome :=
  (PrefixCode.choice [quote] ['{'] quote_not_brace brace_not_quote
    (PrefixCode.const ("Permitted".toList ++ [quote]))
    ((PrefixCode.choice (quote :: "Denied".toList) (quote :: "DiscoveryEvent".toList) (by decide)
      (by decide)
      (((jsonString.tagged (objectKey '{' "rule")).pair
        (jsonString.tagged (objectKey ',' "reason"))).tagged [quote, ':'])
      ((jsonString.tagged (objectKey '{' "event_json")).tagged [quote, ':'])).ended ['}', '}'])).comap
    ActionOutcome.variant ActionOutcome.variant_injective

/-- The fields of a record as they follow each other in its text. -/
def HashableRecord.fields (r : HashableRecord) :
    Uuid × String × String × DataCategory × DateTime × ActionOutcome :=
  (r.recordId, r.agentDid, r.action, r.resourceCategory, r.timestamp, r.outcome)

theorem HashableRecord.fields_injective : Function.Injective HashableRecord.fields := by
  intro r s h
  cases r
  cases s
  simp_all [fields]

/-- The fields of a record in JSON, without the closing brace. -/
def fieldsJson : PrefixCode Char HashableRecord :=
  ((Uuid.json.tagged (objectKey '{' "record_id")).pair
    ((jsonString.tagged (objectKey ',' "agent_did")).pair
    ((jsonString.tagged (objectKey ',' "action")).pair
    (((jsonString.comap DataCategory.toText DataCategory.toText_injective).tagged
      (objectKey ',' "resource_category")).pair
    ((Rfc3339.jsonInstant.tagged (objectKey ',' "timestamp")).pair
    (ActionOutcome.json.tagged (objectKey ',' "outcome"))))))).comap
    HashableRecord.fields HashableRecord.fields_injective

/-- `serde_json` of `HashableRecord`. -/
def hashableJson : PrefixCode Char HashableRecord :=
  fieldsJson.ended ['}']

/-- `serde_json` of `ActionLogRecord`. -/
def recordJson : PrefixCode Char ActionLogRecord :=
  ((fieldsJson.pair (jsonString.tagged (objectKey ',' "prev_hash"))).ended ['}']).comap
    (fun r => (r.toHashableRecord, r.prevHash)) (fun r s h => by
      cases r
      cases s
      simp_all)

/-! ## Hashes -/

def ActionLogRecord.canonicalBytes (record : ActionLogRecord) : Bytes :=
  (utf8.spell hashableJson).enc record.toHashableRecord

variable (sha256 : Bytes → Bytes)

/-- `ActionLogRecord::compute_hash`, over `Sha256::digest`. -/
def ActionLogRecord.computeHash (record : ActionLogRecord) : String :=
  hexEncode (sha256 record.canonicalBytes)

/-- Equal canonical bytes are those of equal fields, `prev_hash` aside. -/
theorem ActionLogRecord.canonicalBytes_eq_iff (r s : ActionLogRecord) :
    r.canonicalBytes = s.canonicalBytes ↔ r.toHashableRecord = s.toHashableRecord :=
  (utf8.spell hashableJson).enc_injective.eq_iff

/-- `"genesis"`, the `prev_hash` of the first record. -/
def genesis : String := "genesis"

/-- No record hashes to the genesis text. -/
theorem ActionLogRecord.computeHash_ne_genesis (r : ActionLogRecord) :
    r.computeHash sha256 ≠ genesis :=
  hexEncode_ne (by decide)

/-- The hash function has no collision on the canonical bytes of records. -/
def CollisionFree : Prop :=
  ∀ r s : ActionLogRecord, sha256 r.canonicalBytes = sha256 s.canonicalBytes →
    r.canonicalBytes = s.canonicalBytes

/-- Without collisions the hash determines the hashed fields, and only those. -/
theorem CollisionFree.computeHash_eq_iff {sha256 : Bytes → Bytes} (hfree : CollisionFree sha256)
    (r s : ActionLogRecord) :
    r.computeHash sha256 = s.computeHash sha256 ↔ r.toHashableRecord = s.toHashableRecord := by
  rw [← ActionLogRecord.canonicalBytes_eq_iff]
  constructor
  · intro h
    exact hfree r s (hexEncode_injective h)
  · intro h
    rw [ActionLogRecord.computeHash, ActionLogRecord.computeHash, h]

/-! ## Printable texts -/

theorem ActionOutcome.json_printable : ActionOutcome.json.Printable := by
  refine .comap (.choice ?_ (.ended (.choice ?_ ?_ _ _ (by decide) (by decide)) (by decide)) _ _
    (by decide) (by decide)) _ _
  · exact .const (by decide)
  · exact .tagged (.pair (.tagged jsonString_printable (by decide))
      (.tagged jsonString_printable (by decide))) (by decide)
  · exact .tagged (.tagged jsonString_printable (by decide)) (by decide)

theorem fieldsJson_printable : fieldsJson.Printable := by
  refine .comap (.pair (.tagged Uuid.json_printable (by decide)) ?_) _ _
  refine .pair (.tagged jsonString_printable (by decide)) ?_
  refine .pair (.tagged jsonString_printable (by decide)) ?_
  refine .pair (.tagged (.comap jsonString_printable _ _) (by decide)) ?_
  exact .pair (.tagged Rfc3339.jsonInstant_printable (by decide))
    (.tagged ActionOutcome.json_printable (by decide))

theorem recordJson_printable : recordJson.Printable :=
  .comap (.ended (.pair fieldsJson_printable (.tagged jsonString_printable (by decide)))
    (by decide)) _ _

end AgentGovernance.Mesh
