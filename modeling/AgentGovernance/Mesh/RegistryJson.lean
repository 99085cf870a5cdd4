import AgentGovernance.Mesh.Escalation
import AgentGovernance.Mesh.RegistryFile

/-!
# The serde text of a registry record

The laws that the registry file relies on hold for the JSON text that `serde_json` writes: it is a
self-delimiting object without control characters.
-/

namespace AgentGovernance.Mesh

open AgentGovernance.Lib

def capabilitiesJson : PrefixCode Char (List String) :=
  jsonArray jsonString jsonString_ne_bracket

def parentJson : PrefixCode Char (Option String) :=
  nullable jsonString jsonString_ne_null

theorem toNat_injective : Function.Injective UInt32.toNat :=
  fun _ _ => UInt32.toNat_inj.mp

/-- The delegation depth, with the brace behind it. -/
def depthJson : PrefixCode Char UInt32 :=
  (number 0 '}' isDigit_brace).comap UInt32.toNat toNat_injective

/-- The fields of a stored record as they follow each other in its text. -/
def StoredRecord.fields (r : StoredRecord) :
    AgentDID × String × String × String × List String × String × Option String × UInt32 ×
      PrivilegeRing :=
  (r.val.identity.did, r.val.identity.name, r.val.identity.publicKey, r.val.identity.sponsorEmail,
    r.val.identity.capabilities, r.val.identity.status, r.val.identity.parentDid,
    r.val.identity.delegationDepth, r.val.ring)

theorem StoredRecord.fields_injective : Function.Injective StoredRecord.fields := by
  intro a b h
  have hkey : a.val.identity.privateKey = b.val.identity.privateKey :=
    a.property.trans b.property.symm
  apply Subtype.ext
  obtain ⟨⟨⟨⟩, _⟩, ha⟩ := a
  obtain ⟨⟨⟨⟩, _⟩, hb⟩ := b
  simp_all [fields]

/-- `serde_json` of `RegistryRecord`. -/
def registryJson : PrefixCode Char StoredRecord :=
  ((((AgentDID.json.tagged (objectKey '{' "did")).pair
    ((jsonString.tagged (objectKey ',' "name")).pair
    ((jsonString.tagged (objectKey ',' "public_key")).pair
    ((jsonString.tagged (objectKey ',' "sponsor_email")).pair
    ((capabilitiesJson.tagged (objectKey ',' "capabilities")).pair
    ((jsonString.tagged (objectKey ',' "status")).pair
    ((parentJson.tagged (objectKey ',' "parent_did")).pair
    ((depthJson.tagged (objectKey ',' "delegation_depth")).pair
    (PrivilegeRing.json.tagged (objectKey ',' "ring")))))))))).tagged
    (objectKey '{' "identity")).ended ['}']).comap StoredRecord.fields StoredRecord.fields_injective

theorem capabilitiesJson_printable : capabilitiesJson.Printable :=
  jsonArray_printable jsonString_printable _

theorem parentJson_printable : parentJson.Printable :=
  nullable_printable jsonString_printable _

theorem depthJson_printable : depthJson.Printable :=
  .comap (number_printable _ _ _ (by decide)) _ _

theorem registryJson_printable : registryJson.Printable := by
  refine .comap (.ended (.tagged ?_ (by decide)) (by decide)) _ _
  refine .pair (.tagged AgentDID.json_printable (by decide)) ?_
  refine .pair (.tagged jsonString_printable (by decide)) ?_
  refine .pair (.tagged jsonString_printable (by decide)) ?_
  refine .pair (.tagged jsonString_printable (by decide)) ?_
  refine .pair (.tagged capabilitiesJson_printable (by decide)) ?_
  refine .pair (.tagged jsonString_printable (by decide)) ?_
  refine .pair (.tagged parentJson_printable (by decide)) ?_
  exact .pair (.tagged depthJson_printable (by decide))
    (.tagged PrivilegeRing.json_printable (by decide))

/-- A record is written as an object. -/
theorem registryJson_object (r : StoredRecord) :
    ∃ text, registryJson.enc r = '{' :: text := ⟨_, rfl⟩

theorem registryJson_ne_nil (r : StoredRecord) : registryJson.enc r ≠ [] := by
  obtain ⟨text, htext⟩ := registryJson_object r
  rw [htext]
  exact List.cons_ne_nil _ _

/-- The environment of the registry with serde's texts. -/
noncomputable def RegistryEnv.serde : RegistryEnv where
  records := registryJson.toTextCodec registryJson_printable registryJson_ne_nil
  encode_object r := by
    obtain ⟨text, htext⟩ := registryJson_object r
    refine ⟨text.flatMap utf8.enc, ?_⟩
    show (registryJson.enc r).flatMap utf8.enc = _
    rw [htext]
    rfl
  decode_trailing := registryJson.toTextCodec_decode_trailing registryJson_printable
    registryJson_ne_nil
  parseError _ := "invalid record"
  writeError := "No space left on device (os error 28)"

/-- The registration of an agent with a ring. -/
def sampleRegistration (name : String) (ring : PrivilegeRing) : RegistryRecord where
  identity :=
    { identityStub "iodf/x6zhFFXes1a/uQFRWVo3XyJ4JCGOgVXvHr0nxc=" with
      did := { method := "mesh", uniqueId := name }
      name := name
      status := "active" }
  ring := ring

end AgentGovernance.Mesh
