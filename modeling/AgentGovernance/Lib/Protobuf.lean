import AgentGovernance.Lib.Lines
import AgentGovernance.Lib.PrefixCode

/-!
# The protobuf wire format

A message is written field by field: a key with the number and the wire type of the field,
then a varint or a length and that many bytes.  Fields can be told apart from what follows
them, so a byte string is the encoding of one list of fields at most (`encode_injective`).

What a message type writes of its fields, and in which order, is not the business of this
file.
-/

namespace AgentGovernance.Lib.Protobuf

/-! ## Varints -/

/-- The groups of seven bits of a number, the lowest first; all but the last are marked.  The
    first argument bounds the number of groups. -/
def groups : Nat → Nat → Bytes
  | 0, n => [UInt8.ofNat n]
  | bound + 1, n =>
    if n < 128 then [UInt8.ofNat n]
    else UInt8.ofNat (n % 128 + 128) :: groups bound (n / 128)

/-- `encode_varint`. -/
def varint (n : Nat) : Bytes :=
  groups n n

/-- The number at the front of a byte string, and what follows it. -/
def readVarint : Bytes → Option (Nat × Bytes)
  | [] => none
  | b :: rest =>
    if b.toNat < 128 then some (b.toNat, rest)
    else (readVarint rest).map fun p => (b.toNat - 128 + 128 * p.1, p.2)

theorem toNat_ofNat_byte {n : Nat} (h : n < 256) : (UInt8.ofNat n).toNat = n :=
  UInt8.toNat_ofNat_of_lt' h

theorem readVarint_small {n : Nat} (h : n < 128) (rest : Bytes) :
    readVarint (UInt8.ofNat n :: rest) = some (n, rest) := by
  have hbyte : (UInt8.ofNat n).toNat = n := toNat_ofNat_byte (by omega)
  simp [readVarint, hbyte, h]

/-- Groups are put together again. -/
theorem readVarint_groups {bound n : Nat} (h : n ≤ bound) (rest : Bytes) :
    readVarint (groups bound n ++ rest) = some (n, rest) := by
  induction bound generalizing n with
  | zero => exact readVarint_small (by omega) rest
  | succ bound ih =>
    rw [groups]
    split
    · next hsmall => exact readVarint_small hsmall rest
    · next hlarge =>
      -- a marked byte, and the higher groups behind it
      have hbyte : (UInt8.ofNat (n % 128 + 128)).toNat = n % 128 + 128 :=
        toNat_ofNat_byte (by omega)
      have hhigher := ih (n := n / 128) (by omega)
      simp only [List.cons_append, readVarint, hbyte, hhigher, Option.map_some]
      rw [if_neg (by omega)]
      congr 2
      omega

/-- Varints are self-delimiting. -/
def varintCode : PrefixCode UInt8 Nat :=
  .ofRead varint readVarint fun _ rest => readVarint_groups (Nat.le_refl _) rest

theorem varint_ne_nil (n : Nat) : varint n ≠ [] := by
  intro h
  have hread := readVarint_groups (Nat.le_refl n) []
  rw [List.append_nil, ← varint, h] at hread
  cases hread

/-! ## Fields -/

inductive Payload where
  | varint (n : Nat)
  | lengthDelimited (bytes : Bytes)
  deriving DecidableEq

def Payload.wireType : Payload → Nat
  | .varint _ => 0
  | .lengthDelimited _ => 2

/-- The bytes of a payload, behind the key. -/
def Payload.encode : Payload → Bytes
  | .varint n => Protobuf.varint n
  | .lengthDelimited bytes => Protobuf.varint bytes.length ++ bytes

/-- A field: its number and its payload. -/
structure Field where
  number : Nat
  payload : Payload
  deriving DecidableEq

/-- `encode_key`, and the payload. -/
def Field.encode (f : Field) : Bytes :=
  varint (8 * f.number + f.payload.wireType) ++ f.payload.encode

/-- Payloads of one wire type can be told apart from what follows them. -/
theorem Payload.encode_unique {p q : Payload} (htype : p.wireType = q.wireType) {x y : Bytes}
    (h : p.encode ++ x = q.encode ++ y) : p = q ∧ x = y := by
  cases p with
  | varint m =>
    cases q with
    | varint n =>
      obtain ⟨rfl, htail⟩ := varintCode.unique m n x y h
      exact ⟨rfl, htail⟩
    | lengthDelimited bytes => cases htype
  | lengthDelimited bytes =>
    cases q with
    | varint n => cases htype
    | lengthDelimited bytes' =>
      simp only [Payload.encode, List.append_assoc] at h
      -- equal lengths, so the bytes end at the same place
      obtain ⟨hlength, hbytes⟩ := varintCode.unique _ _ _ _ h
      obtain ⟨rfl, htail⟩ := List.append_inj hbytes hlength
      exact ⟨rfl, htail⟩

theorem Payload.wireType_lt (p : Payload) : p.wireType < 8 := by
  cases p <;> simp [wireType]

/-- Fields are self-delimiting. -/
def fieldCode : PrefixCode UInt8 Field where
  enc := Field.encode
  unique f g x y h := by
    simp only [Field.encode, List.append_assoc] at h
    obtain ⟨hkey, hpayload⟩ := varintCode.unique _ _ _ _ h
    -- the key is the number and the wire type
    have hf := f.payload.wireType_lt
    have hg := g.payload.wireType_lt
    have hnumber : f.number = g.number := by omega
    have htype : f.payload.wireType = g.payload.wireType := by omega
    obtain ⟨hsame, htail⟩ := Payload.encode_unique htype hpayload
    refine ⟨?_, htail⟩
    cases f
    cases g
    simp_all

theorem Field.encode_ne_nil (f : Field) : f.encode ≠ [] := by
  intro h
  exact varint_ne_nil _ (List.append_eq_nil_iff.mp h).1

/-! ## Messages -/

/-- Fields one after another. -/
def encode (fields : List Field) : Bytes :=
  fields.flatMap Field.encode

/-- **Unambiguous**: the bytes tell the fields. -/
theorem encode_injective : Function.Injective encode :=
  fieldCode.flatMap_injective Field.encode_ne_nil

@[simp] theorem encode_nil : encode [] = [] := rfl

def stringPayload (bytes : Bytes) : Option Payload :=
  if bytes = [] then none else some (.lengthDelimited bytes)

/-- A number, when it is not the default. -/
def varintPayload (n : Nat) : Option Payload :=
  if n = 0 then none else some (.varint n)

/-- A message, when there is one; it may be empty. -/
def messagePayload (message : Option (List Field)) : Option Payload :=
  message.map fun fields => .lengthDelimited (encode fields)

/-- Fields that are there or not, numbered from the first argument on. -/
def numbered : Nat → List (Option Payload) → List Field
  | _, [] => []
  | number, none :: payloads => numbered (number + 1) payloads
  | number, some payload :: payloads =>
    { number := number, payload := payload } :: numbered (number + 1) payloads

/-- Repeated strings, with the empty ones. -/
def repeatedField (number : Nat) (values : List Bytes) : List Field :=
  values.map fun bytes => { number := number, payload := .lengthDelimited bytes }

/-! ## Fields by number -/

def payloadAt (fields : List Field) (number : Nat) : Option Payload :=
  (fields.find? fun f => f.number = number).map Field.payload

/-- The numbers go up. -/
def Ordered (fields : List Field) : Prop :=
  fields.Pairwise fun f g => f.number < g.number

theorem le_number_of_mem_numbered {number : Nat} {payloads : List (Option Payload)} {f : Field}
    (h : f ∈ numbered number payloads) : number ≤ f.number := by
  induction payloads generalizing number with
  | nil => cases h
  | cons payload payloads ih =>
    cases payload with
    | none => exact Nat.le_of_succ_le (ih h)
    | some payload =>
      rcases List.mem_cons.mp h with rfl | hrest
      · exact Nat.le_refl _
      · exact Nat.le_of_succ_le (ih hrest)

theorem ordered_numbered (number : Nat) (payloads : List (Option Payload)) :
    Ordered (numbered number payloads) := by
  induction payloads generalizing number with
  | nil => exact .nil
  | cons payload payloads ih =>
    cases payload with
    | none => exact ih (number + 1)
    | some payload =>
      apply List.pairwise_cons.mpr
      exact ⟨fun f hf => le_number_of_mem_numbered hf, ih (number + 1)⟩

/-- Where the numbers go up, each number stands for one field. -/
theorem Ordered.mem_iff {fields : List Field} (h : Ordered fields) (f : Field) :
    f ∈ fields ↔ payloadAt fields f.number = some f.payload := by
  induction fields with
  | nil => simp [payloadAt]
  | cons g fields ih =>
    obtain ⟨hfirst, hrest⟩ := List.pairwise_cons.mp h
    have htail := ih hrest
    rw [List.mem_cons, payloadAt, List.find?_cons]
    by_cases hnumber : g.number = f.number
    · -- the first field has this number, and no other one
      simp only [hnumber, decide_true, Option.map_some, Option.some.injEq]
      -- fields are in the order of their numbers, so a second one with this number cannot follow
      constructor
      · rintro (rfl | hmem)
        · rfl
        · exact absurd (hfirst f hmem) (by omega)
      · intro hpayload
        left
        cases f
        cases g
        simp_all
    · have hne : f ≠ g := by
        rintro rfl
        exact hnumber rfl
      simp only [hnumber, decide_false, hne, false_or]
      exact htail

/-- Fields in order are told by what is under each number. -/
theorem Ordered.ext {fields more : List Field} (hfields : Ordered fields) (hmore : Ordered more)
    (h : ∀ number, payloadAt fields number = payloadAt more number) : fields = more := by
  have hnodup : ∀ {l : List Field}, Ordered l → l.Nodup := by
    intro l hl
    refine hl.imp ?_
    rintro f g hlt rfl
    exact Nat.lt_irrefl _ hlt
  -- the same payloads make the same fields, and there is one order of them
  have hperm : fields.Perm more := by
    apply (List.perm_ext_iff_of_nodup (hnodup hfields) (hnodup hmore)).mpr
    intro f
    rw [hfields.mem_iff, hmore.mem_iff, h]
  refine hperm.eq_of_pairwise ?_ hfields hmore
  intro f g _ _ hfg hgf
  exact absurd hfg (Nat.not_lt_of_lt hgf)

example : encode (numbered 1 [varintPayload 300, none, stringPayload [116]]) = [8, 172, 2, 26, 1, 116] := by decide

end AgentGovernance.Lib.Protobuf
