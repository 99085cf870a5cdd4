import AgentGovernance.Lib.Lines
import Mathlib.Logic.Function.Basic

/-!
# Hexadecimal texts

Lower-case hexadecimal, two digits for each byte.
-/

namespace AgentGovernance.Lib

/-- The two digits of a byte. -/
def hexByte (b : UInt8) : List Char :=
  [Nat.digitChar (b.toNat / 16), Nat.digitChar (b.toNat % 16)]

/-- The digits of a byte string. -/
def hexDigits (bs : Bytes) : List Char :=
  bs.flatMap hexByte

/-- The hexadecimal text of a byte string. -/
def hexEncode (bs : Bytes) : String :=
  String.ofList (hexDigits bs)

theorem digitChar_injective : ∀ m < 16, ∀ n < 16, Nat.digitChar m = Nat.digitChar n → m = n := by
  decide

theorem digitChar_ne_of_hex : ∀ n < 16, Nat.digitChar n ≠ 'g' ∧ Nat.digitChar n ≠ '-' := by
  decide

theorem hexByte_injective {a b : UInt8} (h : hexByte a = hexByte b) : a = b := by
  have ha : a.toNat < 256 := a.toNat_lt
  have hb : b.toNat < 256 := b.toNat_lt
  simp only [hexByte, List.cons.injEq, and_true] at h
  have hhi := digitChar_injective _ (by omega) _ (by omega) h.1
  have hlo := digitChar_injective _ (by omega) _ (by omega) h.2
  exact UInt8.toNat_inj.mp (by omega)

theorem hexDigits_append (as bs : Bytes) :
    hexDigits (as ++ bs) = hexDigits as ++ hexDigits bs := by
  simp [hexDigits]

theorem hexDigits_injective : Function.Injective hexDigits := by
  intro as
  induction as with
  | nil =>
    intro bs h
    cases bs with
    | nil => rfl
    | cons b bs => simp [hexDigits, hexByte] at h
  | cons a as ih =>
    intro bs h
    cases bs with
    | nil => simp [hexDigits, hexByte] at h
    | cons b bs =>
      -- each byte has two digits, so the texts split at the same place
      simp only [hexDigits, List.flatMap_cons] at h
      obtain ⟨hab, htail⟩ := List.append_inj h rfl
      rw [hexByte_injective hab, ih htail]

theorem hexEncode_injective : Function.Injective hexEncode := by
  intro as bs h
  exact hexDigits_injective (String.ofList_inj.mp h)

/-- Every character is a hexadecimal digit, so none is a hyphen or the letter g. -/
theorem ne_of_mem_hexDigits {bs : Bytes} {c : Char} (hc : c ∈ hexDigits bs) :
    c ≠ 'g' ∧ c ≠ '-' := by
  obtain ⟨b, -, hb⟩ := List.mem_flatMap.mp hc
  have hlt : b.toNat < 256 := b.toNat_lt
  simp only [hexByte, List.mem_cons, List.not_mem_nil, or_false] at hb
  rcases hb with rfl | rfl
  · exact digitChar_ne_of_hex _ (by omega)
  · exact digitChar_ne_of_hex _ (by omega)

/-- A text with a letter g in it is not hexadecimal. -/
theorem hexEncode_ne {bs : Bytes} {s : String} (hs : 'g' ∈ s.toList) : hexEncode bs ≠ s := by
  rintro rfl
  rw [hexEncode, String.toList_ofList] at hs
  exact (ne_of_mem_hexDigits hs).1 rfl

end AgentGovernance.Lib
