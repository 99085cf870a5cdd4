import AgentGovernance.Lib.Lines
import Mathlib.Data.List.Basic

/-!
# Standard base64

The padded base64 alphabet with strict decoding: a text is accepted only when it
is a sequence of complete groups, padded in the last one at most, whose unused
bits are zero.
-/

namespace AgentGovernance.Lib.Base64

/-- The symbol of a 6-bit value: upper case, lower case, digits, plus and solidus. -/
def symbol (n : Nat) : Char :=
  if n < 26 then Char.ofNat (65 + n)
  else if n < 52 then Char.ofNat (71 + n)
  else if n < 62 then Char.ofNat (n - 4)
  else if n = 62 then '+'
  else '/'

/-- The 6-bit value of a symbol. -/
def value (c : Char) : Option Nat :=
  let n := c.toNat
  if 65 ≤ n ∧ n ≤ 90 then some (n - 65)
  else if 97 ≤ n ∧ n ≤ 122 then some (n - 71)
  else if 48 ≤ n ∧ n ≤ 57 then some (n + 4)
  else if n = 43 then some 62
  else if n = 47 then some 63
  else none

/-- Groups of three bytes become four symbols; a last group of one or two bytes is padded. -/
def encode : Bytes → List Char
  | [] => []
  | [a] => [symbol (a.toNat / 4), symbol (a.toNat % 4 * 16), '=', '=']
  | [a, b] => [symbol (a.toNat / 4), symbol (a.toNat % 4 * 16 + b.toNat / 16),
      symbol (b.toNat % 16 * 4), '=']
  | a :: b :: c :: rest =>
    symbol (a.toNat / 4) :: symbol (a.toNat % 4 * 16 + b.toNat / 16) ::
      symbol (b.toNat % 16 * 4 + c.toNat / 64) :: symbol (c.toNat % 64) :: encode rest

/-- The bytes of a padded last group. -/
def decodeLast (p q : Nat) : Option Nat → Option Bytes
  | none => if q % 16 = 0 then some [UInt8.ofNat (p * 4 + q / 16)] else none
  | some r =>
    if r % 4 = 0 then
      some [UInt8.ofNat (p * 4 + q / 16), UInt8.ofNat (q % 16 * 16 + r / 4)]
    else none

/-- The three bytes of a complete group. -/
def group (p q r s : Nat) : Bytes :=
  [UInt8.ofNat (p * 4 + q / 16), UInt8.ofNat (q % 16 * 16 + r / 4), UInt8.ofNat (r % 4 * 64 + s)]

def decode : List Char → Option Bytes
  | [] => some []
  | p :: q :: r :: s :: rest =>
    if s = '=' then
      if rest ≠ [] then none
      else if r = '=' then do decodeLast (← value p) (← value q) none
      else do decodeLast (← value p) (← value q) (some (← value r))
    else do
      let front := group (← value p) (← value q) (← value r) (← value s)
      let back ← decode rest
      some (front ++ back)
  | _ => none

/-! ## Round trip -/

theorem value_symbol : ∀ n < 64, value (symbol n) = some n := by
  decide

theorem symbol_ne_padding : ∀ n < 64, symbol n ≠ '=' := by
  decide

theorem ofNat_eq {a : UInt8} {n : Nat} (h : n = a.toNat) : UInt8.ofNat n = a := by
  rw [h, UInt8.ofNat_toNat]

/-- A complete group is decoded to the bytes it was made of. -/
theorem group_encode (a b c : UInt8) :
    group (a.toNat / 4) (a.toNat % 4 * 16 + b.toNat / 16) (b.toNat % 16 * 4 + c.toNat / 64)
      (c.toNat % 64) = [a, b, c] := by
  have ha : a.toNat < 256 := a.toNat_lt
  have hb : b.toNat < 256 := b.toNat_lt
  have hc : c.toNat < 256 := c.toNat_lt
  unfold group
  rw [ofNat_eq (a := a) (by omega), ofNat_eq (a := b) (by omega), ofNat_eq (a := c) (by omega)]

/-- **Round trip.** Decoding undoes encoding. -/
theorem decode_encode (bs : Bytes) : decode (encode bs) = some bs := by
  induction bs using encode.induct with
  | case1 => rfl
  | case2 a =>
    -- each group of bits is below 64, so the symbols are read back
    have ha : a.toNat < 256 := a.toNat_lt
    simp only [encode, decode, value_symbol _ (show a.toNat / 4 < 64 by omega),
      value_symbol _ (show a.toNat % 4 * 16 < 64 by omega), decodeLast, Option.bind_eq_bind,
      Option.bind_some, ne_eq, not_true_eq_false, if_true, if_false]
    rw [if_pos (by omega), ofNat_eq (a := a) (by omega)]
  | case3 a b =>
    -- two bytes and one padding symbol: the four bits left over are zero
    have ha : a.toNat < 256 := a.toNat_lt
    have hb : b.toNat < 256 := b.toNat_lt
    have hr : b.toNat % 16 * 4 < 64 := by omega
    simp only [encode, decode, value_symbol _ (show a.toNat / 4 < 64 by omega),
      value_symbol _ (show a.toNat % 4 * 16 + b.toNat / 16 < 64 by omega), value_symbol _ hr,
      symbol_ne_padding _ hr, decodeLast, Option.bind_eq_bind, Option.bind_some, ne_eq,
      not_true_eq_false, if_true, if_false]
    rw [if_pos (by omega), ofNat_eq (a := a) (by omega), ofNat_eq (a := b) (by omega)]
  | case4 a b c rest ih =>
    -- a whole group of three bytes, and the rest by induction
    have ha : a.toNat < 256 := a.toNat_lt
    have hb : b.toNat < 256 := b.toNat_lt
    have hc : c.toNat < 256 := c.toNat_lt
    have hs : c.toNat % 64 < 64 := by omega
    simp only [encode, decode, value_symbol _ (show a.toNat / 4 < 64 by omega),
      value_symbol _ (show a.toNat % 4 * 16 + b.toNat / 16 < 64 by omega),
      value_symbol _ (show b.toNat % 16 * 4 + c.toNat / 64 < 64 by omega), value_symbol _ hs,
      symbol_ne_padding _ hs, Option.bind_eq_bind, Option.bind_some, if_false, ih, group_encode]
    rfl

/-- Decoding a text; `none` is a decoding error. -/
def decodeText (s : String) : Option Bytes :=
  decode s.toList

/-- The text of a byte string. -/
def encodeText (bs : Bytes) : String :=
  String.ofList (encode bs)

theorem decodeText_encodeText (bs : Bytes) : decodeText (encodeText bs) = some bs := by
  rw [decodeText, encodeText, String.toList_ofList, decode_encode]

example : encodeText [102, 111, 111, 98] = "Zm9vYg==" := by decide

/-- A visible ASCII character. -/
def IsVisible (c : Char) : Prop :=
  32 ≤ c.toNat ∧ c.toNat < 127

instance (c : Char) : Decidable (IsVisible c) :=
  inferInstanceAs (Decidable (_ ∧ _))

theorem isVisible_symbol (n : Nat) : IsVisible (symbol n) := by
  have hsmall : ∀ n < 63, IsVisible (symbol n) := by decide
  by_cases hn : n < 63
  · exact hsmall n hn
  · -- the last symbol stands for all larger numbers
    have hlast : symbol n = '/' := by
      simp [symbol, show ¬ n < 26 by omega, show ¬ n < 52 by omega, show ¬ n < 62 by omega,
        show n ≠ 62 by omega]
    rw [hlast]
    decide

/-- The text of a byte string is visible ASCII. -/
theorem isVisible_of_mem_encode {bs : Bytes} {ch : Char} (h : ch ∈ encode bs) : IsVisible ch := by
  have hpadding : IsVisible '=' := by decide
  -- the cases are those of the encoder: the last group has up to two padding symbols
  induction bs using encode.induct with
  | case1 => cases h
  | case2 a =>
    simp only [encode, List.mem_cons, List.not_mem_nil, or_false] at h
    rcases h with rfl | rfl | rfl | rfl
    · apply isVisible_symbol
    · apply isVisible_symbol
    · exact hpadding
    · exact hpadding
  | case3 a b =>
    simp only [encode, List.mem_cons, List.not_mem_nil, or_false] at h
    rcases h with rfl | rfl | rfl | rfl
    · apply isVisible_symbol
    · apply isVisible_symbol
    · apply isVisible_symbol
    · exact hpadding
  | case4 a b c rest ih =>
    simp only [encode, List.mem_cons] at h
    rcases h with rfl | rfl | rfl | rfl | hrest
    · apply isVisible_symbol
    · apply isVisible_symbol
    · apply isVisible_symbol
    · apply isVisible_symbol
    · exact ih hrest

/-! ## The URL-safe alphabet -/

/-- Hyphen and low line in place of plus and solidus, and no padding. -/
def urlSafe : Char → Option Char
  | '+' => some '-'
  | '/' => some '_'
  | '=' => none
  | c => some c

/-- The text of a byte string in the URL-safe alphabet, without padding. -/
def encodeUrlText (bs : Bytes) : String :=
  String.ofList ((encode bs).filterMap urlSafe)

example : encodeUrlText [251, 255, 254, 102] = "-__-Zg" := by decide

end AgentGovernance.Lib.Base64
