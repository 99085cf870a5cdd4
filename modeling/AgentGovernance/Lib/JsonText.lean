import AgentGovernance.Lib.PrefixCode
import AgentGovernance.Lib.TextCodec
import Mathlib.Data.List.Lemmas
import Std.Data.String.ToNat
import Std.Data.String.ToInt

/-!
# JSON texts as self-delimiting codes

The compact JSON text of strings, numbers and objects, written character by
character, and its UTF-8 bytes.  `PrefixCode.toTextCodec` turns a code whose
texts hold no control character into a `TextCodec`, so a record type whose JSON
text is put together from these pieces has all the laws of a line serializer.
-/

namespace AgentGovernance.Lib

/-! ## UTF-8 -/

/-- The UTF-8 bytes of a character. -/
def utf8 : PrefixCode UInt8 Char where
  enc := String.utf8EncodeChar
  unique a b x y h := by
    have hbytes : (String.utf8EncodeChar a).toByteArray ++ x.toByteArray =
        (String.utf8EncodeChar b).toByteArray ++ y.toByteArray := by
      rw [← List.toByteArray_append, ← List.toByteArray_append, h]
    have hdec : some a = some b := by
      rw [← ByteArray.utf8DecodeChar?_utf8EncodeChar_append (b := x.toByteArray), hbytes,
        ByteArray.utf8DecodeChar?_utf8EncodeChar_append]
    obtain rfl := Option.some.inj hdec
    exact ⟨rfl, List.append_cancel_left h⟩

def stringBytes (s : String) : Bytes :=
  s.toList.flatMap utf8.enc

theorem stringBytes_injective : Function.Injective stringBytes := by
  intro s t h
  have hne : ∀ c : Char, utf8.enc c ≠ [] := by
    intro c hc
    have hpos : 0 < (String.utf8EncodeChar c).length := by
      rw [String.length_utf8EncodeChar]
      exact c.utf8Size_pos
    rw [show String.utf8EncodeChar c = [] from hc] at hpos
    exact absurd hpos (by simp)
  exact String.toList_inj.mp (utf8.flatMap_injective hne h)

/-- An ASCII byte occurs in the encoding of a character only as that ASCII character. -/
theorem mem_utf8_ascii {c : Char} {b : UInt8} (hb : b ∈ utf8.enc c) (hlt : b.toNat < 128) :
    c.toNat = b.toNat := by
  change b ∈ String.utf8EncodeChar c at hb
  have hc : c.val.toNat < 2 ^ 32 := c.val.toNat_lt
  rw [String.utf8EncodeChar] at hb
  -- one case for each length of the encoding; all bytes of the longer ones are 128 or more
  split at hb
  · next h =>
    obtain rfl := List.mem_singleton.mp hb
    simp only [UInt8.toNat_ofNat', Char.toNat] at *
    omega
  · split at hb
    · simp only [List.mem_cons, List.not_mem_nil, or_false] at hb
      rcases hb with rfl | rfl <;> simp [UInt8.toNat_ofNat', UInt8.toNat_add] at hlt <;> omega
    · split at hb
      · simp only [List.mem_cons, List.not_mem_nil, or_false] at hb
        rcases hb with rfl | rfl | rfl <;>
          simp [UInt8.toNat_ofNat', UInt8.toNat_add] at hlt <;> omega
      · simp only [List.mem_cons, List.not_mem_nil, or_false] at hb
        rcases hb with rfl | rfl | rfl | rfl <;>
          simp [UInt8.toNat_ofNat', UInt8.toNat_add] at hlt <;> omega

/-! ## JSON tokens -/

def quote : Char := Char.ofNat 34

/-- The reverse solidus, which starts an escape. -/
def backslash : Char := Char.ofNat 92

/-- A string is told apart from an object by its first character. -/
theorem quote_not_brace : ¬ [quote] <+: ['{'] := by decide

theorem brace_not_quote : ¬ ['{'] <+: [quote] := by decide

/-- The letter of a two-character escape. -/
def escapeLetter (c : Char) : Option Char :=
  match c.toNat with
  | 34 => some quote
  | 92 => some backslash
  | 8 => some 'b'
  | 9 => some 't'
  | 10 => some 'n'
  | 12 => some 'f'
  | 13 => some 'r'
  | _ => none

/-- The text of one character inside a JSON string. -/
def escape (c : Char) : List Char :=
  match escapeLetter c with
  | some l => [backslash, l]
  | none =>
    if c.toNat < 32 then
      [backslash, 'u', '0', '0', Nat.digitChar (c.toNat / 16), Nat.digitChar (c.toNat % 16)]
    else [c]

/-- Two hexadecimal digits determine a control character. -/
theorem hexPair_injective : ∀ m < 32, ∀ n < 32,
    Nat.digitChar (m / 16) = Nat.digitChar (n / 16) →
    Nat.digitChar (m % 16) = Nat.digitChar (n % 16) → m = n := by
  decide

theorem digitChar_printable : ∀ n < 16, 32 ≤ (Nat.digitChar n).toNat := by
  decide

/-- The characters with a two-character escape, and their letters. -/
theorem escapeLetter_mem {c l : Char} (h : escapeLetter c = some l) :
    (c.toNat, l) ∈ [(34, quote), (92, backslash), (8, 'b'), (9, 't'), (10, 'n'), (12, 'f'),
      (13, 'r')] := by
  unfold escapeLetter at h
  split at h <;> cases h <;> simp_all

theorem escapeLetter_printable {c l : Char} (h : escapeLetter c = some l) :
    32 ≤ l.toNat ∧ l ≠ 'u' := by
  have hmem := escapeLetter_mem h
  simp only [List.mem_cons, Prod.mk.injEq, List.not_mem_nil, or_false] at hmem
  rcases hmem with h | h | h | h | h | h | h <;> rw [h.2] <;> decide

theorem escapeLetter_injective {c d l : Char} (hc : escapeLetter c = some l)
    (hd : escapeLetter d = some l) : c = d := by
  have hletters : ∀ p ∈ [(34, quote), (92, backslash), (8, 'b'), (9, 't'), (10, 'n'), (12, 'f'),
      (13, 'r')], ∀ q ∈ [(34, quote), (92, backslash), (8, 'b'), (9, 't'), (10, 'n'), (12, 'f'),
      (13, 'r')], p.2 = q.2 → p.1 = q.1 := by decide
  exact Char.toNat_inj.mp (hletters _ (escapeLetter_mem hc) _ (escapeLetter_mem hd) rfl)

/-- A character without an escape letter is no quotation mark and no reverse solidus. -/
theorem ne_of_escapeLetter_eq_none {c : Char} (h : escapeLetter c = none) :
    c ≠ quote ∧ c ≠ backslash := by
  constructor <;> rintro rfl <;> simp [escapeLetter, quote, backslash] at h

/-- The three shapes of an escaped character. -/
theorem escape_cases (c : Char) :
    (∃ l, escapeLetter c = some l ∧ escape c = [backslash, l]) ∨
    (c.toNat < 32 ∧ escape c = [backslash, 'u', '0', '0', Nat.digitChar (c.toNat / 16),
      Nat.digitChar (c.toNat % 16)]) ∨
    (c ≠ quote ∧ c ≠ backslash ∧ 32 ≤ c.toNat ∧ escape c = [c]) := by
  unfold escape
  cases hl : escapeLetter c with
  | some l => exact .inl ⟨l, rfl, rfl⟩
  | none =>
    -- no escape letter, so neither the quote nor the backslash
    obtain ⟨hq, hb⟩ := ne_of_escapeLetter_eq_none hl
    by_cases hc : c.toNat < 32
    · exact .inr (.inl ⟨hc, if_pos hc⟩)
    · exact .inr (.inr ⟨hq, hb, by omega, if_neg hc⟩)

/-- The characters of a JSON string, one at a time. -/
def jsonChar : PrefixCode Char Char where
  enc := escape
  unique a b x y h := by
    rcases escape_cases a with ⟨l, hl, ea⟩ | ⟨ha, ea⟩ | ⟨-, ha, -, ea⟩ <;>
    rcases escape_cases b with ⟨m, hm, eb⟩ | ⟨hb, eb⟩ | ⟨-, hb, -, eb⟩ <;>
    rw [ea, eb] at h <;>
    simp only [List.cons_append, List.nil_append, List.cons.injEq, true_and] at h
    · obtain ⟨rfl, hxy⟩ := h
      exact ⟨escapeLetter_injective hl hm, hxy⟩
    · exact absurd h.1 (escapeLetter_printable hl).2
    · exact absurd h.1.symm hb
    · exact absurd h.1.symm (escapeLetter_printable hm).2
    · obtain ⟨h₁, h₂, h₃⟩ := h
      exact ⟨Char.toNat_inj.mp (hexPair_injective _ ha _ hb h₁ h₂), h₃⟩
    · exact absurd h.1.symm hb
    · exact absurd h.1 ha
    · exact absurd h.1 ha
    · exact h

/-- The code of a JSON string: escaped characters between quotation marks. -/
def jsonString : PrefixCode Char String :=
  (((jsonChar.many [quote] (by
      intro c x y h
      have hqb : backslash ≠ quote := by decide
      rcases escape_cases c with ⟨l, -, e⟩ | ⟨-, e⟩ | ⟨hc, -, -, e⟩ <;>
      simp only [jsonChar, e, List.cons_append, List.nil_append, List.cons.injEq] at h
      · exact hqb h.1
      · exact hqb h.1
      · exact hc h.1)).tagged [quote])).comap String.toList (fun _ _ => String.toList_inj.mp)

/-- The text in front of a field of an object; the opening character is a brace or a comma. -/
def objectKey (opening : Char) (name : String) : List Char :=
  opening :: quote :: (name.toList ++ [quote, ':'])

/-- Decimal digits, filled up with zeros on the left. -/
def padded (w n : Nat) : List Char :=
  List.replicate (w - (Nat.toDigits 10 n).length) '0' ++ Nat.toDigits 10 n

theorem isDigit_of_mem_padded {w n : Nat} {c : Char} (h : c ∈ padded w n) : c.isDigit = true := by
  rcases List.mem_append.mp h with h | h
  · rw [List.eq_of_mem_replicate h]
    rfl
  · exact Nat.isDigit_of_mem_toDigits (by decide) (by decide) h

theorem ofDigitChars_padded (w n : Nat) : Nat.ofDigitChars 10 (padded w n) 0 = n := by
  rw [padded, Nat.ofDigitChars_append, Nat.ofDigitChars_replicate_zero, Nat.mul_zero,
    Nat.ofDigitChars_ten_toDigits]

/-- Digits are cut off at the first character that is none. -/
theorem cut_digits {s t x y : List Char} {b c : Char} (hs : ∀ d ∈ s, d.isDigit = true)
    (ht : ∀ d ∈ t, d.isDigit = true) (hb : b.isDigit = false) (hc : c.isDigit = false)
    (h : s ++ b :: x = t ++ c :: y) : s = t ∧ b = c ∧ x = y := by
  have hcut : ∀ (s x : List Char) (b : Char), (∀ d ∈ s, d.isDigit = true) → b.isDigit = false →
      (s ++ b :: x).takeWhile Char.isDigit = s := by
    intro s x b hs hb
    rw [List.takeWhile_append_of_pos hs, List.takeWhile_cons_of_neg (by simp [hb]),
      List.append_nil]
  have hst : s = t := by rw [← hcut s x b hs hb, h, hcut t y c ht hc]
  subst hst
  exact ⟨rfl, List.cons.inj (List.append_cancel_left h)⟩

/-- A number of at least `w` digits, ended by a character that is no digit. -/
def number (w : Nat) (stop : Char) (hstop : stop.isDigit = false) : PrefixCode Char Nat where
  enc n := padded w n ++ [stop]
  unique m n x y h := by
    rw [List.append_assoc, List.append_assoc] at h
    obtain ⟨hmn, -, hxy⟩ := cut_digits (fun _ => isDigit_of_mem_padded)
      (fun _ => isDigit_of_mem_padded) hstop hstop h
    exact ⟨by rw [← ofDigitChars_padded w m, hmn, ofDigitChars_padded], hxy⟩

/-- A value or `null`; the text of a value does not start like `null`. -/
def nullable {α : Type} (c : PrefixCode Char α) (hc : ∀ a x y, c.enc a ++ x ≠ 'n' :: y) :
    PrefixCode Char (Option α) :=
  ((PrefixCode.const "null".toList).either c (fun _ b x y h => hc b y _ h.symm)).comap
    (fun | none => .inl () | some a => .inr a) (fun a b h => by
      cases a <;> cases b <;> simp_all)

/-- The first element of a list, and the others. -/
def uncons {α : Type} : List α → Unit ⊕ (α × List α)
  | [] => .inl ()
  | a :: as => .inr (a, as)

theorem uncons_injective {α : Type} : Function.Injective (uncons (α := α)) := by
  intro a b h
  cases a <;> cases b <;> simp_all [uncons]

/-- An array; the text of an element does not start with a closing bracket. -/
def jsonArray {α : Type} (c : PrefixCode Char α) (hc : ∀ a x y, c.enc a ++ x ≠ ']' :: y) :
    PrefixCode Char (List α) :=
  ((PrefixCode.const ['[', ']']).either
    ((c.tagged ['[']).pair ((c.tagged [',']).many [']'] (fun _ _ _ h => by
      simp [PrefixCode.tagged] at h)))
    (fun _ p x y h => by
      simp only [PrefixCode.const, PrefixCode.pair, PrefixCode.tagged, List.cons_append,
        List.nil_append, List.append_assoc, List.cons.injEq, true_and] at h
      exact hc p.1 _ x h.symm)).comap uncons uncons_injective

theorem jsonString_ne_null (s : String) (x y : List Char) : jsonString.enc s ++ x ≠ 'n' :: y := by
  intro h
  have hq : quote ≠ 'n' := by decide
  exact hq (List.cons.inj h).1

theorem jsonString_ne_bracket (s : String) (x y : List Char) :
    jsonString.enc s ++ x ≠ ']' :: y := by
  intro h
  have hq : quote ≠ ']' := by decide
  exact hq (List.cons.inj h).1

/-- A closing brace ends a number. -/
theorem isDigit_brace : '}'.isDigit = false := rfl

/-! ## From codes to line serializers -/

/-- A text without control characters. -/
def printable (t : List Char) : Bool :=
  t.all fun ch => 32 ≤ ch.toNat

theorem of_mem_printable {t : List Char} (ht : printable t = true) {ch : Char} (h : ch ∈ t) :
    32 ≤ ch.toNat :=
  of_decide_eq_true (List.all_eq_true.mp ht ch h)

/-- A code whose texts hold no control character. -/
def PrefixCode.Printable {α : Type} (c : PrefixCode Char α) : Prop :=
  ∀ a, ∀ ch ∈ c.enc a, 32 ≤ ch.toNat

namespace PrefixCode.Printable

variable {α β : Type} {c : PrefixCode Char α} {d : PrefixCode Char β}

theorem const {t : List Char} (ht : printable t = true) : (PrefixCode.const t).Printable :=
  fun _ _ hch => of_mem_printable ht hch

theorem tagged (hc : c.Printable) {t : List Char} (ht : printable t = true) :
    (c.tagged t).Printable := by
  intro a ch hch
  rcases List.mem_append.mp hch with h | h
  exacts [of_mem_printable ht h, hc a ch h]

theorem ended (hc : c.Printable) {t : List Char} (ht : printable t = true) :
    (c.ended t).Printable := by
  intro a ch hch
  rcases List.mem_append.mp hch with h | h
  exacts [hc a ch h, of_mem_printable ht h]

theorem pair (hc : c.Printable) (hd : d.Printable) : (c.pair d).Printable := by
  intro p ch hch
  rcases List.mem_append.mp hch with h | h
  exacts [hc p.1 ch h, hd p.2 ch h]

theorem choice (hc : c.Printable) (hd : d.Printable) {t u : List Char} (htu : ¬ t <+: u)
    (hut : ¬ u <+: t) (ht : printable t = true) (hu : printable u = true) :
    (PrefixCode.choice t u htu hut c d).Printable
  | .inl a => hc.tagged ht a
  | .inr b => hd.tagged hu b

theorem either (hc : c.Printable) (hd : d.Printable)
    (hcd : ∀ a b x y, c.enc a ++ x ≠ d.enc b ++ y) : (c.either d hcd).Printable
  | .inl a => hc a
  | .inr b => hd b

theorem many (hc : c.Printable) {stop : List Char}
    (hstop : ∀ a x y, c.enc a ++ x ≠ stop ++ y) (hs : printable stop = true) :
    (c.many stop hstop).Printable := by
  intro as ch hch
  rcases List.mem_append.mp hch with h | h
  · obtain ⟨a, -, ha⟩ := List.mem_flatMap.mp h
    exact hc a ch ha
  · exact of_mem_printable hs h

theorem comap (hc : c.Printable) (f : β → α) (hf : Function.Injective f) :
    (c.comap f hf).Printable :=
  fun b => hc (f b)

end PrefixCode.Printable

theorem jsonString_printable : jsonString.Printable := by
  intro s ch hch
  have hq : 32 ≤ quote.toNat := by decide
  have hb : 32 ≤ backslash.toNat := by decide
  have hu : 32 ≤ 'u'.toNat ∧ 32 ≤ '0'.toNat := by decide
  simp only [jsonString, PrefixCode.comap, PrefixCode.tagged, PrefixCode.many,
    List.mem_append, List.mem_singleton, List.mem_flatMap, jsonChar] at hch
  rcases hch with rfl | ⟨c, -, hc⟩ | rfl
  · exact hq
  · -- an escape letter, a control character as four digits, or the character itself
    rcases escape_cases c with ⟨l, hl, e⟩ | ⟨hlt, e⟩ | ⟨-, -, hge, e⟩ <;>
    rw [e] at hc <;> simp only [List.mem_cons, List.not_mem_nil, or_false] at hc
    · rcases hc with rfl | rfl
      exacts [hb, (escapeLetter_printable hl).1]
    · have h₁ := digitChar_printable (c.toNat / 16) (by omega)
      have h₂ := digitChar_printable (c.toNat % 16) (by omega)
      rcases hc with rfl | rfl | rfl | rfl | rfl | rfl
      exacts [hb, hu.1, hu.2, hu.2, h₁, h₂]
    · rw [hc]
      exact hge
  · exact hq

theorem printable_of_isDigit {c : Char} (h : c.isDigit = true) : 32 ≤ c.toNat := by
  simp only [Char.isDigit, Bool.and_eq_true, decide_eq_true_eq, ge_iff_le] at h
  have h48 : (48 : UInt32).toNat ≤ c.val.toNat := UInt32.le_iff_toNat_le.mp h.1
  have h48' : (48 : UInt32).toNat = 48 := rfl
  change 32 ≤ c.val.toNat
  omega

theorem number_printable (w : Nat) (stop : Char) (hstop : stop.isDigit = false)
    (hge : 32 ≤ stop.toNat) : (number w stop hstop).Printable := by
  intro n ch hch
  rcases List.mem_append.mp hch with h | h
  · exact printable_of_isDigit (isDigit_of_mem_padded h)
  · rw [List.mem_singleton.mp h]
    exact hge

theorem nullable_printable {α : Type} {c : PrefixCode Char α} (hc : c.Printable)
    (hne : ∀ a x y, c.enc a ++ x ≠ 'n' :: y) : (nullable c hne).Printable :=
  .comap (.either (.const (by decide)) hc _) _ _

theorem jsonArray_printable {α : Type} {c : PrefixCode Char α} (hc : c.Printable)
    (hne : ∀ a x y, c.enc a ++ x ≠ ']' :: y) : (jsonArray c hne).Printable :=
  .comap (.either (.const (by decide))
    (.pair (.tagged hc (by decide)) (.many (.tagged hc (by decide)) _ (by decide))) _) _ _

/-- The bytes of a printable code fit on one line. -/
theorem PrefixCode.spell_lineSafe {α : Type} (c : PrefixCode Char α) (hc : c.Printable) (a : α) :
    LineSafe ((utf8.spell c).enc a) := by
  have hfree : ∀ b : UInt8, b.toNat < 32 → b ∉ (utf8.spell c).enc a := by
    intro b hb hmem
    obtain ⟨ch, hch, hbch⟩ := List.mem_flatMap.mp hmem
    have heq := mem_utf8_ascii hbch (by omega)
    have hge := hc a ch hch
    omega
  exact ⟨hfree newline (by decide), hfree carriageReturn (by decide)⟩

theorem PrefixCode.spell_ne_nil {α : Type} (c : PrefixCode Char α) (a : α) (hne : c.enc a ≠ []) :
    (utf8.spell c).enc a ≠ [] := by
  intro h
  obtain ⟨ch, cs, hs⟩ := List.exists_cons_of_ne_nil hne
  simp only [PrefixCode.spell, hs, List.flatMap_cons, List.append_eq_nil_iff] at h
  exact String.utf8EncodeChar_ne_nil h.1

open Classical in
/-- The line serializer of a printable code: a text is accepted when it is the text of a value. -/
noncomputable def PrefixCode.toTextCodec {α : Type} (c : PrefixCode Char α) (hc : c.Printable)
    (hne : ∀ a, c.enc a ≠ []) : TextCodec α where
  encode a := (utf8.spell c).enc a
  decode s := if h : ∃ a, (utf8.spell c).enc a = s then some h.choose else none
  decode_encode a := by
    have h : ∃ b, (utf8.spell c).enc b = (utf8.spell c).enc a := ⟨a, rfl⟩
    rw [dif_pos h]
    exact congrArg some ((utf8.spell c).enc_injective h.choose_spec)
  encode_lineSafe a := c.spell_lineSafe hc a
  encode_ne_nil a := c.spell_ne_nil a (hne a)
  decode_truncated a p hp hlt := by
    refine dif_neg ?_
    rintro ⟨b, rfl⟩
    exact hlt (by rw [(utf8.spell c).eq_of_isPrefix hp])
  decode_joined a b := by
    refine dif_neg ?_
    rintro ⟨d, hd⟩
    obtain rfl := (utf8.spell c).eq_of_isPrefix (a := a) (b := d) ⟨_, hd.symm⟩
    exact c.spell_ne_nil b (hne b) (List.self_eq_append_right.mp hd)

/-- What the serializer of a code rejects: a text with another text behind it. -/
theorem PrefixCode.toTextCodec_decode_trailing {α : Type} (c : PrefixCode Char α)
    (hc : c.Printable) (hne : ∀ a, c.enc a ≠ []) (a b : α) (rest : Bytes) :
    (c.toTextCodec hc hne).decode
      ((c.toTextCodec hc hne).encode a ++ (c.toTextCodec hc hne).encode b ++ rest) = none := by
  refine dif_neg ?_
  rintro ⟨d, hd⟩
  rw [List.append_assoc] at hd
  obtain rfl := (utf8.spell c).eq_of_isPrefix (a := a) (b := d) ⟨_, hd.symm⟩
  exact c.spell_ne_nil b (hne b) (List.append_eq_nil_iff.mp (List.self_eq_append_right.mp hd)).1

/-! ## Blank lines -/

def isWhitespace (c : Char) : Bool :=
  (9 ≤ c.toNat && c.toNat ≤ 13) || c.toNat = 32 || c.toNat = 133 || c.toNat = 160 ||
    c.toNat = 5760 || (8192 ≤ c.toNat && c.toNat ≤ 8202) || c.toNat = 8232 || c.toNat = 8233 ||
    c.toNat = 8239 || c.toNat = 8287 || c.toNat = 12288

/-- `line.trim().is_empty()`; a line that is not UTF-8 has no text. -/
def isBlank (line : Bytes) : Bool :=
  match String.fromUTF8? line.toByteArray with
  | none => false
  | some s => s.toList.all isWhitespace

/-- The bytes of a text that was read. -/
theorem stringBytes_fromUTF8 {line : Bytes} {s : String}
    (h : String.fromUTF8? line.toByteArray = some s) : stringBytes s = line := by
  unfold String.fromUTF8? at h
  split at h
  · obtain rfl := Option.some.inj h
    apply List.toByteArray_inj.mp
    show List.utf8Encode _ = _
    rw [String.utf8Encode_toList]
    rfl
  · cases h

def openBrace : UInt8 := 123

/-- A line that starts with a brace is not blank. -/
theorem not_isBlank_brace (line : Bytes) : isBlank (openBrace :: line) = false := by
  unfold isBlank
  split
  · rfl
  next s hs =>
    have hbytes : s.toList.flatMap utf8.enc = openBrace :: line := stringBytes_fromUTF8 hs
    cases hchars : s.toList with
    | nil =>
      rw [hchars] at hbytes
      cases hbytes
    | cons c cs =>
      -- the first character begins with the brace's byte, which is no part of a longer one
      rw [hchars, List.flatMap_cons] at hbytes
      have hmem : openBrace ∈ utf8.enc c := by
        cases henc : utf8.enc c with
        | nil => exact absurd henc String.utf8EncodeChar_ne_nil
        | cons b bs =>
          rw [henc] at hbytes
          rw [(List.cons.inj hbytes).1]
          exact List.mem_cons_self
      have hbrace : c.toNat = 123 := mem_utf8_ascii hmem (by decide)
      simp [isWhitespace, hbrace]

end AgentGovernance.Lib
