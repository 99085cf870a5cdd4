import AgentGovernance.Lib.Lines
import Mathlib.Data.List.Monad

/-!
# Line records

A `TextCodec` is what a program relies on when it stores values as one text line
each: writing and reading back is the identity, a text fits on a line, and a text
that was cut short or that runs into the next one is rejected.  These are facts
about the external serializer, so they are fields of the structure: every result
below holds for any serializer with these properties.
-/

namespace AgentGovernance.Lib

/-- A serializer and deserializer for values stored as one line each. -/
structure TextCodec (α : Type) where
  /-- The text of a value. -/
  encode : α → Bytes
  /-- Reading a text; `none` is a parse error. -/
  decode : Bytes → Option α
  decode_encode : ∀ a, decode (encode a) = some a
  encode_lineSafe : ∀ a, LineSafe (encode a)
  encode_ne_nil : ∀ a, encode a ≠ []
  /-- A text cut short is rejected. -/
  decode_truncated : ∀ a p, p <+: encode a → p ≠ encode a → decode p = none
  /-- Two texts on one line are rejected. -/
  decode_joined : ∀ a b, decode (encode a ++ encode b) = none

namespace TextCodec

variable {α : Type} (c : TextCodec α)

/-- The file that holds one line for each value. -/
def encodeLines (as : List α) : Bytes :=
  unlines (as.map c.encode)

/-- Reading a whole file; one bad line makes the read fail. -/
def decodeLines (file : Bytes) : Option (List α) :=
  (lines file).mapM c.decode

theorem encode_injective : Function.Injective c.encode := by
  intro a b h
  have hdecode := congrArg c.decode h
  rw [c.decode_encode, c.decode_encode] at hdecode
  exact Option.some.inj hdecode

theorem encodeLines_concat (as : List α) (a : α) :
    c.encodeLines (as ++ [a]) = c.encodeLines as ++ c.encode a ++ [newline] := by
  simp [encodeLines, unlines_concat]

theorem lineSafe_of_mem_map (as : List α) : ∀ l ∈ as.map c.encode, LineSafe l := by
  intro l hl
  obtain ⟨a, -, rfl⟩ := List.mem_map.mp hl
  exact c.encode_lineSafe a

/-- Reading delivers the written lines and then whatever the tail of the file holds. -/
theorem lines_encodeLines_append (as : List α) (rest : Bytes) :
    lines (c.encodeLines as ++ rest) = as.map c.encode ++ lines rest :=
  lines_unlines_append _ _ (c.lineSafe_of_mem_map as)

theorem lines_encodeLines (as : List α) : lines (c.encodeLines as) = as.map c.encode := by
  have h := c.lines_encodeLines_append as []
  rwa [List.append_nil, lines_nil, List.append_nil] at h

/-- One file is a prefix of another exactly when its values are. -/
theorem encodeLines_prefix_iff (as bs : List α) :
    c.encodeLines as <+: c.encodeLines bs ↔ as <+: bs := by
  constructor
  · rintro ⟨rest, hrest⟩
    have hlines := congrArg lines hrest
    rw [c.lines_encodeLines_append, c.lines_encodeLines] at hlines
    have hmap : as.map c.encode <+: bs.map c.encode := ⟨_, hlines⟩
    exact (List.prefix_map_iff_of_injective c.encode_injective).mp hmap
  · rintro ⟨back, rfl⟩
    exact ⟨c.encodeLines back, by simp [encodeLines, unlines]⟩

/-- Lines that are texts of listed values are the lines of such values. -/
theorem exists_values_of_lines {as : List α} {ls : List Bytes}
    (hls : ∀ l ∈ ls, l ∈ as.map c.encode) :
    ∃ bs : List α, ls = bs.map c.encode ∧ ∀ b ∈ bs, b ∈ as := by
  induction ls with
  | nil => exact ⟨[], rfl, by simp⟩
  | cons l ls ih =>
    obtain ⟨bs, rfl, hbs⟩ := ih fun m hm => hls m (List.mem_cons_of_mem _ hm)
    -- each line is the text of one of the values
    obtain ⟨a, ha, rfl⟩ := List.mem_map.mp (hls l List.mem_cons_self)
    refine ⟨a :: bs, rfl, ?_⟩
    intro b hb
    rcases List.mem_cons.mp hb with rfl | hb
    · exact ha
    · exact hbs b hb

theorem mapM_decode_map_encode (as : List α) :
    (as.map c.encode).mapM c.decode = some as := by
  induction as with
  | nil => rfl
  | cons a as ih => simp [List.mapM_cons, c.decode_encode, ih]

/-- **Round trip.** A file written line by line is read back as the same values. -/
theorem decodeLines_encodeLines (as : List α) :
    c.decodeLines (c.encodeLines as) = some as := by
  rw [decodeLines, c.lines_encodeLines, c.mapM_decode_map_encode]

/-- A line that does not parse anywhere in the file makes the whole read fail. -/
theorem decodeLines_eq_none_of_line (as : List α) (l rest : Bytes)
    (hl : c.decode l = none) (hmem : ∃ ls, lines rest = l :: ls) :
    c.decodeLines (c.encodeLines as ++ rest) = none := by
  obtain ⟨ls, hls⟩ := hmem
  rw [decodeLines, c.lines_encodeLines_append, hls, List.mapM_append,
    c.mapM_decode_map_encode, List.mapM_cons, hl]
  rfl

/-- A torn last line makes the read fail. -/
theorem decodeLines_torn (as : List α) (a : α) (p : Bytes) (hp : p <+: c.encode a)
    (hne : p ≠ []) (hlt : p ≠ c.encode a) :
    c.decodeLines (c.encodeLines as ++ p) = none := by
  have hsafe : LineSafe p := (c.encode_lineSafe a).mono hp
  exact c.decodeLines_eq_none_of_line as p p (c.decode_truncated a p hp hlt)
    ⟨[], lines_of_lineSafe p hsafe hne⟩

/-- A record written right behind one that lost its line feed makes the read fail. -/
theorem decodeLines_joined (as : List α) (a b : α) (rest : Bytes) :
    c.decodeLines (c.encodeLines as ++ (c.encode a ++ c.encode b ++ newline :: rest)) = none :=
  c.decodeLines_eq_none_of_line as (c.encode a ++ c.encode b) _ (c.decode_joined a b)
    ⟨lines rest, lines_line _ _ ((c.encode_lineSafe a).append (c.encode_lineSafe b))⟩

end TextCodec

end AgentGovernance.Lib
