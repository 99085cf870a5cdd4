import Mathlib.Data.List.Basic
import Mathlib.Logic.Function.Basic

/-!
# Self-delimiting codes

A `PrefixCode` writes values as words so that a word can be told apart from what
follows it.  Such codes are closed under constant prefixes, pairs, alternatives,
injective renaming and terminated repetition, which is how the text of a record
is put together field by field.

Over any alphabet; nothing here knows what the symbols are.
-/

namespace AgentGovernance.Lib

/-- A code whose words can be read off the front of a longer text. -/
structure PrefixCode (β α : Type) where
  /-- The word of a value. -/
  enc : α → List β
  /-- Two texts that start with a word agree on the word and on the rest. -/
  unique : ∀ a b x y, enc a ++ x = enc b ++ y → a = b ∧ x = y

namespace PrefixCode

variable {β γ α α₁ α₂ : Type}

/-! ## Consequences -/

theorem enc_injective (c : PrefixCode β α) : Function.Injective c.enc := by
  intro a b h
  exact (c.unique a b [] [] (by rw [h])).1

/-- No word is the beginning of another one. -/
theorem eq_of_isPrefix (c : PrefixCode β α) {a b : α} (h : c.enc a <+: c.enc b) : a = b := by
  obtain ⟨r, hr⟩ := h
  exact (c.unique a b r [] (by rw [hr, List.append_nil])).1

/-- Words of which none is empty can be written one after another without a stop. -/
theorem flatMap_injective (c : PrefixCode β α) (hne : ∀ a, c.enc a ≠ []) :
    Function.Injective fun as : List α => as.flatMap c.enc := by
  intro as
  induction as with
  | nil =>
    intro bs h
    cases bs with
    | nil => rfl
    | cons b bs => exact absurd (List.append_eq_nil_iff.mp h.symm).1 (hne b)
  | cons a as ih =>
    intro bs h
    cases bs with
    | nil => exact absurd (List.append_eq_nil_iff.mp h).1 (hne a)
    | cons b bs =>
      -- the first words agree, and so do the texts behind them
      obtain ⟨rfl, htail⟩ := c.unique a b _ _ h
      rw [ih htail]

/-! ## Building codes -/

/-- A code whose words are read back by a function. -/
def ofRead (enc : α → List β) (read : List β → Option (α × List β))
    (hread : ∀ a rest, read (enc a ++ rest) = some (a, rest)) : PrefixCode β α where
  enc := enc
  unique a b x y h := by
    have hsame := (hread a x).symm.trans ((congrArg read h).trans (hread b y))
    exact Prod.mk.inj (Option.some.inj hsame)

/-- A constant text in front of every word. -/
def tagged (t : List β) (c : PrefixCode β α) : PrefixCode β α where
  enc a := t ++ c.enc a
  unique a b x y h := by
    rw [List.append_assoc, List.append_assoc] at h
    exact c.unique a b x y (List.append_cancel_left h)

/-- The code of the one value whose word is a constant text. -/
def const (t : List β) : PrefixCode β Unit where
  enc _ := t
  unique _ _ _ _ h := ⟨rfl, List.append_cancel_left h⟩

/-- One word after another. -/
def pair (c : PrefixCode β α₁) (d : PrefixCode β α₂) : PrefixCode β (α₁ × α₂) where
  enc p := c.enc p.1 ++ d.enc p.2
  unique p q x y h := by
    rw [List.append_assoc, List.append_assoc] at h
    obtain ⟨h₁, h⟩ := c.unique _ _ _ _ h
    obtain ⟨h₂, h⟩ := d.unique _ _ _ _ h
    exact ⟨Prod.ext h₁ h₂, h⟩

/-- A constant text behind every word. -/
def ended (c : PrefixCode β α) (t : List β) : PrefixCode β α where
  enc a := c.enc a ++ t
  unique a b x y h := by
    rw [List.append_assoc, List.append_assoc] at h
    obtain ⟨hab, h⟩ := c.unique _ _ _ _ h
    exact ⟨hab, List.append_cancel_left h⟩

/-- The words of another type, through an injection. -/
def comap (c : PrefixCode β γ) (f : α → γ) (hf : Function.Injective f) : PrefixCode β α where
  enc a := c.enc (f a)
  unique a b x y h := by
    obtain ⟨hab, h⟩ := c.unique _ _ _ _ h
    exact ⟨hf hab, h⟩

/-- Words of two kinds that never start alike. -/
def either (c : PrefixCode β α₁) (d : PrefixCode β α₂)
    (hcd : ∀ a b x y, c.enc a ++ x ≠ d.enc b ++ y) : PrefixCode β (α₁ ⊕ α₂) where
  enc
    | .inl a => c.enc a
    | .inr b => d.enc b
  unique p q x y h := by
    match p, q, h with
    | .inl a, .inl b, h =>
      obtain ⟨hab, h⟩ := c.unique a b x y h
      exact ⟨by rw [hab], h⟩
    | .inr a, .inr b, h =>
      obtain ⟨hab, h⟩ := d.unique a b x y h
      exact ⟨by rw [hab], h⟩
    | .inl a, .inr b, h => exact absurd h (hcd a b x y)
    | .inr a, .inl b, h => exact absurd h.symm (hcd b a y x)

/-- Words of two kinds told apart by the constant text in front of them. -/
def choice (t u : List β) (htu : ¬ t <+: u) (hut : ¬ u <+: t) (c : PrefixCode β α₁)
    (d : PrefixCode β α₂) : PrefixCode β (α₁ ⊕ α₂) :=
  (c.tagged t).either (d.tagged u) (by
    intro a b x y h
    simp only [tagged, List.append_assoc] at h
    rcases List.append_eq_append_iff.mp h with ⟨r, hr, -⟩ | ⟨r, hr, -⟩
    · exact htu ⟨r, hr.symm⟩
    · exact hut ⟨r, hr.symm⟩)

/-- Any number of words, ended by a stop text that no word starts with. -/
def many (c : PrefixCode β α) (stop : List β)
    (hstop : ∀ a x y, c.enc a ++ x ≠ stop ++ y) : PrefixCode β (List α) where
  enc as := as.flatMap c.enc ++ stop
  unique as := by
    induction as with
    | nil =>
      intro bs x y h
      cases bs with
      | nil => exact ⟨rfl, by simpa using h⟩
      | cons b bs =>
        refine absurd ?_ (hstop b (bs.flatMap c.enc ++ stop ++ y) x)
        simpa using h.symm
    | cons a as ih =>
      intro bs x y h
      cases bs with
      | nil =>
        refine absurd ?_ (hstop a (as.flatMap c.enc ++ stop ++ x) y)
        simpa using h
      | cons b bs =>
        simp only [List.flatMap_cons, List.append_assoc] at h
        obtain ⟨hab, h⟩ := c.unique _ _ _ _ h
        obtain ⟨hbs, h⟩ := ih bs x y (by simpa using h)
        exact ⟨by rw [hab, hbs], h⟩

/-! ## Translating the alphabet -/

/-- Two texts spelled symbol by symbol with a prefix code and starting alike:
    one of them continues the other. -/
theorem flatMap_comparable (u : PrefixCode β γ) (s t : List γ) (x y : List β)
    (h : s.flatMap u.enc ++ x = t.flatMap u.enc ++ y) :
    (∃ r, s = t ++ r) ∨ (∃ r, t = s ++ r) := by
  induction s generalizing t with
  | nil => exact .inr ⟨t, rfl⟩
  | cons g s ih =>
    cases t with
    | nil => exact .inl ⟨g :: s, rfl⟩
    | cons g' t =>
      -- the first symbols agree by unique decoding, and the rest by induction
      simp only [List.flatMap_cons, List.append_assoc] at h
      obtain ⟨rfl, htail⟩ := u.unique _ _ _ _ h
      rcases ih t htail with ⟨r, rfl⟩ | ⟨r, rfl⟩
      · exact .inl ⟨r, rfl⟩
      · exact .inr ⟨r, rfl⟩

/-- Spelling every symbol of a prefix code with another prefix code. -/
def spell (u : PrefixCode β γ) (c : PrefixCode γ α) : PrefixCode β α where
  enc a := (c.enc a).flatMap u.enc
  unique a b x y h := by
    have hab : a = b := by
      rcases u.flatMap_comparable _ _ x y h with ⟨r, hr⟩ | ⟨r, hr⟩
      · exact (c.unique a b [] r (by rw [hr, List.append_nil])).1
      · exact (c.unique a b r [] (by rw [hr, List.append_nil])).1
    subst hab
    exact ⟨rfl, List.append_cancel_left h⟩

end PrefixCode

end AgentGovernance.Lib
