import Mathlib.Data.List.Basic
import Mathlib.Data.List.Induction
import Mathlib.Data.List.Nodup

/-!
# Linked logs

Records that each carry a link to the one before: a record has a content, a link, and a
tag computed from its content alone, and the link should be the tag of the record
before it.  `chain` is how such a log is written, `Linked` is what a checker of the
links accepts, and the two fit: `linked_chain` and `chain_of_linked`.

As the tag leaves out the link, the last tag says nothing about earlier contents; what
the links leave open is exactly the contents, `linked_ext`.  The records of one log can be put
together to a linked log only as they stood, `linked_prefix_iff`.
-/

namespace AgentGovernance.Lib

/-- Records with a content, a link and a tag of the content. -/
structure LinkedRecords (ρ κ η : Type) where
  content : ρ → κ
  link : ρ → η
  /-- The record with its link replaced. -/
  setLink : η → ρ → ρ
  tag : κ → η
  content_setLink : ∀ h r, content (setLink h r) = content r
  link_setLink : ∀ h r, link (setLink h r) = h
  setLink_link : ∀ r s, content r = content s → setLink (link r) s = r

namespace LinkedRecords

variable {ρ κ η : Type} (L : LinkedRecords ρ κ η)

def tagOf (r : ρ) : η :=
  L.tag (L.content r)

/-- Every link is the tag of the record before, the first one a given start. -/
def Linked (start : η) : List ρ → Prop
  | [] => True
  | r :: rs => L.link r = start ∧ Linked (L.tagOf r) rs

/-- The records as a writer that fills in the links stores them. -/
def chain (start : η) : List ρ → List ρ
  | [] => []
  | r :: rs => L.setLink start r :: chain (L.tagOf r) rs

/-- The tag of the last record, or the start when there is none. -/
def head (start : η) : List ρ → η
  | [] => start
  | r :: rs => head (L.tagOf r) rs

@[simp] theorem head_concat (start : η) (rs : List ρ) (r : ρ) :
    L.head start (rs ++ [r]) = L.tagOf r := by
  induction rs generalizing start with
  | nil => rfl
  | cons s rs ih => exact ih _

theorem head_eq_getLast? (start : η) (rs : List ρ) :
    L.head start rs = (rs.getLast?.map L.tagOf).getD start := by
  induction rs using List.reverseRecOn with
  | nil => rfl
  | append_singleton rs r _ => rw [head_concat, List.getLast?_concat, Option.map_some, Option.getD_some]

@[simp] theorem tagOf_setLink (h : η) (r : ρ) : L.tagOf (L.setLink h r) = L.tagOf r := by
  simp only [tagOf, L.content_setLink]

theorem linked_append (start : η) (rs ss : List ρ) :
    L.Linked start (rs ++ ss) ↔ L.Linked start rs ∧ L.Linked (L.head start rs) ss := by
  induction rs generalizing start with
  | nil => exact (and_iff_right trivial).symm
  | cons r rs ih => rw [List.cons_append, Linked, Linked, ih, head, and_assoc]

theorem linked_concat (start : η) (rs : List ρ) (r : ρ) :
    L.Linked start (rs ++ [r]) ↔ L.Linked start rs ∧ L.link r = L.head start rs := by
  rw [linked_append, Linked, Linked, and_true]

/-! ## Writing -/

theorem chain_concat (start : η) (rs : List ρ) (r : ρ) :
    L.chain start (rs ++ [r]) = L.chain start rs ++ [L.setLink (L.head start rs) r] := by
  induction rs generalizing start with
  | nil => rfl
  | cons s rs ih => rw [List.cons_append, chain, chain, ih, List.cons_append, head]

/-- **What the writer stores is linked.** -/
theorem linked_chain (start : η) (rs : List ρ) : L.Linked start (L.chain start rs) := by
  induction rs generalizing start with
  | nil => trivial
  | cons r rs ih =>
    refine ⟨L.link_setLink start r, ?_⟩
    rw [tagOf_setLink]
    exact ih _

/-- Filling in the links leaves the contents alone. -/
theorem map_content_chain (start : η) (rs : List ρ) :
    (L.chain start rs).map L.content = rs.map L.content := by
  induction rs generalizing start with
  | nil => rfl
  | cons r rs ih => rw [chain, List.map_cons, List.map_cons, L.content_setLink, ih]

/-- What does not depend on the links is found in the stored records as in the given ones. -/
theorem filterMap_chain {β : Type} {f : ρ → Option β} (hf : ∀ h r, f (L.setLink h r) = f r)
    (start : η) (rs : List ρ) : (L.chain start rs).filterMap f = rs.filterMap f := by
  induction rs generalizing start with
  | nil => rfl
  | cons r rs ih => rw [chain, List.filterMap_cons, List.filterMap_cons, hf, ih]

@[simp] theorem length_chain (start : η) (rs : List ρ) :
    (L.chain start rs).length = rs.length := by
  have h := congrArg List.length (L.map_content_chain start rs)
  rwa [List.length_map, List.length_map] at h

@[simp] theorem head_chain (start : η) (rs : List ρ) :
    L.head start (L.chain start rs) = L.head start rs := by
  induction rs using List.reverseRecOn with
  | nil => rfl
  | append_singleton rs r _ => rw [chain_concat, head_concat, head_concat, tagOf_setLink]

/-- **Links leave open the contents and nothing else.** -/
theorem linked_ext {start : η} {rs ss : List ρ} (hr : L.Linked start rs) (hs : L.Linked start ss)
    (h : rs.map L.content = ss.map L.content) : rs = ss := by
  induction rs generalizing start ss with
  | nil =>
    cases ss with
    | nil => rfl
    | cons s ss => cases h
  | cons r rs ih =>
    cases ss with
    | nil => cases h
    | cons s ss =>
      -- the contents agree, and the links too since both lists begin at the same tag
      obtain ⟨hrs, htail⟩ := List.cons.inj h
      obtain ⟨hrlink, hr⟩ := hr
      obtain ⟨hslink, hs⟩ := hs
      have hrec : r = s := by
        rw [← L.setLink_link r s hrs, hrlink, ← hslink, L.setLink_link s s rfl]
      subst hrec
      rw [ih hr hs htail]

/-! ## Records of a log, rearranged -/

/-- In a linked log the links and the last tag are the start and the tags. -/
theorem links_concat_head {start : η} {rs : List ρ} (h : L.Linked start rs) :
    rs.map L.link ++ [L.head start rs] = start :: rs.map L.tagOf := by
  induction rs generalizing start with
  | nil => rfl
  | cons r rs ih =>
    obtain ⟨hlink, htail⟩ := h
    rw [List.map_cons, List.cons_append, head, ih htail, hlink, List.map_cons]

/-- **Rearranged records.** When start and tags of a linked log differ pairwise, the links hold a
    list of its records together in one way only: as the log has them, from the first on. -/
theorem linked_prefix_iff {start : η} {rs ls : List ρ} (h : L.Linked start rs)
    (hnodup : (start :: rs.map L.tagOf).Nodup) (hmem : ∀ r ∈ ls, r ∈ rs) :
    L.Linked start ls ↔ ls <+: rs := by
  rw [← L.links_concat_head h, List.nodup_append] at hnodup
  obtain ⟨hlinks, -, hhead⟩ := hnodup
  -- `front` is what was read so far, `back` the part of the log behind it
  have hrest : ∀ (front back : List ρ), front ++ back = rs → (∀ r ∈ ls, r ∈ rs) →
      L.Linked (L.head start front) ls → ls <+: back := by
    clear hmem
    induction ls with
    | nil => exact fun _ back _ _ _ => List.nil_prefix
    | cons r ls ih =>
      intro front back hrs hmem hls
      obtain ⟨hlink, hls⟩ := hls
      have hr : r ∈ rs := hmem r List.mem_cons_self
      cases back with
      | nil =>
        -- no record of the log links to its last tag
        rw [List.append_nil] at hrs
        rw [hrs] at hlink
        exact absurd hlink (hhead _ (List.mem_map_of_mem hr) _ List.mem_cons_self)
      | cons s back =>
        have hs : s ∈ rs := by simp [← hrs]
        have hslink : L.link s = L.head start front := by
          rw [← hrs, linked_append] at h
          exact h.2.1
        obtain rfl : r = s := List.inj_on_of_nodup_map hlinks hr hs (hlink.trans hslink.symm)
        refine List.cons_prefix_cons.mpr ⟨rfl, ?_⟩
        apply ih (front ++ [r]) back (by simp [hrs]) fun t ht => hmem t (List.mem_cons_of_mem _ ht)
        rw [head_concat]
        exact hls
  constructor
  · intro hls
    exact hrest [] rs rfl hmem hls
  · intro hpre
    obtain ⟨back, rfl⟩ := hpre
    exact ((L.linked_append start ls back).mp h).1

end LinkedRecords

end AgentGovernance.Lib
