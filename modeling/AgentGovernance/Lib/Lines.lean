import Mathlib.Data.List.Basic

/-!
# Line-oriented files

Byte files that are read line by line, as Rust's `BufRead::lines` reads them:
a line ends at a line feed, a carriage return right before the line feed is
dropped, and a last line without a line feed is still delivered.

The two results used everywhere are `lines_unlines_append` (what was written as
whole lines is read back as exactly those lines, whatever follows) and
`lines_of_lineSafe` (an unfinished tail is read as one more line).
-/

namespace AgentGovernance.Lib

/-- Raw file content. -/
abbrev Bytes := List UInt8

/-- The line feed byte. -/
def newline : UInt8 := 10

def carriageReturn : UInt8 := 13

/-- `BufRead::lines` over a whole file. -/
def lines : Bytes → List Bytes
  | [] => []
  | b :: bs =>
    if b = newline then [] :: lines bs
    -- "\r\n" ends a line just as "\n" does
    else if b = carriageReturn ∧ bs.head? = some newline then lines bs
    else
      match lines bs with
      | [] => [[b]]
      | l :: ls => (b :: l) :: ls

/-- The file that holds the given lines, each ended by a line feed. -/
def unlines (ls : List Bytes) : Bytes :=
  ls.flatMap (· ++ [newline])

/-- A line that `lines` delivers unchanged: no line feed and no carriage return in it. -/
def LineSafe (l : Bytes) : Prop :=
  newline ∉ l ∧ carriageReturn ∉ l

@[simp] theorem lines_nil : lines [] = [] := rfl

@[simp] theorem unlines_nil : unlines [] = [] := rfl

@[simp] theorem unlines_cons (l : Bytes) (ls : List Bytes) :
    unlines (l :: ls) = l ++ newline :: unlines ls := by
  simp [unlines]

theorem unlines_concat (ls : List Bytes) (l : Bytes) :
    unlines (ls ++ [l]) = unlines ls ++ l ++ [newline] := by
  simp [unlines]

theorem LineSafe.nil : LineSafe [] := by simp [LineSafe]

theorem LineSafe.mono {p l : Bytes} (h : LineSafe l) (hp : p <+: l) : LineSafe p :=
  ⟨fun hm => h.1 (hp.subset hm), fun hm => h.2 (hp.subset hm)⟩

theorem LineSafe.append {l m : Bytes} (hl : LineSafe l) (hm : LineSafe m) :
    LineSafe (l ++ m) := by
  simp only [LineSafe, List.mem_append, not_or] at *
  exact ⟨⟨hl.1, hm.1⟩, ⟨hl.2, hm.2⟩⟩

theorem LineSafe.of_cons {b : UInt8} {l : Bytes} (h : LineSafe (b :: l)) : LineSafe l :=
  ⟨fun hm => h.1 (List.mem_cons_of_mem _ hm), fun hm => h.2 (List.mem_cons_of_mem _ hm)⟩

/-! ## Reading back what was written -/

/-- A safe line in front of a line feed is delivered as it is. -/
theorem lines_line (l rest : Bytes) (h : LineSafe l) :
    lines (l ++ newline :: rest) = l :: lines rest := by
  induction l with
  | nil => simp [lines]
  | cons b l ih =>
    have hnl : b ≠ newline := fun e => h.1 (by simp [e])
    have hcr : b ≠ carriageReturn := fun e => h.2 (by simp [e])
    rw [List.cons_append, lines, if_neg hnl, if_neg (fun e => hcr e.1), ih h.of_cons]

/-- Complete safe lines are read back one by one, whatever follows them. -/
theorem lines_unlines_append (ls : List Bytes) (rest : Bytes) (h : ∀ l ∈ ls, LineSafe l) :
    lines (unlines ls ++ rest) = ls ++ lines rest := by
  induction ls with
  | nil => rfl
  | cons l ls ih =>
    have hl : LineSafe l := h l List.mem_cons_self
    have hls : ∀ m ∈ ls, LineSafe m := fun m hm => h m (List.mem_cons_of_mem _ hm)
    rw [unlines_cons, List.append_assoc, List.cons_append, lines_line l _ hl, ih hls,
      List.cons_append]

theorem lines_unlines (ls : List Bytes) (h : ∀ l ∈ ls, LineSafe l) :
    lines (unlines ls) = ls := by
  simpa using lines_unlines_append ls [] h

/-- An unfinished tail is delivered as one more line. -/
theorem lines_of_lineSafe (p : Bytes) (h : LineSafe p) (hp : p ≠ []) : lines p = [p] := by
  induction p with
  | nil => exact absurd rfl hp
  | cons b p ih =>
    have hnl : b ≠ newline := fun e => h.1 (by simp [e])
    have hcr : b ≠ carriageReturn := fun e => h.2 (by simp [e])
    rw [lines, if_neg hnl, if_neg (fun e => hcr e.1)]
    cases p with
    | nil => rfl
    | cons c p => rw [ih h.of_cons (by simp)]

/-- Whatever follows a safe line, the line that is delivered first begins with it. -/
theorem lines_lineSafe_append (l rest : Bytes) (h : LineSafe l) (hl : l ≠ []) :
    ∃ more ls, lines (l ++ rest) = (l ++ more) :: ls := by
  induction l with
  | nil => exact absurd rfl hl
  | cons b l ih =>
    have hnl : b ≠ newline := fun e => h.1 (by simp [e])
    have hcr : b ≠ carriageReturn := fun e => h.2 (by simp [e])
    -- neither end of line occurs in the safe text, so it stays in one line
    rw [List.cons_append, lines, if_neg hnl, if_neg (fun e => hcr e.1)]
    cases l with
    | nil =>
      rw [List.nil_append]
      cases hrest : lines rest with
      | nil => exact ⟨[], [], rfl⟩
      | cons m ls => exact ⟨m, ls, rfl⟩
    | cons c l =>
      obtain ⟨more, ls, htail⟩ := ih h.of_cons (by simp)
      rw [htail]
      exact ⟨more, ls, rfl⟩

example : lines [65, 13, 10, 66, 10, 67] = [[65], [66], [67]] := by decide

end AgentGovernance.Lib
