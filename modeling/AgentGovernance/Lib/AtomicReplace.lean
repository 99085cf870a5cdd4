import AgentGovernance.Lib.CriticalSection
import AgentGovernance.Lib.Directory

/-!
# Replacing a file by a rename

A file is written under a temporary name and renamed to its own.  Whatever the process has done of
this when it is killed, the file has its old content or the new one, and no other file but the
temporary one has changed.
-/

namespace AgentGovernance.Lib.Directory

open Section (perform perform_append)

/-! ## Steps -/

variable (tmp path : FileName) (text : Bytes)

/-- `File::create`: an empty file, in place of an old one. -/
def truncate (dir : Directory Bytes) : Directory Bytes :=
  dir.insert tmp []

/-- One more byte at the end of the file. -/
def putByte (b : UInt8) (dir : Directory Bytes) : Directory Bytes :=
  dir.insert tmp ((dir.lookup tmp).getD [] ++ [b])

/-- A rename, where there is something to rename. -/
def moveTo (dir : Directory Bytes) : Directory Bytes :=
  (dir.rename tmp path).getD dir

/-- `fs::write` of a text and `fs::rename`. -/
def replaceSteps : List (Directory Bytes → Directory Bytes) :=
  truncate tmp :: text.map (putByte tmp) ++ [moveTo tmp path]

/-- The directory when the process is killed behind a number of these steps. -/
def killed (steps : Nat) (dir : Directory Bytes) : Directory Bytes :=
  perform ((replaceSteps tmp path text).take steps) dir

/-! ## What is left -/

variable {tmp path text} (dir : Directory Bytes)

theorem perform_putByte (content bytes : Bytes) :
    perform (bytes.map (putByte tmp)) (dir.insert tmp content) =
      dir.insert tmp (content ++ bytes) := by
  induction bytes generalizing content with
  | nil => rw [List.append_nil]; rfl
  | cons b bytes ih =>
    have hstep : putByte tmp b (dir.insert tmp content) = dir.insert tmp (content ++ [b]) := by
      rw [putByte, AList.lookup_insert, AList.insert_insert]
      rfl
    show perform (bytes.map (putByte tmp)) (putByte tmp b (dir.insert tmp content)) = _
    rw [hstep, ih, List.append_assoc, List.singleton_append]

theorem perform_truncate_putByte (bytes : Bytes) :
    perform (truncate tmp :: bytes.map (putByte tmp)) dir = dir.insert tmp bytes :=
  perform_putByte dir [] bytes

/-- All steps are the write and the rename. -/
theorem perform_replaceSteps :
    perform (replaceSteps tmp path text) dir = dir.put tmp path text := by
  rw [replaceSteps, perform_append, perform_truncate_putByte]
  show (rename (dir.insert tmp text) tmp path).getD _ = _
  rw [rename_insert]
  rfl

variable (tmp path text) in
/-- **Points of a crash**: before the temporary file, behind a number of its bytes, or behind the
    rename. -/
theorem killed_cases (steps : Nat) :
    killed tmp path text steps dir = dir ∨
      (∃ n, killed tmp path text steps dir = dir.insert tmp (text.take n)) ∨
      killed tmp path text steps dir = dir.put tmp path text := by
  cases steps with
  | zero => exact .inl rfl
  | succ n =>
    have hlength : (text.map (putByte tmp)).length = text.length := List.length_map _
    rcases Nat.lt_or_ge text.length n with hlong | hshort
    · -- the rename is the last step
      refine .inr (.inr ?_)
      rw [killed, List.take_of_length_le, perform_replaceSteps]
      simp [replaceSteps]
      omega
    · -- behind the empty file come the bytes
      refine .inr (.inl ⟨n, ?_⟩)
      have htake : (replaceSteps tmp path text).take (n + 1) =
          truncate tmp :: (text.take n).map (putByte tmp) := by
        rw [replaceSteps, List.cons_append, List.take_succ_cons,
          List.take_append_of_le_length (by omega), List.map_take]
      rw [killed, htake, perform_truncate_putByte]

/-- The file has its old content or the new one, and the others are as they were. -/
structure ReplacedOrNot (tmp path : FileName) (text : Bytes) (before after : Directory Bytes) :
    Prop where
  own : after.lookup path = before.lookup path ∨ after.lookup path = some text
  others : ∀ name, name ≠ path → name ≠ tmp → after.lookup name = before.lookup name

variable (text) in
/-- **Atomic replacement**, wherever the process is killed. -/
theorem replacedOrNot_killed (htmp : path ≠ tmp) (steps : Nat) :
    ReplacedOrNot tmp path text dir (killed tmp path text steps dir) := by
  -- a text cut short only ever is under the temporary name
  rcases killed_cases tmp path text dir steps with h | ⟨n, h⟩ | h
  · rw [h]
    exact ⟨.inl rfl, fun _ _ _ => rfl⟩
  · rw [h]
    exact ⟨.inl (AList.lookup_insert_ne htmp), fun _ _ hname => AList.lookup_insert_ne hname⟩
  · rw [h]
    exact ⟨.inr (lookup_put_self _ _ _ _), fun _ hpath hname => lookup_put_of_ne _ _ hpath hname⟩

end AgentGovernance.Lib.Directory
