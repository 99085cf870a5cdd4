import AgentGovernance.Lib.Hex
import AgentGovernance.Lib.JsonText
import Mathlib.Data.Finmap
import Mathlib.Data.List.AList

/-!
# Directories and keyed files

A directory as the programs here use one: files that are read whole, written under a
temporary name and renamed.  `Keeps` says that the files under the paths of some keys hold a
map of these keys, and putting or removing a file is an update of the map.
-/

namespace AgentGovernance.Lib

/-- A file name, at its last dot. -/
structure FileName where
  stem : String
  extension : String
  deriving DecidableEq

def FileName.withExtension (name : FileName) (extension : String) : FileName :=
  { name with extension := extension }

/-- A file with another extension. -/
theorem FileName.ne_withExtension {name name' : FileName} {extension : String}
    (h : name.extension ≠ extension) : name ≠ name'.withExtension extension := by
  rintro rfl
  exact h rfl

/-- The name of a file after the SHA-256 digest of a text. -/
def hashedName (sha256 : Bytes → Bytes) (text extension : String) : FileName where
  stem := hexEncode (sha256 (stringBytes text))
  extension := extension

/-- Without collisions different texts have different names. -/
theorem hashedName_injective {sha256 : Bytes → Bytes} (h : Function.Injective sha256)
    (extension : String) : Function.Injective fun text => hashedName sha256 text extension := by
  intro s t hst
  have hstem : hexEncode (sha256 (stringBytes s)) = hexEncode (sha256 (stringBytes t)) :=
    congrArg FileName.stem hst
  exact stringBytes_injective (h (hexEncode_injective hstem))

/-- Files with their contents, in the order in which `read_dir` delivers them. -/
abbrev Directory (γ : Type) := AList fun _ : FileName => γ

namespace Directory

variable {γ : Type} (dir : Directory γ)

/-- `fs::rename`; `none` is a source that does not exist. -/
def rename (source target : FileName) : Option (Directory γ) :=
  (dir.lookup source).map fun content => (dir.erase source).insert target content

/-- The directory after a file was written under a temporary name and renamed. -/
def put (tmp path : FileName) (content : γ) : Directory γ :=
  ((dir.insert tmp content).erase tmp).insert path content

/-- `fs::remove_file`, if the path exists. -/
def remove (name : FileName) : Directory γ :=
  if (dir.lookup name).isSome then dir.erase name else dir

/-- What was written can be renamed. -/
theorem rename_insert (tmp path : FileName) (content : γ) :
    rename (dir.insert tmp content) tmp path = some (dir.put tmp path content) := by
  rw [rename, AList.lookup_insert]
  rfl

@[simp] theorem lookup_put_self (tmp path : FileName) (content : γ) :
    (dir.put tmp path content).lookup path = some content :=
  AList.lookup_insert _

theorem lookup_put_of_ne {tmp path name : FileName} (content : γ) (hpath : name ≠ path)
    (htmp : name ≠ tmp) : (dir.put tmp path content).lookup name = dir.lookup name := by
  rw [put, AList.lookup_insert_ne hpath, AList.lookup_erase_ne htmp, AList.lookup_insert_ne htmp]

theorem lookup_put_tmp {tmp path : FileName} (content : γ) (h : tmp ≠ path) :
    (dir.put tmp path content).lookup tmp = none := by
  rw [put, AList.lookup_insert_ne h, AList.lookup_erase]

theorem mem_put {tmp path name : FileName} {content : γ} (h : name ∈ dir.put tmp path content) :
    name = path ∨ name ∈ dir := by
  rw [put, AList.mem_insert, AList.mem_erase, AList.mem_insert] at h
  rcases h with hpath | ⟨hne, htmp | hold⟩
  · exact .inl hpath
  · exact absurd htmp hne
  · exact .inr hold

@[simp] theorem lookup_remove_self (name : FileName) : (dir.remove name).lookup name = none := by
  unfold remove
  split
  · exact AList.lookup_erase name dir
  next habsent => simpa using habsent

theorem lookup_remove_of_ne {name name' : FileName} (h : name ≠ name') :
    (dir.remove name').lookup name = dir.lookup name := by
  unfold remove
  split
  · exact AList.lookup_erase_ne h
  · rfl

/-! ## Keyed files -/

variable {κ ν : Type} [DecidableEq κ] {path : κ → FileName} {stands : γ → ν → Prop}
  {dir : Directory γ} {m : Finmap fun _ : κ => ν}

/-- The files under the paths of the keys stand for the values of a map. -/
def Keeps (path : κ → FileName) (stands : γ → ν → Prop) (dir : Directory γ)
    (m : Finmap fun _ : κ => ν) : Prop :=
  ∀ k, Option.Rel stands (dir.lookup (path k)) (m.lookup k)

/-- Either there is no file and no value, or the file stands for the value. -/
theorem Keeps.lookup_cases (h : Keeps path stands dir m) (k : κ) :
    (dir.lookup (path k) = none ∧ m.lookup k = none) ∨
      ∃ content v, dir.lookup (path k) = some content ∧ m.lookup k = some v ∧
        stands content v := by
  have hk := h k
  cases hfile : dir.lookup (path k) with
  | none =>
    cases hvalue : m.lookup k with
    | none =>
      -- `Keeps` relates the two lookups, so one of them alone cannot have a value
      exact .inl ⟨rfl, rfl⟩
    | some v =>
      rw [hfile, hvalue] at hk
      cases hk
  | some content =>
    cases hvalue : m.lookup k with
    | none =>
      rw [hfile, hvalue] at hk
      cases hk
    | some v =>
      rw [hfile, hvalue] at hk
      cases hk with
      | some hstands => exact .inr ⟨content, v, rfl, rfl, hstands⟩

theorem keeps_empty : Keeps path stands ∅ ∅ := by
  intro k
  rw [AList.lookup_empty, Finmap.lookup_empty]
  exact .none

/-- Putting a file under the path of a key updates the map. -/
theorem Keeps.put (h : Keeps path stands dir m) (hpath : Function.Injective path)
    {tmp : FileName} (htmp : ∀ k, path k ≠ tmp) {content : γ} {v : ν} (hv : stands content v)
    (k : κ) : Keeps path stands (dir.put tmp (path k) content) (m.insert k v) := by
  intro j
  by_cases hj : j = k
  · subst hj
    rw [lookup_put_self, Finmap.lookup_insert]
    exact .some hv
  · rw [lookup_put_of_ne dir content (hpath.ne hj) (htmp j), Finmap.lookup_insert_of_ne _ hj]
    exact h j

/-- Removing the file of a key, if there is one, removes the key. -/
theorem Keeps.remove (h : Keeps path stands dir m) (hpath : Function.Injective path) (k : κ) :
    Keeps path stands (dir.remove (path k)) (m.erase k) := by
  intro j
  by_cases hj : j = k
  · subst hj
    rw [lookup_remove_self, Finmap.lookup_erase]
    exact .none
  · rw [lookup_remove_of_ne dir (hpath.ne hj), Finmap.lookup_erase_ne hj]
    exact h j

theorem mem_remove {name name' : FileName} (h : name ∈ dir.remove name') : name ∈ dir := by
  unfold Directory.remove at h
  split at h
  · exact (AList.mem_erase.mp h).2
  · exact h

end Directory

end AgentGovernance.Lib
