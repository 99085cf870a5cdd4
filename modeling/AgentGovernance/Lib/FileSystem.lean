import Mathlib.Data.List.Basic
import Mathlib.Logic.Function.Basic

/-!
# Names, inodes and open files

A file system as several writers see it: a name leads to an inode, an open file is an inode, and
what is written through it goes to that inode, whatever its name is by then.

Writers that fill a file under a temporary name and rename it leave every inode alone that the
temporary name does not lead to: `Spares`.
-/

namespace AgentGovernance.Lib

/-- The inode of each name and the content of each inode.  No inode has two names. -/
structure FileSystem (ν α : Type) where
  names : ν → Option Nat
  contents : Nat → List α
  /-- The inode of the next file. -/
  next : Nat
  lt_next : ∀ {name inode}, names name = some inode → inode < next
  names_inj : ∀ {name name' inode}, names name = some inode → names name' = some inode → name = name'

namespace FileSystem

variable {ν α : Type} [DecidableEq ν]

def empty : FileSystem ν α where
  names _ := none
  contents _ := []
  next := 0
  lt_next h := by cases h
  names_inj h := by cases h

variable (fs : FileSystem ν α)

/-- The content under a name. -/
def read (name : ν) : Option (List α) :=
  (fs.names name).map fs.contents

/-- The file system with other contents. -/
def setContents (inode : Nat) (content : List α) : FileSystem ν α :=
  { fs with contents := Function.update fs.contents inode content }

/-- A name that leads to an inode after another name was given one. -/
theorem names_update {fs : FileSystem ν α} {name n : ν} {entry : Option Nat} {inode : Nat}
    (h : Function.update fs.names name entry n = some inode) :
    (n = name ∧ entry = some inode) ∨ (n ≠ name ∧ fs.names n = some inode) := by
  by_cases hn : n = name
  · subst hn
    rw [Function.update_self] at h
    exact .inl ⟨rfl, h⟩
  · rw [Function.update_of_ne hn] at h
    exact .inr ⟨hn, h⟩

/-- A new empty file. -/
def addFile (name : ν) : FileSystem ν α where
  names := Function.update fs.names name (some fs.next)
  contents := Function.update fs.contents fs.next []
  next := fs.next + 1
  lt_next h := by
    rcases names_update h with ⟨-, hnew⟩ | ⟨-, hold⟩
    · rw [← Option.some.inj hnew]
      exact Nat.lt_succ_self _
    · exact Nat.lt_succ_of_lt (fs.lt_next hold)
  names_inj h h' := by
    -- the new inode has no old name
    rcases names_update h with ⟨rfl, hnew⟩ | ⟨-, hold⟩ <;>
      rcases names_update h' with ⟨rfl, hnew'⟩ | ⟨-, hold'⟩
    · rfl
    · exact absurd (fs.lt_next hold') (by simp [← Option.some.inj hnew])
    · exact absurd (fs.lt_next hold) (by simp [← Option.some.inj hnew'])
    · exact fs.names_inj hold hold'

/-- The file system without a name. -/
def dropName (name : ν) : FileSystem ν α :=
  { fs with
    names := Function.update fs.names name none
    lt_next h := by
      rcases names_update h with ⟨-, hnew⟩ | ⟨-, hold⟩
      · cases hnew
      · exact fs.lt_next hold
    names_inj h h' := by
      rcases names_update h with ⟨-, hnew⟩ | ⟨-, hold⟩
      · cases hnew
      · rcases names_update h' with ⟨-, hnew'⟩ | ⟨-, hold'⟩
        · cases hnew'
        · exact fs.names_inj hold hold' }

/-- The file system in which a name leads to an inode that had no name. -/
def setName (name : ν) (inode : Nat) (hlt : inode < fs.next)
    (hfree : ∀ n, fs.names n ≠ some inode) : FileSystem ν α :=
  { fs with
    names := Function.update fs.names name (some inode)
    lt_next h := by
      rcases names_update h with ⟨-, hnew⟩ | ⟨-, hold⟩
      · exact Option.some.inj hnew ▸ hlt
      · exact fs.lt_next hold
    names_inj h h' := by
      rcases names_update h with ⟨rfl, hnew⟩ | ⟨-, hold⟩ <;>
        rcases names_update h' with ⟨rfl, hnew'⟩ | ⟨-, hold'⟩
      · rfl
      · exact absurd (hold'.trans hnew.symm) (hfree _)
      · exact absurd (hold.trans hnew'.symm) (hfree _)
      · exact fs.names_inj hold hold' }

/-- An inode has no name when its only name is dropped. -/
theorem dropName_free {fs : FileSystem ν α} {name : ν} {inode : Nat}
    (h : fs.names name = some inode) (n : ν) : (fs.dropName name).names n ≠ some inode := by
  intro hn
  rcases names_update hn with ⟨-, hnew⟩ | ⟨hne, hold⟩
  · cases hnew
  · exact hne (fs.names_inj hold h)

/-- `open` with `O_CREAT` and `O_TRUNC`: the file system and the inode of the open file. -/
def create (name : ν) : FileSystem ν α × Nat :=
  match fs.names name with
  | some inode => (fs.setContents inode [], inode)
  | none => (fs.addFile name, fs.next)

/-- `write` to a file that was just opened, from its start on. -/
def write (inode : Nat) (bytes : List α) : FileSystem ν α :=
  fs.setContents inode (bytes ++ (fs.contents inode).drop bytes.length)

/-- `rename`; `none` is a source that does not exist. -/
def rename (source target : ν) : Option (FileSystem ν α) :=
  match h : fs.names source with
  | none => none
  | some inode =>
    some ((fs.dropName source).setName target inode (fs.lt_next h) (dropName_free h))

variable {fs} {name source target : ν} {inode : Nat}

/-! ## What the operations do -/

theorem addFile_names_self : (fs.addFile name).names name = some fs.next :=
  Function.update_self _ _ _

@[simp] theorem create_names_self :
    (fs.create name).1.names name = some (fs.create name).2 := by
  unfold create
  split
  next h => exact h
  next => exact addFile_names_self

theorem create_names_of_ne {n : ν} (h : n ≠ name) :
    (fs.create name).1.names n = fs.names n := by
  unfold create
  split
  · rfl
  · exact Function.update_of_ne h _ _

@[simp] theorem create_contents_self :
    (fs.create name).1.contents (fs.create name).2 = [] := by
  unfold create
  split
  · exact Function.update_self _ _ _
  · exact Function.update_self _ _ _

omit [DecidableEq ν] in
@[simp] theorem write_contents_self {bytes : List α} :
    (fs.write inode bytes).contents inode = bytes ++ (fs.contents inode).drop bytes.length :=
  Function.update_self _ _ _

theorem rename_eq_none (h : fs.names source = none) : fs.rename source target = none := by
  unfold rename
  split
  · rfl
  next h' => cases h.symm.trans h'

/-- A rename moves the name and leaves the contents alone. -/
theorem rename_eq_some (h : fs.names source = some inode) (hne : source ≠ target) :
    ∃ fs', fs.rename source target = some fs' ∧ fs'.names source = none ∧
      fs'.names target = some inode ∧
      (∀ n, n ≠ source → n ≠ target → fs'.names n = fs.names n) ∧
      fs'.contents = fs.contents ∧ fs'.next = fs.next := by
  unfold rename
  split
  next h' => cases h.symm.trans h'
  next i h' =>
    obtain rfl : inode = i := Option.some.inj (h.symm.trans h')
    -- the name moves, in this order: the source is unlinked, then the target points to the inode
    refine ⟨_, rfl, ?_, Function.update_self _ _ _, ?_, rfl, rfl⟩
    · exact (Function.update_of_ne hne _ _).trans (Function.update_self _ _ _)
    · intro n hs ht
      exact (Function.update_of_ne ht _ _).trans (Function.update_of_ne hs _ _)

/-! ## Files out of reach of a temporary name -/

/-- An inode of a file that the temporary name does not lead to. -/
structure Detached (fs : FileSystem ν α) (tmp : ν) (inode : Nat) : Prop where
  lt_next : inode < fs.next
  ne_tmp : fs.names tmp ≠ some inode

/-- What the temporary name does not lead to stays as it is. -/
def Spares (fs fs' : FileSystem ν α) (tmp : ν) : Prop :=
  ∀ inode, fs.Detached tmp inode → fs'.Detached tmp inode ∧ fs'.contents inode = fs.contents inode

omit [DecidableEq ν] in
/-- Other names lead to detached inodes. -/
theorem detached_of_names {tmp : ν} (h : fs.names name = some inode) (hne : name ≠ tmp) :
    fs.Detached tmp inode where
  lt_next := fs.lt_next h
  ne_tmp htmp := hne (fs.names_inj h htmp)

theorem spares_create (tmp : ν) : Spares fs (fs.create tmp).1 tmp := by
  intro inode h
  unfold create
  split
  -- the inode that is emptied is the one under the temporary name
  next i hi =>
    have hne : inode ≠ i := fun heq => h.ne_tmp (heq ▸ hi)
    exact ⟨⟨h.lt_next, h.ne_tmp⟩, Function.update_of_ne hne _ _⟩
  -- a new inode is none of those in use
  next =>
    have hne : inode ≠ fs.next := Nat.ne_of_lt h.lt_next
    refine ⟨⟨Nat.lt_succ_of_lt h.lt_next, ?_⟩, Function.update_of_ne hne _ _⟩
    intro htmp
    exact hne (Option.some.inj (addFile_names_self.symm.trans htmp)).symm

omit [DecidableEq ν] in
/-- A write through a handle that the temporary name leads to. -/
theorem spares_write {tmp : ν} (h : fs.names tmp = some inode) (bytes : List α) :
    Spares fs (fs.write inode bytes) tmp := by
  intro i hi
  have hne : i ≠ inode := fun heq => hi.ne_tmp (heq ▸ h)
  exact ⟨⟨hi.lt_next, hi.ne_tmp⟩, Function.update_of_ne hne _ _⟩

theorem spares_rename {fs' : FileSystem ν α} {tmp : ν} (hne : tmp ≠ target)
    (h : fs.rename tmp target = some fs') : Spares fs fs' tmp := by
  intro i hi
  cases htmp : fs.names tmp with
  | none =>
    rw [rename_eq_none htmp] at h
    cases h
  | some inode =>
    -- the renamed file is the one at `tmp`, so no other file loses its name
    obtain ⟨fs₁, hrename, hgone, -, -, hcontents, hnext⟩ := rename_eq_some htmp hne
    obtain rfl : fs₁ = fs' := Option.some.inj (hrename.symm.trans h)
    refine ⟨⟨hnext ▸ hi.lt_next, ?_⟩, congrFun hcontents i⟩
    rw [hgone]
    exact (Option.some_ne_none i).symm

omit [DecidableEq ν] in
/-- What another name leads to is read as before. -/
theorem Spares.read_eq {fs' : FileSystem ν α} {tmp : ν} (h : Spares fs fs' tmp)
    (hne : name ≠ tmp) (hnames : fs'.names name = fs.names name) :
    fs'.read name = fs.read name := by
  unfold read
  rw [hnames]
  cases hname : fs.names name with
  | none => rfl
  | some inode =>
    exact congrArg some (h inode (detached_of_names hname hne)).2

/-! ## A whole file -/

variable (fs) in
/-- Creating a file, writing it and renaming it. -/
theorem read_put {tmp path : ν} (hne : tmp ≠ path) (bytes : List α) :
    ∃ fs', ((fs.create tmp).1.write (fs.create tmp).2 bytes).rename tmp path = some fs' ∧
      fs'.read tmp = none ∧ fs'.read path = some bytes ∧
      ∀ n, n ≠ tmp → n ≠ path → fs'.read n = fs.read n := by
  have hname : ((fs.create tmp).1.write (fs.create tmp).2 bytes).names tmp =
      some (fs.create tmp).2 := create_names_self
  obtain ⟨fs', hrename, hgone, hpath, hother, hcontents, -⟩ := rename_eq_some hname hne
  refine ⟨fs', hrename, by rw [read, hgone]; rfl, ?_, ?_⟩
  · rw [read, hpath, Option.map_some, hcontents, write_contents_self, create_contents_self,
      List.drop_nil, List.append_nil]
  · intro n htmp hn
    -- what is written goes to a new inode, so no other name reads it
    have hself : (fs.create tmp).1.names tmp = some (fs.create tmp).2 := create_names_self
    have hwrite := spares_write hself bytes
    rw [(spares_rename hne hrename).read_eq htmp (hother n htmp hn), hwrite.read_eq htmp rfl,
      (spares_create tmp).read_eq htmp (create_names_of_ne htmp)]

end FileSystem

end AgentGovernance.Lib
