import AgentGovernance.Lib.JsonText

/-!
# Pretty JSON files

The text that `serde_json::to_string_pretty` writes, put together from the same codes as the
compact text, and what a program sees of a file that should hold one value.
-/

namespace AgentGovernance.Lib

/-! ## Texts -/

def newLine (indent : Nat) : List Char :=
  '\n' :: List.replicate indent ' '

/-- The text in front of a field of an object, which stands on its own line. -/
def prettyKey (opening : Char) (indent : Nat) (name : String) : List Char :=
  opening :: (newLine indent ++ quote :: (name.toList ++ [quote, ':', ' ']))

/-- `true` and `false`. -/
def jsonBool : PrefixCode Char Bool :=
  (PrefixCode.choice ['t'] ['f'] (by decide) (by decide) (PrefixCode.const "rue".toList)
    (PrefixCode.const "alse".toList)).comap (fun | true => .inl () | false => .inr ())
    (fun a b h => by cases a <;> cases b <;> simp_all)

/-- An array with one element on each line; an empty one has no lines. -/
def prettyArray {α : Type} (c : PrefixCode Char α) (indent : Nat) : PrefixCode Char (List α) :=
  ((PrefixCode.choice [']'] ['\n'] (by decide) (by decide) (PrefixCode.const [])
    ((c.tagged (List.replicate (indent + 2) ' ')).pair
      ((c.tagged (',' :: newLine (indent + 2))).many (newLine indent ++ [']']) (by
        intro a x y h
        simp [PrefixCode.tagged, newLine] at h)))).tagged ['[']).comap uncons uncons_injective

/-! ## Files -/

/-- What reading a file and parsing its text gives. -/
inductive JsonRead (α : Type) where
  /-- `fs::read_to_string` fails. -/
  | unreadable (e : String)
  /-- `serde_json::from_str` fails. -/
  | malformed (e : String)
  | value (a : α)

open Classical in
/-- The file of a code: its text, or something else. -/
noncomputable def PrefixCode.readFile {α : Type} (c : PrefixCode Char α) (file : Bytes) :
    JsonRead α :=
  if h : ∃ a, (utf8.spell c).enc a = file then .value h.choose else .malformed "expected value"

/-- What was written is read back. -/
theorem PrefixCode.readFile_enc {α : Type} (c : PrefixCode Char α) (a : α) :
    c.readFile ((utf8.spell c).enc a) = .value a := by
  have h : ∃ b, (utf8.spell c).enc b = (utf8.spell c).enc a := ⟨a, rfl⟩
  rw [readFile, dif_pos h]
  exact congrArg JsonRead.value ((utf8.spell c).enc_injective h.choose_spec)

example : (prettyArray jsonString 2).enc ["a", "b"] =
    "[\n    \"a\",\n    \"b\"\n  ]".toList := by decide

end AgentGovernance.Lib
