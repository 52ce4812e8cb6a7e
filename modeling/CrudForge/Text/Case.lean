import CrudForge.Text.Case.Table

/-!
Letter case after the Unicode standard, with the full mappings: one character may become several
(`ß` in upper case is `SS`), and a sigma that ends a word has a lowercase form of its own.
`lowerChar` and `upperChar` work one character at a time; `lower` and `upper` on whole texts.
-/

namespace CrudForge.Text

/-- Whether a character is uppercase. -/
def isUpper (c : Char) : Bool :=
  if c.toNat < 128 then 'A' ≤ c && c ≤ 'Z'
  else Case.Table.uppercase.any (·.contains c.toNat)

/-- Whether a character has letter case at all. -/
def isCased (c : Char) : Bool :=
  if c.toNat < 128 then ('A' ≤ c && c ≤ 'Z') || ('a' ≤ c && c ≤ 'z')
  else Case.Table.cased.contains c.toNat

/-- Whether a character is passed over when looking for the nearest cased one. -/
def isCaseIgnorable (c : Char) : Bool :=
  if c.toNat < 128 then ['\'', '.', ':', '^', '`'].contains c
  else Case.Table.ignorable.contains c.toNat

namespace Case

/-- The mapping of a code point above ASCII by a table of runs and a table of wide mappings. -/
def mapBy (runs : List (Run × Int)) (wide : List (Nat × List Nat)) (c : Char) : List Char :=
  match wide.lookup c.toNat with
  | some cs => cs.map Char.ofNat
  | none =>
    match runs.find? fun (r, _) => r.contains c.toNat with
    | some (_, offset) => [Char.ofNat (c.toNat + offset).toNat]
    | none => [c]

end Case

/-- The lowercase form of one character. -/
def lowerChar (c : Char) : List Char :=
  if c.toNat < 128 then [c.toLower] else Case.mapBy Case.Table.lower Case.Table.lowerWide c

/-- The uppercase form of one character. -/
def upperChar (c : Char) : List Char :=
  if c.toNat < 128 then [c.toUpper] else Case.mapBy Case.Table.upper Case.Table.upperWide c

namespace Case

/-- Whether the first character that is not ignorable is cased. -/
def startsCased (cs : List Char) : Bool :=
  match cs.dropWhile isCaseIgnorable with
  | c :: _ => isCased c
  | [] => false

/-- Lowercase of a text of which `seen` is what came before, nearest character first. A capital
sigma after a cased character and before none is a final one. -/
def lowerFrom : List Char → List Char → List Char
  | _, [] => []
  | seen, c :: rest =>
    (if c = 'Σ' then
      [if startsCased seen && !startsCased rest then 'ς' else 'σ']
    else lowerChar c) ++ lowerFrom (c :: seen) rest

end Case

/-- A text in lower case. -/
def lower (s : String) : String :=
  String.ofList (Case.lowerFrom [] s.toList)

/-- A text in upper case. -/
def upper (s : String) : String :=
  String.ofList (s.toList.flatMap upperChar)

/-! ## ASCII -/

theorem lowerChar_ascii {c : Char} (h : c.toNat < 128) : lowerChar c = [c.toLower] := by
  simp [lowerChar, h]

example : upper "straße" = "STRASSE" := by decide +kernel
example : lower "ΟΔΟΣ ΣΑΣ" = "οδος σας" := by decide +kernel
example : lower "İ" = "i̇" := by decide +kernel

end CrudForge.Text
