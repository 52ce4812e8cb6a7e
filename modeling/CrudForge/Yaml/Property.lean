import CrudForge.Yaml.Scalar
import CrudForge.Yaml.Token

/-!
The names that come with nodes and documents: anchors and aliases, tags, and the directives in
front of a document.
-/

namespace CrudForge.Yaml

/-- The characters of names. -/
def isNameChar (c : Char) : Bool :=
  c.isAlphanum || c = '_' || c = '-'

/-- The characters of tags; those that have a meaning in flow collections need `wide`. -/
def isTagChar (wide : Bool) (c : Char) : Bool :=
  isNameChar c || ";/?:@&=+$.%!~*'()".toList.contains c || (wide && ",[]".toList.contains c)

/-- The name of an anchor or alias and the place behind it. Only some characters may follow. -/
def anchorName? (c : Cursor) : Option (String × Cursor) :=
  let (name, c) := c.span isNameChar
  let ends := wordEnds c.rest || c.rest.head?.any ("?:,]\x7d%@`".toList.contains ·)
  if name.isEmpty || !ends then none else some (String.ofList name, c)

/-! ## Tags -/

/-- The byte whose value two hexadecimal digits behind a percent sign tell, and what follows. -/
def percentByte? : List Char → Option (UInt8 × List Char)
  | '%' :: a :: b :: cs => do
    let high ← Text.digitValue? 16 a
    let low ← Text.digitValue? 16 b
    return ((16 * high + low).toUInt8, cs)
  | _ => none

/-- How many bytes a character has whose encoding begins with a byte. -/
def encodedLength? (b : UInt8) : Option Nat :=
  if b < 0x80 then some 1
  else if 0xc0 ≤ b && b < 0xe0 then some 2
  else if 0xe0 ≤ b && b < 0xf0 then some 3
  else if 0xf0 ≤ b && b < 0xf8 then some 4
  else none

/-- Some bytes written with percent signs, and what follows them. -/
def percentBytes? : Nat → List Char → Option (List UInt8 × List Char)
  | 0, cs => some ([], cs)
  | n + 1, cs => do
    let (b, cs) ← percentByte? cs
    let (bs, cs) ← percentBytes? n cs
    return (b :: bs, cs)

/-- The character that percent signs spell, and the number of characters that takes. -/
def percentChar? (cs : List Char) : Option (Char × Nat) := do
  let (first, _) ← percentByte? cs
  let n ← encodedLength? first
  let (bytes, _) ← percentBytes? n cs
  let s ← String.fromUTF8? ⟨bytes.toArray⟩
  let c ← s.toList.head?
  return (c, 3 * n)

/-- The characters of a tag and the place behind them. -/
def tagChars? (wide : Bool) : Nat → Cursor → Option (List Char × Cursor)
  | 0, _ => none
  | fuel + 1, c =>
    match c.rest with
    | [] => some ([], c)
    | x :: _ =>
      if x = '%' then do
        let (y, n) ← percentChar? c.rest
        let (more, c) ← tagChars? wide fuel (c.drop n)
        return (y :: more, c)
      else if isTagChar wide x then
        (tagChars? wide fuel c.step).map fun (more, c) => (x :: more, c)
      else some ([], c)

/-- The handle of a tag and the place behind it: an exclamation mark, and perhaps a name and
another mark. -/
def tagHandle? (c : Cursor) : Option (List Char × Cursor) :=
  if !c.sees '!' then none
  else
    let (name, c) := c.step.span isNameChar
    if c.sees '!' then some ('!' :: name ++ ['!'], c.step) else some ('!' :: name, c)

/-- Whether a handle ends with a mark of its own. -/
def isFullHandle (handle : List Char) : Bool :=
  handle.length ≠ 1 && handle.getLast? = some '!'

/-- The tag that comes next, and the place behind it. -/
def tag? (flow : Bool) (c : Cursor) : Option (Token × Cursor) := do
  let (handle, suffix, c) ←
    if c.step.sees '<' then
      let (uri, c) ← tagChars? true (c.rest.length + 1) (c.drop 2)
      if uri.isEmpty || !c.sees '>' then none else some ([], uri, c.step)
    else
      let (handle, c) ← tagHandle? c
      let (more, c) ← tagChars? false (c.rest.length + 1) c
      if isFullHandle handle then
        if more.isEmpty then none else some (handle, more, c)
      else
        let suffix := handle.drop 1 ++ more
        some (if suffix.isEmpty then ([], ['!'], c) else (['!'], suffix, c))
  if wordEnds c.rest || (flow && c.sees ',') then
    return (.tag (String.ofList handle) (String.ofList suffix), c)
  else none

/-! ## Directives -/

/-- A number in the version of the language: up to nine digits. -/
def versionNumber? (c : Cursor) : Option (Nat × Cursor) :=
  let (digits, c) := c.span Char.isDigit
  if digits.isEmpty || digits.length > 9 then none
  else some (digits.foldl (fun n d => 10 * n + (d.toNat - '0'.toNat)) 0, c)

/-- The directive that comes next, and the place behind its line. -/
def directive? (c : Cursor) : Option (Token × Cursor) := do
  let (name, c) := c.step.span isNameChar
  if name.isEmpty || !wordEnds c.rest then none
  let c := c.skipWhile isGap
  let (token, c) ←
    if name = "YAML".toList then
      let (major, c) ← versionNumber? c
      if !c.sees '.' then none
      let (minor, c) ← versionNumber? c.step
      some (Token.version major minor, c)
    else if name = "TAG".toList then
      let (handle, c) ← tagHandle? c
      if handle ≠ ['!'] && !isFullHandle handle then none
      if !c.rest.head?.any isGap then none
      let c := c.skipWhile isGap
      let (lead, c) ← tagChars? true (c.rest.length + 1) c
      if lead.isEmpty || !wordEnds c.rest then none
      some (.handle (String.ofList handle) (String.ofList lead), c)
    else none
  let c ← c.endLine?
  return (token, c)

end CrudForge.Yaml
