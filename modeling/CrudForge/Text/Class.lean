import CrudForge.Text.Class.Table

/-!
The character classes that the formats of this library refer to, after the Unicode standard.
-/

namespace CrudForge.Text

/-- Blank characters: the ASCII blanks and those with the property White_Space. -/
def isBlank (c : Char) : Bool :=
  if c.toNat < 128 then c = ' ' || ('\t' ≤ c && c ≤ '\r')
  else Class.Table.whiteSpace.contains c.toNat

/-- Letters and numbers of any script. -/
def isAlphanumeric (c : Char) : Bool :=
  if c.toNat < 128 then c.isAlphanum else Class.Table.alphanumeric.contains c.toNat

/-- Characters that begin an identifier. -/
def isIdentStart (c : Char) : Bool :=
  if c.toNat < 128 then c.isAlpha || c = '_' else Class.Table.identStart.contains c.toNat

/-- Characters that continue an identifier. -/
def isIdentContinue (c : Char) : Bool :=
  if c.toNat < 128 then c.isAlphanum || c = '_' else Class.Table.identContinue.contains c.toNat

/-- Characters that can stand for themselves where a text is shown. -/
def isPrintable (c : Char) : Bool :=
  if c.toNat < 128 then ' ' ≤ c && c ≤ '~' else !Class.Table.unprintable.contains c.toNat

end CrudForge.Text
