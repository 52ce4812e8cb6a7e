import CrudForge.Text.Class

/-!
Quoted texts: a text between double quotes in which the quote, the backslash and everything that
cannot be printed is escaped.
-/

namespace CrudForge.Text.Quoted

/-- The hexadecimal digits of a number, without leading zeros. -/
def hexDigits (n : Nat) : List Char := Nat.toDigits 16 n

/-- How one character is written between the quotes. -/
def encodeChar (c : Char) : List Char :=
  if c = '\x00' then ['\\', '0']
  else if c = '\t' then ['\\', 't']
  else if c = '\n' then ['\\', 'n']
  else if c = '\r' then ['\\', 'r']
  else if c = '"' then ['\\', '"']
  else if c = '\\' then ['\\', '\\']
  else if isPrintable c then [c]
  else ['\\', 'u', '{'] ++ hexDigits c.toNat ++ ['}']

/-- A text as a quoted text. -/
def encodeChars (cs : List Char) : List Char :=
  '"' :: cs.flatMap encodeChar ++ ['"']

/-- A text as a quoted text. -/
def encode (s : String) : String :=
  String.ofList (encodeChars s.toList)

end CrudForge.Text.Quoted
