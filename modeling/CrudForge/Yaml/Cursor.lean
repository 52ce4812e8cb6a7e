/-!
A place in a YAML text. What a line or a column means to the language is decided elsewhere; here
they are only counted. Line breaks come in five spellings, and `Cursor.ofText?` makes one of the
three that mean the same, so that every break is one character.
-/

namespace CrudForge.Yaml

/-- Whether a character ends a line. -/
def isBreak (c : Char) : Bool :=
  c = '\n' || c = '\u2028' || c = '\u2029'

/-- Whether a character separates words within a line. -/
def isGap (c : Char) : Bool :=
  c = ' ' || c = '\t'

/-- Whether a text has no word at its front. -/
def wordEnds : List Char → Bool
  | [] => true
  | c :: _ => isGap c || isBreak c

/-- Whether a line ends at the front of a text. -/
def lineEnds : List Char → Bool
  | [] => true
  | c :: _ => isBreak c

/-- A place in a text: what is ahead of it and how far it is from the beginning. -/
structure Cursor where
  rest : List Char
  index : Nat := 0
  line : Nat := 0
  column : Nat := 0

/-- The characters that a text may hold. -/
def isAllowed (c : Char) : Bool :=
  c = '\t' || c = '\n' || c = '\r' || c = '\u0085' || (' ' ≤ c && c ≤ '~') ||
    ('\u00a0' ≤ c && c ≠ '\ufffe' && c ≠ '\uffff')

/-- A text in which one character stands for the breaks that mean the same. -/
def plainBreaks : List Char → List Char
  | [] => []
  | '\r' :: '\n' :: cs => '\n' :: plainBreaks cs
  | c :: cs => (if c = '\r' || c = '\u0085' then '\n' else c) :: plainBreaks cs

namespace Cursor

/-- The beginning of a text, behind a byte order mark, if the text holds allowed characters
only. -/
def ofText? (s : String) : Option Cursor :=
  let cs :=
    match s.toList with
    | '\ufeff' :: cs => cs
    | cs => cs
  if cs.all isAllowed then some { rest := plainBreaks cs } else none

/-- The place behind the next character. -/
def step (c : Cursor) : Cursor :=
  match c.rest with
  | [] => c
  | x :: rest =>
    if isBreak x then { rest, index := c.index + 1, line := c.line + 1, column := 0 }
    else { rest, index := c.index + 1, line := c.line, column := c.column + 1 }

/-- The place behind some of the next characters. -/
def drop : Nat → Cursor → Cursor
  | 0, c => c
  | n + 1, c => drop n c.step

/-- The characters ahead that satisfy a test, and the place behind them. -/
def span (p : Char → Bool) (c : Cursor) : List Char × Cursor :=
  let cs := c.rest.takeWhile p
  (cs, c.drop cs.length)

/-- The place behind the characters that satisfy a test. -/
def skipWhile (p : Char → Bool) (c : Cursor) : Cursor :=
  (c.span p).2

/-- Whether a character comes next. -/
def sees (x : Char) (c : Cursor) : Bool :=
  c.rest.head? = some x

/-- The place behind blanks, a comment and the end of the line, if nothing else is on the
line. -/
def endLine? (c : Cursor) : Option Cursor :=
  let c := c.skipWhile isGap
  let c := if c.sees '#' then c.skipWhile (!isBreak ·) else c
  if lineEnds c.rest then some c.step else none

/-- Whether a mark of three characters that begins or ends a document is at this place. -/
def seesDocumentMark (mark : String) (c : Cursor) : Bool :=
  c.column = 0 && c.rest.take 3 = mark.toList && wordEnds (c.rest.drop 3)

/-- Whether a document begins or ends at this place. -/
def seesDocumentEdge (c : Cursor) : Bool :=
  c.seesDocumentMark "---" || c.seesDocumentMark "..."

end Cursor
end CrudForge.Yaml
