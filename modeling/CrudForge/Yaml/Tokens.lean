import CrudForge.Yaml.Property

/-!
From text to tokens. Where a key of a mapping begins is known only at the colon behind it, so the
places where one could begin are remembered with the number of the token there, and the tokens
for the key and, if need be, for the mapping are put in at that number later.
-/

namespace CrudForge.Yaml

/-- A place where a key could begin. -/
structure KeyMark where
  /-- The number of tokens in front of it. -/
  number : Nat
  /-- Nothing but a key can be there. -/
  required : Bool
  index : Nat
  line : Nat
  column : Nat

/-- What is known at a place in the text. -/
structure Scanner where
  cursor : Cursor
  /-- The tokens so far, the last one first. -/
  tokens : List Token := []
  /-- Where a key could have begun in the innermost collection. -/
  keyMark : Option KeyMark := none
  /-- The same for the collections around the innermost flow collection, from the inside out;
  without flow collections there are none. -/
  outerMarks : List (Option KeyMark) := []
  /-- The columns of the open block collections, from the inside out. -/
  columns : List Nat := []
  /-- Whether a key may begin here. -/
  keyAllowed : Bool := true

/-- A step of the scanner; errors have no text. -/
abbrev Scan := StateT Scanner Option

/-- A list with an element put in behind the first `n` of those that it has in reverse. -/
def insertBehind (n : Nat) (x : α) (reversed : List α) : List α :=
  let k := reversed.length - n
  reversed.take k ++ x :: reversed.drop k

namespace Scanner

/-- Whether the place is within a flow collection. -/
def inFlow (s : Scanner) : Bool :=
  !s.outerMarks.isEmpty

/-- The column up to which a scalar in the innermost block collection must be indented. -/
def leastColumn (s : Scanner) : Nat :=
  match s.columns with
  | [] => 0
  | c :: _ => c + 1

/-- Whether a place where a key could begin is too far behind. A key is on one line and not longer
than 1024 characters. -/
def isStale (s : Scanner) (k : KeyMark) : Bool :=
  k.line < s.cursor.line || k.index + 1024 < s.cursor.index

/-- Closes the block collections that begin at a column or to the right of it. Within a flow
collection indentation has no meaning. -/
def closeBlocks (column : Nat) (s : Scanner) : Scanner :=
  let closed := if s.inFlow then 0 else (s.columns.takeWhile (column ≤ ·)).length
  { s with
    columns := s.columns.drop closed
    tokens := List.replicate closed Token.blockEnd ++ s.tokens }

/-- Opens a block collection with a token behind the first `number` tokens, if it is further to
the right than the one around it. -/
def openBlock (column number : Nat) (start : Token) (s : Scanner) : Scanner :=
  if s.leastColumn ≤ column then
    { s with columns := column :: s.columns, tokens := insertBehind number start s.tokens }
  else s

end Scanner

/-! ## Steps -/

/-- A step that only looks at a place and goes on from another. -/
def read (f : Cursor → Option (α × Cursor)) : Scan α := do
  let s ← get
  let (a, cursor) ← f s.cursor
  set { s with cursor }
  return a

/-- Goes on behind some characters. -/
def advance (n : Nat) : Scan Unit :=
  modify fun s => { s with cursor := s.cursor.drop n }

/-- Adds a token. -/
def emit (t : Token) : Scan Unit :=
  modify fun s => { s with tokens := t :: s.tokens }

/-- Says whether a key may begin at the next place. -/
def allowKey (b : Bool) : Scan Unit :=
  modify fun s => { s with keyAllowed := b }

/-- Fails unless a condition holds. -/
def require (b : Bool) : Scan Unit :=
  if b then pure () else failure

/-- Forgets where a key could have begun, which is an error if one was required. -/
def dropKeyMark : Scan Unit := do
  let s ← get
  require (!s.keyMark.any (·.required))
  set { s with keyMark := none }

/-- Remembers that a key could begin here. -/
def markKey : Scan Unit := do
  let s ← get
  if s.keyAllowed then
    dropKeyMark
    let required := !s.inFlow && s.columns.head? = some s.cursor.column
    let keyMark := some
      { number := s.tokens.length, required, index := s.cursor.index, line := s.cursor.line,
        column := s.cursor.column }
    modify fun s => { s with keyMark }

/-- Forgets the places that are too far behind, which is an error if a key was required at one of
them. -/
def dropStaleMarks : Scan Unit := do
  let s ← get
  let stale (k : Option KeyMark) : Bool := k.any s.isStale
  require (!(s.keyMark :: s.outerMarks).any fun k => stale k && k.any (·.required))
  let fresh (k : Option KeyMark) : Option KeyMark := if stale k then none else k
  set { s with keyMark := fresh s.keyMark, outerMarks := s.outerMarks.map fresh }

/-- Opens a block collection at this place, where one must be allowed to begin. -/
def openBlockHere (start : Token) : Scan Unit := do
  let s ← get
  require s.keyAllowed
  set (s.openBlock s.cursor.column s.tokens.length start)

/-- Goes on behind blanks, comments and line breaks. In front of a key in a block collection there
are no tabs; a byte order mark may begin a line. The fuel bounds the number of characters. -/
def skipSpacing : Nat → Scanner → Scanner
  | 0, s => s
  | fuel + 1, s =>
    let next (s : Scanner) : Scanner := skipSpacing fuel { s with cursor := s.cursor.step }
    match s.cursor.rest with
    | [] => s
    | x :: _ =>
      if x = '\ufeff' && s.cursor.column = 0 then next s
      else if x = ' ' || (x = '\t' && (s.inFlow || !s.keyAllowed)) then next s
      else if x = '#' then
        skipSpacing fuel { s with cursor := s.cursor.skipWhile (!isBreak ·) }
      else if isBreak x then next { s with keyAllowed := s.keyAllowed || !s.inFlow }
      else s

/-! ## Tokens -/

/-- Between documents nothing is open. -/
def leaveBlocks : Scan Unit := do
  modify (Scanner.closeBlocks 0)
  dropKeyMark
  allowKey false

/-- A token that begins or ends a document. -/
def documentMark (t : Token) : Scan Unit := do
  leaveBlocks
  advance 3
  emit t

/-- The beginning of a flow collection. -/
def openFlow (t : Token) : Scan Unit := do
  markKey
  modify fun s => { s with keyMark := none, outerMarks := s.keyMark :: s.outerMarks }
  allowKey true
  advance 1
  emit t

/-- The end of a flow collection. -/
def closeFlow (t : Token) : Scan Unit := do
  dropKeyMark
  modify fun s =>
    match s.outerMarks with
    | k :: ks => { s with keyMark := k, outerMarks := ks }
    | [] => s
  allowKey false
  advance 1
  emit t

/-- The comma between the entries of a flow collection. -/
def flowEntry : Scan Unit := do
  dropKeyMark
  allowKey true
  advance 1
  emit .flowEntry

/-- The hyphen in front of an entry of a block sequence. -/
def blockEntry : Scan Unit := do
  if !(← get).inFlow then openBlockHere .blockSequenceStart
  dropKeyMark
  allowKey true
  advance 1
  emit .blockEntry

/-- The question mark in front of a key. -/
def explicitKey : Scan Unit := do
  let flow := (← get).inFlow
  if !flow then openBlockHere .blockMappingStart
  dropKeyMark
  allowKey (!flow)
  advance 1
  emit .key

/-- The colon in front of a value, behind a key that began where one could begin, or without
one. -/
def valueMark : Scan Unit := do
  let s ← get
  match s.keyMark with
  | some k =>
    let s := { s with tokens := insertBehind k.number .key s.tokens, keyMark := none }
    set (if s.inFlow then s else s.openBlock k.column k.number .blockMappingStart)
    allowKey false
  | none =>
    if !s.inFlow then openBlockHere .blockMappingStart
    allowKey (!s.inFlow)
  advance 1
  emit .value

/-- Something that can begin a key and cannot be followed by one. -/
def keyStart (f : Cursor → Option (Token × Cursor)) : Scan Unit := do
  markKey
  allowKey false
  emit (← read f)

/-- A scalar in a block. -/
def blockScalar (folded : Bool) : Scan Unit := do
  dropKeyMark
  allowKey true
  let outer := (← get).columns.head?
  let text ← read (blockScalar? folded outer)
  emit (.scalar (if folded then .folded else .literal) text)

/-- A scalar without quotes. If it goes up to a line break, a key may follow. -/
def plainScalar : Scan Unit := do
  markKey
  allowKey false
  let s ← get
  let (text, cursor, broken) ← plainScalar? s.inFlow s.leastColumn s.cursor
  modify fun s => { s with cursor, keyAllowed := broken }
  emit (.scalar .plain text)

/-- Whether a plain scalar begins at the front of a text. -/
def plainBegins (flow : Bool) : List Char → Bool
  | [] => false
  | c :: cs =>
    if c = '-' then !cs.head?.any isGap
    else if c = '?' || c = ':' then !flow && !wordEnds cs
    else !isSpacing c && !",[]\x7b\x7d#&*!|>'\"%@`".toList.contains c

/-- The tokens at a place where neither blanks nor comments are. -/
def tokenHere (c : Cursor) (x : Char) : Scan Unit := do
  let flow := (← get).inFlow
  let alone := wordEnds (c.rest.drop 1)
  if c.column = 0 && x = '%' then
    leaveBlocks
    emit (← read directive?)
  else if c.seesDocumentMark "---" then documentMark .documentStart
  else if c.seesDocumentMark "..." then documentMark .documentEnd
  else if x = '[' then openFlow .flowSequenceStart
  else if x = '{' then openFlow .flowMappingStart
  else if x = ']' then closeFlow .flowSequenceEnd
  else if x = '}' then closeFlow .flowMappingEnd
  else if x = ',' then flowEntry
  else if x = '-' && alone then blockEntry
  else if x = '?' && (flow || alone) then explicitKey
  else if x = ':' && (flow || alone) then valueMark
  else if x = '*' then
    keyStart fun c => (anchorName? c.step).map fun (name, c) => (.alias name, c)
  else if x = '&' then
    keyStart fun c => (anchorName? c.step).map fun (name, c) => (.anchor name, c)
  else if x = '!' then keyStart (tag? flow)
  else if x = '|' && !flow then blockScalar false
  else if x = '>' && !flow then blockScalar true
  else if x = '\'' || x = '"' then
    keyStart fun c => (quotedScalar? c).map fun (text, c) => (.scalar .quoted text, c)
  else if plainBegins flow c.rest then plainScalar
  else failure

/-- The tokens from a place on. Every round takes a character at least, up to the end, and the
fuel bounds their number. -/
def tokensFrom : Nat → Scan Unit
  | 0 => failure
  | fuel + 1 => do
    modify fun s => skipSpacing s.cursor.rest.length s
    dropStaleMarks
    modify fun s => s.closeBlocks (s.cursor.column + 1)
    let c := (← get).cursor
    match c.rest with
    | [] => leaveBlocks
    | x :: _ =>
      tokenHere c x
      tokensFrom fuel

/-- The tokens of a text. -/
def tokens? (s : String) : Option (List Token) := do
  let cursor ← Cursor.ofText? s
  let ((), s) ← tokensFrom (cursor.rest.length + 1) { cursor }
  return s.tokens.reverse

end CrudForge.Yaml
