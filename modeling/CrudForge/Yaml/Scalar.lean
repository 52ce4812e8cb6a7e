import CrudForge.Text.Digit
import CrudForge.Yaml.Cursor

/-!
The texts of scalars. Where a scalar goes on in another line, the break and the blanks around it
are folded: one break becomes a space, and of more breaks the first is dropped. The breaks for
lines and paragraphs are kept.
-/

namespace CrudForge.Yaml

/-! ## Folding -/

/-- What becomes of the breaks between two words. -/
def fold : List Char → List Char
  | ['\n'] => [' ']
  | '\n' :: more => more
  | breaks => breaks

/-- What becomes of blanks and breaks between two words. -/
def foldGap (gap : List Char) : List Char :=
  if gap.any isBreak then fold (gap.filter isBreak) else gap

/-- Blanks and breaks. -/
def isSpacing (c : Char) : Bool :=
  isGap c || isBreak c

/-- Whether a tab stands in the indentation of a line, left of the column `least`. -/
def tabIndents (least : Nat) : Nat → List Char → Bool
  | _, [] => false
  | column, c :: cs =>
    if isBreak c then tabIndents least 0 cs
    else (c = '\t' && column < least) || tabIndents least (column + 1) cs

/-! ## Plain scalars -/

/-- Whether a plain scalar ends in front of a text. -/
def plainEnds (flow : Bool) : List Char → Bool
  | [] => true
  | c :: cs =>
    isSpacing c || (c = ':' && wordEnds cs) || (flow && ",[]\x7b\x7d".toList.contains c)

/-- Whether a colon is where it cannot be within a flow collection. -/
def strayColon : List Char → Bool
  | ':' :: c :: _ => ",?[]\x7b\x7d".toList.contains c
  | _ => false

/-- The characters of a plain scalar up to the next blank or break, and the place behind them;
none if a colon is where it cannot be. The fuel bounds their number. -/
def plainWord? (flow : Bool) : Nat → Cursor → Option (List Char × Cursor)
  | 0, _ => none
  | fuel + 1, c =>
    match c.rest with
    | [] => some ([], c)
    | x :: _ =>
      if isSpacing x then some ([], c)
      else if flow && strayColon c.rest then none
      else if plainEnds flow c.rest then some ([], c)
      else (plainWord? flow fuel c.step).map fun (w, c) => (x :: w, c)

/-- The text of a plain scalar from a word on, `gap` being what there is between it and the word
before, and the place behind the blanks that follow the scalar. Also whether a line begins
there. Lines must be indented up to the column `least`. -/
def plainFrom? (flow : Bool) (least : Nat) :
    Nat → List Char → Cursor → Option (List Char × Cursor × Bool)
  | 0, _, _ => none
  | fuel + 1, gap, c => do
    let broken := gap.any isBreak
    if c.seesDocumentEdge || c.sees '#' then return ([], c, broken)
    let (word, c) ← plainWord? flow fuel c
    let text := if word.isEmpty then [] else foldGap gap ++ word
    let broken := word.isEmpty && broken
    if !isSpacing (c.rest.head?.getD 'x') then return (text, c, broken)
    let (gap, next) := c.span isSpacing
    if tabIndents least 0 (gap.dropWhile isGap) then none
    if !flow && next.column < least then return (text, next, gap.any isBreak)
    let (more, c, broken) ← plainFrom? flow least fuel gap next
    return (text ++ more, c, broken)

/-- The text of a plain scalar, the place behind it and the blanks that follow it, and whether a
line begins there. -/
def plainScalar? (flow : Bool) (least : Nat) (c : Cursor) : Option (String × Cursor × Bool) :=
  (plainFrom? flow least (c.rest.length + 2) [] c).map fun (text, c, broken) =>
    (String.ofList text, c, broken)

/-! ## Quoted scalars -/

/-- The character whose number is written in hexadecimal digits. -/
def hexChar? (digits : List Char) : Option Char := do
  let ds ← digits.mapM (Text.digitValue? 16)
  let n := ds.foldl (fun n d => 16 * n + d) 0
  if n.isValidChar then some (Char.ofNat n) else none

/-- The character that a letter behind a backslash stands for. -/
def escapedChar? (c : Char) : Option Char :=
  [('0', '\x00'), ('a', '\x07'), ('b', '\x08'), ('t', '\t'), ('\t', '\t'), ('n', '\n'),
    ('v', '\x0b'), ('f', '\x0c'), ('r', '\r'), ('e', '\x1b'), (' ', ' '), ('"', '"'),
    ('/', '/'), ('\\', '\\'), ('N', '\u0085'), ('_', '\u00a0'), ('L', '\u2028'),
    ('P', '\u2029')].lookup c

/-- The number of hexadecimal digits that follow a letter behind a backslash. -/
def hexLength? (c : Char) : Option Nat :=
  [('x', 2), ('u', 4), ('U', 8)].lookup c

/-- What a backslash and the characters `x :: cs` behind it stand for, and how many of the
characters that takes. -/
def escape? (x : Char) (cs : List Char) : Option (Char × Nat) :=
  match escapedChar? x, hexLength? x with
  | some c, _ => some (c, 1)
  | none, some n =>
    if cs.length < n then none else (hexChar? (cs.take n)).map fun c => (c, n + 1)
  | none, none => none

/-- The text of a quoted scalar behind its opening quote, and the place behind its closing one.
In double quotes there are escapes, and a break behind a backslash is not folded; in single
quotes a quote that is doubled stands for itself. -/
def quotedFrom? (quote : Char) : Nat → Cursor → Option (List Char × Cursor)
  | 0, _ => none
  | fuel + 1, c => do
    let go (text : List Char) (c : Cursor) : Option (List Char × Cursor) :=
      (quotedFrom? quote fuel c).map fun (more, c) => (text ++ more, c)
    if c.seesDocumentEdge then none
    match c.rest with
    | [] => none
    | x :: cs =>
      if isSpacing x then
        let (gap, c) := c.span isSpacing
        go (foldGap gap) c
      else if x = quote then
        if quote = '\'' && cs.head? = some '\'' then go ['\''] (c.drop 2) else return ([], c.step)
      else if quote = '"' && x = '\\' then
        match cs with
        | [] => none
        | y :: cs =>
          if isBreak y then
            let (gap, c) := (c.drop 2).span isSpacing
            go (gap.filter isBreak) c
          else
            let (z, n) ← escape? y cs
            go [z] (c.drop (n + 1))
      else go [x] c.step

/-- The text of the quoted scalar whose opening quote comes next, and the place behind it. -/
def quotedScalar? (c : Cursor) : Option (String × Cursor) := do
  let quote ← c.rest.head?
  let (text, c) ← quotedFrom? quote (c.rest.length + 1) c.step
  return (String.ofList text, c)

/-! ## Block scalars -/

/-- What becomes of the breaks at the end of a block scalar. -/
inductive Chomp
  | strip
  | clip
  | keep
  deriving DecidableEq, Repr

/-- What a sign in the head of a block scalar says of the breaks at its end. -/
def chompOf? : Char → Option Chomp
  | '-' => some .strip
  | '+' => some .keep
  | _ => none

/-- The digit in the head of a block scalar that tells its indentation. -/
def increment? (c : Char) : Option Nat :=
  if '0' ≤ c && c ≤ '9' then some (c.toNat - '0'.toNat) else none

/-- The head of a block scalar: what becomes of the breaks at its end, and the indentation that
it tells, which cannot be zero. A sign and a digit may come in either order. -/
def blockHead? (c : Cursor) : Option (Chomp × Option Nat × Cursor) := do
  let (sign, digit, c) :=
    match c.rest.head? >>= chompOf? with
    | some sign =>
      match c.step.rest.head? >>= increment? with
      | some d => (sign, some d, c.drop 2)
      | none => (sign, none, c.step)
    | none =>
      match c.rest.head? >>= increment? with
      | some d =>
        match c.step.rest.head? >>= chompOf? with
        | some sign => (sign, some d, c.drop 2)
        | none => (.clip, some d, c.step)
      | none => (.clip, none, c)
  if digit = some 0 then none
  let c ← c.endLine?
  return (sign, digit, c)

/-- The breaks of empty lines, the place behind them and the indentation of the next line, and
the widest indentation among all of them. Spaces count as indentation up to the column `indent`,
if that is known; a tab there is an error. -/
def emptyLines? (indent : Option Nat) : Nat → Cursor → Option (List Char × Nat × Cursor)
  | 0, _ => none
  | fuel + 1, c =>
    let wide := (c.rest.takeWhile (· = ' ')).length
    let width := match indent with
      | some n => min wide (n - c.column)
      | none => wide
    let c := c.drop width
    if c.sees '\t' && indent.all (c.column < ·) then none
    else
      match c.rest with
      | [] => some ([], c.column, c)
      | x :: _ =>
        if isBreak x then
          (emptyLines? indent fuel c.step).map fun (breaks, widest, next) =>
            (x :: breaks, max c.column widest, next)
        else some ([], c.column, c)

/-- The lines of a block scalar that is indented up to the column `indent`. Between two lines
there are a break and the breaks of empty lines. If the scalar is folded and neither line begins
with a blank, a break that stands alone becomes a space, and one before empty lines is dropped.
Returns the text without the breaks behind the last line, those breaks in two parts, and the
place behind them. -/
def blockLines? (folded : Bool) (indent : Nat) :
    Nat → (blankBefore : Bool) → (last empty : List Char) → Cursor →
      Option (List Char × List Char × List Char × Cursor)
  | 0, _, _, _, _ => none
  | fuel + 1, blankBefore, last, empty, c => do
    if c.column ≠ indent || c.rest.isEmpty then return ([], last, empty, c)
    let blank := c.rest.head?.any isGap
    let joined := folded && last = ['\n'] && !blankBefore && !blank
    let between := if joined then (if empty.isEmpty then [' '] else []) else last
    let (line, c) := c.span (!isBreak ·)
    let last' := c.rest.take 1
    let (empty', _, c) ← emptyLines? (some indent) (c.rest.length + 1) c.step
    let (more, last', empty', c) ← blockLines? folded indent fuel blank last' empty' c
    return (between ++ empty ++ line ++ more, last', empty', c)

/-- The text of the block scalar whose indicator comes next, and the place behind it. The
indentation around it is `outer`, if there is any. -/
def blockScalar? (folded : Bool) (outer : Option Nat) (c : Cursor) :
    Option (String × Cursor) := do
  let (chomp, digit, c) ← blockHead? c.step
  let told := digit.map (outer.getD 0 + ·)
  let (empty, widest, c) ← emptyLines? told (c.rest.length + 1) c
  let least := match outer with
    | some n => n + 1
    | none => 1
  let indent := told.getD (max widest least)
  let (text, last, empty, c) ← blockLines? folded indent (c.rest.length + 1) false [] empty c
  let tail :=
    match chomp with
    | .strip => []
    | .clip => last
    | .keep => last ++ empty
  return (String.ofList (text ++ tail), c)

end CrudForge.Yaml
