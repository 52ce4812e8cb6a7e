import CrudForge.Config.Environment
import CrudForge.Text.Blank

/-!
Files that add variables to the environment. A line has a name, an equals sign and a value, which
may refer to other variables; a value in quotes can go over several lines. The first line that is
none of that ends the file, and what came before it counts.
-/

namespace CrudForge.DotEnv

/-! ## Lines -/

/-- Where in a line a place is. -/
inductive LineState
  | plain
  /-- Behind a blank, where a comment can begin. -/
  | blank
  | escape
  /-- In single or double quotes, and there behind a backslash. -/
  | quoted (quote : Char) (escape : Bool)
  deriving DecidableEq, Repr

namespace LineState

/-- The state behind a character, unless that begins a comment. -/
def next? : LineState → Char → Option LineState
  | quoted q true, _ => some (quoted q false)
  | quoted q false, c =>
    if c = '\\' then some (quoted q true) else if c = q then some plain else some (quoted q false)
  | escape, _ => some plain
  | state, c =>
    if state = blank && c = '#' then none
    else if c = '\\' then some escape
    else if c = '"' || c = '\'' then some (quoted c false)
    else if state = plain && Text.isBlank c && c ≠ '\n' && c ≠ '\r' then some blank
    else some plain

/-- The characters in front of a comment, and the state behind the last one if there is none. -/
def run : LineState → List Char → List Char × Option LineState
  | state, [] => ([], some state)
  | state, c :: cs =>
    match state.next? c with
    | none => ([], none)
    | some state =>
      let (before, last) := state.run cs
      (c :: before, last)

end LineState

/-- The lines of a text with the line feeds at their ends. -/
def fullLines (cs : List Char) : List (List Char) :=
  let pieces := Text.splitChars '\n' cs
  let last := pieces.getLast?.getD []
  pieces.dropLast.map (· ++ ['\n']) ++ if last.isEmpty then [] else [last]

/-- A line without the line feed at its end and the carriage return before that. -/
def dropFeed (line : List Char) : List Char :=
  match line.reverse with
  | '\n' :: rest => Text.dropReturn rest.reverse
  | _ => line

/-- The lines of a file, where a line ends only outside of quotes. `pending` is what came before
on the same line. A line that does not end is left out. -/
def joinedLines : (pending : List Char) → LineState → List (List Char) → List (List Char)
  | _, _, [] => []
  | pending, state, line :: lines =>
    if ((pending ++ line).dropWhile Text.isBlank).head? = some '#' then
      [] :: joinedLines [] .plain lines
    else
      match state.run line with
      | (before, none) => (pending ++ before) :: joinedLines [] .plain lines
      | (_, some .plain) => dropFeed (pending ++ line) :: joinedLines [] .plain lines
      | (_, some state) => joinedLines (pending ++ line) state lines

/-! ## Values -/

/-- Where in a value a place is. -/
inductive ValueState
  | plain (quoted : Bool)
  /-- In single quotes. -/
  | literal
  | escape (quoted : Bool)
  /-- In the name of a variable, of which some characters have been read. -/
  | name (quoted : Bool) (read : List Char)
  /-- In the name of a variable that is put in braces. -/
  | braced (quoted : Bool) (read : List Char)
  /-- Behind the value, where only blanks and a comment can be. -/
  | ended
  deriving DecidableEq, Repr

/-- The character that another one stands for behind a backslash. -/
def escapedChar? (c : Char) : Option Char :=
  if "\\'\"$ ".toList.contains c then some c else if c = 'n' then some '\n' else none

/-- The value from a place on; `value` tells the values of variables. -/
def valueFrom? (value : List Char → List Char) : ValueState → List Char → Option (List Char)
  | .plain quoted, [] => if quoted then none else some []
  | .plain quoted, c :: cs =>
    if c = '$' then valueFrom? value (.name quoted []) cs
    else if c = '"' then valueFrom? value (.plain !quoted) cs
    else if c = '\\' then valueFrom? value (.escape quoted) cs
    else if c = '\'' && !quoted then valueFrom? value .literal cs
    else if (c = ' ' || c = '\t') && !quoted then valueFrom? value .ended cs
    else (c :: ·) <$> valueFrom? value (.plain quoted) cs
  | .literal, [] => none
  | .literal, c :: cs =>
    if c = '\'' then valueFrom? value (.plain false) cs
    else (c :: ·) <$> valueFrom? value .literal cs
  | .escape quoted, [] => if quoted then none else some []
  | .escape quoted, c :: cs => do
    let c ← escapedChar? c
    let rest ← valueFrom? value (.plain quoted) cs
    return c :: rest
  | .name quoted read, [] => if quoted then none else some (value read)
  | .name quoted read, c :: cs =>
    if Text.isAlphanumeric c then valueFrom? value (.name quoted (read ++ [c])) cs
    else if c = '{' && read.isEmpty then valueFrom? value (.braced quoted []) cs
    else if c = '$' then (value read ++ ·) <$> valueFrom? value (.name quoted []) cs
    else (value read ++ c :: ·) <$> valueFrom? value (.plain quoted) cs
  | .braced _ _, [] => none
  | .braced quoted read, c :: cs =>
    if c = '}' then (value read ++ ·) <$> valueFrom? value (.plain quoted) cs
    else valueFrom? value (.braced quoted (read ++ [c])) cs
  | .ended, [] => some []
  | .ended, c :: cs =>
    if c = ' ' || c = '\t' then valueFrom? value .ended cs
    else if c = '#' then some []
    else none

/-! ## Assignments -/

/-- Whether a character can begin a name. -/
def isNameStart (c : Char) : Bool :=
  c.isAlpha || c = '_'

/-- Whether a character can be in a name. -/
def isNameChar (c : Char) : Bool :=
  c.isAlphanum || c = '_' || c = '.'

/-- The name at the front of a line, and what follows it and blanks. -/
def name? (cs : List Char) : Option (List Char × List Char) :=
  if cs.head?.any isNameStart then
    some (cs.takeWhile isNameChar, (cs.dropWhile isNameChar).dropWhile Text.isBlank)
  else none

/-- What follows an equals sign and blanks. -/
def behindEquals? : List Char → Option (List Char)
  | '=' :: cs => some (cs.dropWhile Text.isBlank)
  | _ => none

/-- The name that a line assigns to, and what follows the equals sign. The word `export` may be
in front of the name, or be the name. -/
def assignment? (cs : List Char) : Option (List Char × List Char) := do
  let (name, rest) ← name? cs
  match behindEquals? rest with
  | some rest => return (name, rest)
  | none =>
    if name = "export".toList then
      let (name, rest) ← name? rest
      let rest ← behindEquals? rest
      return (name, rest)
    else none

/-- The variables known while a file is read. -/
structure Scope where
  env : Environment
  /-- What the file assigned, the last assignment first. -/
  assigned : List (String × String) := []

/-- The value of a variable. One in the environment hides the file's own; a variable that is not
known is empty. -/
def Scope.value (s : Scope) (name : List Char) : List Char :=
  let name := String.ofList name
  ((s.env.lookup name).or (s.assigned.lookup name)).getD "" |>.toList

/-- The name and the value that a line assigns, if any; an error has no text. -/
def readLine? (s : Scope) (line : List Char) : Option (Option (String × String)) :=
  let cs := (Text.dropEndWhile Text.isBlank line).dropWhile Text.isBlank
  if cs.isEmpty || cs.head? = some '#' then some none
  else do
    let (name, rest) ← assignment? cs
    let value ←
      if rest.isEmpty || rest.head? = some '#' then some []
      else valueFrom? s.value (.plain false) rest
    return some (String.ofList name, String.ofList value)

/-- The environment after the lines of a file, up to the first error. -/
def runLines : Scope → List (List Char) → Environment
  | s, [] => s.env
  | s, line :: lines =>
    match readLine? s line with
    | none => s.env
    | some none => runLines s lines
    | some (some (name, value)) =>
      runLines { env := s.env.addNew name value, assigned := (name, value) :: s.assigned } lines

/-- The environment with the variables that a file assigns, unless they are set already. -/
def load (text : String) (env : Environment) : Environment :=
  let cs :=
    match text.toList with
    | '\ufeff' :: cs => cs
    | cs => cs
  runLines { env } (joinedLines [] .plain (fullLines cs))

end CrudForge.DotEnv
