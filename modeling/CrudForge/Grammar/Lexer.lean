import CrudForge.Grammar.Literal

/-!
From text to token trees. Comments are blanks, except the ones that document something: those
stand for attributes. The text is refused if it holds anything that is no token, or delimiters
that do not match.
-/

namespace CrudForge.Grammar

/-! ## Blanks and comments -/

/-- Blanks between tokens, among them the marks that turn the direction of writing. -/
def isSpace (c : Char) : Bool :=
  Text.isBlank c || c = '\u200e' || c = '\u200f'

/-- The rest of a line and the text behind it, from the line feed on. A carriage return in front
of the line feed belongs to neither. -/
def restOfLine : List Char → List Char × List Char
  | [] => ([], [])
  | '\n' :: cs => ([], '\n' :: cs)
  | '\r' :: '\n' :: cs => ([], '\n' :: cs)
  | c :: cs =>
    let (line, rest) := restOfLine cs
    (c :: line, rest)

/-- The rest of a block comment inside of which `depth` more are open, and the text behind it. -/
def restOfBlock? : Nat → List Char → Option (List Char × List Char)
  | _, [] => none
  | depth, '/' :: '*' :: cs => (restOfBlock? (depth + 1) cs).map fun (t, r) => ('/' :: '*' :: t, r)
  | 0, '*' :: '/' :: cs => some ([], cs)
  | depth + 1, '*' :: '/' :: cs => (restOfBlock? depth cs).map fun (t, r) => ('*' :: '/' :: t, r)
  | depth, c :: cs => (restOfBlock? depth cs).map fun (t, r) => (c :: t, r)

/-- The text behind a comment that documents nothing. -/
def comment? : List Char → Option (List Char)
  | '/' :: '/' :: cs =>
    if startsWith "!" cs || (startsWith "/" cs && !startsWith "//" cs) then none
    else some (restOfLine cs).2
  | '/' :: '*' :: '*' :: '/' :: cs => some cs
  | '/' :: '*' :: cs =>
    if startsWith "!" cs || (startsWith "*" cs && !startsWith "**" cs) then none
    else (restOfBlock? 0 cs).map (·.2)
  | _ => none

/-- Whether every carriage return stands in front of a line feed. -/
def returnsPaired : List Char → Bool
  | [] => true
  | '\r' :: '\n' :: cs => returnsPaired cs
  | '\r' :: _ => false
  | _ :: cs => returnsPaired cs

/-- The lexemes of an attribute that holds a comment, on the inside of what it documents or not. -/
def docAttribute (inner : Bool) : List Lexeme :=
  [.token (.mark '#' false)] ++ (if inner then [.token (.mark '!' false)] else []) ++
    [.opening .bracket, .token (.ident "doc"), .token (.mark '=' false),
      .token (.literal .str ""), .closing .bracket]

/-- The attribute of a comment that documents something, and the text behind the comment. -/
def docComment? (cs : List Char) : Option (List Lexeme × List Char) := do
  let (inner, body, rest) ←
    match cs with
    | '/' :: '/' :: '!' :: cs => let (line, rest) := restOfLine cs; some (true, line, rest)
    | '/' :: '*' :: '!' :: cs => (restOfBlock? 0 cs).map fun (t, r) => (true, t, r)
    | '/' :: '/' :: '/' :: cs =>
      if startsWith "/" cs then none
      else
        let (line, rest) := restOfLine cs
        some (false, line, rest)
    | '/' :: '*' :: '*' :: cs =>
      if startsWith "*" cs then none
      else (restOfBlock? 0 ('*' :: cs)).map fun (t, r) => (false, t, r)
    | _ => none
  if returnsPaired body then some (docAttribute inner, rest) else none

/-! ## Tokens -/

/-- The identifier at the front of a text, and what follows it. Five words have no raw form. -/
def anyIdent? (cs : List Char) : Option (String × List Char) :=
  let take (start : List Char) (cs : List Char) : Option (String × List Char) :=
    (plainIdent? cs).map fun rest =>
      (String.ofList (start ++ cs.take (cs.length - rest.length)), rest)
  match cs with
  | 'r' :: '#' :: cs => do
    let (name, rest) ← take ['r', '#'] cs
    if ["r#_", "r#super", "r#self", "r#Self", "r#crate"].contains name then none
    else some (name, rest)
  | cs => take [] cs

/-- The identifier at the front of a text that does not begin like a literal. -/
def ident? (cs : List Char) : Option (String × List Char) :=
  if ["r\"", "r#\"", "r##", "b\"", "b'", "br\"", "br#", "c\"", "cr\"", "cr#"].any
      (startsWith · cs) then none
  else anyIdent? cs

/-- The mark at the front of a text. The slash of a comment is none. -/
def markChar? : List Char → Option Char
  | '/' :: '/' :: _ | '/' :: '*' :: _ => none
  | c :: _ => if "~!@#$%^&*-=+|;:,<.>/?'".toList.contains c then some c else none
  | [] => none

/-- The mark at the front of a text as a token, and what follows it. An apostrophe is a mark only
in front of a name that no other apostrophe closes. -/
def mark? (cs : List Char) : Option (Token × List Char) := do
  let c ← markChar? cs
  let rest := cs.drop 1
  if c = '\'' then
    let (_, after) ← anyIdent? rest
    if startsWith "'" after || (startsWith "#" after && !startsWith "r#" rest) then none
    else some (.mark c true, rest)
  else some (.mark c (markChar? rest).isSome, rest)

/-- The spelling that stands for a faulty literal. -/
def faultSpelling : List Char := ['(', '/', '*', 'E', 'R', 'R', 'O', 'R', '*', '/', ')']

/-- The token at the front of a text, and what follows it. -/
def leaf? (cs : List Char) : Option (Token × List Char) :=
  (do let (kind, rest) ← literal? cs
      some (.literal kind (String.ofList (cs.take (cs.length - rest.length))), rest))
    <|> mark? cs
    <|> (ident? cs).map fun (name, rest) => (.ident name, rest)

/-- The delimiter of a character. -/
def delimiter? (c : Char) : Option Lexeme :=
  match c with
  | '(' => some (.opening .paren)
  | '[' => some (.opening .bracket)
  | '{' => some (.opening .brace)
  | ')' => some (.closing .paren)
  | ']' => some (.closing .bracket)
  | '}' => some (.closing .brace)
  | _ => none

/-- The lexemes at the front of a text that does not begin with a blank, and what follows them. -/
def lexeme? (cs : List Char) : Option (List Lexeme × List Char) :=
  match expect? faultSpelling cs with
  | some rest => some ([.token (.literal .fault (String.ofList faultSpelling))], rest)
  | none =>
    match cs with
    | [] => none
    | c :: rest =>
      match delimiter? c with
      | some l => some ([l], rest)
      | none => (leaf? cs).map fun (t, rest) => ([.token t], rest)

/-- The lexemes of a text; the fuel bounds its length. -/
def lexemesFrom : Nat → List Char → Option (List Lexeme)
  | 0, _ => none
  | _ + 1, [] => some []
  | fuel + 1, c :: cs =>
    if isSpace c then lexemesFrom fuel cs
    else
      match comment? (c :: cs) with
      | some rest => lexemesFrom fuel rest
      | none => do
        let (ls, rest) ← docComment? (c :: cs) <|> lexeme? (c :: cs)
        let more ← lexemesFrom fuel rest
        some (ls ++ more)

/-- The token trees of a text. A byte order mark in front is passed over. -/
def tokens? (s : String) : Option (List Token) := do
  let cs :=
    match s.toList with
    | '\ufeff' :: cs => cs
    | cs => cs
  let ls ← lexemesFrom (cs.length + 1) cs
  Token.nest? ls

end CrudForge.Grammar
