/-!
Token trees of Rust, the language that services are written in: identifiers, marks, literals, and
groups between delimiters. Whether a mark touches the next one is kept, since `::` is two marks
that touch.
-/

namespace CrudForge.Grammar

/-- What encloses a group. -/
inductive Delimiter
  | paren
  | bracket
  | brace
  deriving DecidableEq, Repr

/-- What a literal stands for. -/
inductive LiteralKind
  | str
  | byteStr
  | cStr
  | byte
  | char
  | int
  | float
  /-- The spelling that stands for a faulty literal. -/
  | fault
  deriving DecidableEq, Repr

/-- A token tree. -/
inductive Token
  /-- An identifier or keyword as it is spelled, with `r#` in front if it is a raw one. -/
  | ident (text : String)
  /-- A mark, and whether another mark follows at once. -/
  | mark (c : Char) (joint : Bool)
  | literal (kind : LiteralKind) (text : String)
  | group (delimiter : Delimiter) (content : List Token)
  deriving Repr

/-- A token while the groups are still open. -/
inductive Lexeme
  | token (t : Token)
  | opening (d : Delimiter)
  | closing (d : Delimiter)
  deriving Repr

/-- The token trees of a sequence of lexemes. `outer` are the open groups, innermost first, each
with the trees that stand in front of it; `trees` are the trees read since, last one first. A
closing delimiter must match the innermost open one. -/
def Token.nestFrom : List (Delimiter × List Token) → List Token → List Lexeme → Option (List Token)
  | [], trees, [] => some trees.reverse
  | _ :: _, _, [] => none
  | outer, trees, .token t :: rest => nestFrom outer (t :: trees) rest
  | outer, trees, .opening d :: rest => nestFrom ((d, trees) :: outer) [] rest
  | [], _, .closing _ :: _ => none
  | (d, before) :: outer, trees, .closing d' :: rest =>
    if d = d' then nestFrom outer (.group d trees.reverse :: before) rest else none

/-- The token trees of a sequence of lexemes. -/
def Token.nest? (lexemes : List Lexeme) : Option (List Token) :=
  Token.nestFrom [] [] lexemes

end CrudForge.Grammar
