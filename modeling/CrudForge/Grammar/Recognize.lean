import CrudForge.Grammar.Item
import CrudForge.Grammar.Lexer

/-!
Whether a text is a type, an identifier or a whole file of Rust. `readers` ties the rules of the
grammar together: each level of nesting hands the level below it to the rules. Every level but a
few reads something, so that the length of a text bounds the number of levels that it needs.
-/

namespace CrudForge.Grammar

/-- The rule of a kind of phrases, over readers for the phrases inside. -/
def rule (r : Readers) : Readers
  | .type plus => type r plus
  | .bound capturing => bound r capturing
  | .expr structs => expr r structs
  | .unary structs => unary r structs
  | .operators structs base left => operators r structs base left
  | .statementExpr => statementExpr r
  | .pattern => pattern r
  | .statements => do
    statements r
    return .plain
  | .item => do
    item r
    return .plain
  | .useTree root => do
    useTree r root
    return .plain

/-- Readers that go down a number of levels. -/
def readers : Nat → Readers
  | 0 => fun _ => failure
  | depth + 1 => fun goal => rule (readers depth) goal

/-- Whether all of a text is a phrase. -/
def accepts (s : String) (p : Readers → Read α) : Bool :=
  match tokens? s with
  | none => false
  | some ts =>
    match (p (readers (4 * s.length + 64))).run ts with
    | some (_, rest) => rest.isEmpty
    | none => false

/-- Whether a text is a type. -/
def isType (s : String) : Bool := accepts s fun r => r (.type true)

/-- Whether a text is an identifier, with blanks around it perhaps. -/
def isIdent (s : String) : Bool := accepts s fun _ => takeIdent

/-- Whether a text is a file. -/
def isFile (s : String) : Bool := accepts s file

end CrudForge.Grammar
