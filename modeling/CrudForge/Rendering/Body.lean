import CrudForge.Code.Body
import CrudForge.Naming.Case
import CrudForge.Rendering.Error

/-!
Method bodies as lines. Each fragment becomes one line, whose indentation tells how many blocks
are open around it. Names are written in snake case, and as raw identifiers where they would not be
identifiers otherwise.
-/

namespace CrudForge

/-- What rendering asks of the language that services are written in. -/
structure TargetGrammar where
  /-- Whether a text is a type. -/
  isType : String → Bool
  /-- Whether a text is an identifier. -/
  isIdent : String → Bool
  /-- Whether a text is a whole file. -/
  isFile : String → Bool

namespace Rendering

/-- One step of indentation. -/
def indent : String := "    "

/-- A name as an identifier: in snake case, and raw if that is none by itself. -/
def identifier (g : TargetGrammar) (name : String) : String :=
  let snake := Naming.snakeCase name
  if g.isIdent snake then snake else "r#" ++ snake

/-- An argument of a code block as it is written. -/
def writeArg (g : TargetGrammar) : CodeArg → String
  | .name v => identifier g v
  | .str v => Text.Quoted.encode v
  | .literal v => v

/-- A line of a body and the number of blocks that are open around it. -/
structure BodyLine where
  depth : Nat
  text : String
  deriving DecidableEq, Repr

/-- What a block ends with. -/
def blockEnd (semicolon : Bool) : String :=
  if semicolon then "\x7d;" else "\x7d"

/-- The lines of the rest of a body, in which `depth` blocks are open. Blocks may be left open,
but none may be closed that is not. -/
def bodyLinesFrom (g : TargetGrammar) (method : String) (depth : Nat) :
    List Fragment → Except RenderError (List BodyLine)
  | [] => .ok []
  | f :: rest =>
    match ((f.code?.map fun code => code.expand (writeArg g)).getD (.ok "")) with
    | .error fault => .error (.malformedBody method fault.message)
    | .ok code =>
      match f, depth with
      | .statement _, depth => (⟨depth, code ++ ";"⟩ :: ·) <$> bodyLinesFrom g method depth rest
      | .expr _, depth => (⟨depth, code⟩ :: ·) <$> bodyLinesFrom g method depth rest
      | .beginBlock _, depth =>
        (⟨depth, code ++ " \x7b"⟩ :: ·) <$> bodyLinesFrom g method (depth + 1) rest
      | .nextBlock _, outer + 1 =>
        (⟨outer, "\x7d " ++ code ++ " \x7b"⟩ :: ·) <$> bodyLinesFrom g method (outer + 1) rest
      | .endBlock semicolon, outer + 1 =>
        (⟨outer, blockEnd semicolon⟩ :: ·) <$> bodyLinesFrom g method outer rest
      | .nextBlock _, 0 | .endBlock _, 0 => .error (.malformedBody method "unopened block")

/-- The lines of a body. -/
def bodyLines (g : TargetGrammar) (method : String) (body : List Fragment) :
    Except RenderError (List BodyLine) :=
  bodyLinesFrom g method 0 body

/-- A line with its indentation, which is that of a method's body for a line outside of all
blocks. -/
def BodyLine.render (l : BodyLine) : String :=
  String.join (List.replicate (2 + l.depth) indent) ++ l.text ++ "\n"

end Rendering
end CrudForge
