import CrudForge.Code.Block

/-!
Method bodies as lists of fragments. Fragments that open and close blocks make the nesting
explicit, so that whoever writes a body can indent it without reading the code again. `checkBody`
accepts a body if every piece of code in it is sound and its blocks are balanced.
-/

namespace CrudForge

/-- One piece of a method body. -/
inductive Fragment
  /-- Code that ends with a semicolon. -/
  | statement (code : CodeBlock)
  /-- Code that stands for a value and has no end mark. -/
  | expr (code : CodeBlock)
  /-- Code in front of an opening brace. -/
  | beginBlock (code : CodeBlock)
  /-- Code between a closing and an opening brace. -/
  | nextBlock (code : CodeBlock)
  /-- A closing brace, with a semicolon if the block is a statement. -/
  | endBlock (semicolon : Bool)
  deriving DecidableEq, Repr

/-- The code of a fragment, if it carries any. -/
def Fragment.code? : Fragment → Option CodeBlock
  | statement code | expr code | beginBlock code | nextBlock code => some code
  | endBlock _ => none

/-- What can be wrong with a body; positions count fragments from zero. -/
inductive BodyFault
  /-- A piece of code is not sound. -/
  | code (fault : CodeFault)
  /-- A block is continued where none is open. -/
  | nothingToContinue (index : Nat)
  /-- A block is closed where none is open. -/
  | nothingToClose (index : Nat)
  /-- Blocks are still open at the end. -/
  | leftOpen (count : Nat)
  deriving DecidableEq, Repr

/-- The text of a fault. -/
def BodyFault.message : BodyFault → String
  | code fault => fault.message
  | nothingToContinue index =>
    "fragment #" ++ index.repr ++ " continues a block that is not open"
  | nothingToClose index => "fragment #" ++ index.repr ++ " closes a block that is not open"
  | leftOpen count => count.repr ++ " block(s) left open"

/-- Checks the code of one fragment. -/
def Fragment.checkCode (f : Fragment) : Except BodyFault Unit :=
  match f.code? with
  | none => .ok ()
  | some code => code.check.mapError .code

/-- Checks the rest of a body from fragment `index` on, where `depth` blocks are open. -/
def checkBodyFrom (index depth : Nat) : List Fragment → Except BodyFault Unit
  | [] => if depth = 0 then .ok () else .error (.leftOpen depth)
  | f :: rest => do
    f.checkCode
    match f, depth with
    | .beginBlock _, depth => checkBodyFrom (index + 1) (depth + 1) rest
    | .nextBlock _, 0 => .error (.nothingToContinue index)
    | .endBlock _, 0 => .error (.nothingToClose index)
    | .endBlock _, depth + 1 => checkBodyFrom (index + 1) depth rest
    | _, depth => checkBodyFrom (index + 1) depth rest

/-- Checks a body: the first fault if it has any. -/
def checkBody (body : List Fragment) : Except BodyFault Unit :=
  checkBodyFrom 0 0 body

end CrudForge
