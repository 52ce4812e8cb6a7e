import CrudForge.Service.Basic
import CrudForge.Naming.Repeat
import CrudForge.Generation.Error

/-!
Building methods piece by piece. A builder only collects; whether the pieces make a method is
checked once, by `build`: no parameter may repeat a name, and the body must be sound.
-/

namespace CrudForge

/-- What has been collected for a method. -/
structure MethodBuilder where
  name : String
  params : List Parameter := []
  failures : FailureSet := .empty
  body : List Fragment := []
  deriving DecidableEq, Repr

namespace MethodBuilder

/-- Adds a parameter. -/
def param (b : MethodBuilder) (p : Parameter) : MethodBuilder :=
  { b with params := b.params ++ [p] }

/-- Adds parameters. -/
def addParams (b : MethodBuilder) (ps : List Parameter) : MethodBuilder :=
  { b with params := b.params ++ ps }

/-- Declares a way to fail. -/
def failure (b : MethodBuilder) (kind : FailureKind) : MethodBuilder :=
  { b with failures := b.failures.insert kind }

/-- Adds a fragment to the body. -/
def fragment (b : MethodBuilder) (f : Fragment) : MethodBuilder :=
  { b with body := b.body ++ [f] }

/-- Adds code that ends with a semicolon. -/
def statement (b : MethodBuilder) (code : CodeBlock) : MethodBuilder :=
  b.fragment (.statement code)

/-- Adds code that stands for a value. -/
def expr (b : MethodBuilder) (code : CodeBlock) : MethodBuilder :=
  b.fragment (.expr code)

/-- Opens a block. -/
def beginBlock (b : MethodBuilder) (code : CodeBlock) : MethodBuilder :=
  b.fragment (.beginBlock code)

/-- Closes a block and opens the next one. -/
def nextBlock (b : MethodBuilder) (code : CodeBlock) : MethodBuilder :=
  b.fragment (.nextBlock code)

/-- Closes the innermost block, as a statement if there is a semicolon. -/
def endBlock (b : MethodBuilder) (semicolon : Bool) : MethodBuilder :=
  b.fragment (.endBlock semicolon)

/-- The finished method. A repeated parameter is reported before a fault of the body. -/
def build (b : MethodBuilder) : Except GenerationError Method :=
  match Naming.firstRepeat? (b.params.map (·.name)) with
  | some name => .error (.duplicateParameter b.name name)
  | none =>
    match checkBody b.body with
    | .error fault => .error (.malformedBody b.name fault.message)
    | .ok () =>
      .ok { name := b.name, params := b.params, failures := b.failures, body := b.body }

end MethodBuilder

/-- One call on a builder. -/
inductive BuildStep
  | param (p : Parameter)
  | params (ps : List Parameter)
  | failure (kind : FailureKind)
  | fragment (f : Fragment)
  deriving DecidableEq, Repr

/-- What a call does to a builder. -/
def BuildStep.apply (b : MethodBuilder) : BuildStep → MethodBuilder
  | param p => b.param p
  | params ps => b.addParams ps
  | failure kind => b.failure kind
  | fragment f => b.fragment f

/-- A builder after a sequence of calls. -/
def MethodBuilder.run (b : MethodBuilder) (steps : List BuildStep) : MethodBuilder :=
  steps.foldl BuildStep.apply b

end CrudForge
