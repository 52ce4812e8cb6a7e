import CrudForge.Command.Settings
import CrudForge.Text.Styled

/-!
Listing the methods of the services of a manifest.
-/

namespace CrudForge.Command

open Text (Style)

variable {m : Type → Type} [Monad m] [Host m]

/-- How wide the column of signatures is. -/
def signatureWidth : Nat := 45

/-- The line of a method. -/
def methodLine (colored : Bool) (method : Method) : String :=
  let failures := ", ".intercalate (method.failures.toList.map FailureKind.text)
  "  " ++ Style.green.paint colored method.signature signatureWidth ++ " " ++
    Style.red.paint colored failures

/-- The lines of a class. -/
def classLines (colored : Bool) (c : ServiceClass) : List String :=
  [Style.bold.paint colored c.name ++ " " ++
      Style.dimmed.paint colored ("(repository: " ++ c.repository.ty.text ++ ")"),
    "  " ++ Style.dimmed.paint colored "SIGNATURE" signatureWidth ++ " " ++
      Style.dimmed.paint colored "FAILS",
    "  " ++ Style.dimmed.paint colored (String.ofList (List.replicate 60 '-'))] ++
    c.methods.map (methodLine colored) ++ [""]

/-- The lines of the services of a manifest. -/
def inspectLines (colored : Bool) (cs : List ServiceClass) : List String :=
  if cs.isEmpty then [Style.dimmed.paint colored "No entities declared."]
  else cs.flatMap (classLines colored) ++ ["  " ++ cs.length.repr ++ " services total"]

/-- Lists the methods of the services of a manifest. -/
def inspect (colored : Bool) (manifest : String) (profile : Option String) : Command m Unit := do
  let s ← settings profile
  let cs ← classes manifest s.naming
  Host.print (String.join ((inspectLines colored cs).map (· ++ "\n")))

end CrudForge.Command
