import CrudForge.Command.Arguments
import CrudForge.Command.Inspect
import CrudForge.Command.ShowConfig

/-!
The program: it does what its arguments ask for, and ends with a code that tells whether it could.
-/

namespace CrudForge

variable {m : Type → Type} [Monad m] [Host m]

/-- The command that does what is asked for. -/
def Request.run (colored : Bool) : Request → Command m Unit
  | generate args => Command.generate colored args
  | inspect manifest profile => Command.inspect colored manifest profile
  | config profile => Command.showConfig colored profile

namespace Program

/-- The name of the program and its version. -/
def version : String := "svcgen 0.1.0"

/-- How the program is called. -/
def usage : String :=
  String.join
    ["svcgen: generate CRUD services from entity manifests\n\n",
      "Usage: svcgen [-v] <COMMAND>\n\n",
      "Commands:\n",
      "  generate [-o OUT] [-p PROFILE] [--dry-run] [--force] <MANIFEST>\n",
      "  inspect [-p PROFILE] <MANIFEST>\n",
      "  config [-p PROFILE]\n"]

/-- The code of a program that did what it was asked for. -/
def done : Nat := 0

/-- The code of a program that failed. -/
def failed : Nat := 1

/-- The code of a program that was asked for nothing that it can do. -/
def misused : Nat := 2

/-- Runs the program and returns its code. -/
def run (colored : Bool) (args : List String) : m Nat := do
  match Arguments.read args with
  | .error .help =>
    Host.print usage
    return done
  | .error .version =>
    Host.print (version ++ "\n")
    return done
  | .error .refused =>
    Host.report usage
    return misused
  | .ok request =>
    match ← (request.run colored : Command m Unit).run with
    | .ok () => return done
    | .error e =>
      Host.report (Text.Style.red.paint colored ("Error: " ++ e.message) ++ "\n")
      return failed

end Program
end CrudForge
