import CrudForge.Command.Settings
import CrudForge.Rendering.Target
import CrudForge.Text.Styled

/-!
Writing one file for the service of each entity. All files are rendered before the first is
written, and unless it is forced nothing is written where something is already. If the directory
has a file `mod.rs`, every module that it does not declare yet is declared there.
-/

namespace CrudForge

/-- What the files of services are made from, and where they go. -/
structure GenerateArgs where
  manifest : String
  out : String
  profile : Option String := none
  /-- Whether files are shown and not written. -/
  dryRun : Bool := false
  /-- Whether files are replaced. -/
  force : Bool := false
  deriving DecidableEq, Repr

/-- The file of a service. -/
structure ServiceFile where
  module : String
  name : String
  code : String
  deriving DecidableEq, Repr

namespace ServiceFile

/-- The file of a class. -/
def ofClass (o : RenderOptions) (c : ServiceClass) : Except RenderError ServiceFile := do
  let code ← c.render o
  return { module := Rendering.moduleName c, name := Rendering.fileName c, code }

end ServiceFile

/-! ## The declarations of modules -/

namespace ModuleIndex

/-- The file that declares modules. -/
def fileName : String := "mod.rs"

/-- The declaration of a module. -/
def declaration (module : String) : String :=
  "pub mod " ++ module ++ ";"

/-- Whether a text declares a module on a line of its own. -/
def declares (text module : String) : Bool :=
  (Text.lines text).any fun line => Text.trim line = declaration module

/-- A text with the declaration of a module on a line at its end. -/
def add (text module : String) : String :=
  let cs := text.toList
  let separator := if cs.isEmpty || cs.getLast? = some '\n' then "" else "\n"
  text ++ separator ++ declaration module ++ "\n"

end ModuleIndex

namespace Command

variable {m : Type → Type} [Monad m] [Host m]

/-- Fails with a fault. -/
def ofFault {α : Type} (r : Except FileFault α) : Command m α :=
  ofExcept (r.mapError .file)

/-- Prints a line. -/
def printLine (s : String) : Command m Unit :=
  Host.print (s ++ "\n")

/-- The mark of something done. -/
def doneMark (colored : Bool) : String :=
  Text.Style.green.paint colored "✓"

/-- Declares a module in the index of a directory, if that is there and does not declare it. -/
def registerModule (colored : Bool) (directory module : String) : Command m Unit := do
  let path := Path.join directory ModuleIndex.fileName
  let found ← Host.look path
  if found = .nothing then return
  let text ← ofFault found.text
  if ModuleIndex.declares text module then return
  ofFault (← Host.write path (ModuleIndex.add text module))
  printLine (doneMark colored ++ " Updated " ++ path)

/-- Writes the file of a service to a directory. -/
def writeService (colored : Bool) (directory : String) (f : ServiceFile) : Command m Unit := do
  let path := Path.join directory f.name
  ofFault (← Host.write path f.code)
  printLine (doneMark colored ++ " Generated service: " ++ Text.Style.cyan.paint colored path)
  registerModule colored directory f.module

/-- Shows the file of a service. -/
def showService (colored : Bool) (f : ServiceFile) : Command m Unit := do
  printLine (Text.Style.dimmed.paint colored ("// ── " ++ f.name ++ " ──"))
  printLine f.code

/-- Fails if there is something already where one of some files should be. -/
def refuseOccupied (directory : String) : List ServiceFile → Command m Unit
  | [] => return
  | f :: fs => do
    let path := Path.join directory f.name
    if ← Host.occupied path then throw (.occupied path)
    refuseOccupied directory fs

/-- Makes a directory, if there is nothing at its path. -/
def makeDirectory (directory : String) : Command m Unit := do
  if !(← Host.occupied directory) then ofFault (← Host.createDirs directory)

/-- The files of the services of a manifest. -/
def serviceFiles (args : GenerateArgs) : Command m (List ServiceFile) := do
  let s ← settings args.profile
  let cs ← classes args.manifest s.naming
  ofExcept ((cs.mapM (ServiceFile.ofClass s.render)).mapError .rendering)

/-- Writes the services of a manifest, or shows them. -/
def generate (colored : Bool) (args : GenerateArgs) : Command m Unit := do
  let files ← serviceFiles args
  if args.dryRun then files.forM (showService colored)
  else
    if !args.force then refuseOccupied args.out files
    makeDirectory args.out
    files.forM (writeService colored args.out)

end Command
end CrudForge
