import CrudForge.Config.Environment
import CrudForge.Files.Tree

/-!
What a command can do to the world around it. The commands are written over any `Host`; the one
that statements about them speak of is a `Workspace`, in which everything is a value.
-/

namespace CrudForge

/-- A monad in which there are files, an environment, and someone who reads. -/
class Host (m : Type → Type) where
  /-- What is found at a path. -/
  look : String → m Found
  /-- Writes a text into the file at a path. -/
  write : String → String → m (Except FileFault Unit)
  /-- Makes a directory and those around it. -/
  createDirs : String → m (Except FileFault Unit)
  environment : m Environment
  /-- Writes to the output. -/
  print : String → m Unit
  /-- Writes to where errors are reported. -/
  report : String → m Unit

/-- Whether there is anything at a path. -/
def Host.occupied {m : Type → Type} [Monad m] [Host m] (path : String) : m Bool := do
  return (← look path) ≠ .nothing

/-- A computation that can fail does what it does in the same world. -/
instance {ε : Type} {m : Type → Type} [Monad m] [Host m] : Host (ExceptT ε m) where
  look path := ExceptT.lift (Host.look path)
  write path text := ExceptT.lift (Host.write path text)
  createDirs path := ExceptT.lift (Host.createDirs path)
  environment := ExceptT.lift Host.environment
  print text := ExceptT.lift (Host.print text)
  report text := ExceptT.lift (Host.report text)

/-- A world in which everything is a value. -/
structure Workspace where
  /-- The files, and where the program works. -/
  files : FileTree := {}
  environment : Environment := []
  /-- What has been printed. -/
  output : String := ""
  /-- What has been reported. -/
  errors : String := ""

instance : Host (StateM Workspace) where
  look path := do return (← get).files.look path
  write path text := do
    let w ← get
    match w.files.write path text with
    | .ok files =>
      set { w with files }
      return .ok ()
    | .error fault => return .error fault
  createDirs path := do
    let w ← get
    let (files, result) := w.files.createDirs path
    set { w with files }
    return result
  environment := do return (← get).environment
  print text := modify fun w => { w with output := w.output ++ text }
  report text := modify fun w => { w with errors := w.errors ++ text }

end CrudForge
