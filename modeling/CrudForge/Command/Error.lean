import CrudForge.Config.Error
import CrudForge.Files.Content
import CrudForge.Generation.Error
import CrudForge.Manifest.Error
import CrudForge.Rendering.Error

/-!
The reasons for which a command fails.
-/

namespace CrudForge

/-- Why a command fails. -/
inductive CommandError
  | config (e : ConfigError)
  | manifest (e : ManifestError)
  | generation (e : GenerationError)
  | rendering (e : RenderError)
  /-- There is something already where a service should be written. -/
  | occupied (path : String)
  | file (fault : FileFault)
  deriving DecidableEq, Repr

/-- The text of an error. -/
def CommandError.message : CommandError → String
  | config e => e.message
  | manifest e => e.message
  | generation e => e.message
  | rendering e => e.message
  | occupied path => "Service file '" ++ path ++ "' already exists (use --force to overwrite)"
  | file fault => fault.message

end CrudForge
