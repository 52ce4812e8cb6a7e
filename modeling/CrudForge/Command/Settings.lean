import CrudForge.Command.Error
import CrudForge.Config.Load
import CrudForge.Config.Section
import CrudForge.Generation.Generator
import CrudForge.Manifest.Read
import CrudForge.Manifest.Resolve

/-!
What commands begin with: the configuration with its sections, and the service classes of a
manifest. Nothing is written before all of that is known to be sound.
-/

namespace CrudForge

/-- A computation of a command in some world. -/
abbrev Command (m : Type → Type) := ExceptT CommandError m

/-- The configuration with its sections. -/
structure Settings where
  config : Config
  naming : NamingConfig
  render : RenderOptions

namespace Settings

/-- The settings of a configuration. -/
def ofConfig (config : Config) : Except ConfigError Settings := do
  let naming ← NamingConfig.configSection.read config
  let render ← RenderOptions.configSection.read config
  return { config, naming, render }

end Settings

/-- The service classes of the entities of a manifest. -/
def Manifest.classes (naming : NamingConfig) (m : Manifest) :
    Except CommandError (List ServiceClass) := do
  let entities ← m.resolve.mapError .manifest
  (Generation.generateAll naming (entities.map StaticEntity.metadata)).mapError .generation

namespace Command

variable {m : Type → Type} [Monad m] [Host m]

/-- The computation that does nothing but succeed or fail. -/
def ofExcept {α : Type} (r : Except CommandError α) : Command m α :=
  ExceptT.mk (pure r)

/-- The settings of a profile. -/
def settings (profile : Option String) : Command m Settings := do
  let config ← (Config.load profile).adapt CommandError.config
  ofExcept ((Settings.ofConfig config).mapError CommandError.config)

/-- The manifest in a file. -/
def manifest (path : String) : Command m Manifest := do
  let text ← ofExcept ((← Host.look path).text.mapError fun fault =>
    .manifest (.read path fault.message))
  ofExcept ((Manifest.ofText text).mapError .manifest)

/-- The service classes of the manifest in a file. -/
def classes (path : String) (naming : NamingConfig) : Command m (List ServiceClass) := do
  ofExcept ((← manifest path).classes naming)

end Command
end CrudForge
