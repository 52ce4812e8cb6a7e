import CrudForge.Command.Settings
import CrudForge.Text.Styled

/-!
Listing the properties of a configuration.
-/

namespace CrudForge.Command

open Text (Style)

variable {m : Type → Type} [Monad m] [Host m]

/-- The lines of a property in the section with the key `path`. -/
def propertyLines (colored : Bool) (c : Config) (path : String) (p : Property) : List String :=
  ["    " ++ Text.padRight 22 p.key ++ " " ++ Style.dimmed.paint colored p.typeName 12 ++ " " ++
      Text.padRight 20 (p.describe path c) ++ " " ++
      Style.dimmed.paint colored (p.environmentVariable path),
    "      " ++ Style.dimmed.paint colored p.description]

/-- The lines of a section. -/
def sectionLines {α : Type} (colored : Bool) (c : Config) (s : ConfigSection α) : List String :=
  ["  " ++ Style.cyan.paint colored s.path] ++
    s.properties.flatMap (propertyLines colored c s.path) ++ [""]

/-- The lines of a configuration. -/
def configLines (colored : Bool) (c : Config) : List String :=
  [Style.bold.paint colored "Configuration" ++ " " ++
      Style.dimmed.paint colored ("(profile: " ++ c.profile ++ ")"), ""] ++
    sectionLines colored c NamingConfig.configSection ++
    sectionLines colored c RenderOptions.configSection

/-- Lists the properties of the configuration of a profile. -/
def showConfig (colored : Bool) (profile : Option String) : Command m Unit := do
  let s ← settings profile
  Host.print (String.join ((configLines colored s.config).map (· ++ "\n")))

end CrudForge.Command
