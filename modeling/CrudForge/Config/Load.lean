import CrudForge.Config.DotEnv
import CrudForge.Config.Flatten
import CrudForge.Files.Host

/-!
Loading a configuration. Its layers, from the weakest to the strongest, are the file
`svcgen.yaml`, the file `svcgen-P.yaml` of the profile `P`, and the environment, to which `.env`
and then `.env.P` add what is not set yet. The profile is that of the environment as it was
before, or else the one that is asked for.
-/

namespace CrudForge.Config

variable {m : Type → Type} [Monad m] [Host m]

/-- The variable of the environment that names the profile. -/
def profileVariable : String := "SVCGEN_PROFILE"

/-- The file that every profile shares. -/
def baseFile : String := "svcgen.yaml"

/-- The file of a profile. -/
def profileFile (profile : String) : String :=
  "svcgen-" ++ profile ++ ".yaml"

/-- The profile that an environment names, or else the one that is asked for. -/
def chooseProfile (env : Environment) (asked : Option String) : String :=
  ((env.lookup profileVariable).or asked).getD defaultProfile

/-- The entries with those of a file in front. A file that is missing has none. -/
def addFile (path : String) (es : ConfigEntries) : ExceptT ConfigError m ConfigEntries := do
  match ← Host.look path with
  | .nothing => return es
  | .file (.text text) =>
    match addYaml? text es with
    | some es => return es
    | none => throw (.load (some path))
  | _ => throw (.load (some path))

/-- The environment with the variables of a file, unless they are set already. -/
def addVariables (path : String) (env : Environment) : m Environment := do
  match ← Host.look path with
  | .file content => return DotEnv.load content.readable env
  | _ => return env

/-- The configuration that is found in a directory. -/
def loadIn (directory : String) (asked : Option String) : ExceptT ConfigError m Config := do
  let env ← Host.environment
  let profile := chooseProfile env asked
  let es ← addFile (Path.join directory baseFile) []
  let es ← addFile (Path.join directory (profileFile profile)) es
  let env ← addVariables (Path.join directory ".env") env
  let env ← addVariables (Path.join directory (".env." ++ profile)) env
  return { entries := env.overlay es, profile }

/-- The configuration that is found where the program runs. -/
def load (asked : Option String) : ExceptT ConfigError m Config :=
  loadIn "." asked

end CrudForge.Config
