/-!
What can go wrong when a configuration is loaded or read.
-/

namespace CrudForge

/-- The types that values of a configuration are made of. -/
inductive BaseKind
  | string
  | integer
  | bool
  deriving DecidableEq, Repr

/-- The name of a type in messages. -/
def BaseKind.name : BaseKind → String
  | string => "String"
  | integer => "i64"
  | bool => "bool"

/-- Why a configuration cannot be loaded, or a value of it cannot be read. -/
inductive ConfigError
  /-- There is no value for a key. -/
  | notFound (key : String)
  /-- A value is not of the type that is asked for. -/
  | typeMismatch (key : String) (expected : BaseKind)
  /-- A text is not YAML; it comes from a file, or from nowhere. -/
  | load (file : Option String)
  /-- A value is of the right type but means nothing. -/
  | invalid (key reason : String)
  deriving DecidableEq, Repr

namespace ConfigError

/-- The text of an error up to what the reader of the file has to say. -/
def summary : ConfigError → String
  | notFound key => "Config key not found: " ++ key
  | typeMismatch key expected =>
    "Config type mismatch for '" ++ key ++ "': expected " ++ expected.name
  | load none => "Config load error"
  | load (some file) => "Config load error: " ++ file
  | invalid key reason => "Invalid config value for '" ++ key ++ "': " ++ reason

/-- The text of an error. -/
def message (e : ConfigError) : String :=
  match e with
  | load _ => e.summary ++ ": not a YAML document"
  | e => e.summary

end ConfigError
end CrudForge
