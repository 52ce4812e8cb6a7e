import CrudForge.Config.Basic

/-!
What is known about the properties of a configuration: their keys, types and defaults, and the
variables of the environment that stand for them.
-/

namespace CrudForge

/-- A property of a section of a configuration. -/
structure Property where
  /-- The key within the section. -/
  key : String
  /-- The name of the type of its values. -/
  typeName : String
  /-- What the property is without a value, as text. -/
  default : Option String
  description : String
  deriving DecidableEq, Repr

namespace Property

/-- The key of a property in the section with the key `path`. -/
def fullKey (p : Property) (path : String) : String :=
  path ++ "." ++ p.key

/-- The text with two underscores for every dot. -/
def undotted : List Char → List Char
  | [] => []
  | c :: cs => (if c = '.' then ['_', '_'] else [c]) ++ undotted cs

/-- The variable of the environment for a property in a section. -/
def environmentVariable (p : Property) (path : String) : String :=
  Text.upper (String.ofList (undotted (p.fullKey path).toList))

/-- What a property is in a configuration: its value as a text, or as a list of texts, or why it
is neither; or else the default. -/
def describe (p : Property) (path : String) (c : Config) : String :=
  let key := p.fullKey path
  if c.contains key then
    match c.get .string key with
    | .ok value => value
    | .error _ =>
      match c.get (.list .string) key with
      | .ok values => ", ".intercalate values
      | .error e => e.message
  else
    match p.default with
    | some default => Text.Quoted.encode default ++ " (default)"
    | none => "(unset)"

end Property
end CrudForge
