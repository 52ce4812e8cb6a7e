import CrudForge.Config.Value

/-!
A configuration: values by key, and the name of the profile that it was made for.
-/

namespace CrudForge

/-- Values by key. A value that is put in front hides the one that the key had before. -/
abbrev ConfigEntries := List (String × ConfigValue)

/-- A configuration. -/
structure Config where
  entries : ConfigEntries := []
  profile : String

namespace Config

/-- The profile that is taken if none is asked for. -/
def defaultProfile : String := "dev"

/-- The configuration without any values. -/
def empty : Config where
  profile := "test"

/-- The value of a key. -/
def value? (c : Config) (key : String) : Option ConfigValue :=
  c.entries.lookup key

/-- Whether a key has a value. -/
def contains (c : Config) (key : String) : Bool :=
  (c.value? key).isSome

/-- A configuration with a value for a key. -/
def set (c : Config) (key : String) (value : ConfigValue) : Config :=
  { c with entries := (key, value) :: c.entries }

theorem value?_set (c : Config) (key : String) (value : ConfigValue) (k : String) :
    (c.set key value).value? k = if k = key then some value else c.value? k := by
  by_cases h : k = key
  · simp [set, value?, h]
  · simp [set, value?, List.lookup_cons, h, beq_eq_false_iff_ne.2 h]

/-- The value of a key as a value of a type. -/
def get (c : Config) (kind : Kind) (key : String) : Except ConfigError kind.Carrier :=
  match c.value? key with
  | none => .error (.notFound key)
  | some v => v.convert kind key

/-- The value of a key as a value of a type, or another value if there is none. A value of a wrong
type is an error all the same. -/
def getOr (c : Config) (kind : Kind) (key : String) (default : kind.Carrier) :
    Except ConfigError kind.Carrier :=
  match c.get kind key with
  | .error (.notFound _) => .ok default
  | r => r

end Config
end CrudForge
