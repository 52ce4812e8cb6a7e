import CrudForge.Config.Basic

/-!
From a YAML value to the values of a configuration: the keys on the way to a value, joined by
dots, are its key. Everything but mappings is a value.
-/

namespace CrudForge.Config

/-- How a key of a mapping is written in the key of a value. -/
def segment : Yaml.Value → String
  | .str s => s
  | k => k.text

/-- The key that a segment makes behind another key. The empty key is that of the whole value. -/
def childKey (key segment : String) : String :=
  if key = "" then segment else key ++ "." ++ segment

mutual

/-- The entries with those of a YAML value under a key in front, the last one first. -/
def flatten (key : String) : Yaml.Value → ConfigEntries → ConfigEntries
  | .map entries, es => flattenEntries key entries es
  | v, es => if key = "" then es else (key, .ofYaml v) :: es

/-- The entries with those of the entries of a YAML mapping in front. -/
def flattenEntries (key : String) : List (Yaml.Value × Yaml.Value) → ConfigEntries → ConfigEntries
  | [], es => es
  | (k, v) :: rest, es => flattenEntries key rest (flatten (childKey key (segment k)) v es)

end

/-- The entries with those of a YAML text in front, if it is one. -/
def addYaml? (text : String) (es : ConfigEntries) : Option ConfigEntries :=
  (Yaml.Value.ofText? text).map fun v => flatten "" v es

/-- The configuration that a YAML text holds. -/
def ofYaml (text profile : String) : Except ConfigError Config :=
  match addYaml? text [] with
  | some entries => .ok { entries, profile }
  | none => .error (.load none)

end CrudForge.Config
