import CrudForge.Config.Error
import CrudForge.Decimal.Layout
import CrudForge.Decimal.Read
import CrudForge.Text.Blank
import CrudForge.Text.Case
import CrudForge.Yaml.Value

/-!
The values of a configuration, and how they are read as values of a type. A value from a YAML file
keeps its type; one from the environment is always a text. So a text can be read as any type:
`ConfigValue.convert` takes it for the number, truth value or comma-separated list that it spells.
-/

namespace CrudForge

/-- A value of a configuration. -/
inductive ConfigValue
  | string (s : String)
  | integer (i : Int64)
  | float (x : Float)
  | bool (b : Bool)
  | null
  | list (items : List ConfigValue)
  deriving Inhabited

namespace ConfigValue

/-- A whole number, as a floating-point number if it is too large for a signed word. -/
def ofInt (i : Int) : ConfigValue :=
  if Decimal.inInt64 i then integer (.ofInt i)
  else float (Decimal.toFloat (i < 0) i.natAbs 0)

mutual

/-- The value for a YAML value. Mappings and tagged values have no place in a list, and are kept
as they are shown. -/
def ofYaml : Yaml.Value → ConfigValue
  | .null => null
  | .bool b => bool b
  | .int i => ofInt i
  | .float x => float x
  | .str s => string s
  | .seq items => list (ofYamls items)
  | .map entries => string (Yaml.Value.map entries).text
  | .tagged tag v => string (Yaml.Value.tagged tag v).text

/-- The values for YAML values. -/
def ofYamls : List Yaml.Value → List ConfigValue
  | [] => []
  | v :: vs => ofYaml v :: ofYamls vs

end

end ConfigValue

/-! ## Types of values -/

/-- The types that a value can be read as. -/
inductive Kind
  | base (b : BaseKind)
  /-- Values that may be null. -/
  | option (kind : Kind)
  | list (kind : Kind)
  deriving DecidableEq, Repr

namespace Kind

/-- Texts. -/
abbrev string : Kind := base .string

/-- Signed words. -/
abbrev integer : Kind := base .integer

/-- Truth values. -/
abbrev bool : Kind := base .bool

/-- The values of a type. -/
@[reducible] def Carrier : Kind → Type
  | base .string => String
  | base .integer => Int64
  | base .bool => Bool
  | option kind => Option kind.Carrier
  | list kind => List kind.Carrier

/-- The type at the bottom of a type. -/
def bottom : Kind → BaseKind
  | base b => b
  | option kind | list kind => kind.bottom

end Kind

/-! ## Conversion -/

namespace ConfigValue

/-- The text of a value that is neither null nor a list. -/
def text? : ConfigValue → Option String
  | string s => some s
  | integer i => some i.toInt.repr
  | float x => some (Decimal.Layout.plain.write x)
  | bool b => some (if b then "true" else "false")
  | null | list _ => none

/-- The signed word of a value. Blanks around a number do not count. -/
def integer? : ConfigValue → Option Int64
  | integer i => some i
  | string s =>
    ((Decimal.intOfChars? (Text.trimChars s.toList)).filter Decimal.inInt64).map Int64.ofInt
  | _ => none

/-- The truth value of a value. The letter case of its name does not matter. -/
def bool? : ConfigValue → Option Bool
  | bool b => some b
  | string s =>
    let name := Text.lower s
    if ["true", "1", "yes"].contains name then some true
    else if ["false", "0", "no"].contains name then some false
    else none
  | _ => none

/-- A value as one of the types that values are made of. -/
def base? : (b : BaseKind) → ConfigValue → Option (Kind.Carrier (.base b))
  | .string => text?
  | .integer => integer?
  | .bool => bool?

/-- The key of an item of a list. -/
def itemKey (key : String) (i : Nat) : String :=
  key ++ "[" ++ i.repr ++ "]"

/-- The parts of a text between commas that are more than blanks. -/
def parts (s : String) : List String :=
  ((Text.split ',' s).map Text.trim).filter (· ≠ "")

/-- What a reader makes of each item of a list, of which the first has the number `i`; or the
first error. -/
def convertItems (read : ConfigValue → String → Except ConfigError α) (key : String) :
    Nat → List ConfigValue → Except ConfigError (List α)
  | _, [] => .ok []
  | i, v :: vs => do
    let a ← read v (itemKey key i)
    let as ← convertItems read key (i + 1) vs
    return a :: as

/-- A value as a value of a type. A list is read off a list, the parts of a text, or a single
value; null is the empty list. -/
def convert : (kind : Kind) → ConfigValue → (key : String) → Except ConfigError kind.Carrier
  | .base b, v, key =>
    match v.base? b with
    | some a => .ok a
    | none => .error (.typeMismatch key b)
  | .option _, null, _ => .ok none
  | .option kind, v, key => some <$> convert kind v key
  | .list kind, list items, key => convertItems (convert kind) key 0 items
  | .list _, null, _ => .ok []
  | .list kind, string s, key => convertItems (convert kind) key 0 ((parts s).map string)
  | .list kind, v, key => ([·]) <$> convert kind v key

end ConfigValue
end CrudForge
