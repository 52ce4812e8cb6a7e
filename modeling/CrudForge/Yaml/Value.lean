import CrudForge.Decimal.Layout
import CrudForge.Text.Quoted
import CrudForge.Yaml.Core
import CrudForge.Yaml.Node
import CrudForge.Yaml.Tokens

/-!
The values of YAML texts: plain scalars are read for what they mean, and tags that are not the
language's own are kept. `Value.ofText?` goes the whole way from the text; `Value.text` is how a
value is shown.
-/

namespace CrudForge.Yaml

/-- A value. -/
inductive Value
  | null
  | bool (b : Bool)
  | int (i : Int)
  | float (x : Float)
  | str (s : String)
  | seq (items : List Value)
  | map (entries : List (Value × Value))
  | tagged (tag : String) (value : Value)
  deriving Inhabited

namespace Value

/-! ## Equality of keys -/

/-- Whether two floating-point numbers are the same key: a number that is none is the same as
itself. -/
def sameFloat (x y : Float) : Bool :=
  x == y || (x.isNaN && y.isNaN)

mutual

/-- Whether two values are the same key. In which order mappings have their entries does not
matter. -/
def same : Value → Value → Bool
  | null, null => true
  | bool a, bool b => a = b
  | int i, int j => i = j
  | float x, float y => sameFloat x y
  | str s, str t => s = t
  | seq items, seq others => sameItems items others
  | map entries, map others => entries.length = others.length && coveredBy entries others
  | tagged tag v, tagged other w => tag = other && same v w
  | _, _ => false

/-- Whether two sequences have the same items. -/
def sameItems : List Value → List Value → Bool
  | [], [] => true
  | v :: vs, w :: ws => same v w && sameItems vs ws
  | _, _ => false

/-- Whether all entries are among some others. -/
def coveredBy : List (Value × Value) → List (Value × Value) → Bool
  | [], _ => true
  | (k, v) :: es, others => others.any (fun e => same k e.1 && same v e.2) && coveredBy es others

end

/-- Whether no key comes twice. -/
def keysDiffer : List (Value × Value) → Bool
  | [] => true
  | (k, _) :: es => !es.any (same k ·.1) && keysDiffer es

/-! ## From nodes -/

/-- The value of a scalar's meaning. -/
def ofScalar : Scalar → Value
  | .null => null
  | .bool b => bool b
  | .int i => int i
  | .float x => float x
  | .str s => str s

/-- The value of a scalar whose tag does not count. -/
def ofUntagged? (style : ScalarStyle) (text : String) : Option Value :=
  if style = .plain then ofScalar <$> Scalar.ofPlain? text else some (str text)

/-- A name without the mark in front of it, if there is anything behind the mark. -/
def dropMark (tag : String) : String :=
  match tag.toList with
  | '!' :: c :: cs => String.ofList (c :: cs)
  | _ => tag

/-- The name of a tag that is not the language's own. -/
def ownTag? (tag : Option String) : Option String :=
  (tag.filter (·.toList.head? = some '!')).map fun t => dropMark (dropMark t)

/-- A value with the tag of its node, if that has one of its own. -/
def withTag (tag : Option String) (v : Value) : Value :=
  match ownTag? tag with
  | some name => tagged name v
  | none => v

/-- The value of a scalar. -/
def ofScalarNode? (tag : Option String) (style : ScalarStyle) (text : String) : Option Value :=
  match ownTag? tag, tag with
  | some name, _ => tagged name <$> ofUntagged? style text
  | none, some tag =>
    match Scalar.ofTag? tag text with
    | some meaning => ofScalar <$> meaning
    | none => some (str text)
  | none, none => ofUntagged? style text

mutual

/-- The value of a node, unless a mapping in it has a key twice. -/
def ofNode? : Node → Option Value
  | .void => some null
  | .scalar tag style text => ofScalarNode? tag style text
  | .sequence tag items => (ofNodes? items).map fun vs => withTag tag (seq vs)
  | .mapping tag entries => do
    let es ← ofEntries? entries
    if keysDiffer es then some (withTag tag (map es)) else none

/-- The values of the items of a sequence. -/
def ofNodes? : List Node → Option (List Value)
  | [] => some []
  | n :: ns => do
    let v ← ofNode? n
    let vs ← ofNodes? ns
    return v :: vs

/-- The values of the entries of a mapping. -/
def ofEntries? : List (Node × Node) → Option (List (Value × Value))
  | [] => some []
  | (k, v) :: es => do
    let k ← ofNode? k
    let v ← ofNode? v
    let es ← ofEntries? es
    return (k, v) :: es

end

/-! ## Text -/

/-- Whole numbers as they are shown, and floating-point numbers. -/
def numberText? : Value → Option String
  | int i => some i.repr
  | float x => some (Decimal.Layout.scientific.write x)
  | _ => none

mutual

/-- How a value is shown. -/
def text : Value → String
  | null => "Null"
  | bool b => "Bool(" ++ toString b ++ ")"
  | int i => "Number(" ++ i.repr ++ ")"
  | float x => "Number(" ++ Decimal.Layout.scientific.write x ++ ")"
  | str s => "String(" ++ Text.Quoted.encode s ++ ")"
  | seq items => "Sequence [" ++ ", ".intercalate (itemTexts items) ++ "]"
  | map entries => "Mapping \x7b" ++ ", ".intercalate (entryTexts entries) ++ "\x7d"
  | tagged tag v => "TaggedValue \x7b tag: !" ++ tag ++ ", value: " ++ text v ++ " \x7d"

/-- How the items of a sequence are shown. -/
def itemTexts : List Value → List String
  | [] => []
  | v :: vs => text v :: itemTexts vs

/-- How the entries of a mapping are shown. Truth values, numbers and texts that are keys are
shown without saying what they are. -/
def entryTexts : List (Value × Value) → List String
  | [] => []
  | (k, v) :: es =>
    let key :=
      match k with
      | bool b => toString b
      | str s => Text.Quoted.encode s
      | k => (numberText? k).getD (text k)
    (key ++ ": " ++ text v) :: entryTexts es

end

end Value

/-- The node that a text describes. -/
def Node.ofText? (s : String) : Option Node := do
  let tokens ← tokens? s
  let events ← Event.ofTokens? tokens
  Node.ofEvents? events

/-- The value that a text describes. -/
def Value.ofText? (s : String) : Option Value :=
  Node.ofText? s >>= Value.ofNode?

end CrudForge.Yaml
