import CrudForge.Decimal.Read

/-!
What plain scalars mean when they have no tag: nothing, truth values, numbers, or else their text.
-/

namespace CrudForge.Yaml

/-- What a scalar can mean. -/
inductive Scalar
  | null
  | bool (b : Bool)
  | int (i : Int)
  | float (x : Float)
  | str (s : String)

/-- Whether a text means that there is nothing. -/
def isNull (s : String) : Bool :=
  ["null", "Null", "NULL", "~"].contains s

/-- The truth value of a text. -/
def bool? (s : String) : Option Bool :=
  [("true", true), ("True", true), ("TRUE", true), ("false", false), ("False", false),
    ("FALSE", false)].lookup s

/-! ## Numbers -/

/-- Whether decimal digits begin with a zero that is not the only one. -/
def hasSpareZero : List Char → Bool
  | '0' :: c :: cs => (c :: cs).all fun c => '0' ≤ c && c ≤ '9'
  | _ => false

/-- The magnitude of a number, whose base the first two characters may tell. -/
def magnitude? (cs : List Char) : Option Nat :=
  let told :=
    match cs with
    | '0' :: 'x' :: ds => Decimal.natInBase? 16 ds
    | '0' :: 'o' :: ds => Decimal.natInBase? 8 ds
    | '0' :: 'b' :: ds => Decimal.natInBase? 2 ds
    | _ => none
  told.or (if hasSpareZero cs then none else Decimal.natInBase? 10 cs)

/-- The whole number of a text. -/
def int? (s : String) : Option Int :=
  match s.toList with
  | '+' :: cs => (magnitude? cs).map fun n => (n : Int)
  | '-' :: cs => (magnitude? cs).map fun n => -(n : Int)
  | cs => (magnitude? cs).map fun n => (n : Int)

/-- Whether a whole number fits into a word, signed if it is negative. -/
def fitsWord (i : Int) : Bool :=
  -(Nat.pow 2 63 : Int) ≤ i && i < Nat.pow 2 64

/-- Whether a whole number fits into two words, signed if it is negative. -/
def fitsTwoWords (i : Int) : Bool :=
  -(Nat.pow 2 127 : Int) ≤ i && i < Nat.pow 2 128

/-- The floating-point number of a text, which is finite unless it is spelled out as infinite. -/
def float? (s : String) : Option Float :=
  let infinite : List (List Char) := [".inf", ".Inf", ".INF"].map String.toList
  let nan : List (List Char) := [".nan", ".NaN", ".NAN"].map String.toList
  let finite (cs : List Char) : Option Float := do
    let x ← Decimal.floatOfChars? cs
    if x.isFinite then some x else none
  match s.toList with
  | '+' :: cs =>
    if infinite.contains cs then some (1 / 0)
    else if cs.head? = some '+' || cs.head? = some '-' then none
    else finite cs
  | cs =>
    if infinite.contains cs then some (1 / 0)
    else if infinite.any fun w => cs = '-' :: w then some (-1 / 0)
    else if nan.contains cs then some (0 / 0)
    else finite cs

/-- What a plain scalar without a tag means. Whole numbers of more than one word mean nothing at
all, unless they are so large that they can only be floating-point numbers. -/
def Scalar.ofPlain? (s : String) : Option Scalar :=
  if s.isEmpty || isNull s then some .null
  else
    match bool? s with
    | some b => some (.bool b)
    | none =>
      match (int? s).filter fitsTwoWords with
      | some i => if fitsWord i then some (.int i) else none
      | none =>
        let digits :=
          match s.toList with
          | '+' :: cs | '-' :: cs => cs
          | cs => cs
        match if hasSpareZero digits then none else float? s with
        | some x => some (.float x)
        | none => some (.str s)

/-- What a scalar means whose tag is one of the language's own, if its text fits the tag. -/
def Scalar.ofTag? (tag : String) (s : String) : Option (Option Scalar) :=
  match tag with
  | "tag:yaml.org,2002:bool" => some ((bool? s).map .bool)
  | "tag:yaml.org,2002:int" => some (((int? s).filter fitsWord).map .int)
  | "tag:yaml.org,2002:float" => some ((float? s).map .float)
  | "tag:yaml.org,2002:null" => some (if isNull s then some .null else none)
  | _ => none

end CrudForge.Yaml
