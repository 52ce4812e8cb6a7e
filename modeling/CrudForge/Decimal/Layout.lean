import CrudForge.Decimal.Shortest

/-!
How the digits of a floating-point number are laid out. A layout says which numbers are written
with all their places, whether a whole number keeps a fraction, and how the numbers that are none
are called.
-/

namespace CrudForge.Decimal

/-- A way to write floating-point numbers. -/
structure Layout where
  /-- Of two shortest decimals that are equally near. -/
  tie : Tie
  /-- The numbers written with all places, by the place of the point relative to the first digit;
  all others are written with an exponent. -/
  positional : Int → Bool
  /-- Whether a whole number written with all places ends in `.0`. -/
  keepsFraction : Bool
  nan : String
  infinity : String
  negativeInfinity : String

namespace Layout

/-- Shortest digits, no exponent, and whole numbers as such. -/
def plain : Layout where
  tie := .up
  positional _ := true
  keepsFraction := false
  nan := "NaN"
  infinity := "inf"
  negativeInfinity := "-inf"

/-- Shortest digits, with an exponent for numbers from `1e16` on and below `1e-5`, and a fraction
with every number that has none. -/
def scientific : Layout where
  tie := .even
  positional point := -5 < point && point ≤ 16
  keepsFraction := true
  nan := ".nan"
  infinity := ".inf"
  negativeInfinity := "-.inf"

/-- A run of zeros. -/
def zeros (count : Int) : String :=
  String.ofList (List.replicate count.toNat '0')

/-- Digits with the point before digit number `point`. -/
def placed (l : Layout) (digits : String) (point : Int) : String :=
  if point ≤ 0 then "0." ++ zeros (-point) ++ digits
  else if point < digits.length then
    let cs := digits.toList
    String.ofList (cs.take point.toNat) ++ "." ++ String.ofList (cs.drop point.toNat)
  else
    digits ++ zeros (point - digits.length) ++ if l.keepsFraction then ".0" else ""

/-- Digits with one of them in front of the point, and an exponent. -/
def exponential (digits : String) (point : Int) : String :=
  let exponent := "e" ++ (point - 1).repr
  match digits.toList with
  | [] => ""
  | [d] => d.toString ++ exponent
  | d :: rest => d.toString ++ "." ++ String.ofList rest ++ exponent

/-- The text of a number without its sign. -/
def magnitude (l : Layout) (m : Nat) (q : Int) : String :=
  if m = 0 then if l.keepsFraction then "0.0" else "0"
  else
    let d := shortest l.tie m q
    let digits := d.digits.repr
    let point := digits.length + d.exponent
    if l.positional point then l.placed digits point else exponential digits point

/-- The text of a floating-point number. -/
def write (l : Layout) (x : Float) : String :=
  match Shape.ofFloat x with
  | .nan => l.nan
  | .infinite negative => if negative then l.negativeInfinity else l.infinity
  | .finite negative m q => (if negative then "-" else "") ++ l.magnitude m q

end Layout
end CrudForge.Decimal
