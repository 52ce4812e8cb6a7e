/-!
The shortest decimal of a binary floating-point number: of all decimals that read back as the
number, one with the fewest digits, and of those the nearest.

A finite number other than zero is `m * 2 ^ q`. The reals that round to it form an interval around
it, whose ends belong to it if `m` is even. The multiples of `10 ^ e` form a grid; on the coarsest
grid that meets the interval, one of the two neighbours of the number is the shortest decimal.
-/

namespace CrudForge.Decimal

/-- A floating-point number taken apart. -/
inductive Shape
  | nan
  | infinite (negative : Bool)
  /-- The number `mantissa * 2 ^ exponent`, with its sign. -/
  | finite (negative : Bool) (mantissa : Nat) (exponent : Int)
  deriving DecidableEq, Repr

/-- The parts of a floating-point number. -/
def Shape.ofFloat (x : Float) : Shape :=
  let bits : Nat := x.toBits.toNat
  let negative := bits.testBit 63
  let field : Nat := bits / Nat.pow 2 52 % Nat.pow 2 11
  let fraction : Nat := bits % Nat.pow 2 52
  if field = 2047 then
    if fraction = 0 then .infinite negative else .nan
  else if field = 0 then .finite negative fraction (-1074)
  else .finite negative (fraction + Nat.pow 2 52) ((field : Int) - 1075)

/-- Which of two decimals is taken if both are equally near. -/
inductive Tie
  /-- The greater one. -/
  | up
  /-- The one whose last digit is even. -/
  | even
  deriving DecidableEq, Repr

/-- A decimal `digits * 10 ^ exponent`. -/
structure Digits where
  digits : Nat
  exponent : Int
  deriving DecidableEq, Repr

/-- A power with a natural exponent, and one below zero. -/
def scale (base : Nat) (e : Int) : Nat × Nat :=
  if e < 0 then (1, base.pow (-e).toNat) else (base.pow e.toNat, 1)

/-- The neighbour of `m * 2 ^ q` on the grid of the multiples of `10 ^ e` that rounds to it, the
nearer one if both do. -/
def onGrid? (tie : Tie) (m : Nat) (q e : Int) : Option Digits :=
  let (twoNum, twoDen) := scale 2 (q - 2)
  let (tenNum, tenDen) := scale 10 e
  let unit := tenNum * twoDen
  let part := twoNum * tenDen
  let value := 4 * m * part
  let low := (4 * m - if m = Nat.pow 2 52 ∧ q ≠ -1074 then 1 else 2) * part
  let high := (4 * m + 2) * part
  let closed := m % 2 = 0
  let inside (d : Nat) : Bool :=
    if closed then low ≤ d * unit && d * unit ≤ high else low < d * unit && d * unit < high
  let below := value / unit
  let above := below + 1
  let takeAbove :=
    inside above &&
      (!inside below ||
        (let down := value - below * unit
         let up := above * unit - value
         up < down || (up == down && (tie == .up || above % 2 == 0))))
  if takeAbove then some ⟨above, e⟩
  else if inside below then some ⟨below, e⟩
  else none

/-- The shortest decimal of `m * 2 ^ q`, for a mantissa that is not zero. Every number has
neighbours that round to it on the finest grid. -/
def shortest (tie : Tie) (m : Nat) (q : Int) : Digits :=
  let grids := (List.range 640).map fun (k : Nat) => (310 - k : Int)
  (grids.findSome? (onGrid? tie m q)).getD ⟨0, 0⟩

example : shortest .even (2 ^ 52) (-52) = ⟨1, 0⟩ := by decide +kernel
example : shortest .even 1 (-1074) = ⟨5, -324⟩ := by decide +kernel
example : shortest .even 7205759403792794 (-56) = ⟨1, -1⟩ := by decide +kernel

end CrudForge.Decimal
