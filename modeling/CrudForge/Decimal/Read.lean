import CrudForge.Text.Digit

/-!
Reading decimals: whole numbers in a range, and floating-point numbers rounded to the nearest, of
two that are equally near to the one with an even mantissa.
-/

namespace CrudForge.Decimal

/-- The number that digits stand for in a base; each of them must be smaller than the base. -/
def natOfDigits (base : Nat) (ds : List Nat) : Nat :=
  ds.foldl (fun n d => base * n + d) 0

/-- The number of a text that consists of digits in a base and is not empty. -/
def natInBase? (base : Nat) (cs : List Char) : Option Nat :=
  if cs.isEmpty then none else natOfDigits base <$> cs.mapM (Text.digitValue? base)

/-- The number of a text that consists of decimal digits and is not empty. -/
def natOfChars? (cs : List Char) : Option Nat := natInBase? 10 cs

/-- The whole number of a text of digits behind an optional sign. -/
def intOfChars? : List Char → Option Int
  | '+' :: cs => (fun n => (n : Int)) <$> natOfChars? cs
  | '-' :: cs => (fun n => -(n : Int)) <$> natOfChars? cs
  | cs => (fun n => (n : Int)) <$> natOfChars? cs

/-- The bounds of signed words of 64 bits. -/
def inInt64 (i : Int) : Bool :=
  -(Nat.pow 2 63 : Int) ≤ i && i < Nat.pow 2 63

/-- The bounds of unsigned words of 64 bits. -/
def inNat64 (i : Int) : Bool :=
  0 ≤ i && i < Nat.pow 2 64

/-- The quotient rounded to the nearest whole number, halves to the even one. -/
def roundDiv (num den : Nat) : Nat :=
  let whole := num / den
  let rest := num % den
  if 2 * rest > den || (2 * rest == den && whole % 2 == 1) then whole + 1 else whole

/-- The bits of the floating-point number nearest to a positive quotient. The exponent is the one
that gives the rounded mantissa 53 binary digits, but not below that of the smallest numbers. -/
def bitsOfQuotient (num den : Nat) : Nat :=
  let guess : Int := (num.log2 : Int) - den.log2 - 53
  let mantissa (q : Int) : Nat × Nat :=
    if q < 0 then (num * Nat.pow 2 (-q).toNat, den) else (num, den * Nat.pow 2 q.toNat)
  let fits (q : Int) : Bool := (mantissa q).1 / (mantissa q).2 < Nat.pow 2 53
  let q := max (if fits guess then guess else if fits (guess + 1) then guess + 1 else guess + 2)
    (-1074)
  let m := roundDiv (mantissa q).1 (mantissa q).2
  min ((q + 1074).toNat * Nat.pow 2 52 + m) (2047 * Nat.pow 2 52)

/-- The floating-point number nearest to `digits * 10 ^ exponent`. Numbers that are too large
become infinite. -/
def toFloat (negative : Bool) (digits : Nat) (exponent : Int) : Float :=
  let size : Int := digits.repr.length + exponent
  let bits :=
    if digits = 0 || size < -400 then 0
    else if size > 400 then 2047 * Nat.pow 2 52
    else if exponent < 0 then bitsOfQuotient digits (Nat.pow 10 (-exponent).toNat)
    else bitsOfQuotient (digits * Nat.pow 10 exponent.toNat) 1
  Float.ofBits (bits + if negative then Nat.pow 2 63 else 0).toUInt64

/-- A decimal as it is written: the digits around the point and the exponent. -/
structure Written where
  whole : List Nat
  fraction : List Nat
  exponent : Int

/-- The digits at the front of a text, and what follows them. -/
def takeDigits : List Char → List Nat × List Char
  | [] => ([], [])
  | c :: cs =>
    match Text.digitValue? 10 c with
    | some d => let (ds, rest) := takeDigits cs; (d :: ds, rest)
    | none => ([], c :: cs)

/-- The exponent that makes up a text: nothing, or a letter `e` and a whole number. -/
def exponentOf? : List Char → Option Int
  | [] => some 0
  | c :: cs => if c = 'e' || c = 'E' then intOfChars? cs else none

/-- The decimal without a sign that makes up a text. There are digits on at least one side of the
point, which may be missing. -/
def written? (cs : List Char) : Option Written :=
  let (whole, rest) := takeDigits cs
  let (fraction, rest) :=
    match rest with
    | '.' :: rest => takeDigits rest
    | rest => ([], rest)
  if whole.isEmpty && fraction.isEmpty then none
  else (fun exponent => ⟨whole, fraction, exponent⟩) <$> exponentOf? rest

/-- The floating-point number of a decimal behind an optional sign. -/
def floatOfChars? (cs : List Char) : Option Float :=
  let (negative, cs) :=
    match cs with
    | '-' :: cs => (true, cs)
    | '+' :: cs => (false, cs)
    | cs => (false, cs)
  (fun w : Written =>
    toFloat negative (natOfDigits 10 (w.whole ++ w.fraction))
      (w.exponent - w.fraction.length)) <$> written? cs

end CrudForge.Decimal
