/-!
Two ways to write down a set of code points: a `Run` steps through them at a fixed distance, and
`Intervals` lists stretches without gaps. The Unicode tables of the library are kept in both.
-/

namespace CrudForge.Text

/-- The code points `first`, `first + step`, … up to `last`. -/
structure Run where
  first : Nat
  last : Nat
  step : Nat

/-- Whether a code point is a member of a run. -/
def Run.contains (r : Run) (n : Nat) : Bool :=
  r.first ≤ n && n ≤ r.last && (n - r.first) % r.step == 0

/-- Stretches of code points, both ends included. -/
abbrev Intervals := List (Nat × Nat)

/-- Whether a code point lies in one of the stretches. -/
def Intervals.contains (t : Intervals) (n : Nat) : Bool :=
  t.any fun (first, last) => first ≤ n && n ≤ last

end CrudForge.Text
