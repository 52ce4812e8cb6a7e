/-!
Digits: the ten figures and behind them the letters, of either case. A base says how many of them
are digits, so that one rule reads decimal, hexadecimal and all other numbers.
-/

namespace CrudForge.Text

/-- The value of a figure or a letter as a digit; `a` and `A` stand for ten. -/
def figure? (c : Char) : Option Nat :=
  if '0' ≤ c && c ≤ '9' then some (c.toNat - '0'.toNat)
  else if 'a' ≤ c && c ≤ 'z' then some (c.toNat - 'a'.toNat + 10)
  else if 'A' ≤ c && c ≤ 'Z' then some (c.toNat - 'A'.toNat + 10)
  else none

/-- The value of a digit in a base. -/
def digitValue? (base : Nat) (c : Char) : Option Nat :=
  (figure? c).filter (· < base)

end CrudForge.Text
