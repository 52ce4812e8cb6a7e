/-!
# ASCII characters

There are so few ASCII characters that what is true of them can be looked up one by one
(`of_ascii`). The letters and digits of the core library are ASCII characters.
-/

namespace CrudForge.Text

variable {c : Char}

@[elab_as_elim]
theorem of_ascii {P : Char → Prop} (small : c.toNat < 128) (all : ∀ n < 128, P (Char.ofNat n)) :
    P c := by
  have known := all c.toNat small
  rwa [Char.ofNat_toNat] at known

theorem toNat_lt_of_le {last : UInt32} (small : last.toNat < 128) (bound : c.val ≤ last) :
    c.toNat < 128 :=
  Nat.lt_of_le_of_lt (UInt32.le_iff_toNat_le.1 bound) small

theorem toNat_lt_of_isUpper (upper : c.isUpper = true) : c.toNat < 128 :=
  toNat_lt_of_le (by decide) (of_decide_eq_true upper).2

theorem toNat_lt_of_isLower (lower : c.isLower = true) : c.toNat < 128 :=
  toNat_lt_of_le (by decide) (of_decide_eq_true (Bool.and_eq_true_iff.1 lower).2)

theorem toNat_lt_of_isDigit (digit : c.isDigit = true) : c.toNat < 128 :=
  toNat_lt_of_le (by decide) (of_decide_eq_true (Bool.and_eq_true_iff.1 digit).2)

theorem toNat_lt_of_isAlphanum (alphanum : c.isAlphanum = true) : c.toNat < 128 := by
  rcases Bool.or_eq_true_iff.1 alphanum with alpha | digit
  · rcases Bool.or_eq_true_iff.1 alpha with upper | lower
    · exact toNat_lt_of_isUpper upper
    · exact toNat_lt_of_isLower lower
  · exact toNat_lt_of_isDigit digit

end CrudForge.Text
