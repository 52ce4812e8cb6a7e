import Mathlib.Algebra.Group.Nat.Defs
import CrudForge.Decimal.Read

/-!
# Whole numbers and their digits

A whole number is read back from its decimal digits, with the sign in front of them if it is
negative (`intOfChars?_repr`).
-/

namespace CrudForge.Decimal

/-! ## Digits -/

theorem digitValue?_decimalDigit : ∀ d < 10, Text.digitValue? 10 (Nat.digitChar d) = some d := by
  decide

theorem natOfDigits_concat (base : Nat) (ds : List Nat) (d : Nat) :
    natOfDigits base (ds ++ [d]) = base * natOfDigits base ds + d := by
  rw [natOfDigits, List.foldl_append]
  rfl

/-- The digits of a number, and that the number is what they stand for. -/
theorem exists_digits (n : Nat) :
    ∃ ds, (Nat.toDigits 10 n).mapM (Text.digitValue? 10) = some ds ∧ natOfDigits 10 ds = n := by
  -- The last digit is split off, as long as there is more than one.
  induction n using Nat.strongRecOn with
  | ind n ih =>
    rcases Nat.lt_or_ge n 10 with small | large
    · refine ⟨[n], ?_, Nat.zero_add n⟩
      rw [Nat.toDigits_of_lt_base small, List.mapM_cons, digitValue?_decimalDigit n small]
      rfl
    · obtain ⟨ds, digits, value⟩ := ih (n / 10) (by omega)
      refine ⟨ds ++ [n % 10], ?_, ?_⟩
      · rw [Nat.toDigits_of_base_le (by decide) large, List.mapM_append, digits, List.mapM_cons,
          digitValue?_decimalDigit (n % 10) (Nat.mod_lt n (by decide))]
        rfl
      · rw [natOfDigits_concat, value]
        exact Nat.div_add_mod n 10

theorem natOfChars?_toDigits (n : Nat) : natOfChars? (Nat.toDigits 10 n) = some n := by
  obtain ⟨ds, digits, value⟩ := exists_digits n
  have more : ¬ (Nat.toDigits 10 n).isEmpty = true := fun empty =>
    Nat.toDigits_ne_nil (List.isEmpty_iff.1 empty)
  rw [natOfChars?, natInBase?, if_neg more, digits]
  exact congrArg some value

/-! ## Signs -/

theorem toList_repr (n : Nat) : n.repr.toList = Nat.toDigits 10 n :=
  String.toList_ofList

theorem isDigit_of_mem_repr {n : Nat} {c : Char} (mem : c ∈ n.repr.toList) : c.isDigit = true := by
  rw [toList_repr] at mem
  exact Nat.isDigit_of_mem_toDigits (by decide) (by decide) mem

/-- A whole number is written with digits, behind at most a minus sign. -/
theorem isDigit_or_minus_of_mem_repr {i : Int} {c : Char} (mem : c ∈ i.repr.toList) :
    c.isDigit = true ∨ c = '-' := by
  cases i with
  | ofNat n => exact .inl (isDigit_of_mem_repr mem)
  | negSucc n =>
    rw [Int.repr, String.toList_append, List.mem_append] at mem
    rcases mem with minus | digit
    · exact .inr (List.mem_singleton.1 minus)
    · exact .inl (isDigit_of_mem_repr digit)

/-- A digit is no sign. -/
theorem intOfChars?_of_digit {c : Char} {cs : List Char} (digit : c.isDigit = true) :
    intOfChars? (c :: cs) = (fun n => (n : Int)) <$> natOfChars? (c :: cs) := by
  unfold intOfChars?
  split
  · rename_i sign
    obtain ⟨rfl, -⟩ := List.cons.inj sign
    exact absurd digit (by decide)
  · rename_i sign
    obtain ⟨rfl, -⟩ := List.cons.inj sign
    exact absurd digit (by decide)
  · rfl

theorem intOfChars?_natRepr (n : Nat) : intOfChars? n.repr.toList = some (n : Int) := by
  have more : Nat.toDigits 10 n ≠ [] := Nat.toDigits_ne_nil
  obtain ⟨c, cs, split⟩ := List.exists_cons_of_ne_nil more
  have first : c ∈ n.repr.toList := by
    rw [toList_repr, split]
    exact List.mem_cons_self
  have digit : c.isDigit = true := isDigit_of_mem_repr first
  rw [toList_repr, split, intOfChars?_of_digit digit, ← split, natOfChars?_toDigits]
  rfl

/-- A whole number is read back as it is written. -/
theorem intOfChars?_repr (i : Int) : intOfChars? i.repr.toList = some i := by
  cases i with
  | ofNat n => exact intOfChars?_natRepr n
  | negSucc n =>
    have minus : (Int.negSucc n).repr.toList = '-' :: (n + 1).repr.toList := String.toList_append
    rw [minus, toList_repr, intOfChars?, natOfChars?_toDigits]
    rfl

end CrudForge.Decimal
