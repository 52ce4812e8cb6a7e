import CrudForge.Proofs.Generation.Calls
import CrudForge.Proofs.Grammar.Quoted
import CrudForge.Rendering.Target

/-!
# Texts as arguments

A text that code is given as an argument is written as a literal. Whatever it holds, the literal
says that text and no other, and it ends where it was ended; so no text can become part of the code
behind it (`writeArg_str_literal`).
-/

namespace CrudForge.Rendering

open Generation (lookup lookupText expand_lookup)
open Grammar (afterSuffix literal? textLiteral?)

/-- The code of a lookup in front of the owner. -/
def lookupStart (write : CodeArg → String) : String :=
  "ServiceResponse::ok(self.repository.find_by_id(&" ++ write (.name Parameter.idName) ++
    ").await?.ok_or_else(|| ServiceError::not_found("

/-- The code of a lookup behind the owner. -/
def lookupEnd (write : CodeArg → String) (tail : String) : String :=
  ", &" ++ write (.name Parameter.idName) ++ "))?" ++ tail ++ ")"

theorem lookupText_eq_literal (write : CodeArg → String) (owner tail : String) :
    lookupText write owner tail =
      lookupStart write ++ write (.str owner) ++ lookupEnd write tail := by
  unfold lookupText lookupStart lookupEnd
  simp only [String.append_assoc]

/-- A text that is an argument is one literal that says the text, whatever follows it, and where two
of them are followed by something, what was written tells both apart. The code of a lookup is the
same for all owners but for the literal of the owner. -/
theorem writeArg_str_literal (g : TargetGrammar) :
    (∀ (v : String) (rest : List Char),
      textLiteral? ((writeArg g (.str v)).toList ++ rest) = some (v, rest) ∧
      literal? ((writeArg g (.str v)).toList ++ rest) = some (.str, afterSuffix rest)) ∧
    (∀ (v w : String) (rest rest' : List Char),
      (writeArg g (.str v)).toList ++ rest = (writeArg g (.str w)).toList ++ rest' ↔
        v = w ∧ rest = rest') ∧
    ∀ (tail : CodeBlock) (t : String), tail.expand (writeArg g) = .ok t →
      ∃ before behind, ∀ owner,
        (lookup owner tail).expand (writeArg g) =
          .ok (before ++ writeArg g (.str owner) ++ behind) := by
  refine ⟨fun v rest => ⟨Grammar.textLiteral?_encode v rest, ?_⟩,
    fun _ _ _ _ => Grammar.encode_append_inj, fun tail t expanded => ?_⟩
  · rw [writeArg, Text.Quoted.encode, String.toList_ofList]
    exact Grammar.literal?_encodeChars v.toList rest
  · refine ⟨lookupStart (writeArg g), lookupEnd (writeArg g) t, fun owner => ?_⟩
    rw [expand_lookup owner expanded, lookupText_eq_literal]

theorem writeArg_str_literal_breakingOut :
    textLiteral? ((writeArg .standard (.str "\")), x\\")).toList ++ [',']) =
        some ("\")), x\\", [',']) ∧
      CodeBlock.expand (writeArg .standard) ⟨".status", []⟩ = .ok ".status" ∧
      ∃ before behind, ∀ owner,
        (lookup owner ⟨".status", []⟩).expand (writeArg .standard) =
          .ok (before ++ writeArg .standard (.str owner) ++ behind) := by
  obtain ⟨reads, -, splits⟩ := writeArg_str_literal .standard
  have expanded : CodeBlock.expand (writeArg .standard) ⟨".status", []⟩ = .ok ".status" :=
    CodeBlock.expand_plain (by decide)
  exact ⟨(reads "\")), x\\" [',']).1, expanded, splits _ _ expanded⟩

end CrudForge.Rendering
