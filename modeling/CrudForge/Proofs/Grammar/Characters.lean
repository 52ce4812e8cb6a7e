import CrudForge.Rendering.Target

/-!
# Texts as lists of characters

What a text is accepted as depends on its characters alone, so a text that has been put together
need not be put together first: `accepts_eq` asks for the list of its characters.
-/

namespace CrudForge

namespace Grammar

variable {α : Type}

/-- The token trees of a list of characters. -/
def tokensOf? (cs : List Char) : Option (List Token) := do
  let cs :=
    match cs with
    | '\ufeff' :: cs => cs
    | cs => cs
  let ls ← lexemesFrom (cs.length + 1) cs
  Token.nest? ls

/-- Whether all of a list of characters is a phrase. -/
def acceptsChars (cs : List Char) (p : Readers → Read α) : Bool :=
  match tokensOf? cs with
  | none => false
  | some ts =>
    match (p (readers (4 * cs.length + 64))).run ts with
    | some (_, rest) => rest.isEmpty
    | none => false

theorem accepts_eq (s : String) (p : Readers → Read α) :
    accepts s p = acceptsChars s.toList p := by
  rw [acceptsChars, String.length_toList]
  rfl

end Grammar

theorem TargetGrammar.standard_isFile (s : String) :
    TargetGrammar.standard.isFile s = Grammar.acceptsChars s.toList Grammar.file :=
  Grammar.accepts_eq s Grammar.file

end CrudForge
