import CrudForge.Proofs.Grammar.Expressions
import CrudForge.Proofs.Grammar.Quoted
import CrudForge.Proofs.Grammar.Spelling

/-!
# Texts of expressions

Names, quoted texts, calls and members are put together as texts, and what comes out spells an
expression as long as its parts do.
-/

namespace CrudForge.Grammar

variable {s t w : String} {rest : List Char} {ls : List Lexeme}

/-- What may follow an expression at once. -/
def ExprBreak (rest : List Char) : Prop :=
  ∃ c cs, rest = c :: cs ∧ c ∈ [',', ')', ';', '\n']

theorem ExprBreak.wordEnd (ends : ExprBreak rest) : WordEnd rest := by
  obtain ⟨c, cs, rfl, mem⟩ := ends
  have all : ∀ c ∈ [',', ')', ';', '\n'],
      Text.isIdentContinue c = false ∧ c ∉ prefixSigns :=
    List.all_iff_forall_prop.1 (by decide)
  exact .cons (all c mem).1 (all c mem).2

theorem exprBreak_paren (rest : List Char) : ExprBreak (')' :: rest) :=
  ⟨_, _, rfl, by decide⟩

theorem wordEnd_of_head (c : Char) (head : rest.head? = some c)
    (other : Text.isIdentContinue c = false ∧ c ∉ prefixSigns) : WordEnd rest := by
  intro d first
  obtain rfl := Option.some.inj (head.symm.trans first)
  exact other

/-- A text spells an expression and does not begin like a comment. -/
structure ExprText (s : String) : Prop where
  begins : ∀ rest, (s.toList ++ rest).head? ≠ some '/'
  spelled : Spelled (fun r ts => ts ≠ [] ∧ IsExprFor r ts) ExprBreak s

/-- A text spells what may stand between the parentheses of a call. -/
structure ArgsText (s : String) : Prop where
  begins : ∀ rest, (s.toList ++ ')' :: rest).head? ≠ some '/'
  spelled : Spelled IsArgumentsFor (fun rest => ∃ cs, rest = ')' :: cs) s

/-- A text spells calls and members that may stand behind an expression. -/
structure TrailText (s : String) : Prop where
  ends : ∀ rest, ExprBreak rest → WordEnd (s.toList ++ rest)
  spelled : Spelled IsTrailFor ExprBreak s

/-! ## Arguments -/

theorem ArgsText.none : ArgsText "" where
  begins rest := by simp
  spelled _ _ _ more := ⟨[], more, fun n _ => arguments_nil (readers n)⟩

theorem ArgsText.list {texts : List String} (nonempty : texts ≠ [])
    (all : ∀ s ∈ texts, ExprText s) : ArgsText (", ".intercalate texts) where
  begins rest := by
    cases texts with
    | nil => exact absurd rfl nonempty
    | cons s texts =>
      obtain ⟨tail, split⟩ := exists_intercalate_cons ", " s texts (')' :: rest)
      rw [split]
      exact (all s List.mem_cons_self).begins tail
  spelled := by
    have follows (rest : List Char) : ExprBreak (", ".toList ++ rest) :=
      ⟨',', ' ' :: rest, rfl, by decide⟩
    have mark (s : String) (rest : List Char) (ls : List Lexeme)
        (more : Lexes (s.toList ++ rest) ls) :
        Lexes (", ".toList ++ (s.toList ++ rest)) (.token comma :: ls) := by
      have spaced : Lexes (' ' :: (s.toList ++ rest)) ls := .space rfl more
      exact .mark (by decide) spaced
    have list := Spelled.separated nonempty follows (fun s _ => mark s) fun s mem =>
      (all s mem).spelled
    rintro _ ls ⟨rest, rfl⟩ more
    obtain ⟨ts, lexes, read⟩ := list _ ls (exprBreak_paren rest) more
    refine ⟨ts, lexes, fun n deep => ?_⟩
    obtain ⟨phrases, -, rfl, exprs⟩ := read n deep
    exact arguments_list exprs

/-- The parentheses of a call. -/
theorem ArgsText.call (args : ArgsText s) (more : Lexes rest ls) :
    ∃ ts, Lexes ('(' :: (s.toList ++ ')' :: rest)) ((Token.group .paren ts).flat ++ ls) ∧
      ∀ n, s.length ≤ n → IsArgumentsFor (readers n) ts := by
  have closing : Lexes (')' :: rest) (.closing .paren :: ls) := .delimiter (by decide) rfl more
  obtain ⟨ts, lexes, read⟩ := args.spelled _ _ ⟨rest, rfl⟩ closing
  refine ⟨ts, ?_, read⟩
  simpa [Token.flat] using Lexes.paren (args.begins rest) lexes

/-! ## Calls and members -/

theorem TrailText.nil : TrailText "" where
  ends _ ends := ends.wordEnd
  spelled _ _ _ more := ⟨[], more, fun n _ => trail_nil (readers n)⟩

theorem TrailText.question (more : TrailText s) : TrailText ("?" ++ s) where
  ends rest _ := wordEnd_of_head '?' (by simp) (by decide)
  spelled rest ls ends behind := by
    obtain ⟨ts, lexes, read⟩ := more.spelled rest ls ends behind
    have marked := Lexes.mark (c := '?') (by decide) lexes
    refine ⟨.mark '?' (markChar? (s.toList ++ rest)).isSome :: ts, ?_, fun n deep => ?_⟩
    · simpa [Token.flat] using marked
    · rw [String.length_append] at deep
      exact trail_try (read n (by omega))

theorem TrailText.method (free : FreeWord w) (args : ArgsText t) (more : TrailText s) :
    TrailText ("." ++ w ++ "(" ++ t ++ ")" ++ s) where
  ends rest _ := wordEnd_of_head '.' (by simp) (by decide)
  spelled rest ls ends behind := by
    obtain ⟨ts, lexes, read⟩ := more.spelled rest ls ends behind
    obtain ⟨us, call, arguments⟩ := args.call lexes
    have named := free.lexes (.cons (by decide) (by decide)) call
    obtain ⟨c, cs, split, start⟩ := free.begins
    have dotted := Lexes.mark_before (c := '.') (by decide)
      ⟨c, _, by rw [split, List.cons_append], start⟩ named
    refine ⟨.mark '.' false :: .ident w :: .group .paren us :: ts, ?_, fun n deep => ?_⟩
    · simpa [Token.flat] using dotted
    · simp only [String.length_append] at deep
      exact trail_method free.name (arguments n (by omega)) (read n (by omega))

/-- A field at the end. -/
theorem TrailText.field (free : FreeWord w) : TrailText ("." ++ w) where
  ends rest _ := wordEnd_of_head '.' (by simp) (by decide)
  spelled rest ls ends behind := by
    have named := free.lexes ends.wordEnd behind
    obtain ⟨c, cs, split, start⟩ := free.begins
    have dotted := Lexes.mark_before (c := '.') (by decide)
      ⟨c, _, by rw [split, List.cons_append], start⟩ named
    have notCalled (rest : List Token) (ends : ExprEnd rest) : NotCalled ([] ++ rest) := by
      cases ends <;> exact ⟨rfl, rfl⟩
    refine ⟨[.mark '.' false, .ident w], by simpa [Token.flat] using dotted, fun n _ => ?_⟩
    exact trail_field free.name notCalled (trail_nil _)

/-! ## Expressions -/

theorem ExprText.name (free : FreeWord w) : ExprText w where
  begins rest := by
    obtain ⟨c, cs, split, start⟩ := free.begins
    rw [split]
    exact fun same => ne_of_identStart start (by decide) (Option.some.inj same)
  spelled rest ls ends more := by
    refine ⟨[.ident w], free.lexes ends.wordEnd more, fun n deep => ⟨List.cons_ne_nil _ _, ?_⟩⟩
    obtain ⟨c, cs, split, -⟩ := free.begins
    obtain ⟨n, rfl⟩ : ∃ m, n = m + 1 := by
      rw [← String.length_toList, split, List.length_cons] at deep
      exact ⟨n - 1, by omega⟩
    exact isExpr_name free.name n

theorem ExprText.borrow (free : FreeWord w) : ExprText ("&" ++ w) where
  begins rest := by simp
  spelled rest ls ends more := by
    have named := free.lexes ends.wordEnd more
    obtain ⟨c, cs, split, start⟩ := free.begins
    have borrowed := Lexes.mark_before (c := '&') (by decide)
      ⟨c, _, by rw [split, List.cons_append], start⟩ named
    refine ⟨[.mark '&' false, .ident w], by simpa [Token.flat] using borrowed,
      fun n deep => ⟨List.cons_ne_nil _ _, ?_⟩⟩
    obtain ⟨n, rfl⟩ : ∃ m, n = m + 2 := by
      have sign : "&".length = 1 := rfl
      rw [String.length_append, ← w.length_toList, split, List.length_cons] at deep
      exact ⟨n - 2, by omega⟩
    exact isExpr_borrow free.name n

theorem ExprText.quoted (s : String) : ExprText (Text.Quoted.encode s) where
  begins rest := by simp [Text.Quoted.encode, Text.Quoted.encodeChars]
  spelled rest ls ends more := by
    have suffix : afterSuffix rest = rest := by
      obtain ⟨c, cs, rfl, mem⟩ := ends
      simp only [List.mem_cons, List.not_mem_nil, or_false] at mem
      rcases mem with rfl | rfl | rfl | rfl <;> rfl
    have lexes := Lexes.quoted s.toList suffix more
    refine ⟨[.literal .str (Text.Quoted.encode s)], ?_, fun n deep => ⟨List.cons_ne_nil _ _, ?_⟩⟩
    · simpa [Text.Quoted.encode, Token.flat] using lexes
    · obtain ⟨n, rfl⟩ : ∃ m, n = m + 1 := by
        rw [← String.length_toList, Text.Quoted.encode, String.toList_ofList] at deep
        simp only [Text.Quoted.encodeChars, List.cons_append, List.length_cons] at deep
        exact ⟨n - 1, by omega⟩
      exact isExpr_quoted _ n

end CrudForge.Grammar
