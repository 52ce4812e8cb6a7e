import CrudForge.Proofs.Naming.Plain
import CrudForge.Rendering.Target

/-!
# Texts of types

Plain names are types, and so is what is made of plain names and types with angle brackets and
commas, to any depth (`TypeText.isType`).
-/

namespace CrudForge.Grammar

open Naming (Plain)
open Text (isIdentStart)

variable {s : String} {rest : List Char} {ls : List Lexeme}

/-- A plain name, or one with texts of types in angle brackets behind it. -/
inductive TypeText : String → Prop
  | name {s : String} : Plain s → TypeText s
  | apply {f sep : String} {args : List String} :
    Plain f → args ≠ [] → sep = "," ∨ sep = ", " → (∀ a ∈ args, TypeText a) →
    TypeText (f ++ "<" ++ sep.intercalate args ++ ">")

theorem TypeText.begins (text : TypeText s) (rest : List Char) :
    ∃ c cs, s.toList ++ rest = c :: cs ∧ isIdentStart c = true := by
  cases text with
  | name plain =>
    obtain ⟨c, cs, split, start⟩ := plain.freeWord.begins
    exact ⟨c, cs ++ rest, by rw [split, List.cons_append], start⟩
  | @apply f sep args plain =>
    obtain ⟨c, cs, split, start⟩ := plain.freeWord.begins
    exact ⟨c, cs ++ ('<' :: ((sep.intercalate args).toList ++ '>' :: rest)), by simp [split], start⟩

theorem spelled_name (free : FreeWord s) : Spelled NamedType WordEnd s := by
  intro rest ls ends more
  refine ⟨[.ident s], free.lexes ends more, fun n deep => ?_⟩
  obtain ⟨c, cs, split, -⟩ := free.begins
  obtain ⟨n, rfl⟩ : ∃ m, n = m + 1 := by
    rw [← String.length_toList, split, List.length_cons] at deep
    exact ⟨n - 1, by omega⟩
  exact { starts := ⟨s, [], free.name, rfl⟩, read := fun _ ends => type_name free.name true ends }

theorem lexes_comma {sep : String} (isComma : sep = "," ∨ sep = ", ") {cs : List Char}
    (begins : ∃ c ds, cs = c :: ds ∧ isIdentStart c = true) (more : Lexes cs ls) :
    Lexes (sep.toList ++ cs) (.token comma :: ls) := by
  rcases isComma with rfl | rfl
  · exact .mark_before (by decide) begins more
  · have spaced : Lexes (' ' :: cs) ls := .space rfl more
    exact .mark (by decide) spaced

theorem spelled_apply {f sep : String} (free : FreeWord f) {args : List String}
    (nonempty : args ≠ []) (isComma : sep = "," ∨ sep = ", ") (texts : ∀ a ∈ args, TypeText a)
    (spelled : ∀ a ∈ args, Spelled NamedType WordEnd a) :
    Spelled NamedType WordEnd (f ++ "<" ++ sep.intercalate args ++ ">") := by
  have follows (rest : List Char) : WordEnd (sep.toList ++ rest) := by
    rcases isComma with rfl | rfl <;> exact .cons (by decide) (by decide)
  have list := Spelled.separated nonempty follows
    (fun a mem rest ls more => lexes_comma isComma ((texts a mem).begins rest) more) spelled
  have begins (rest : List Char) : ∃ c cs, (sep.intercalate args).toList ++ rest = c :: cs ∧
      isIdentStart c = true := by
    cases args with
    | nil => exact absurd rfl nonempty
    | cons a args =>
      obtain ⟨tail, split⟩ := exists_intercalate_cons sep a args rest
      rw [split]
      exact (texts a List.mem_cons_self).begins tail
  intro rest ls ends more
  have closing := Lexes.mark (c := '>') (by decide) more
  obtain ⟨ts, lexes, read⟩ := list ('>' :: rest) _ (.cons (by decide) (by decide)) closing
  have opening := Lexes.mark_before (c := '<') (by decide) (begins _) lexes
  have whole := free.lexes (.cons (by decide) (by decide)) opening
  refine ⟨.ident f :: .mark '<' false :: (ts ++ [.mark '>' (markChar? rest).isSome]), ?_,
    fun n deep => ?_⟩
  · simpa [Token.flat] using whole
  · have bracket : ">".length = 1 := rfl
    simp only [String.length_append] at deep
    obtain ⟨n, rfl⟩ : ∃ m, n = m + 1 := ⟨n - 1, by omega⟩
    obtain ⟨phrases, some, rfl, types⟩ := read n (by omega)
    refine ⟨⟨f, _, free.name, rfl⟩, fun rest ends => ?_⟩
    simp only [List.cons_append, List.append_assoc, List.nil_append]
    exact type_apply free.name true some types ends

/-- The text of a type spells a type, as long as no letter follows it. -/
theorem TypeText.spelled (text : TypeText s) : Spelled NamedType WordEnd s := by
  induction text with
  | name plain => exact spelled_name plain.freeWord
  | apply plain nonempty isComma texts ih =>
    exact spelled_apply plain.freeWord nonempty isComma texts ih

theorem TypeText.isType (text : TypeText s) : TargetGrammar.standard.isType s = true := by
  obtain ⟨ts, lexes, read⟩ := text.spelled [] [] .nil .nil
  obtain ⟨c, cs, split, start⟩ := text.begins []
  rw [List.append_nil] at lexes split
  rw [List.append_nil] at lexes
  have type := (read (4 * s.length + 64) (by omega)).read [] .nil
  rw [List.append_nil] at type
  have noMark : s.toList.head? ≠ some '\ufeff' := by
    rw [split]
    exact fun same => ne_of_identStart start (by decide +kernel) (Option.some.inj same)
  have accepted := acceptsChars_of_lexes (p := fun r => r (.type true)) noMark lexes
    (by rwa [String.length_toList])
  exact (accepts_eq s _).trans accepted

end CrudForge.Grammar
