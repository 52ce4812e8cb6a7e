import CrudForge.Proofs.Grammar.TypeText
import CrudForge.Proofs.Rendering.Class
import CrudForge.Proofs.Rendering.Responses

/-!
# Texts of methods

A method spells a member of an implementation if its identifier is a word, its parameters have
words and texts of types, and its body spells a block (`spelled_method`).
-/

namespace CrudForge.Rendering

open Grammar

variable {p s w ty : String}

/-! ## Parameters -/

/-- Parameters, each behind a comma. -/
def IsParamsFor (r : Readers) (ts : List Token) : Prop :=
  ∃ params : List (String × List Token), ts = paramTokens params ∧ ∀ q ∈ params, IsParamFor r q

/-- A text spells parameters behind the object that a method is called on. -/
structure ParamsText (p : String) : Prop where
  ends : ∀ rest, WordEnd (p.toList ++ ')' :: rest)
  spelled : Spelled IsParamsFor (fun rest => ∃ cs, rest = ')' :: cs) p

theorem ParamsText.nil : ParamsText "" where
  ends _ := .cons (by decide) (by decide)
  spelled _ _ _ more := ⟨[], more, fun _ _ => ⟨[], rfl, by simp⟩⟩

theorem ParamsText.cons (free : FreeWord w) (type : TypeText ty) (more : ParamsText p) :
    ParamsText (", " ++ w ++ ": " ++ ty ++ p) where
  ends rest := wordEnd_of_head ',' (by simp) (by decide)
  spelled := by
    rintro _ ls ⟨rest, rfl⟩ behind
    obtain ⟨ts, lexes, read⟩ := more.spelled _ ls ⟨rest, rfl⟩ behind
    obtain ⟨us, typed, named⟩ := type.spelled _ _ (more.ends rest) lexes
    have colon : scan? .none ": ".toList = some ([.token (.mark ':' false)], .none) := rfl
    have first : scan? .none ", ".toList = some ([.token comma], .none) := rfl
    have whole := Lexes.closed first (free.lexes (wordEnd_of_head ':' rfl (by decide))
      (Lexes.closed colon typed))
    refine ⟨comma :: .ident w :: .mark ':' false :: (us ++ ts), ?_, fun n deep => ?_⟩
    · simpa [comma, Token.flat] using whole
    · simp only [String.length_append] at deep
      obtain ⟨params, rfl, all⟩ := read n (by omega)
      refine ⟨(w, us) :: params, by simp [paramTokens], fun q mem => ?_⟩
      rcases List.mem_cons.1 mem with rfl | mem
      · exact ⟨free.name, named n (by omega)⟩
      · exact all q mem

/-! ## Documentation -/

/-- A line of documentation is an attribute. -/
theorem lexes_doc {line rest : List Char} {ls : List Lexeme}
    (notSkipped : comment? ('/' :: (line ++ '\n' :: rest)) = none)
    (read : docComment? ('/' :: (line ++ '\n' :: rest)) = some (docAttribute false, '\n' :: rest))
    (more : Lexes rest ls) :
    Lexes ('/' :: (line ++ '\n' :: rest)) (Token.flatAll docTokens ++ ls) :=
  .doc notSkipped read (by simp) (.space rfl more)

theorem lexes_indent {rest : List Char} {ls : List Lexeme} (more : Lexes rest ls) :
    Lexes (indent.toList ++ rest) ls := by
  have blank : scan? .none indent.toList = some ([], .none) := rfl
  exact Lexes.closed blank more

set_option maxRecDepth 20000 in
/-- What is said about the ways to fail is some lines of documentation. -/
theorem lexes_failureDocs (failures : FailureSet) : ∃ docs, ∀ rest ls, Lexes rest ls →
    Lexes ((failureDocs failures).toList ++ rest)
      (Token.flatAll (List.replicate docs docTokens).flatten ++ ls) := by
  obtain ⟨notFound⟩ := failures
  cases notFound with
  | false => exact ⟨0, fun rest ls more => more⟩
  | true =>
    refine ⟨3, fun rest ls more => ?_⟩
    have reason : Lexes ('/' ::
        ("// Returns `ServiceError::NotFound` when no entity matches `id`.".toList ++
          '\n' :: rest)) _ := lexes_doc rfl rfl more
    have blank : Lexes ('/' :: ("//".toList ++ '\n' :: (indent.toList ++ _))) _ :=
      lexes_doc rfl rfl (lexes_indent reason)
    have title : Lexes ('/' :: ("// # Errors".toList ++ '\n' :: (indent.toList ++ _))) _ :=
      lexes_doc rfl rfl (lexes_indent blank)
    have lines : (failureDocs ⟨true⟩).toList ++ rest = indent.toList ++ '/' ::
        ("// # Errors".toList ++ '\n' :: (indent.toList ++ '/' :: ("//".toList ++ '\n' ::
          (indent.toList ++ '/' ::
            ("// Returns `ServiceError::NotFound` when no entity matches `id`.".toList ++
              '\n' :: rest))))) := rfl
    rw [lines]
    exact lexes_indent title

/-! ## Methods -/

/-- A method spells a member. -/
theorem spelled_method {m : Method} (free : FreeWord w) (params : ParamsText p)
    {lines : List BodyLine}
    (body : Spelled SomeBlock Anything (String.join (lines.map BodyLine.render))) :
    Spelled IsMemberFor Anything (methodText m w p lines) := by
  intro rest ls _ more
  have closing : scan? .none "\x7d\n".toList = some ([.closing .brace], .none) := rfl
  have opening : scan? .none " \x7b\n".toList = some ([.opening .brace], .none) := rfl
  have result : FreeWord (returnText m.returns) := by
    cases m.returns
    exact .of_letters (by decide) (by decide) (by decide)
  have arrow : scan? .none " -> ".toList =
      some ([.token (.mark '-' true), .token (.mark '>' false)], .none) := rfl
  have self : scan? .none "(&self".toList = some ([.opening .paren, .token (.mark '&' false)],
      .word "self".toList) := rfl
  have selfWord : Word "self".toList := .of_all (by decide) (by decide)
  have qualifiers : scan? .none "async fn ".toList =
      some ([.token (.ident "async"), .token (.ident "fn")], .none) := rfl
  have visible : scan? .none (visibilityText m.visibility).toList =
      some ([.token (.ident "pub")], .none) := by
    cases m.visibility
    rfl
  obtain ⟨docs, documented⟩ := lexes_failureDocs m.failures
  obtain ⟨us, lexes, block⟩ := body _ _ trivial (lexes_indent (Lexes.closed closing more))
  have typed := result.lexes (wordEnd_of_head ' ' rfl (by decide)) (Lexes.closed opening lexes)
  have behind := Lexes.delimiter (c := ')') (by decide) rfl (Lexes.closed arrow typed)
  obtain ⟨ts, written, read⟩ := params.spelled _ _ ⟨_, rfl⟩ behind
  have called := Lexes.piece self (selfWord.lexes (params.ends _) written)
  have named := free.lexes (wordEnd_of_head '(' rfl (by decide)) called
  have whole := documented _ _ (lexes_indent (Lexes.closed visible (Lexes.closed qualifiers named)))
  refine ⟨(List.replicate docs docTokens).flatten ++ .ident "pub" :: .ident "async" ::
    functionTokens w (.mark '&' false :: .ident "self" :: ts) (returnText m.returns) us, ?_,
    fun n deep => ?_⟩
  · simp only [methodText, String.toList_append, List.append_assoc]
    simpa [functionTokens, Token.flat] using whole
  · simp only [methodText, String.length_append] at deep
    have long : "async fn ".length = 9 := rfl
    obtain ⟨n, rfl⟩ : ∃ m, n = m + 1 := ⟨n - 1, by omega⟩
    obtain ⟨phrases, rfl, types⟩ := read (n + 1) (by omega)
    exact member_async (isExpr_quoted _ n) docs free.name
      (functionParams_self (readsNames n) types) (fun _ _ => type_name result.name true .block)
      (block (n + 1) (by omega)).2

end CrudForge.Rendering
