import CrudForge.Proofs.Grammar.CodeText
import CrudForge.Proofs.Grammar.Items

/-!
# Texts of bodies

The bodies of services are lines of code around a call of the repository. Each of them spells the
statements of a block, whatever the repository is asked for and whatever is made of its answer.
-/

namespace CrudForge.Rendering

open Grammar

variable {a e t w : String} {r : Readers}

/-- Statements of a block, of which there are some. -/
def SomeBlock (r : Readers) (ts : List Token) : Prop :=
  ts ≠ [] ∧ IsBlockFor r ts

/-! ## Calls -/

/-- The repository of a service is called, and the caller waits for the answer. -/
def repositoryTokens (call : String) (args : List Token) (joint : Bool) (trail : List Token) :
    List Token :=
  .mark '.' false :: .ident "repository" :: .mark '.' false :: .ident call ::
    .group .paren args :: .mark '.' false :: .ident "await" :: .mark '?' joint :: trail

theorem trail_repository (name : IsName w) {args trail : List Token}
    (arguments : IsArgumentsFor r args) (joint : Bool) (more : IsTrailFor r trail) :
    IsTrailFor r (repositoryTokens w args joint trail) := by
  have field : IsName "repository" := by simp [IsName, keywords]
  have called := trail_method name arguments (trail_await (trail_try (j := joint) more))
  exact trail_field field (fun _ _ => ⟨rfl, rfl⟩) called

/-- A call of the repository, for whose answer the caller waits. -/
theorem exprText_repository (free : FreeWord w) (args : ArgsText a) (trail : TrailText t) :
    ExprText ("self.repository." ++ w ++ "(" ++ a ++ ").await?" ++ t) where
  begins rest := by simp
  spelled rest ls ends more := by
    obtain ⟨ts, lexes, read⟩ := trail.spelled rest ls ends more
    obtain ⟨joint, question⟩ : ∃ joint, Lexes ('?' :: (t.toList ++ rest))
        (.token (.mark '?' joint) :: (Token.flatAll ts ++ ls)) := ⟨_, .mark (by decide) lexes⟩
    have answer : scan? .none ".await?".toList =
        some ([.token (.mark '.' false), .token (.ident "await")], .mark '?') := rfl
    obtain ⟨us, call, arguments⟩ := args.call (Lexes.piece answer question)
    have named := free.lexes (.cons (by decide) (by decide)) call
    obtain ⟨c, cs, split, start⟩ := free.begins
    have dotted := Lexes.mark_before (c := '.') (by decide)
      ⟨c, _, by rw [split, List.cons_append], start⟩ named
    have repository : scan? .none "self.repository.".toList =
        some ([.token (.ident "self"), .token (.mark '.' false), .token (.ident "repository")],
          .mark '.') := rfl
    have whole := Lexes.piece repository dotted
    refine ⟨.ident "self" :: repositoryTokens w us joint ts, ?_, fun n deep =>
      ⟨List.cons_ne_nil _ _, fun after ends => ?_⟩⟩
    · simpa [repositoryTokens, Token.flat] using whole
    · have beginning : "self.repository.".length = 16 := rfl
      simp only [String.length_append] at deep
      obtain ⟨n, rfl⟩ : ∃ m, n = m + 1 := ⟨n - 1, by omega⟩
      have trailing := trail_repository free.name (arguments n (by omega)) joint
        (read n (by omega))
      exact expr_of_atom ⟨rfl, rfl, rfl⟩ rfl (trailing after ends) ends

/-- A function that fails for an entity that has not been found. -/
theorem exprText_notFound (args : ArgsText a) :
    ExprText ("|| ServiceError::not_found(" ++ a ++ ")") where
  begins rest := by simp
  spelled rest ls ends more := by
    obtain ⟨us, call, arguments⟩ := args.call more
    have closure : scan? .none "|| ServiceError::not_found(".toList =
        some ([.token (.mark '|' true), .token (.mark '|' false), .token (.ident "ServiceError"),
          .token (.mark ':' true), .token (.mark ':' false), .token (.ident "not_found")],
          .paren) := rfl
    have whole := Lexes.piece closure call
    refine ⟨[.mark '|' true, .mark '|' false, .ident "ServiceError", .mark ':' true,
      .mark ':' false, .ident "not_found", .group .paren us], ?_, fun n deep =>
        ⟨List.cons_ne_nil _ _, ?_⟩⟩
    · simpa [Token.flat] using whole
    · have beginning : "|| ServiceError::not_found(".length = 27 := rfl
      simp only [String.length_append] at deep
      obtain ⟨n, rfl⟩ : ∃ m, n = m + 2 := ⟨n - 2, by omega⟩
      refine isExpr_closure (fun _ _ => rfl) fun after ends => ?_
      have trailing := trail_call (arguments n (by omega)) (trail_nil _) after ends
      exact expr_of_atom ⟨rfl, rfl, rfl⟩ rfl trailing ends

theorem argsText_single (expr : ExprText e) : ArgsText e := by
  have list := ArgsText.list (List.cons_ne_nil e []) (by simpa using expr)
  rwa [String.intercalate_singleton] at list

/-! ## Lines -/

theorem run_statements_iff {n : Nat} {ts : List Token} :
    (readers (n + 1) .statements).run ts = some (.plain, []) ↔
      (statements (readers n)).run ts = some ((), []) := by
  have same : (readers (n + 1) .statements).run ts =
      (do statements (readers n); return .plain : Read Shape).run ts := rfl
  rw [same]
  cases read : (statements (readers n)).run ts with
  | none => simp [read]
  | some found => simp [read, Prod.ext_iff]

/-- A response as the last line of a body. -/
theorem spelled_response (args : ArgsText a) :
    Spelled SomeBlock Anything ("        ServiceResponse::ok(" ++ a ++ ")\n") := by
  intro rest ls _ more
  have line : Lexes ('\n' :: rest) ls := .space rfl more
  obtain ⟨us, call, arguments⟩ := args.call line
  have response : scan? .none "        ServiceResponse::ok(".toList =
      some ([.token (.ident "ServiceResponse"), .token (.mark ':' true), .token (.mark ':' false),
        .token (.ident "ok")], .paren) := rfl
  have whole := Lexes.piece response call
  refine ⟨[.ident "ServiceResponse", .mark ':' true, .mark ':' false, .ident "ok",
    .group .paren us], ?_, fun n deep => ⟨List.cons_ne_nil _ _, rfl, ?_⟩⟩
  · simpa [Token.flat] using whole
  · have beginning : "        ServiceResponse::ok(".length = 28 := rfl
    simp only [String.length_append] at deep
    obtain ⟨n, rfl⟩ : ∃ m, n = m + 3 := ⟨n - 3, by omega⟩
    have starts : StartsExpr [.ident "ServiceResponse", .mark ':' true, .mark ':' false,
        .ident "ok", .group .paren us] := ⟨rfl, rfl, rfl, rfl, rfl, rfl, rfl⟩
    have trailing := trail_call (arguments (n + 1) (by omega)) (trail_nil _) [] .nil
    have read : (readers (n + 2) .statementExpr).run [.ident "ServiceResponse", .mark ':' true,
        .mark ':' false, .ident "ok", .group .paren us] = some (.plain, []) :=
      (statementExpr_eq starts).trans (expr_of_atom ⟨rfl, rfl, rfl⟩ rfl trailing .nil)
    exact run_statements_iff.2 (statements_last starts read)

/-- Nothing is answered once an entity has been deleted. -/
theorem spelled_delete :
    Spelled SomeBlock Anything ("        self.repository.delete_by_id(&id).await?;\n" ++
      "        Ok(ServiceResponse::no_content())\n") := by
  intro rest ls _ more
  have first : scan? .none "        self.repository.delete_by_id(&id).await?;\n".toList =
      some ([.token (.ident "self"), .token (.mark '.' false), .token (.ident "repository"),
        .token (.mark '.' false), .token (.ident "delete_by_id"), .opening .paren,
        .token (.mark '&' false), .token (.ident "id"), .closing .paren, .token (.mark '.' false),
        .token (.ident "await"), .token (.mark '?' true), .token (.mark ';' false)], .none) := rfl
  have last : scan? .none "        Ok(ServiceResponse::no_content())\n".toList =
      some ([.token (.ident "Ok"), .opening .paren, .token (.ident "ServiceResponse"),
        .token (.mark ':' true), .token (.mark ':' false), .token (.ident "no_content"),
        .opening .paren, .closing .paren, .closing .paren], .none) := rfl
  have whole := Lexes.closed first (.closed last more)
  refine ⟨[.ident "self", .mark '.' false, .ident "repository", .mark '.' false,
    .ident "delete_by_id", .group .paren [.mark '&' false, .ident "id"], .mark '.' false,
    .ident "await", .mark '?' true, .mark ';' false, .ident "Ok", .group .paren
      [.ident "ServiceResponse", .mark ':' true, .mark ':' false, .ident "no_content",
        .group .paren []]], ?_, fun n deep => ⟨List.cons_ne_nil _ _, rfl, ?_⟩⟩
  · simpa [Token.flat] using whole
  · have beginning : "        self.repository.delete_by_id(&id).await?;\n".length = 50 := rfl
    rw [String.length_append] at deep
    obtain ⟨n, rfl⟩ : ∃ m, n = m + 10 := ⟨n - 10, by omega⟩
    rfl

/-! ## Windows -/

/-- The value of a variable that holds a window, and the end of its statement. -/
def windowValue : String :=
  " = if let (Some(page), Some(page_size)) = (page, page_size) \x7b\n" ++
    "            PageWindow::new(page, page_size)\n" ++ "        \x7d else \x7b\n" ++
    "            PageWindow::unrestricted()\n" ++ "        \x7d;\n"

/-- The lines that cut a window. -/
def windowText (w : String) : String :=
  "        let " ++ w ++ windowValue

/-- The condition on which a window is cut, and the window. -/
def windowTokens : List Token :=
  [.ident "if", .ident "let", .group .paren [.ident "Some", .group .paren [.ident "page"], comma,
      .ident "Some", .group .paren [.ident "page_size"]], .mark '=' false,
    .group .paren [.ident "page", comma, .ident "page_size"],
    .group .brace [.ident "PageWindow", .mark ':' true, .mark ':' false, .ident "new",
      .group .paren [.ident "page", comma, .ident "page_size"]],
    .ident "else"]

/-- The window of those who ask for none. -/
def unrestrictedTokens : List Token :=
  [.ident "PageWindow", .mark ':' true, .mark ':' false, .ident "unrestricted", .group .paren []]

set_option maxRecDepth 20000 in
theorem lexes_windowValue {rest : List Char} {ls : List Lexeme} (more : Lexes rest ls) :
    Lexes (windowValue.toList ++ rest)
      (Token.flatAll (.mark '=' false :: (windowTokens ++ .group .brace unrestrictedTokens ::
        [.mark ';' false])) ++ ls) := by
  have condition : scan? .none
      " = if let (Some(page), Some(page_size)) = (page, page_size) \x7b\n".toList =
      some ([.token (.mark '=' false), .token (.ident "if"), .token (.ident "let"),
        .opening .paren, .token (.ident "Some"), .opening .paren, .token (.ident "page"),
        .closing .paren, .token comma, .token (.ident "Some"), .opening .paren,
        .token (.ident "page_size"), .closing .paren, .closing .paren, .token (.mark '=' false),
        .opening .paren, .token (.ident "page"), .token comma, .token (.ident "page_size"),
        .closing .paren, .opening .brace], .none) := rfl
  have window : scan? .none "            PageWindow::new(page, page_size)\n".toList =
      some ([.token (.ident "PageWindow"), .token (.mark ':' true), .token (.mark ':' false),
        .token (.ident "new"), .opening .paren, .token (.ident "page"), .token comma,
        .token (.ident "page_size"), .closing .paren], .none) := rfl
  have other : scan? .none "        \x7d else \x7b\n".toList =
      some ([.closing .brace, .token (.ident "else"), .opening .brace], .none) := rfl
  have unrestricted : scan? .none "            PageWindow::unrestricted()\n".toList =
      some ([.token (.ident "PageWindow"), .token (.mark ':' true), .token (.mark ':' false),
        .token (.ident "unrestricted"), .opening .paren, .closing .paren], .none) := rfl
  have last : scan? .none "        \x7d;\n".toList =
      some ([.closing .brace, .token (.mark ';' false)], .none) := rfl
  have value := Lexes.closed condition <| .closed window <| .closed other <|
    .closed unrestricted <| .closed last more
  delta windowValue
  simp only [String.toList_append, List.append_assoc]
  exact value

theorem wordEnd_windowValue (rest : List Char) : WordEnd (windowValue.toList ++ rest) := by
  delta windowValue
  simp only [String.toList_append, List.append_assoc]
  exact wordEnd_of_head ' ' rfl (by decide)

theorem le_length_windowValue : 9 ≤ windowValue.length := by
  have last : "        \x7d;\n".length = 11 := rfl
  delta windowValue
  simp only [String.length_append]
  omega

set_option maxRecDepth 20000 in
theorem run_window (n : Nat) (rest : List Token) :
    (readers (n + 20) (.expr true)).run
      (windowTokens ++ .group .brace unrestrictedTokens :: .mark ';' false :: rest) =
        some (.block, .mark ';' false :: rest) := rfl

/-- A window may be cut in front of a body. -/
theorem spelled_window {s : String} (free : FreeWord w) (body : Spelled SomeBlock Anything s) :
    Spelled SomeBlock Anything (windowText w ++ s) := by
  intro rest ls _ more
  obtain ⟨ts, lexes, read⟩ := body rest ls trivial more
  have opening : scan? .none "        let ".toList = some ([.token (.ident "let")], .none) := rfl
  have named := free.lexes (wordEnd_windowValue _) (lexes_windowValue lexes)
  have whole := Lexes.closed opening named
  refine ⟨.ident "let" :: .ident w :: .mark '=' false :: (windowTokens ++
    .group .brace unrestrictedTokens :: .mark ';' false :: ts), ?_, fun n deep =>
      ⟨List.cons_ne_nil _ _, rfl, ?_⟩⟩
  · simpa [windowText, Token.flat] using whole
  · have beginning : "        let ".length = 12 := rfl
    have long := le_length_windowValue
    rw [String.length_append, windowText, String.length_append, String.length_append] at deep
    obtain ⟨some, -, statements⟩ := read n (by omega)
    obtain ⟨n, rfl⟩ : ∃ m, n = m + 21 := ⟨n - 21, by omega⟩
    have local' := statement_local (pattern_name free.name (.inr rfl)) (run_window n ts)
    have behind : atEnd ts = false := by
      cases ts with
      | nil => exact absurd rfl some
      | cons => rfl
    refine run_statements_iff.2 (statements_next rfl rfl local' ?_ behind
      (run_statements_iff.1 statements))
    simp only [List.length_cons, List.length_append]
    omega

end CrudForge.Rendering
