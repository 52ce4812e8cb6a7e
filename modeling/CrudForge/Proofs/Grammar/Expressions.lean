import CrudForge.Grammar.Item
import CrudForge.Proofs.Grammar.Types

/-!
# Expressions

A name, a borrowed name and a quoted text are expressions wherever a comma, a semicolon or nothing
follows, and so is what calls and members make of them.
-/

namespace CrudForge.Grammar

variable {r : Readers} {w : String} {ts ts' rest : List Token}

/-- What may follow an expression. -/
inductive ExprEnd : List Token → Prop
  | nil : ExprEnd []
  | comma {j : Bool} {ts : List Token} : ExprEnd (.mark ',' j :: ts)
  | semicolon {j : Bool} {ts : List Token} : ExprEnd (.mark ';' j :: ts)

/-- A phrase is an expression wherever one may end. -/
def IsExprFor (r : Readers) (ts : List Token) : Prop :=
  ∀ rest, ExprEnd rest → (r (.expr true)).run (ts ++ rest) = some (.plain, rest)

/-- Calls and members that may stand behind an expression. -/
def IsTrailFor (r : Readers) (ts : List Token) : Prop :=
  ∀ rest, ExprEnd rest → (trailers r .plain).run (ts ++ rest) = some (.plain, rest)

/-- Phrases that may stand between the parentheses of a call. -/
def IsArgumentsFor (r : Readers) (args : List Token) : Prop :=
  (commaList (plainly (r (.expr true)))).run args = some ((), [])

/-! ## The end of an expression -/

/-- One step of what stands behind an expression. -/
def trailStep (r : Readers) (shape : Shape) : Read (Option Shape) := do
  if ← ask (group .paren) then
    callArguments r
    return some .plain
  else if shape ≠ .range && (← ask dotAhead) then
    takeMarks "."
    selection r
    return some .plain
  else if ← ask (group .bracket) then
    inside .bracket (plainly (r (.expr true)))
    return some .plain
  else if shape ≠ .range && (← tryMarks "?") then return some .plain
  else return none

theorem trailers_eq (r : Readers) (shape : Shape) :
    trailers r shape = iterate (trailStep r) shape := rfl

theorem operators_end (ends : ExprEnd rest) :
    (operators r true .lowest .plain).run rest = some (.plain, rest) := by
  cases ends <;> exact iterate_end rfl

theorem trail_nil (r : Readers) : IsTrailFor r [] := by
  intro rest ends
  rw [trailers_eq]
  cases ends <;> exact iterate_end rfl

/-- A step that reads something, and the rest of the trail. -/
theorem trail_step (first : List Token) (nonempty : first ≠ []) (more : IsTrailFor r ts)
    (step : ∀ rest, ExprEnd rest →
      (trailStep r .plain).run (first ++ (ts ++ rest)) = some (some .plain, ts ++ rest)) :
    IsTrailFor r (first ++ ts) := by
  intro rest ends
  have later := more rest ends
  rw [trailers_eq] at later ⊢
  rw [List.append_assoc]
  refine iterate_next (step rest ends) ?_ later
  have some := List.length_pos_iff.2 nonempty
  simp only [List.length_append]
  omega

/-! ## Calls and members -/

theorem callArguments_of_isArguments {args : List Token} (arguments : IsArgumentsFor r args) :
    (callArguments r).run (.group .paren args :: ts) = some ((), ts) :=
  run_inside arguments

theorem trail_call {args : List Token} (arguments : IsArgumentsFor r args)
    (more : IsTrailFor r ts) : IsTrailFor r (.group .paren args :: ts) := by
  refine trail_step [.group .paren args] (List.cons_ne_nil _ _) more ?_
  intro rest _
  have paren : group .paren (.group .paren args :: (ts ++ rest)) = true := rfl
  simp [trailStep, run_ask, paren, callArguments_of_isArguments arguments]

theorem trail_try {j : Bool} (more : IsTrailFor r ts) : IsTrailFor r (.mark '?' j :: ts) :=
  trail_step [.mark '?' j] (List.cons_ne_nil _ _) more fun _ _ => rfl

/-- A step to a member. -/
theorem trailStep_selection {us : List Token}
    (selected : (selection r).run (.ident w :: us) = some ((), ts)) :
    (trailStep r .plain).run (.mark '.' false :: .ident w :: us) = some (some .plain, ts) := by
  have paren : group .paren (.mark '.' false :: .ident w :: us) = false := rfl
  have dot : dotAhead (.mark '.' false :: .ident w :: us) = true := rfl
  have taken : (takeMarks ".").run (.mark '.' false :: .ident w :: us) =
      some ((), .ident w :: us) := rfl
  simp [trailStep, run_ask, paren, dot, taken, selected]

theorem trail_await (more : IsTrailFor r ts) :
    IsTrailFor r (.mark '.' false :: .ident "await" :: ts) := by
  refine trail_step [.mark '.' false, .ident "await"] (List.cons_ne_nil _ _) more ?_
  exact fun rest _ => trailStep_selection rfl

theorem selection_method (name : IsName w) {args : List Token}
    (arguments : IsArgumentsFor r args) :
    (selection r).run (.ident w :: .group .paren args :: ts) = some ((), ts) := by
  have await : word "await" (.ident w :: .group .paren args :: ts) = false :=
    word_name name (by decide)
  have colons : marks "::" (.group .paren args :: ts) = false := rfl
  have paren : group .paren (.group .paren args :: ts) = true := rfl
  simp [selection, run_tryWord_none await, member, takeIdent_name name, run_tryMarks_none colons,
    run_ask, paren, callArguments_of_isArguments arguments]

theorem trail_method (name : IsName w) {args : List Token} (arguments : IsArgumentsFor r args)
    (more : IsTrailFor r ts) :
    IsTrailFor r (.mark '.' false :: .ident w :: .group .paren args :: ts) := by
  refine trail_step [.mark '.' false, .ident w, .group .paren args] (List.cons_ne_nil _ _) more ?_
  exact fun rest _ => trailStep_selection (selection_method name arguments)

/-- A member that is not called. -/
def NotCalled (ts : List Token) : Prop :=
  marks "::" ts = false ∧ group .paren ts = false

theorem selection_field (name : IsName w) (notCalled : NotCalled ts) :
    (selection r).run (.ident w :: ts) = some ((), ts) := by
  have await : word "await" (.ident w :: ts) = false := word_name name (by decide)
  obtain ⟨colons, paren⟩ := notCalled
  simp [selection, run_tryWord_none await, member, takeIdent_name name, run_tryMarks_none colons,
    run_ask, paren]

theorem trail_field (name : IsName w)
    (notCalled : ∀ rest, ExprEnd rest → NotCalled (ts ++ rest)) (more : IsTrailFor r ts) :
    IsTrailFor r (.mark '.' false :: .ident w :: ts) := by
  refine trail_step [.mark '.' false, .ident w] (List.cons_ne_nil _ _) more ?_
  exact fun rest ends => trailStep_selection (selection_field name (notCalled rest ends))

/-! ## Expressions -/

/-- No operator stands in front of an expression. -/
def Bare (ts : List Token) : Prop :=
  marks "#" ts = false ∧ marks "&" ts = false ∧ anyMarks ["*", "!", "-"] ts = false

theorem unary_of_atom (bare : Bare ts) (first : (atom r true).run ts = some (.plain, ts'))
    (more : (trailers r .plain).run ts' = some (.plain, rest)) :
    (unary r true).run ts = some (.plain, rest) := by
  obtain ⟨noAttribute, borrow, operator⟩ := bare
  have none : (outerAttributes r).run ts = some ((), ts) := whileNext_end noAttribute
  simp [unary, run_ask, noAttribute, none, borrow, operator, first, more]

/-- An expression is something with calls and members behind it. -/
theorem expr_of_atom (bare : Bare ts) (first : (atom r true).run ts = some (.plain, ts'))
    (more : (trailers r .plain).run ts' = some (.plain, rest)) (ends : ExprEnd rest) :
    (expr r true).run ts = some (.plain, rest) := by
  simp [expr, unary_of_atom bare first more, operators_end ends]

theorem atom_name (name : IsName w) (ends : ExprEnd rest) :
    (atom r true).run (.ident w :: rest) = some (.plain, rest) := by
  have noLiteral : literal (.ident w :: rest) = false := literal_name name
  have skipped : skip (.ident w :: rest) = rest := rfl
  have hash : marks "#" rest = false := by cases ends <;> rfl
  have angle : marks "<" (.ident w :: rest) = false := rfl
  have colons : marks "::" rest = false := by cases ends <;> rfl
  have bang : marks "!" rest = false := by cases ends <;> rfl
  have brace : group .brace rest = false := by cases ends <;> rfl
  have path : (path r true).run (.ident w :: rest) = some (⟨false, true, true, .none⟩, rest) :=
    path_of_segment (segment_name name colons rfl) colons
  simp [atom, noLiteral, skipped, hash, ident_name name, pathExpr, qualifiedPath,
    run_tryMarks_none angle, path, run_ask, Test.except, bang, brace]

theorem expr_name (name : IsName w) (ends : ExprEnd rest) :
    (expr r true).run (.ident w :: rest) = some (.plain, rest) :=
  expr_of_atom ⟨rfl, rfl, rfl⟩ (atom_name name ends) (trail_nil r rest ends) ends

/-- A borrowed name, read by a reader of names. -/
theorem expr_borrow (name : IsName w) (ends : ExprEnd rest)
    (read : (r (.unary true)).run (.ident w :: rest) = some (.plain, rest)) :
    (expr r true).run (.mark '&' false :: .ident w :: rest) = some (.plain, rest) := by
  have noAttribute : marks "#" (.mark '&' false :: .ident w :: rest) = false := rfl
  have borrow : marks "&" (.mark '&' false :: .ident w :: rest) = true := rfl
  have none : (outerAttributes r).run (.mark '&' false :: .ident w :: rest) =
      some ((), .mark '&' false :: .ident w :: rest) := whileNext_end noAttribute
  have taken : (takeMarks "&").run (.mark '&' false :: .ident w :: rest) =
      some ((), .ident w :: rest) := rfl
  have noConst : (words ["mut", "const"]).second (.ident w :: rest) = false := by
    cases ends <;> rfl
  have noMut : word "mut" (.ident w :: rest) = false := word_name name (by decide)
  have inner : (unary r true).run (.mark '&' false :: .ident w :: rest) = some (.plain, rest) := by
    simp [unary, run_ask, noAttribute, none, borrow, taken, Test.and, noConst,
      run_tryWord_none noMut, run_plainly read]
  simp [expr, inner, operators_end ends]

theorem expr_quoted (text : String) (ends : ExprEnd rest) :
    (expr r true).run (.literal .str text :: rest) = some (.plain, rest) :=
  expr_of_atom ⟨rfl, rfl, rfl⟩ rfl (trail_nil r rest ends) ends

/-- A closure without parameters. -/
theorem closure_bare (noArrow : marks "->" ts = false)
    (body : (r (.expr true)).run ts = some (.plain, rest)) :
    (closure r true).run (.mark '|' true :: .mark '|' false :: ts) = some ((), rest) := by
  have noWord (w : String) : word w (.mark '|' true :: .mark '|' false :: ts) = false := rfl
  have opening : (takeMarks "|").run (.mark '|' true :: .mark '|' false :: ts) =
      some ((), .mark '|' false :: ts) := rfl
  have params : (listed "," (marks "|") (closureParam r)).run (.mark '|' false :: ts) =
      some ((), .mark '|' false :: ts) := listed_end rfl
  have closing : (takeMarks "|").run (.mark '|' false :: ts) = some ((), ts) := rfl
  simp [closure, run_ask, noWord, run_tryWord_none, opening, params, closing,
    run_tryMarks_none noArrow, run_plainly body]

theorem expr_closure (noArrow : marks "->" ts = false) (ends : ExprEnd rest)
    (body : (r (.expr true)).run ts = some (.plain, rest)) :
    (expr r true).run (.mark '|' true :: .mark '|' false :: ts) = some (.plain, rest) := by
  have first : (atom r true).run (.mark '|' true :: .mark '|' false :: ts) =
      (do closure r true; return .plain : Read Shape).run
        (.mark '|' true :: .mark '|' false :: ts) := rfl
  rw [StateT.run_bind, closure_bare noArrow body] at first
  exact expr_of_atom ⟨rfl, rfl, rfl⟩ first (trail_nil r rest ends) ends

/-! ### Readers of expressions -/

theorem isExpr_name (name : IsName w) (n : Nat) : IsExprFor (readers (n + 1)) [.ident w] :=
  fun _ ends => expr_name name ends

theorem isExpr_borrow (name : IsName w) (n : Nat) :
    IsExprFor (readers (n + 2)) [.mark '&' false, .ident w] := by
  intro rest ends
  refine expr_borrow name ends ?_
  exact unary_of_atom ⟨rfl, rfl, rfl⟩ (atom_name name ends) (trail_nil _ rest ends)

theorem isExpr_quoted (text : String) (n : Nat) :
    IsExprFor (readers (n + 1)) [.literal .str text] :=
  fun _ ends => expr_quoted text ends

theorem isExpr_closure {n : Nat} (noArrow : ∀ rest, ExprEnd rest → marks "->" (ts ++ rest) = false)
    (body : IsExprFor (readers n) ts) :
    IsExprFor (readers (n + 1)) (.mark '|' true :: .mark '|' false :: ts) :=
  fun rest ends => expr_closure (noArrow rest ends) ends (body rest ends)

/-! ## Arguments -/

theorem arguments_nil (r : Readers) : IsArgumentsFor r [] :=
  listed_end rfl

/-- Arguments between commas. -/
theorem arguments_list {phrases : List (List Token)}
    (read : ∀ ts ∈ phrases, ts ≠ [] ∧ IsExprFor r ts) :
    IsArgumentsFor r ([comma].intercalate phrases) := by
  cases phrases with
  | nil => exact arguments_nil r
  | cons ts phrases =>
    have list : (listed "," atEnd (plainly (r (.expr true)))).run
        ([comma].intercalate (ts :: phrases) ++ []) = some ((), []) := by
      refine listed_commas (fun _ => rfl) rfl (List.cons_ne_nil _ _) fun us mem more next => ?_
      obtain ⟨some, isExpr⟩ := read us mem
      have ends : ExprEnd more := by
        rcases next with done | ⟨vs, rfl⟩
        · cases more with
          | nil => exact .nil
          | cons => cases done
        · exact .comma
      refine ⟨?_, run_plainly (isExpr more ends)⟩
      cases us with
      | nil => exact absurd rfl some
      | cons => rfl
    rwa [List.append_nil] at list

/-! ## Statements -/

/-- The beginning of a statement that is an expression and does not end with a block. -/
structure StartsExpr (ts : List Token) : Prop where
  noAttribute : marks "#" ts = false
  noSemicolon : marks ";" ts = false
  notEnd : atEnd ts = false
  noMacro : macroStart ts = .none
  noLocal : word "let" ts = false
  noItem : itemAhead ts = false
  noBlock : blockAhead ts = false

theorem statementExpr_eq (starts : StartsExpr ts) :
    (statementExpr r).run ts = (expr r true).run ts := by
  have none : (outerAttributes r).run ts = some ((), ts) := whileNext_end starts.noAttribute
  simp [statementExpr, none, run_ask, starts.noBlock, expr]

/-- A statement that is an expression; tells whether a semicolon is missing. -/
theorem statement_expr (starts : StartsExpr ts)
    (read : (r .statementExpr).run ts = some (.plain, ts')) :
    (statement r).run ts = (do return !(← tryMarks ";") : Read Bool).run ts' := by
  have none : (outerAttributes r).run ts = some ((), ts) := whileNext_end starts.noAttribute
  simp [statement, none, starts.noMacro, starts.noLocal, starts.noItem, read]

/-- An expression as the last statement of a block. -/
theorem statements_last (starts : StartsExpr ts)
    (read : (r .statementExpr).run ts = some (.plain, [])) :
    (statements r).run ts = some ((), []) := by
  have none : (whileNext (marks ";") (takeMarks ";")).run ts = some ((), ts) :=
    whileNext_end starts.noSemicolon
  have last : (statement r).run ts = some (true, []) := by
    rw [statement_expr starts read]
    rfl
  refine repeatSteps_end ?_
  simp [none, run_ask, starts.notEnd, last]
  rfl

/-- A statement with its semicolon, and those behind it. -/
theorem statements_next (noSemicolon : marks ";" ts = false) (notEnd : atEnd ts = false)
    (read : (statement r).run ts = some (false, ts')) (shorter : ts'.length < ts.length)
    (behind : atEnd ts' = false) (more : (statements r).run ts' = some ((), [])) :
    (statements r).run ts = some ((), []) := by
  have none : (whileNext (marks ";") (takeMarks ";")).run ts = some ((), ts) :=
    whileNext_end noSemicolon
  refine repeatSteps_next ?_ shorter more
  simp [none, run_ask, notEnd, read, behind]

/-! ### Variables -/

/-- A name is a pattern where a colon or an equals sign follows. -/
theorem pattern_name (name : IsName w) {c : Char} (mark : c = ':' ∨ c = '=') :
    (pattern r).run (.ident w :: .mark c false :: ts) =
      some (.plain, .mark c false :: ts) := by
  have other {k : String} (keyword : k ∈ keywords) :
      word k (.ident w :: .mark c false :: ts) = false := word_name name keyword
  have path : (anyMarks ["::", "!", ".."]).or ((group .brace).or (group .paren))
      (.mark c false :: ts) = false := by
    rcases mark with rfl | rfl <;> rfl
  have noPath : words ["Self", "super", "crate"] (.ident w :: .mark c false :: ts) = false :=
    words_name name (by decide)
  have noLiteral : literal (.ident w :: .mark c false :: ts) = false := literal_name name
  have noMarks : anyMarks ["::", "<"] (.ident w :: .mark c false :: ts) = false := rfl
  have minus : marks "-" (.ident w :: .mark c false :: ts) = false := rfl
  have bound : marks "@" (.mark c false :: ts) = false := by
    rcases mark with rfl | rfl <;> rfl
  have taken : (take (ident.or (word "self"))).run (.ident w :: .mark c false :: ts) =
      some ((), .mark c false :: ts) := run_take (by simp [Test.or, ident_name name])
  have named : (namePattern r).run (.ident w :: .mark c false :: ts) =
      some ((), .mark c false :: ts) := by
    simp [namePattern, run_tryWord_none (other (k := "ref") (by decide)),
      run_tryWord_none (other (k := "mut") (by decide)), taken, run_tryMarks_none bound]
  have skipped : skip (.ident w :: .mark c false :: ts) = .mark c false :: ts := rfl
  simp only [Test.or] at path
  simp [pattern, run_ask, Test.or, Test.and, Test.second, skipped, path, ident_name name,
    other (k := "self") (by decide), noPath, noMarks,
    run_tryWord_none (other (k := "_") (by decide)),
    run_tryWord_none (other (k := "box") (by decide)), minus,
    noLiteral, other (k := "const") (by decide), named]

/-- The last tree that was read of some. -/
theorem lastRead_append (before : List Token) (t : Token) (after : List Token) :
    lastRead (before ++ t :: after) after = t :: after := by
  have length : (before ++ t :: after).length - after.length - 1 = before.length := by
    simp only [List.length_append, List.length_cons]
    omega
  rw [lastRead, length, List.drop_left]

/-- A variable whose value ends with a block. -/
theorem statement_local {value content : List Token} {shape : Shape}
    (pattern : (r .pattern).run (.ident w :: .mark '=' false :: (value ++ .group .brace content ::
        .mark ';' false :: rest)) =
      some (.plain, .mark '=' false :: (value ++ .group .brace content :: .mark ';' false :: rest)))
    (read : (r (.expr true)).run (value ++ .group .brace content :: .mark ';' false :: rest) =
      some (shape, .mark ';' false :: rest)) :
    (statement r).run (.ident "let" :: .ident w :: .mark '=' false ::
      (value ++ .group .brace content :: .mark ';' false :: rest)) = some (false, rest) := by
  have colon (ts : List Token) : marks ":" (.mark '=' false :: ts) = false := rfl
  have equals (ts : List Token) : (tryMarks "=").run (.mark '=' false :: ts) = some (true, ts) :=
    rfl
  have semicolon (ts : List Token) : (takeMarks ";").run (.mark ';' false :: ts) = some ((), ts) :=
    rfl
  have braced := lastRead_append value (.group .brace content) (.mark ';' false :: rest)
  generalize value ++ .group .brace content :: .mark ';' false :: rest = before at *
  have started : (statement r).run (.ident "let" :: .ident w :: .mark '=' false :: before) =
      (do localStatement r; return false : Read Bool).run
        (.ident "let" :: .ident w :: .mark '=' false :: before) := rfl
  have taken : (takeWord "let").run (.ident "let" :: .ident w :: .mark '=' false :: before) =
      some ((), .ident w :: .mark '=' false :: before) := rfl
  have block : group .brace (.group .brace content :: .mark ';' false :: rest) = true := rfl
  have whole : (localStatement r).run (.ident "let" :: .ident w :: .mark '=' false :: before) =
      some ((), rest) := by
    simp [localStatement, run_ask, taken, run_plainly pattern, run_tryMarks_none (colon before),
      equals, run_plainly read, braced, block, semicolon]
  simp [started, whole]

end CrudForge.Grammar
