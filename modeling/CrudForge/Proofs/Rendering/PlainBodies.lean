import CrudForge.Proofs.Generation.Calls
import CrudForge.Proofs.Generation.LocalName
import CrudForge.Proofs.Rendering.Functions
import CrudForge.Proofs.Rendering.Responses

/-!
# Bodies with plain names

The bodies of generated methods are printed as statements of a block (`Printable`) if the names in
them are plain. The texts of owners are quoted, so nothing is asked of them.
-/

namespace CrudForge.Rendering

open Generation Grammar
open Naming (Plain)

variable {a name w : String} {m : Method} {params : List Parameter}

/-- How arguments are written in files. -/
abbrev written : CodeArg → String := writeArg .standard

/-! ## Identifiers -/

theorem identifier_of_free (free : FreeWord (Naming.snakeCase name)) :
    identifier .standard name = Naming.snakeCase name := by
  have ident : TargetGrammar.standard.isIdent (Naming.snakeCase name) = true := by
    show Grammar.isIdent (Naming.snakeCase name) = true
    rw [isIdent_word free.word]
    simpa [IsName] using free.name
  rw [identifier, if_pos ident]

theorem identifier_window (count : Nat) :
    identifier .standard (underscored windowName count) = underscored windowName count := by
  have same := snakeCase_window count
  have free := freeWord_window count
  rw [← same] at free
  rw [identifier_of_free free, same]

/-- The fixed names of parameters as they are written. -/
theorem identifier_fixed :
    identifier .standard Parameter.entityName = "entity" ∧
      identifier .standard Parameter.idName = "id" ∧
      identifier .standard Parameter.pageName = "page" ∧
      identifier .standard Parameter.pageSizeName = "page_size" := by
  decide

/-- Words that files use, none of which is a keyword. -/
theorem free_fixed : ∀ w ∈ ["id", "entity", "save", "find_by_id", "ok_or_else", "find_all",
    "find_all_paged", "all_by_filter"], FreeWord w := by
  have words : ∀ w ∈ ["id", "entity", "save", "find_by_id", "ok_or_else", "find_all",
      "find_all_paged", "all_by_filter"],
      w.toList.head?.any Text.isIdentStart = true ∧ w.toList.all Text.isIdentContinue = true ∧
        w ∉ keywords := by
    decide
  intro w mem
  obtain ⟨start, more, free⟩ := words w mem
  exact .of_letters start more free

/-! ## Arguments -/

theorem exprText_param (plain : Plain name) : ExprText (written (.name name)) := by
  have same : written (.name name) = Naming.snakeCase name := identifier_of_free plain.snake
  rw [same]
  exact .name plain.snake

theorem argsText_params (plain : ∀ p ∈ params, Plain p.name) :
    ArgsText (", ".intercalate (params.map fun p => written (.name p.name))) := by
  cases params with
  | nil => exact .none
  | cons p params =>
    refine .list (List.cons_ne_nil _ _) fun s mem => ?_
    obtain ⟨q, param, rfl⟩ := List.mem_map.1 mem
    exact exprText_param (plain q param)

theorem exprText_window (count : Nat) :
    ExprText ("&" ++ written (.name (underscored windowName count))) := by
  have same : written (.name (underscored windowName count)) = underscored windowName count :=
    identifier_window count
  rw [same]
  exact .borrow (freeWord_window count)

theorem argsText_filters (pagination : Bool) (plain : ∀ p ∈ params, Plain p.name) :
    ArgsText (", ".intercalate (filterArgs written pagination params)) := by
  cases pagination with
  | false =>
    rw [filterArgs, if_neg Bool.false_ne_true, List.append_nil]
    exact argsText_params plain
  | true =>
    obtain ⟨count, -, named, -⟩ := localName_spec windowName params
    refine .list (by simp [filterArgs]) fun s mem => ?_
    rcases List.mem_append.1 mem with filter | window
    · obtain ⟨q, param, rfl⟩ := List.mem_map.1 filter
      exact exprText_param (plain q param)
    · obtain rfl := List.mem_singleton.1 window
      rw [named]
      exact exprText_window count

/-! ## What is done with an entity that is found -/

theorem trailText_call (free : FreeWord w) (args : ArgsText a) :
    TrailText ("." ++ w ++ "(" ++ a ++ ")") := by
  have trail := TrailText.method free args .nil
  rwa [String.append_empty] at trail

theorem trailText_getter (free : FreeWord w) : TrailText ("." ++ w ++ "()") := by
  have split : "." ++ w ++ "()" = "." ++ w ++ "(" ++ "" ++ ")" := by
    rw [String.append_empty, @String.append_assoc ("." ++ w) "(" ")"]
    rfl
  rw [split]
  exact trailText_call free .none

theorem trailText_accessor (style : AccessorStyle) (plain : Plain name) :
    TrailText (accessorText written style name) := by
  cases style with
  | field =>
    have same : written (.name name) = Naming.snakeCase name := identifier_of_free plain.snake
    rw [accessorText, same]
    exact .field plain.snake
  | getter =>
    have same : written (.name ("get_" ++ name)) = Naming.snakeCase ("get_" ++ name) :=
      identifier_of_free plain.getter
    rw [accessorText, same]
    exact trailText_getter plain.getter
  | bean =>
    have split : ".get" ++ Naming.capitalize name ++ "()" =
        "." ++ ("get" ++ Naming.capitalize name) ++ "()" := by
      rw [← String.append_assoc]
      rfl
    show TrailText (".get" ++ Naming.capitalize name ++ "()")
    rw [split]
    exact trailText_getter plain.bean

theorem trailText_member (plain : Plain name) (all : ∀ p ∈ params, Plain p.name) :
    TrailText (memberText written name params) :=
  trailText_call plain.freeWord (argsText_params all)

/-! ## Calls of the repository -/

/-- The repository is called with some arguments. -/
def callText (method args : String) : String :=
  "self.repository." ++ method ++ "(" ++ args ++ ").await?"

theorem argsText_call (free : FreeWord w) (args : ArgsText a) : ArgsText (callText w a) := by
  have expr := exprText_repository free args .nil
  rw [String.append_empty] at expr
  exact argsText_single expr

/-- The repository is asked for an entity, and something is done with it. -/
def foundText (owner tail : String) : String :=
  "self.repository." ++ "find_by_id" ++ "(" ++ ("&" ++ "id") ++ ").await?" ++
    ("." ++ "ok_or_else" ++ "(" ++ ("|| ServiceError::not_found(" ++
      (written (.str owner) ++ ", " ++ ("&" ++ "id")) ++ ")") ++ ")" ++ ("?" ++ tail))

theorem argsText_found (owner : String) {tail : String} (trail : TrailText tail) :
    ArgsText (foundText owner tail) := by
  have id : ExprText ("&" ++ "id") := .borrow (free_fixed "id" (by decide))
  have both : ArgsText (written (.str owner) ++ ", " ++ ("&" ++ "id")) := by
    have list : ArgsText (", ".intercalate [written (.str owner), "&" ++ "id"]) :=
      .list (List.cons_ne_nil _ _)
        (List.forall_mem_cons.2 ⟨.quoted owner, List.forall_mem_singleton.2 id⟩)
    rwa [String.intercalate_cons_cons, String.intercalate_singleton] at list
  have missing := argsText_single (exprText_notFound both)
  have found := TrailText.method (free_fixed "ok_or_else" (by decide)) missing trail.question
  exact argsText_single (exprText_repository (free_fixed "find_by_id" (by decide))
    (argsText_single id) found)

theorem lookupText_eq (owner tail : String) :
    lookupText written owner tail = "ServiceResponse::ok(" ++ foundText owner tail ++ ")" := by
  have id : written (.name Parameter.idName) = "id" := identifier_fixed.2.1
  have first : "ServiceResponse::ok(self.repository.find_by_id(&" =
      "ServiceResponse::ok(" ++ "self.repository." ++ "find_by_id" ++ "(" ++ "&" := rfl
  have second : ").await?.ok_or_else(|| ServiceError::not_found(" =
      ").await?" ++ "." ++ "ok_or_else" ++ "(" ++ "|| ServiceError::not_found(" := rfl
  have third : ", &" = ", " ++ "&" := rfl
  have last : "))?" = ")" ++ ")" ++ "?" := rfl
  unfold lookupText foundText
  rw [id, first, second, third, last]
  simp only [String.append_assoc]

/-! ## Printed bodies -/

/-- The body of a method is printed as the statements of a block. -/
def Printable (m : Method) : Prop :=
  ∃ lines, bodyLines .standard m.name m.body = .ok lines ∧
    Spelled SomeBlock Anything (String.join (lines.map BodyLine.render))

section Lines

variable {g : TargetGrammar} {code : CodeBlock} {t : String}

theorem bodyLinesFrom_expr (expanded : code.expand (writeArg g) = .ok t) (method : String)
    (depth : Nat) (rest : List Fragment) :
    bodyLinesFrom g method depth (.expr code :: rest) =
      (⟨depth, t⟩ :: ·) <$> bodyLinesFrom g method depth rest := by
  rw [bodyLinesFrom, Fragment.code?, Option.map_some, expanded]
  rfl

theorem bodyLinesFrom_beginBlock (expanded : code.expand (writeArg g) = .ok t) (method : String)
    (depth : Nat) (rest : List Fragment) :
    bodyLinesFrom g method depth (.beginBlock code :: rest) =
      (⟨depth, t ++ " \x7b"⟩ :: ·) <$> bodyLinesFrom g method (depth + 1) rest := by
  rw [bodyLinesFrom, Fragment.code?, Option.map_some, expanded]
  rfl

theorem bodyLinesFrom_nextBlock (expanded : code.expand (writeArg g) = .ok t) (method : String)
    (outer : Nat) (rest : List Fragment) :
    bodyLinesFrom g method (outer + 1) (.nextBlock code :: rest) =
      (⟨outer, "\x7d " ++ t ++ " \x7b"⟩ :: ·) <$> bodyLinesFrom g method (outer + 1) rest := by
  rw [bodyLinesFrom, Fragment.code?, Option.map_some, expanded]
  rfl

theorem bodyLinesFrom_endBlock (semicolon : Bool) (method : String) (outer : Nat)
    (rest : List Fragment) :
    bodyLinesFrom g method (outer + 1) (.endBlock semicolon :: rest) =
      (⟨outer, blockEnd semicolon⟩ :: ·) <$> bodyLinesFrom g method outer rest := rfl

end Lines

/-- A line outside of all blocks. -/
theorem render_outer (t : String) : BodyLine.render ⟨0, t⟩ = "        " ++ t ++ "\n" := rfl

/-- A line in one block. -/
theorem render_inner (t : String) : BodyLine.render ⟨1, t⟩ = "            " ++ t ++ "\n" := rfl

theorem response_line (a : String) :
    String.join ([⟨0, "ServiceResponse::ok(" ++ a ++ ")"⟩].map BodyLine.render) =
      "        ServiceResponse::ok(" ++ a ++ ")\n" := by
  have line : "        ServiceResponse::ok(" = "        " ++ "ServiceResponse::ok(" := rfl
  have last : ")\n" = ")" ++ "\n" := rfl
  rw [List.map_singleton, String.join_cons, String.join_nil, render_outer, line, last]
  simp only [String.append_assoc, String.append_empty]

theorem printable_response {code : CodeBlock} (body : m.body = [.expr code])
    (expanded : code.expand written = .ok ("ServiceResponse::ok(" ++ a ++ ")"))
    (args : ArgsText a) : Printable m := by
  refine ⟨[⟨0, "ServiceResponse::ok(" ++ a ++ ")"⟩], ?_, ?_⟩
  · rw [bodyLines, body, bodyLinesFrom_expr expanded]
    rfl
  · rw [response_line]
    exact spelled_response args

/-- A condition on which a window is cut. -/
theorem expand_condition (count : Nat) :
    CodeBlock.expand written
      { format := "let $N = if let (Some($N), Some($N)) = ($N, $N)"
        args := [.name (underscored windowName count), .name Parameter.pageName,
          .name Parameter.pageSizeName, .name Parameter.pageName,
          .name Parameter.pageSizeName] } =
      .ok ("let " ++ underscored windowName count ++
        " = if let (Some(page), Some(page_size)) = (page, page_size)") := by
  have first : CodeBlock.expand written ⟨"let ", []⟩ = .ok _ :=
    CodeBlock.expand_plain (by decide)
  have named := @CodeBlock.expand_name written (underscored windowName count)
  have rest : CodeBlock.expand written
      ⟨" = if let (Some($N), Some($N)) = ($N, $N)",
        [.name Parameter.pageName, .name Parameter.pageSizeName, .name Parameter.pageName,
          .name Parameter.pageSizeName]⟩ =
      .ok " = if let (Some(page), Some(page_size)) = (page, page_size)" := by
    decide +kernel
  have same : written (.name (underscored windowName count)) = underscored windowName count :=
    identifier_window count
  rw [same] at named
  exact CodeBlock.expand_append (CodeBlock.expand_append first named) rest

/-- The lines of a window and a response. -/
def windowLines (w a : String) : List BodyLine :=
  [⟨0, "let " ++ w ++ " = if let (Some(page), Some(page_size)) = (page, page_size)" ++ " \x7b"⟩,
    ⟨1, "PageWindow::new(page, page_size)"⟩, ⟨0, "\x7d " ++ "else" ++ " \x7b"⟩,
    ⟨1, "PageWindow::unrestricted()"⟩, ⟨0, "\x7d;"⟩, ⟨0, "ServiceResponse::ok(" ++ a ++ ")"⟩]

theorem join_windowLines (w a : String) :
    String.join ((windowLines w a).map BodyLine.render) =
      windowText w ++ ("        ServiceResponse::ok(" ++ a ++ ")\n") := by
  have first : "        let " = "        " ++ "let " := rfl
  have second : " = if let (Some(page), Some(page_size)) = (page, page_size) \x7b\n" =
      " = if let (Some(page), Some(page_size)) = (page, page_size)" ++ " \x7b" ++ "\n" := rfl
  have third : "            PageWindow::new(page, page_size)\n" =
      "            " ++ "PageWindow::new(page, page_size)" ++ "\n" := rfl
  have fourth : "        \x7d else \x7b\n" =
      "        " ++ ("\x7d " ++ "else" ++ " \x7b") ++ "\n" := rfl
  have fifth : "            PageWindow::unrestricted()\n" =
      "            " ++ "PageWindow::unrestricted()" ++ "\n" := rfl
  have sixth : "        \x7d;\n" = "        " ++ "\x7d;" ++ "\n" := rfl
  unfold windowLines windowText windowValue
  simp only [List.map_cons, String.join_cons, render_outer, render_inner]
  rw [← response_line, first, second, third, fourth, fifth, sixth]
  simp only [List.map_cons, List.map_nil, String.join_cons, render_outer, String.append_assoc]

theorem body_builtListing (pagination : Bool) :
    (builtListing pagination).body =
      windowBody pagination (underscored windowName 0) ++ [.expr (allCall pagination)] := by
  have first : underscored windowName 0 = windowName := by decide
  rw [first]
  rfl

/-- The window of a listing with filters has a name that is free. -/
theorem exists_body_builtAllByFilter (pagination : Bool) (filters : List Parameter) :
    ∃ count, (builtAllByFilter pagination filters).body =
        windowBody pagination (underscored windowName count) ++
          [.expr (filterCall pagination filters)] ∧
      ∀ p ∈ filters, Naming.snakeCase p.name ≠ underscored windowName count := by
  obtain ⟨count, -, named, free, -⟩ := localName_spec windowName filters
  refine ⟨count, ?_, isTaken_eq_false_iff.1 free⟩
  rw [← named]
  rfl

/-- A body that may cut a window in front of its response. -/
theorem printable_window {pagination : Bool} {count : Nat} {code : CodeBlock}
    (body : m.body = windowBody pagination (underscored windowName count) ++ [.expr code])
    (expanded : code.expand written = .ok ("ServiceResponse::ok(" ++ a ++ ")"))
    (args : ArgsText a) : Printable m := by
  cases pagination with
  | false => exact printable_response body expanded args
  | true =>
    have both : CodeBlock.expand written
        ⟨"PageWindow::new($N, $N)", [.name Parameter.pageName, .name Parameter.pageSizeName]⟩ =
        .ok "PageWindow::new(page, page_size)" := by
      decide +kernel
    have other : CodeBlock.expand written ⟨"else", []⟩ = .ok _ :=
      CodeBlock.expand_plain (by decide)
    have unrestricted : CodeBlock.expand written ⟨"PageWindow::unrestricted()", []⟩ = .ok _ :=
      CodeBlock.expand_plain (by decide)
    refine ⟨windowLines (underscored windowName count) a, ?_, ?_⟩
    · rw [bodyLines, body, windowBody, if_pos rfl]
      simp only [List.cons_append, List.nil_append]
      rw [bodyLinesFrom_beginBlock (expand_condition count), bodyLinesFrom_expr both,
        bodyLinesFrom_nextBlock other, bodyLinesFrom_expr unrestricted]
      rw [bodyLinesFrom_endBlock, bodyLinesFrom_expr expanded]
      rfl
    · rw [join_windowLines]
      exact spelled_window (freeWord_window count) (spelled_response args)

end CrudForge.Rendering
