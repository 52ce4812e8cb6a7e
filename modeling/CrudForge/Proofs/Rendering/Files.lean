import CrudForge.Proofs.Rendering.Members

/-!
# Texts of files

A file with plain imports and a plain structure, whose methods spell members, is one that can be
read back (`isFile_classText`).
-/

namespace CrudForge.Rendering

open Grammar

variable {s w ty : String}

/-! ## Imports -/

theorem length_le_intercalate_path {segments : List String} (free : ∀ w ∈ segments, FreeWord w) :
    segments.length ≤ ("::".intercalate segments).length := by
  induction segments with
  | nil => exact Nat.zero_le _
  | cons w segments ih =>
    have shorter := ih fun w mem => free w (List.mem_cons_of_mem _ mem)
    obtain ⟨c, cs, split, -⟩ := (free w List.mem_cons_self).begins
    have some : 1 ≤ w.length := by
      rw [← String.length_toList, split]
      exact Nat.succ_pos _
    cases segments with
    | nil =>
      rw [String.intercalate_singleton]
      exact some
    | cons v segments =>
      simp only [String.intercalate_cons_cons, String.length_append, List.length_cons] at *
      omega

theorem lexes_path {segments : List String} (free : ∀ w ∈ segments, FreeWord w)
    {rest : List Char} {ls : List Lexeme} (ends : WordEnd rest) (more : Lexes rest ls) :
    Lexes (("::".intercalate segments).toList ++ rest)
      (Token.flatAll (pathTokens segments) ++ ls) := by
  induction segments with
  | nil => exact more
  | cons w segments ih =>
    have word := free w List.mem_cons_self
    cases segments with
    | nil => simpa [pathTokens, Token.flat] using word.lexes ends more
    | cons v segments =>
      have later := ih fun w mem => free w (List.mem_cons_of_mem _ mem)
      obtain ⟨c, cs, split, start⟩ := (free v (by simp)).begins
      have begins : ∃ d ds, ("::".intercalate (v :: segments)).toList ++ rest = d :: ds ∧
          Text.isIdentStart d = true := by
        obtain ⟨tail, joined⟩ := exists_intercalate_cons "::" v segments rest
        rw [joined, split]
        exact ⟨c, cs ++ tail, rfl, start⟩
      have second := Lexes.mark_before (c := ':') (by decide) begins later
      have first := Lexes.mark (c := ':') (by decide) second
      have whole := word.lexes (.cons (by decide) (by decide)) first
      have joint (cs : List Char) : (markChar? (':' :: cs)).isSome = true := rfl
      rw [joint] at whole
      simpa [String.intercalate_cons_cons, pathTokens, List.intercalate_cons_cons, Token.flat]
        using whole

/-- Free words with two colons between them. -/
def PathText (path : String) : Prop :=
  ∃ segments : List String, segments ≠ [] ∧ (∀ w ∈ segments, FreeWord w) ∧
    path = "::".intercalate segments

theorem spelled_use (path : PathText s) : Spelled IsItemFor Anything ("use " ++ s ++ ";\n") := by
  obtain ⟨segments, nonempty, free, rfl⟩ := path
  intro rest ls _ more
  have last : scan? .none ";\n".toList = some ([.token (.mark ';' false)], .none) := rfl
  have first : scan? .none "use ".toList = some ([.token (.ident "use")], .none) := rfl
  have whole := Lexes.closed first (lexes_path free (wordEnd_of_head ';' rfl (by decide))
    (Lexes.closed last more))
  refine ⟨useTokens segments, by simpa [useTokens, Token.flat] using whole, fun n deep => ?_⟩
  have short := length_le_intercalate_path free
  rw [String.length_append, String.length_append] at deep
  exact item_use nonempty (fun w mem => (free w mem).name) (by omega)

theorem spelled_imports {imports : List String} (paths : ∀ s ∈ imports, PathText s) :
    Spelled (ManyOf IsItemFor) Anything
      (String.join (imports.map fun path => "use " ++ path ++ ";\n")) := by
  induction imports with
  | nil => exact spelled_none rfl
  | cons s imports ih =>
    rw [List.map_cons, String.join_cons]
    exact (spelled_use (paths s List.mem_cons_self)).single.append
      (ih fun s mem => paths s (List.mem_cons_of_mem _ mem))

/-! ## Implementations -/

/-- An item that begins with a word. -/
def ItemFrom (start : String) (r : Readers) (ts : List Token) : Prop :=
  (∃ us, ts = .ident start :: us) ∧ IsItemFor r ts

theorem spelled_item {start : String} (item : Spelled (ItemFrom start) Anything s) :
    Spelled (ManyOf IsItemFor) Anything s :=
  (item.imp fun _ _ _ read => read.2).single

/-- An implementation with members. -/
theorem spelled_impl (free : FreeWord w) (members : Spelled (ManyOf IsMemberFor) Anything s) :
    Spelled (ItemFrom "impl") Anything ("impl " ++ w ++ " \x7b\n" ++ s ++ "\x7d\n") := by
  intro rest ls _ more
  have last : scan? .none "\x7d\n".toList = some ([.closing .brace], .none) := rfl
  have opening : scan? .none " \x7b\n".toList = some ([.opening .brace], .none) := rfl
  have first : scan? .none "impl ".toList = some ([.token (.ident "impl")], .none) := rfl
  obtain ⟨ts, lexes, read⟩ := members _ _ trivial (Lexes.closed last more)
  have whole := Lexes.closed first (free.lexes (wordEnd_of_head ' ' rfl (by decide))
    (Lexes.closed opening lexes))
  refine ⟨[.ident "impl", .ident w, .group .brace ts], by simpa [Token.flat] using whole,
    fun n deep => ?_⟩
  have beginning : "impl ".length = 5 := rfl
  simp only [String.length_append] at deep
  obtain ⟨n, rfl⟩ : ∃ m, n = m + 1 := ⟨n - 1, by omega⟩
  obtain ⟨members, rfl, all⟩ := read (n + 1) (by omega)
  exact ⟨⟨_, rfl⟩, item_impl free.name (fun _ _ => type_name free.name true .block) all⟩

/-- An implementation that a container may use. -/
theorem spelled_bean (impl : Spelled (ItemFrom "impl") Anything s) :
    Spelled IsItemFor Anything ("#[bean]\n" ++ s) := by
  intro rest ls _ more
  obtain ⟨ts, lexes, read⟩ := impl rest ls trivial more
  have bean : scan? .none "#[bean]\n".toList = some ([.token (.mark '#' false),
      .opening .bracket, .token (.ident "bean"), .closing .bracket], .none) := rfl
  have whole := Lexes.closed bean lexes
  refine ⟨wordAttribute "bean" ++ ts, by simpa [wordAttribute, Token.flat] using whole,
    fun n deep => ?_⟩
  rw [String.length_append] at deep
  obtain ⟨⟨us, rfl⟩, item⟩ := read n (by omega)
  exact item_bean item

/-- The methods of an implementation, with an empty line between any two. -/
theorem spelled_methods {texts : List String}
    (members : ∀ s ∈ texts, Spelled IsMemberFor Anything s) :
    Spelled (ManyOf IsMemberFor) Anything ("\n".intercalate texts) := by
  induction texts with
  | nil => exact spelled_none rfl
  | cons s texts ih =>
    have first := (members s List.mem_cons_self).single
    cases texts with
    | nil =>
      rw [String.intercalate_singleton]
      exact first
    | cons t texts =>
      rw [String.intercalate_cons_cons]
      exact (first.append (spelled_none rfl)).append
        (ih fun s mem => members s (List.mem_cons_of_mem _ mem))

/-! ## Structures and their constructors -/

/-- A structure that holds a repository. -/
theorem spelled_struct (free : FreeWord w) (type : TypeText ty) :
    Spelled IsItemFor Anything ("\n#[derive(Clone)]\npub struct " ++ w ++ " \x7b\n" ++ indent ++
      "repository" ++ ": " ++ ty ++ ",\n\x7d\n\n") := by
  intro rest ls _ more
  have last : scan? .none ",\n\x7d\n\n".toList =
      some ([.token comma, .closing .brace], .none) := rfl
  have colon : scan? .none ": ".toList = some ([.token (.mark ':' false)], .none) := rfl
  have opening : scan? .none " \x7b\n".toList = some ([.opening .brace], .none) := rfl
  have first : scan? .none "\n#[derive(Clone)]\npub struct ".toList =
      some ([.token (.mark '#' false), .opening .bracket, .token (.ident "derive"),
        .opening .paren, .token (.ident "Clone"), .closing .paren, .closing .bracket,
        .token (.ident "pub"), .token (.ident "struct")], .none) := rfl
  have field : FreeWord "repository" := .of_letters (by decide) (by decide) (by decide)
  obtain ⟨ts, typed, named⟩ := type.spelled _ _ (wordEnd_of_head ',' rfl (by decide))
    (Lexes.closed last more)
  have content := field.lexes (wordEnd_of_head ':' rfl (by decide)) (Lexes.closed colon typed)
  have whole := Lexes.closed first (free.lexes (wordEnd_of_head ' ' rfl (by decide))
    (Lexes.closed opening (lexes_indent content)))
  refine ⟨structTokens w "repository" ts, ?_, fun n deep => ?_⟩
  · simpa [structTokens, comma, Token.flat] using whole
  · simp only [String.length_append] at deep
    exact item_struct free.name field.name (named n (by omega)).read

/-- The constructor of a structure that holds a repository. -/
def constructorText (ty : String) : String :=
  indent ++ "pub fn new(" ++ "repository" ++ ": " ++ ty ++ ") -> Self \x7b\n" ++
    indent ++ indent ++ "Self \x7b " ++ "repository" ++ " \x7d\n" ++ indent ++ "\x7d\n"

theorem spelled_constructor (type : TypeText ty) :
    Spelled IsMemberFor Anything (constructorText ty) := by
  intro rest ls _ more
  have last : scan? .none "\x7d\n".toList = some ([.closing .brace], .none) := rfl
  have closing : scan? .none " \x7d\n".toList = some ([.closing .brace], .none) := rfl
  have opening : scan? .none "Self \x7b ".toList =
      some ([.token (.ident "Self"), .opening .brace], .none) := rfl
  have result : scan? .none ") -> Self \x7b\n".toList =
      some ([.closing .paren, .token (.mark '-' true), .token (.mark '>' false),
        .token (.ident "Self"), .opening .brace], .none) := rfl
  have colon : scan? .none ": ".toList = some ([.token (.mark ':' false)], .none) := rfl
  have first : scan? .none "pub fn new(".toList =
      some ([.token (.ident "pub"), .token (.ident "fn"), .token (.ident "new")], .paren) := rfl
  have field : FreeWord "repository" := .of_letters (by decide) (by decide) (by decide)
  have value := field.lexes (wordEnd_of_head ' ' rfl (by decide))
    (Lexes.closed closing (lexes_indent (Lexes.closed last more)))
  have body := lexes_indent (lexes_indent (Lexes.closed opening value))
  obtain ⟨ts, typed, named⟩ := type.spelled _ _ (wordEnd_of_head ')' rfl (by decide))
    (Lexes.closed result body)
  have param := field.lexes (wordEnd_of_head ':' rfl (by decide)) (Lexes.closed colon typed)
  have whole := lexes_indent (Lexes.opened first (by simp) param)
  refine ⟨.ident "pub" :: functionTokens "new" (.ident "repository" :: .mark ':' false :: ts)
    "Self" [.ident "Self", .group .brace [.ident "repository"]], ?_, fun n deep => ?_⟩
  · simpa [constructorText, functionTokens, Token.flat] using whole
  · have beginning : "pub fn new(".length = 11 := rfl
    simp only [constructorText, String.length_append] at deep
    obtain ⟨n, rfl⟩ : ∃ m, n = m + 10 := ⟨n - 10, by omega⟩
    have new : IsName "new" := by simp [IsName, keywords]
    have params : (functionParams (readers (n + 10))).run
        (.ident "repository" :: .mark ':' false :: ts) = some ((), []) :=
      functionParams_single (p := ("repository", ts)) (readsNames (n + 9))
        ⟨field.name, named (n + 10) (by omega)⟩
    have self : IsResultFor (readers (n + 10)) "Self" := fun _ _ => rfl
    have block : IsBlockFor (readers (n + 10))
        [.ident "Self", .group .brace [.ident "repository"]] := ⟨rfl, rfl⟩
    exact member_function new params self block

/-! ## Files -/

/-- What every file imports. -/
def preludeText : String := "\nuse svcgen_runtime::prelude::*;\n"

theorem spelled_prelude : Spelled (ItemFrom "use") Anything preludeText := by
  intro rest ls _ more
  have line : scan? .none "\nuse svcgen_runtime::prelude::*;\n".toList =
      some ([.token (.ident "use"), .token (.ident "svcgen_runtime"), .token (.mark ':' true),
        .token (.mark ':' false), .token (.ident "prelude"), .token (.mark ':' true),
        .token (.mark ':' true), .token (.mark '*' true), .token (.mark ';' false)], .none) := rfl
  refine ⟨[.ident "use", .ident "svcgen_runtime", .mark ':' true, .mark ':' false,
    .ident "prelude", .mark ':' true, .mark ':' true, .mark '*' true, .mark ';' false],
    Lexes.closed line more, fun n deep => ⟨⟨_, rfl⟩, List.cons_ne_nil _ _, fun rest => ?_⟩⟩
  have long : preludeText.length = 33 := rfl
  obtain ⟨n, rfl⟩ : ∃ m, n = m + 4 := ⟨n - 4, by omega⟩
  rfl

/-- The first line of a file is a comment that documents nothing. -/
theorem lexes_header {rest : List Char} {ls : List Lexeme} (more : Lexes rest ls) :
    Lexes (header.toList ++ rest) ls := by
  have line : Lexes ('\n' :: rest) ls := .space rfl more
  have skipped : comment?
      ('/' :: ("/ Generated by svcgen. Do not edit by hand.\n".toList ++ rest)) =
      some ('\n' :: rest) := rfl
  have whole := Lexes.comment skipped (by simp) line
  exact whole

/-- Items behind what every file begins with are a file. -/
theorem isFile_of_items (items : Spelled (ManyOf IsItemFor) Anything s) :
    TargetGrammar.standard.isFile (header ++ (preludeText ++ s)) = true := by
  obtain ⟨ts, lexes, read⟩ := items [] [] trivial .nil
  obtain ⟨us, prelude, first⟩ := spelled_prelude _ _ trivial lexes
  have whole := lexes_header prelude
  simp only [List.append_nil, ← String.toList_append] at whole
  rw [← Token.flatAll_append] at whole
  have starts : (header.toList ++ (preludeText ++ s).toList).head? = some '/' := rfl
  have noMark : (header ++ (preludeText ++ s)).toList.head? ≠ some '\ufeff' := by
    rw [String.toList_append, starts]
    decide
  rw [TargetGrammar.standard_isFile]
  refine acceptsChars_of_lexes noMark whole (?_ : _ = some ((), []))
  rw [String.length_toList, String.length_append, String.length_append]
  have long : header.length + preludeText.length = 78 := rfl
  generalize size : 4 * (header.length + (preludeText.length + s.length)) + 64 = n
  obtain ⟨n, rfl⟩ : ∃ m, n = m + 1 := ⟨n - 1, by omega⟩
  obtain ⟨⟨vs, rfl⟩, item⟩ := first n (by omega)
  obtain ⟨phrases, rfl, all⟩ := read n (by omega)
  have read : ∀ ts ∈ (.ident "use" :: vs) :: phrases, IsItemFor (readers n) ts :=
    List.forall_mem_cons.2 ⟨item, all⟩
  have file := file_items rfl read
  rwa [List.flatten_cons] at file

/-- The items of the file of a class, in order. -/
theorem classText_items {c : ServiceClass} {o : RenderOptions} (texts : List String)
    (written : identifier .standard c.repository.name = "repository") :
    classText .standard c o texts = header ++ (preludeText ++
      (String.join (o.imports.map fun path => "use " ++ path ++ ";\n") ++
        (("\n#[derive(Clone)]\npub struct " ++ c.name ++ " \x7b\n" ++ indent ++ "repository" ++
            ": " ++ c.repository.ty.text ++ ",\n\x7d\n\n") ++
          ((if o.beanWiring && c.repository.injected then "#[bean]\n" else "") ++
              ("impl " ++ c.name ++ " \x7b\n" ++ constructorText c.repository.ty.text ++
                "\x7d\n") ++
            ("\n" ++ ("impl " ++ c.name ++ " \x7b\n" ++ "\n".intercalate texts ++
              "\x7d\n")))))) := by
  have ends : "\x7d\n\x7d\n\n" = "\x7d\n" ++ "\x7d\n" ++ "\n" := rfl
  unfold classText preamble preludeText constructorText
  rw [written, ends]
  simp only [String.append_assoc]

/-- A class with plain names is a file, if its methods are members of an implementation. -/
theorem isFile_classText {c : ServiceClass} {o : RenderOptions} {texts : List String}
    (written : identifier .standard c.repository.name = "repository") (free : FreeWord c.name)
    (type : TypeText c.repository.ty.text) (imports : ∀ s ∈ o.imports, PathText s)
    (members : ∀ s ∈ texts, Spelled IsMemberFor Anything s) :
    TargetGrammar.standard.isFile (classText .standard c o texts) = true := by
  have constructor := spelled_impl free (spelled_constructor type).single
  have first : Spelled (ManyOf IsItemFor) Anything
      ((if o.beanWiring && c.repository.injected then "#[bean]\n" else "") ++
        ("impl " ++ c.name ++ " \x7b\n" ++ constructorText c.repository.ty.text ++ "\x7d\n")) := by
    split
    · exact (spelled_bean constructor).single
    · rw [String.empty_append]
      exact spelled_item constructor
  have space : Spelled (ManyOf IsItemFor) Anything "\n" := spelled_none rfl
  have second := space.append (spelled_item (spelled_impl free (spelled_methods members)))
  rw [classText_items texts written]
  exact isFile_of_items ((spelled_imports imports).append
    ((spelled_struct free type).single.append (first.append second)))

end CrudForge.Rendering
