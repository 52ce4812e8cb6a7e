import CrudForge.Proofs.Grammar.Expressions

/-!
# Functions and items

Methods with their parameters, implementations with their members, structures and imports are
items, and items are a file.
-/

namespace CrudForge.Grammar

variable {r : Readers} {w : String} {ts ts' rest : List Token}

/-! ## Parameters -/

/-- One step of the parameters of a function. -/
def paramStep (r : Readers) (first : Bool) : Read (Option Bool) := do
  if ← ask atEnd then return none
  outerAttributes r
  let more ←
    if ← tryMarks "..." then pure false
    else
      match ← attempt (receiver r) with
      | some () => if first then pure true else failure
      | none =>
        if ← ask (ident.and (marks "<").second) then
          plainly (r (.type true))
          pure true
        else
          plainly (r .pattern)
          takeMarks ":"
          if ← tryMarks "..." then pure false
          else
            plainly (r (.type true))
            pure true
  if ← ask atEnd then return none
  takeMarks ","
  return if more then some false else none

theorem functionParams_eq (r : Readers) :
    functionParams r = (iterate (paramStep r) true >>= fun _ => pure ()) := rfl

/-- Parameters, each behind a comma. -/
def paramTokens (params : List (String × List Token)) : List Token :=
  params.flatMap fun (name, type) => comma :: .ident name :: .mark ':' false :: type

/-- A parameter is a name with a type. -/
def IsParamFor (r : Readers) (p : String × List Token) : Prop :=
  IsName p.1 ∧ NamedType r p.2

/-- A reader of patterns takes names. -/
def ReadsNames (r : Readers) : Prop :=
  ∀ w, IsName w → ∀ ts, (r .pattern).run (.ident w :: .mark ':' false :: ts) =
    some (.plain, .mark ':' false :: ts)

theorem readsNames (n : Nat) : ReadsNames (readers (n + 1)) :=
  fun _ name _ => pattern_name name (.inl rfl)

theorem no_receiver (name : IsName w) :
    (attempt (receiver r)).run (.ident w :: ts) = some (none, .ident w :: ts) := by
  have noRef : marks "&" (.ident w :: ts) = false := rfl
  have noMut : word "mut" (.ident w :: ts) = false := word_name name (by decide)
  have noSelf : word "self" (.ident w :: ts) = false := word_name name (by decide)
  refine run_attempt_none ?_
  simp [receiver, run_tryMarks_none noRef, run_tryWord_none noMut, takeWord, run_take_none noSelf]

/-- A parameter at the end, or in front of a comma. -/
theorem paramStep_name (names : ReadsNames r) (first : Bool) {p : String × List Token}
    (param : IsParamFor r p) :
    (paramStep r first).run (.ident p.1 :: .mark ':' false :: p.2) = some (none, []) ∧
    ∀ us, (paramStep r first).run (.ident p.1 :: .mark ':' false :: (p.2 ++ comma :: us)) =
      some (some false, us) := by
  obtain ⟨w, type⟩ := p
  obtain ⟨name, named⟩ := param
  obtain ⟨v, vs, -, starts⟩ := named.starts
  have front (us : List Token) :
      (paramStep r first).run (.ident w :: .mark ':' false :: (type ++ us)) =
        (do
          plainly (r (.type true))
          if ← ask atEnd then return none
          takeMarks ","
          return some false : Read (Option Bool)).run (type ++ us) := by
    have notEnd : atEnd (.ident w :: .mark ':' false :: (type ++ us)) = false := rfl
    have none : (outerAttributes r).run (.ident w :: .mark ':' false :: (type ++ us)) =
        some ((), .ident w :: .mark ':' false :: (type ++ us)) := whileNext_end rfl
    have dots : marks "..." (.ident w :: .mark ':' false :: (type ++ us)) = false := rfl
    have angle : (marks "<").second (.ident w :: .mark ':' false :: (type ++ us)) = false := rfl
    have dots' : marks "..." (type ++ us) = false := by
      subst starts
      rfl
    have colon : (takeMarks ":").run (.mark ':' false :: (type ++ us)) = some ((), type ++ us) :=
      rfl
    simp [paramStep, run_ask, notEnd, none, run_tryMarks_none dots, no_receiver name, Test.and,
      angle, run_plainly (names w name _), colon, run_tryMarks_none dots']
  constructor
  · have read := named.read [] .nil
    have whole := front []
    rw [List.append_nil] at read whole
    rw [whole]
    simp [run_plainly read, run_ask]
    rfl
  · intro us
    have notEnd : atEnd (comma :: us) = false := rfl
    have mark : (takeMarks ",").run (comma :: us) = some ((), us) := rfl
    rw [front]
    simp [run_plainly (named.read (comma :: us) .comma), run_ask, notEnd, mark]

theorem iterate_params (names : ReadsNames r) (params : List (String × List Token))
    (types : ∀ p ∈ params, IsParamFor r p) {p : String × List Token} (param : IsParamFor r p)
    (first : Bool) :
    ∃ last, (iterate (paramStep r) first).run
      (.ident p.1 :: .mark ':' false :: (p.2 ++ paramTokens params)) = some (last, []) := by
  induction params generalizing p first with
  | nil =>
    refine ⟨first, iterate_end ?_⟩
    rw [paramTokens, List.flatMap_nil, List.append_nil]
    exact (paramStep_name names first param).1
  | cons q params ih =>
    obtain ⟨last, later⟩ := ih (fun p mem => types p (List.mem_cons_of_mem _ mem))
      (types q List.mem_cons_self) false
    have step := (paramStep_name names first param).2
      (.ident q.1 :: .mark ':' false :: (q.2 ++ paramTokens params))
    refine ⟨last, iterate_next step ?_ later⟩
    simp only [paramTokens, List.flatMap_cons, List.length_cons, List.length_append]
    omega

/-- Parameters behind the object that a method is called on. -/
theorem functionParams_self (names : ReadsNames r) {params : List (String × List Token)}
    (types : ∀ p ∈ params, IsParamFor r p) :
    (functionParams r).run (.mark '&' false :: .ident "self" :: paramTokens params) =
      some ((), []) := by
  rw [functionParams_eq]
  cases params with
  | nil =>
    have whole : (iterate (paramStep r) true).run [.mark '&' false, .ident "self"] =
        some (true, []) := iterate_end rfl
    simp [paramTokens, whole]
  | cons p params =>
    obtain ⟨last, later⟩ := iterate_params names params
      (fun p mem => types p (List.mem_cons_of_mem _ mem)) (types p List.mem_cons_self) false
    have step : (paramStep r true).run
        (.mark '&' false :: .ident "self" :: paramTokens (p :: params)) =
        some (some false, .ident p.1 :: .mark ':' false :: (p.2 ++ paramTokens params)) := rfl
    have whole := iterate_next step (by simp [paramTokens]) later
    simp [whole]

theorem functionParams_single (names : ReadsNames r) {p : String × List Token}
    (param : IsParamFor r p) :
    (functionParams r).run (.ident p.1 :: .mark ':' false :: p.2) = some ((), []) := by
  obtain ⟨last, read⟩ := iterate_params names [] (by simp) param true
  rw [paramTokens, List.flatMap_nil, List.append_nil] at read
  rw [functionParams_eq]
  simp [read]

/-! ## Functions -/

/-- The statements of a block. -/
def IsBlockFor (r : Readers) (body : List Token) : Prop :=
  marks "#" body = false ∧ (r .statements).run body = some (.plain, [])

theorem attributedBlock_of_isBlock {body : List Token} (block : IsBlockFor r body) :
    (attributedBlock r).run (.group .brace body :: rest) = some ((), rest) := by
  obtain ⟨noAttribute, read⟩ := block
  have none : (innerAttributes r).run body = some ((), body) :=
    whileNext_end (by simp [Test.and, noAttribute])
  refine run_inside ?_
  simp [none, run_plainly read]

/-- A function with a result, behind its qualifiers. -/
def functionTokens (name : String) (params : List Token) (result : String) (body : List Token) :
    List Token :=
  [.ident "fn", .ident name, .group .paren params, .mark '-' true, .mark '>' false,
    .ident result, .group .brace body]

section Function

variable {params body : List Token} {result : String}

/-- A word that is a type in front of a block. -/
def IsResultFor (r : Readers) (result : String) : Prop :=
  ∀ body rest, (r (.type true)).run (.ident result :: .group .brace body :: rest) =
    some (.word, .group .brace body :: rest)

theorem signature_read (name : IsName w) (read : (functionParams r).run params = some ((), []))
    (type : IsResultFor r result) (rest : List Token) :
    (signature r false).run (functionTokens w params result body ++ rest) =
      some ((), .group .brace body :: rest) := by
  have qualifier {k : String} (other : k ≠ "fn") (ts : List Token) :
      word k (.ident "fn" :: ts) = false := decide_eq_false other.symm
  have function (ts : List Token) : (takeWord "fn").run (.ident "fn" :: ts) = some ((), ts) := rfl
  have noGenerics (ts : List Token) : (generics r).run (.group .paren params :: ts) =
      some ((), .group .paren params :: ts) := rfl
  have returned : (returnType r true).run (.mark '-' true :: .mark '>' false :: .ident result ::
      .group .brace body :: rest) = some ((), .group .brace body :: rest) := by
    have taken (ts : List Token) :
        (tryMarks "->").run (.mark '-' true :: .mark '>' false :: ts) = some (true, ts) := rfl
    simp [returnType, taken, run_plainly (type body rest)]
  have noWhere : (whereClause r).run (.group .brace body :: rest) =
      some ((), .group .brace body :: rest) := rfl
  simp [functionTokens, signature, run_ask, function,
    run_tryWord_none (qualifier (k := "const") (by decide) _),
    run_tryWord_none (qualifier (k := "async") (by decide) _),
    run_tryWord_none (qualifier (k := "unsafe") (by decide) _),
    qualifier (k := "extern") (by decide), takeIdent_name name, noGenerics, run_inside read,
    returned, noWhere]

theorem signature_async (ts : List Token) :
    (signature r false).run (.ident "async" :: .ident "fn" :: ts) =
      (signature r false).run (.ident "fn" :: ts) := rfl

theorem function_of_signature {ts : List Token}
    (read : (signature r false).run ts = some ((), .group .brace body :: rest))
    (block : IsBlockFor r body) : (function r false).run ts = some ((), rest) := by
  have noSemicolon : marks ";" (.group .brace body :: rest) = false := rfl
  simp [function, read, run_tryMarks_none noSemicolon, attributedBlock_of_isBlock block]

end Function

/-! ## Members -/

/-- A member of an implementation. -/
structure IsMemberFor (r : Readers) (ts : List Token) : Prop where
  nonempty : ts ≠ []
  noInner : ∀ rest, ((marks "#").and (marks "!").second) (ts ++ rest) = false
  read : ∀ rest, (implMember r).run (ts ++ rest) = some ((), rest)

/-- The attribute that a comment stands for. -/
def docTokens : List Token :=
  [.mark '#' false, .group .bracket [.ident "doc", .mark '=' false, .literal .str ""]]

theorem outerAttributes_doc (quoted : IsExprFor r [.literal .str ""])
    (more : (outerAttributes r).run ts = some ((), rest)) :
    (outerAttributes r).run (docTokens ++ ts) = some ((), rest) := by
  have path : simplePath.run [.ident "doc", .mark '=' false, .literal .str ""] =
      some ((), [.mark '=' false, .literal .str ""]) := rfl
  have equals : (tryMarks "=").run [.mark '=' false, .literal .str ""] =
      some (true, [.literal .str ""]) := rfl
  have value := run_plainly (quoted [] .nil)
  have body : (attributeBody r).run [.ident "doc", .mark '=' false, .literal .str ""] =
      some ((), []) := by
    have noUnsafe : word "unsafe" [.ident "doc", .mark '=' false, .literal .str ""] = false := rfl
    have noGroup : (group .paren).or ((group .bracket).or (group .brace))
      [.mark '=' false, .literal .str ""] = false := rfl
    have noAttribute : (marks "#").and (group .bracket).second [.literal .str ""] = false := rfl
    rw [List.append_nil] at value
    simp [attributeBody, run_ask, noUnsafe, path, noGroup, equals, noAttribute, value]
  have mark (ts : List Token) : (takeMarks "#").run (.mark '#' false :: ts) = some ((), ts) := rfl
  refine whileNext_next rfl ?_ ?_ more
  · simp [docTokens, mark, run_inside body]
  · simp only [docTokens, List.length_append, List.length_cons]
    omega

theorem implMember_of_attributes
    (attributes : (outerAttributes r).run ts = some ((), .ident "pub" :: ts'))
    (read : (implMember r).run (.ident "pub" :: ts') = some ((), rest)) :
    (implMember r).run ts = some ((), rest) := by
  have none : (outerAttributes r).run (.ident "pub" :: ts') = some ((), .ident "pub" :: ts') :=
    whileNext_end rfl
  rw [implMember, StateT.run_bind] at read ⊢
  rw [attributes]
  rwa [none] at read

section Member

variable {params body : List Token} {result : String}

/-- A public function. -/
theorem member_function (name : IsName w) (read : (functionParams r).run params = some ((), []))
    (type : IsResultFor r result) (block : IsBlockFor r body) :
    IsMemberFor r (.ident "pub" :: functionTokens w params result body) where
  nonempty := List.cons_ne_nil _ _
  noInner _ := rfl
  read rest := function_of_signature (signature_read name read type rest) block

/-- A public method that can be waited for, with comments in front. -/
theorem member_async (quoted : IsExprFor r [.literal .str ""]) (docs : Nat) (name : IsName w)
    (read : (functionParams r).run params = some ((), [])) (type : IsResultFor r result)
    (block : IsBlockFor r body) :
    IsMemberFor r ((List.replicate docs docTokens).flatten ++
      .ident "pub" :: .ident "async" :: functionTokens w params result body) := by
  have bare (rest : List Token) :
      (implMember r).run (.ident "pub" :: .ident "async" :: functionTokens w params result body ++
        rest) = some ((), rest) :=
    function_of_signature ((signature_async _).trans (signature_read name read type rest)) block
  have attributes (rest : List Token) :
      (outerAttributes r).run ((List.replicate docs docTokens).flatten ++ .ident "pub" :: rest) =
        some ((), .ident "pub" :: rest) := by
    induction docs with
    | zero => exact whileNext_end rfl
    | succ docs ih =>
      rw [List.replicate_succ, List.flatten_cons, List.append_assoc]
      exact outerAttributes_doc quoted ih
  constructor
  · simp
  · cases docs <;> exact fun _ => rfl
  · intro rest
    rw [List.append_assoc]
    exact implMember_of_attributes (attributes _) (bare rest)

end Member

/-! ## Items -/

/-- An item, whatever follows it. -/
structure IsItemFor (r : Readers) (ts : List Token) : Prop where
  nonempty : ts ≠ []
  read : ∀ rest, (item r).run (ts ++ rest) = some ((), rest)

/-- A word that is a type in front of a block is one in an implementation. -/
theorem implItem_read (name : IsName w) (type : IsResultFor r w) {members : List (List Token)}
    (read : ∀ ts ∈ members, IsMemberFor r ts) (rest : List Token) :
    (implItem r).run (.ident "impl" :: .ident w :: .group .brace members.flatten :: rest) =
      some ((), rest) := by
  have content : (do innerAttributes r; many (implMember r) : Read Unit).run members.flatten =
      some ((), []) := by
    have none : (innerAttributes r).run members.flatten = some ((), members.flatten) := by
      refine whileNext_end ?_
      cases members with
      | nil => rfl
      | cons ts members => exact (read ts List.mem_cons_self).noInner _
    have all := many_flatten fun ts mem => ⟨(read ts mem).nonempty, (read ts mem).read⟩
    simp [none, all]
  have block : (memberBlock r (implMember r)).run (.group .brace members.flatten :: rest) =
      some ((), rest) := run_inside content
  generalize members.flatten = content' at block
  have taken (ts : List Token) : (takeWord "impl").run (.ident "impl" :: ts) = some ((), ts) := rfl
  have qualifier {k : String} (other : k ≠ "impl") (ts : List Token) :
      word k (.ident "impl" :: ts) = false := decide_eq_false other.symm
  have noGenerics : genericsAhead (.ident w :: .group .brace content' :: rest) = false := rfl
  have noConst : word "const" (.ident w :: .group .brace content' :: rest) = false :=
    word_name name (by decide)
  have noMark (s : String) (c : Char) (cs : List Char) (spelled : s.toList = c :: cs) :
      marks s (.ident w :: .group .brace content' :: rest) = false := by
    simp [marks, spelled, afterMarks?]
  have noFor (ts : List Token) : word "for" (.group .brace content' :: ts) = false := rfl
  have noWhere : (whereClause r).run (.group .brace content' :: rest) =
      some ((), .group .brace content' :: rest) := rfl
  simp [implItem, run_ask, taken, run_tryWord_none (qualifier (k := "default") (by decide) _),
    run_tryWord_none (qualifier (k := "unsafe") (by decide) _), noGenerics, Test.or, Test.and,
    Test.except, noConst, noMark "?" '?' [] rfl, noMark "!" '!' [] rfl,
    run_plainly (type content' rest), run_tryWord_none (noFor rest), noWhere, block]

/-- An implementation. -/
def implTokens (name : String) (members : List (List Token)) : List Token :=
  [.ident "impl", .ident name, .group .brace members.flatten]

theorem item_impl (name : IsName w) (type : IsResultFor r w) {members : List (List Token)}
    (read : ∀ ts ∈ members, IsMemberFor r ts) : IsItemFor r (implTokens w members) where
  nonempty := List.cons_ne_nil _ _
  read := implItem_read name type read

/-- An attribute that is a word. -/
def wordAttribute (text : String) : List Token :=
  [.mark '#' false, .group .bracket [.ident text]]

theorem item_bean (impl : IsItemFor r (.ident "impl" :: ts)) :
    IsItemFor r (wordAttribute "bean" ++ .ident "impl" :: ts) where
  nonempty := List.cons_ne_nil _ _
  read := impl.read

/-! ### Structures -/

/-- A public structure that can be cloned, with one field. -/
def structTokens (name field : String) (type : List Token) : List Token :=
  [.mark '#' false, .group .bracket [.ident "derive", .group .paren [.ident "Clone"]],
    .ident "pub", .ident "struct", .ident name,
    .group .brace (.ident field :: .mark ':' false :: (type ++ [comma]))]

theorem item_struct {field : String} {type : List Token} (name : IsName w) (named : IsName field)
    (read : IsTypeFor r type) : IsItemFor r (structTokens w field type) where
  nonempty := List.cons_ne_nil _ _
  read rest := by
    have noAttribute (ts : List Token) : marks "#" (.ident field :: ts) = false := rfl
    have none (ts : List Token) : (outerAttributes r).run (.ident field :: ts) =
        some ((), .ident field :: ts) := whileNext_end (noAttribute ts)
    have hidden : word "pub" (.ident field :: .mark ':' false :: (type ++ [comma])) = false :=
      word_name named (by decide)
    have unnamed : word "_" (.ident field :: .mark ':' false :: (type ++ [comma])) = false :=
      word_name named (by decide)
    have colon (ts : List Token) : (takeMarks ":").run (.mark ':' false :: ts) = some ((), ts) :=
      rfl
    have fieldRead : (namedField r).run (.ident field :: .mark ':' false :: (type ++ [comma])) =
        some ((), [comma]) := by
      simp [namedField, none, visibility, run_tryWord_none hidden, run_tryWord_none unnamed,
        takeIdent_name named, colon, run_ask, run_plainly (read [comma] .comma)]
    have fields : (namedFields r).run
        (.group .brace (.ident field :: .mark ':' false :: (type ++ [comma])) :: rest) =
        some ((), rest) := by
      refine run_inside (listed_next rfl fieldRead rfl rfl ?_ (listed_end rfl))
      simp
    have noGenerics (content : List Token) : (generics r).run (.group .brace content :: rest) =
        some ((), .group .brace content :: rest) := rfl
    have noWhere (content : List Token) : (whereClause r).run (.group .brace content :: rest) =
        some ((), .group .brace content :: rest) := rfl
    have noParen (content : List Token) : group .paren (.group .brace content :: rest) = false :=
      rfl
    have brace (content : List Token) : group .brace (.group .brace content :: rest) = true := rfl
    have taken (ts : List Token) : (takeWord "struct").run (.ident "struct" :: ts) =
        some ((), ts) := rfl
    have whole : (structItem r).run (.ident "struct" :: .ident w ::
        .group .brace (.ident field :: .mark ':' false :: (type ++ [comma])) :: rest) =
        some ((), rest) := by
      simp [structItem, run_ask, taken, takeIdent_name name, noGenerics, noParen, noWhere, brace,
        fields]
    exact whole

/-! ### Imports -/

/-- Names with two colons between them. -/
def pathTokens (names : List String) : List Token :=
  [.mark ':' true, .mark ':' false].intercalate (names.map fun w => [.ident w])

theorem useTree_path {names : List String} (nonempty : names ≠ []) (all : ∀ w ∈ names, IsName w)
    {n : Nat} (deep : names.length ≤ n) (root : Bool) (rest : List Token) :
    (useTree (readers n) root).run (pathTokens names ++ .mark ';' false :: rest) =
      some ((), .mark ';' false :: rest) := by
  induction names generalizing n root with
  | nil => exact absurd rfl nonempty
  | cons w names ih =>
    have name := all w List.mem_cons_self
    have importable (ts : List Token) : importName (.ident w :: ts) = true := by
      simp [importName, Test.or, ident_name name]
    have taken (ts : List Token) : (take anyWord).run (.ident w :: ts) = some ((), ts) := rfl
    cases names with
    | nil =>
      have noColons : marks "::" (.mark ';' false :: rest) = false := rfl
      have noAs : word "as" (.mark ';' false :: rest) = false := rfl
      simp [pathTokens, useTree, run_ask, importable, taken, run_tryMarks_none noColons,
        run_tryWord_none noAs]
    | cons v names =>
      obtain ⟨n, rfl⟩ : ∃ m, n = m + 1 := ⟨n - 1, by simp at deep; omega⟩
      have more := ih (List.cons_ne_nil _ _) (fun u mem => all u (List.mem_cons_of_mem _ mem))
        (Nat.le_of_succ_le_succ deep) false
      have inner : (readers (n + 1) (.useTree false)).run
          (pathTokens (v :: names) ++ .mark ';' false :: rest) =
          some (.plain, .mark ';' false :: rest) := by
        simp [readers, rule, more]
      have split : pathTokens (w :: v :: names) ++ .mark ';' false :: rest =
          .ident w :: .mark ':' true :: .mark ':' false ::
            (pathTokens (v :: names) ++ .mark ';' false :: rest) := by
        simp [pathTokens, List.intercalate_cons_cons]
      have colons (ts : List Token) :
          (tryMarks "::").run (.mark ':' true :: .mark ':' false :: ts) = some (true, ts) := rfl
      simp [split, useTree, run_ask, importable, taken, colons, run_plainly inner]

/-- An import of what a path names. -/
def useTokens (names : List String) : List Token :=
  .ident "use" :: (pathTokens names ++ [.mark ';' false])

theorem item_use {names : List String} (nonempty : names ≠ []) (all : ∀ w ∈ names, IsName w)
    {n : Nat} (deep : names.length ≤ n) : IsItemFor (readers n) (useTokens names) where
  nonempty := List.cons_ne_nil _ _
  read rest := by
    have tree := useTree_path nonempty all deep true rest
    have taken (ts : List Token) : (takeWord "use").run (.ident "use" :: ts) = some ((), ts) := rfl
    have semicolon (ts : List Token) : (takeMarks ";").run (.mark ';' false :: ts) =
        some ((), ts) := rfl
    have unrooted : marks "::" (pathTokens names ++ .mark ';' false :: rest) = false := by
      match names with
      | [_] | _ :: _ :: _ => rfl
    have whole : (useItem (readers n)).run (.ident "use" :: (pathTokens names ++
        .mark ';' false :: rest)) = some ((), rest) := by
      simp [useItem, taken, run_tryMarks_none unrooted, tree, semicolon]
    have split : useTokens names ++ rest =
        .ident "use" :: (pathTokens names ++ .mark ';' false :: rest) := by
      simp [useTokens]
    rw [split]
    exact whole

/-! ### Files -/

/-- A file that does not begin with an attribute. -/
theorem file_items {items : List (List Token)} {n : Nat}
    (noInner : ((marks "#").and (marks "!").second) items.flatten = false)
    (read : ∀ ts ∈ items, IsItemFor (readers n) ts) :
    (file (readers (n + 1))).run items.flatten = some ((), []) := by
  have none : (innerAttributes (readers (n + 1))).run items.flatten = some ((), items.flatten) :=
    whileNext_end noInner
  have phrase (ts : List Token) (mem : ts ∈ items) (more : List Token) :
      (readers (n + 1) .item).run (ts ++ more) = some (.plain, more) := by
    simp [readers, rule, (read ts mem).read]
  have all : (many (plainly (readers (n + 1) .item))).run items.flatten = some ((), []) :=
    many_flatten fun ts mem =>
      ⟨(read ts mem).nonempty, fun more => run_plainly (phrase ts mem more)⟩
  simp [file, none, all]

end CrudForge.Grammar
