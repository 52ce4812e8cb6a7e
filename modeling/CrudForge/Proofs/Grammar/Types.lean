import CrudForge.Proofs.Grammar.Reading

/-!
# Types

A name is a type, and so is a name with types between angle brackets behind it, wherever a comma,
a closing bracket, a block or nothing follows.
-/

namespace CrudForge.Grammar

variable {r : Readers} {w : String} {ts rest : List Token}

/-! ## Names -/

/-- A word that is no keyword. -/
def IsName (w : String) : Prop :=
  w ∉ keywords

theorem IsName.ne (name : IsName w) {k : String} (keyword : k ∈ keywords) : w ≠ k := by
  rintro rfl
  exact name keyword

theorem ident_name (name : IsName w) : ident (.ident w :: ts) = true := by
  simpa [ident, IsName] using name

theorem word_name (name : IsName w) {k : String} (keyword : k ∈ keywords) :
    word k (.ident w :: ts) = false := by
  simpa [word] using name.ne keyword

theorem words_name (name : IsName w) {ks : List String} (all : ∀ k ∈ ks, k ∈ keywords) :
    words ks (.ident w :: ts) = false := by
  rw [words, List.any_eq_false]
  intro k mem
  rw [word_name name (all k mem)]
  exact Bool.false_ne_true

theorem literal_name (name : IsName w) : literal (.ident w :: ts) = false := by
  have isTrue := name.ne (k := "true") (by decide)
  have isFalse := name.ne (k := "false") (by decide)
  unfold literal
  split <;> simp_all

theorem takeIdent_name (name : IsName w) : takeIdent.run (.ident w :: ts) = some ((), ts) :=
  run_take (ident_name name)

/-! ## What follows a type -/

/-- What may follow a type. -/
inductive TypeEnd : List Token → Prop
  | nil : TypeEnd []
  | comma {j : Bool} {ts : List Token} : TypeEnd (.mark ',' j :: ts)
  | angle {j : Bool} {ts : List Token} : TypeEnd (.mark '>' j :: ts)
  | block {content ts : List Token} : TypeEnd (.group .brace content :: ts)

/-- No mark that may go on with a type comes next. -/
theorem TypeEnd.noMark (ends : TypeEnd rest) :
    ∀ s ∈ ["<", "::", "!", "+", "=", ":"], marks s rest = false := by
  have all : ["<", "::", "!", "+", "=", ":"].all (fun s => !marks s rest) = true := by
    cases ends <;> rfl
  intro s mem
  simpa using List.all_eq_true.1 all s mem

/-- A phrase is a type wherever one may end. -/
def IsTypeFor (r : Readers) (ts : List Token) : Prop :=
  ∀ rest, TypeEnd rest → (r (.type true)).run (ts ++ rest) = some (.word, rest)

/-! ## Segments -/

theorem segment_name {inExpr : Bool} (name : IsName w) (colons : marks "::" rest = false)
    (angle : (!inExpr && marks "<" rest) = false) :
    (segment r inExpr).run (.ident w :: rest) = some (.none, rest) := by
  have words : words ["super", "self", "crate", "try"] (.ident w :: rest) = false :=
    words_name name (by decide)
  have self : word "Self" (.ident w :: rest) = false := word_name name (by decide)
  cases inExpr <;>
    simp_all [segment, run_ask, takeIdent_name name, Test.and, Test.except]

theorem segment_apply (name : IsName w) {args : List Token}
    (read : (genericArguments r).run (.mark '<' false :: args) = some (.some, rest)) :
    (segment r false).run (.ident w :: .mark '<' false :: args) = some (.some, rest) := by
  have words : words ["super", "self", "crate", "try"] (.ident w :: .mark '<' false :: args) =
      false := words_name name (by decide)
  have self : word "Self" (.ident w :: .mark '<' false :: args) = false :=
    word_name name (by decide)
  have bare : (marks "<").except (anyMarks ["<=", "<<="]) (.mark '<' false :: args) = true := rfl
  have colons : marks "::" (.mark '<' false :: args) = false := rfl
  simp [segment, run_ask, words, self, takeIdent_name name, Test.and, bare, colons,
    run_tryMarks_none colons, read]

/-- A path ends where no two colons follow its segment. -/
theorem path_of_segment {inExpr : Bool} {last : Arguments}
    (read : (segment r inExpr).run (.ident w :: ts) = some (last, rest))
    (colons : marks "::" rest = false) :
    (path r inExpr).run (.ident w :: ts) =
      some (⟨false, true, decide (last = .none), last⟩, rest) := by
  have unrooted : marks "::" (.ident w :: ts) = false := rfl
  have stop : ((marks "::").except (group .paren).third) rest = false := by
    simp [Test.except, colons]
  simp only [path, StateT.run_bind, run_tryMarks_none unrooted, read, Option.bind_eq_bind,
    Option.bind_some]
  refine iterate_end ?_
  simp [run_ask, stop]

/-! ## Types -/

/-- A type is read by its first word. -/
theorem type_of_segment (plus : Bool) (name : IsName w) {last : Arguments}
    (read : (segment r false).run (.ident w :: ts) = some (last, rest)) (ends : TypeEnd rest) :
    (type r plus).run (.ident w :: ts) = some (.word, rest) := by
  have all : word "for" (.ident w :: ts) = false := word_name name (by decide)
  have function : words ["fn", "unsafe", "extern"] (.ident w :: ts) = false :=
    words_name name (by decide)
  have noGroup : group .paren (.ident w :: ts) = false := rfl
  have noAngle : marks "<" (.ident w :: ts) = false := rfl
  have path := path_of_segment read (ends.noMark _ (by decide))
  have bang : marks "!" rest = false := ends.noMark _ (by decide)
  have sum : marks "+" rest = false := ends.noMark _ (by decide)
  -- checking this by computation would unfold every kind of type
  simp -implicitDefEqProofs [type, run_ask, all, function, noGroup, Test.or, ident_name name,
    pathType, qualifiedPath, run_tryMarks_none noAngle, path, Test.except, bang, sum]

theorem type_name (name : IsName w) (plus : Bool) (ends : TypeEnd rest) :
    (type r plus).run (.ident w :: rest) = some (.word, rest) :=
  type_of_segment plus name
    (segment_name name (ends.noMark _ (by decide)) (ends.noMark "<" (by decide))) ends

/-- A phrase that begins with a name and is a type wherever one may end. -/
structure NamedType (r : Readers) (ts : List Token) : Prop where
  starts : ∃ w us, IsName w ∧ ts = .ident w :: us
  read : IsTypeFor r ts

theorem genericArgument_type {arg : List Token} (type : NamedType r arg) (ends : TypeEnd rest) :
    (genericArgument r).run (arg ++ rest) = some ((), rest) := by
  have read := type.read rest ends
  obtain ⟨w, us, name, rfl⟩ := type.starts
  have noLifetime : lifetime (.ident w :: (us ++ rest)) = false := rfl
  have noLiteral : literal (.ident w :: (us ++ rest)) = false := literal_name name
  have noBlock : group .brace (.ident w :: (us ++ rest)) = false := rfl
  have equals : marks "=" rest = false := ends.noMark _ (by decide)
  have colon : marks ":" rest = false := ends.noMark _ (by decide)
  rw [List.cons_append] at read ⊢
  simp [genericArgument, run_ask, Test.except, noLifetime, Test.or, noLiteral, noBlock, read,
    run_tryMarks_none equals, run_tryMarks_none colon]

theorem typeEnd_of_angle (angle : marks ">" ts = true) : TypeEnd ts := by
  match ts with
  | .mark c j :: ts =>
    have same : c = '>' := by simpa [marks, afterMarks?] using angle
    exact same ▸ .angle
  | [] | .ident _ :: _ | .literal _ _ :: _ | .group _ _ :: _ => cases angle

theorem genericArguments_types {args : List (List Token)} {j : Bool} (nonempty : args ≠ [])
    (types : ∀ arg ∈ args, NamedType r arg) :
    (genericArguments r).run
      (.mark '<' false :: ([comma].intercalate args ++ .mark '>' j :: rest)) =
        some (.some, rest) := by
  have noAngle {arg more : List Token} (mem : arg ∈ args) : marks ">" (arg ++ more) = false := by
    obtain ⟨w, us, -, rfl⟩ := (types arg mem).starts
    rfl
  have list : (listed "," (marks ">") (genericArgument r)).run
      ([comma].intercalate args ++ .mark '>' j :: rest) = some ((), .mark '>' j :: rest) := by
    refine listed_commas (fun _ => rfl) rfl nonempty fun arg mem more next => ⟨noAngle mem, ?_⟩
    refine genericArgument_type (types arg mem) ?_
    rcases next with angle | ⟨us, rfl⟩
    · exact typeEnd_of_angle angle
    · exact .comma
  have some : marks ">" ([comma].intercalate args ++ .mark '>' j :: rest) = false := by
    cases args with
    | nil => exact absurd rfl nonempty
    | cons arg args =>
      cases args with
      | nil => simpa using noAngle List.mem_cons_self
      | cons => simpa [List.intercalate_cons_cons] using noAngle List.mem_cons_self
  have opening (ts : List Token) : (takeMarks "<").run (.mark '<' false :: ts) = .some ((), ts) :=
    rfl
  have closing : (takeMarks ">").run (.mark '>' j :: rest) = .some ((), rest) := rfl
  simp [genericArguments, opening, run_ask, some, list, closing]

theorem type_apply (name : IsName w) (plus : Bool) {args : List (List Token)} {j : Bool}
    (nonempty : args ≠ []) (types : ∀ arg ∈ args, NamedType r arg) (ends : TypeEnd rest) :
    (type r plus).run
      (.ident w :: .mark '<' false :: ([comma].intercalate args ++ .mark '>' j :: rest)) =
        some (.word, rest) :=
  type_of_segment plus name (segment_apply name (genericArguments_types nonempty types)) ends

end CrudForge.Grammar
