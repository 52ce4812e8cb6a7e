import CrudForge.Proofs.Grammar.Quoted
import CrudForge.Proofs.Grammar.Word

/-!
# Scanning piece by piece

A text that is put together from pieces is scanned from its end: each piece has its lexemes, and
those of the text behind it follow (`Lexes`). Where a word or a mark ends depends on what comes
next, so `scan` keeps the last one back until it has seen the next character.
-/

namespace CrudForge.Grammar

open Text (isIdentStart isIdentContinue)

/-- The lexemes of a text, with any fuel that lasts. -/
def Lexes (cs : List Char) (ls : List Lexeme) : Prop :=
  ∀ fuel, cs.length < fuel → lexemesFrom fuel cs = some ls

variable {c : Char} {cs rest : List Char} {out ls : List Lexeme}

/-! ## One lexeme -/

theorem Lexes.nil : Lexes [] [] := by
  intro fuel enough
  obtain ⟨fuel, rfl⟩ := Nat.exists_eq_add_of_lt enough
  rfl

theorem Lexes.space (space : isSpace c = true) (more : Lexes cs ls) : Lexes (c :: cs) ls := by
  intro fuel enough
  obtain ⟨fuel, rfl⟩ : ∃ n, fuel = n + 1 := ⟨fuel - 1, by omega⟩
  rw [lexemesFrom, if_pos space]
  exact more fuel (Nat.lt_of_succ_lt_succ enough)

theorem Lexes.lexeme (noSpace : isSpace c = false) (noSlash : c ≠ '/')
    (first : lexeme? (c :: cs) = some (out, rest)) (shorter : rest.length ≤ cs.length)
    (more : Lexes rest ls) : Lexes (c :: cs) (out ++ ls) := by
  intro fuel enough
  obtain ⟨fuel, rfl⟩ : ∃ n, fuel = n + 1 := ⟨fuel - 1, by omega⟩
  have lexemes := more fuel (by simp only [List.length_cons] at enough; omega)
  simp only [lexemesFrom, noSpace, comment?_eq_none noSlash, docComment?_eq_none noSlash, first]
  simp [lexemes]

theorem Lexes.word {w : List Char} (word : Word w) (fits : WordEnd rest) (more : Lexes rest ls) :
    Lexes (w ++ rest) (.token (.ident (String.ofList w)) :: ls) := by
  have leaf := leaf?_word word fits
  obtain ⟨start, -⟩ := word
  exact .lexeme (isSpace_of_identStart start) (ne_of_identStart start (by decide))
    (lexeme?_of_identStart start leaf) (by simp) more

/-- The marks that are read on their own; a slash may begin a comment and an apostrophe a
character. -/
def plainMarks : List Char :=
  ['~', '!', '@', '#', '$', '%', '^', '&', '*', '-', '=', '+', '|', ';', ':', ',', '<', '.', '>',
    '?']

theorem Lexes.mark (mark : c ∈ plainMarks) (more : Lexes cs ls) :
    Lexes (c :: cs) (.token (.mark c (markChar? cs).isSome) :: ls) := by
  have first : isSpace c = false ∧ c ≠ '/' ∧
      lexeme? (c :: cs) = some ([.token (.mark c (markChar? cs).isSome)], cs) := by
    simp only [plainMarks, List.mem_cons, List.not_mem_nil, or_false] at mark
    rcases mark with rfl | rfl | rfl | rfl | rfl | rfl | rfl | rfl | rfl | rfl | rfl | rfl | rfl |
      rfl | rfl | rfl | rfl | rfl | rfl | rfl <;> exact ⟨rfl, by decide, rfl⟩
  exact .lexeme first.1 first.2.1 first.2.2 (Nat.le_refl _) more

/-- The delimiters that are read on their own. -/
def plainDelimiters : List Char :=
  [')', '[', ']', '{', '}']

theorem Lexes.delimiter {l : Lexeme} (plain : c ∈ plainDelimiters) (named : delimiter? c = some l)
    (more : Lexes cs ls) : Lexes (c :: cs) (l :: ls) := by
  have first : isSpace c = false ∧ c ≠ '/' ∧ lexeme? (c :: cs) = some ([l], cs) := by
    simp only [plainDelimiters, List.mem_cons, List.not_mem_nil, or_false] at plain
    rcases plain with rfl | rfl | rfl | rfl | rfl <;> cases named <;> exact ⟨rfl, by decide, rfl⟩
  exact .lexeme first.1 first.2.1 first.2.2 (Nat.le_refl _) more

/-- A parenthesis in front of a comment may be part of a faulty literal. -/
theorem Lexes.paren (noSlash : cs.head? ≠ some '/') (more : Lexes cs ls) :
    Lexes ('(' :: cs) (.opening .paren :: ls) := by
  have noFault : expect? faultSpelling ('(' :: cs) = none := by
    cases cs with
    | nil => rfl
    | cons c cs =>
      have other : '/' ≠ c := fun same => noSlash (congrArg some same.symm)
      simp [faultSpelling, expect?, other]
  have first : lexeme? ('(' :: cs) = some ([.opening .paren], cs) := by
    rw [lexeme?, noFault]
    rfl
  exact .lexeme rfl (by decide) first (Nat.le_refl _) more

theorem Lexes.quoted (s : List Char) (suffix : afterSuffix rest = rest) (more : Lexes rest ls) :
    Lexes (Text.Quoted.encodeChars s ++ rest)
      (.token (.literal .str (String.ofList (Text.Quoted.encodeChars s))) :: ls) := by
  have leaf := leaf?_encodeChars s suffix
  have begins : Text.Quoted.encodeChars s ++ rest =
      '"' :: (s.flatMap Text.Quoted.encodeChar ++ '"' :: rest) := by
    simp [Text.Quoted.encodeChars]
  rw [begins] at leaf ⊢
  have first : lexeme? ('"' :: (s.flatMap Text.Quoted.encodeChar ++ '"' :: rest)) =
      some ([.token (.literal .str (String.ofList (Text.Quoted.encodeChars s)))], rest) := by
    rw [lexeme?, leaf]
    rfl
  exact .lexeme rfl (by decide) first (by simp; omega) more

/-- A comment that documents nothing is passed over. -/
theorem Lexes.comment (skipped : comment? ('/' :: cs) = some rest)
    (shorter : rest.length ≤ cs.length) (more : Lexes rest ls) : Lexes ('/' :: cs) ls := by
  intro fuel enough
  obtain ⟨fuel, rfl⟩ : ∃ n, fuel = n + 1 := ⟨fuel - 1, by omega⟩
  have lexemes := more fuel (by simp only [List.length_cons] at enough; omega)
  have noSpace : isSpace '/' = false := rfl
  simp only [lexemesFrom, noSpace, skipped, lexemes]
  rfl

/-- A comment that documents something stands for an attribute. -/
theorem Lexes.doc (notSkipped : comment? ('/' :: cs) = none)
    (read : docComment? ('/' :: cs) = some (out, rest)) (shorter : rest.length ≤ cs.length)
    (more : Lexes rest ls) : Lexes ('/' :: cs) (out ++ ls) := by
  intro fuel enough
  obtain ⟨fuel, rfl⟩ : ∃ n, fuel = n + 1 := ⟨fuel - 1, by omega⟩
  have lexemes := more fuel (by simp only [List.length_cons] at enough; omega)
  have noSpace : isSpace '/' = false := rfl
  simp only [lexemesFrom, noSpace, notSkipped, read]
  simp [lexemes]

/-! ## Pieces -/

/-- What has been read of a lexeme whose end has not been seen. -/
inductive Pending
  | none
  | word (w : List Char)
  | mark (c : Char)
  | paren

namespace Pending

/-- The characters that have been read. -/
def chars : Pending → List Char
  | none => []
  | word w => w
  | mark c => [c]
  | paren => ['(']

/-- The characters are the beginning of a lexeme. -/
def Valid : Pending → Prop
  | none | paren => True
  | word w => Word w
  | mark c => c ∈ plainMarks

/-- The lexeme, now that a character comes next that does not belong to it. -/
def finish? (q : Pending) (next : Char) : Option (List Lexeme) :=
  match q with
  | none => some []
  | word w => if next ∈ prefixSigns then Option.none else some [.token (.ident (String.ofList w))]
  | mark c =>
    if next = '/' then Option.none else some [.token (.mark c (markChar? [next]).isSome)]
  | paren => if next = '/' then Option.none else some [.opening .paren]

/-- What a character begins. -/
def start? (c : Char) : Option (List Lexeme × Pending) :=
  if isSpace c then some ([], none)
  else if isIdentStart c then some ([], word [c])
  else if c ∈ plainMarks then some ([], mark c)
  else if c ∈ plainDelimiters then (delimiter? c).map fun l => ([l], none)
  else if c = '(' then some ([], paren)
  else Option.none

/-- What has been read, with a character that belongs to it. -/
def extend? (q : Pending) (c : Char) : Option Pending :=
  match q with
  | word w => if isIdentContinue c then some (word (w ++ [c])) else Option.none
  | _ => Option.none

/-- Takes in one character. -/
def step? (q : Pending) (c : Char) : Option (List Lexeme × Pending) :=
  match q.extend? c with
  | some q => some ([], q)
  | Option.none => do
    let done ← q.finish? c
    let (begun, q) ← start? c
    return (done ++ begun, q)

end Pending

/-- The lexemes of a piece of text, and what is left of the last one. -/
def scan? : Pending → List Char → Option (List Lexeme × Pending)
  | q, [] => some ([], q)
  | q, c :: cs => do
    let (first, q) ← q.step? c
    let (more, q) ← scan? q cs
    return (first ++ more, q)

namespace Pending

variable {q q' : Pending}

/-- A lexeme ends in front of a character that does not belong to it. -/
theorem finish?_sound (valid : q.Valid) (other : q.extend? c = Option.none)
    (finished : q.finish? c = some out) (more : Lexes (c :: rest) ls) :
    Lexes (q.chars ++ c :: rest) (out ++ ls) := by
  cases q with
  | none =>
    obtain rfl := Option.some.inj finished
    exact more
  | word w =>
    rw [finish?] at finished
    split at finished
    · cases finished
    · rename_i noSign
      obtain rfl := Option.some.inj finished
      have letter : isIdentContinue c = false := by simpa [extend?] using other
      exact .word valid (.cons letter noSign) more
  | mark m =>
    rw [finish?] at finished
    split at finished
    · cases finished
    · rename_i noSlash
      obtain rfl := Option.some.inj finished
      have ahead : markChar? (c :: rest) = markChar? [c] := by
        simp [markChar?, noSlash]
      exact ahead ▸ .mark valid more
  | paren =>
    rw [finish?] at finished
    split at finished
    · cases finished
    · rename_i noSlash
      obtain rfl := Option.some.inj finished
      exact .paren (by simpa using noSlash) more

theorem start?_sound (started : start? c = some (out, q)) :
    q.Valid ∧ ∀ rest ls, Lexes (q.chars ++ rest) ls → Lexes (c :: rest) (out ++ ls) := by
  rw [start?] at started
  split at started
  · rename_i space
    cases started
    exact ⟨trivial, fun rest ls more => .space space more⟩
  split at started
  · rename_i start
    cases started
    exact ⟨.of_all start rfl, fun rest ls more => more⟩
  split at started
  · rename_i mark
    cases started
    exact ⟨mark, fun rest ls more => more⟩
  split at started
  · rename_i plain
    obtain ⟨l, named, same⟩ := Option.map_eq_some_iff.1 started
    cases same
    exact ⟨trivial, fun rest ls more => .delimiter plain named more⟩
  split at started
  · rename_i paren
    cases started
    exact ⟨trivial, fun rest ls more => paren ▸ more⟩
  · cases started

theorem extend?_sound (valid : q.Valid) (extended : q.extend? c = some q') :
    q'.Valid ∧ q'.chars = q.chars ++ [c] := by
  cases q with
  | none | mark | paren => cases extended
  | word w =>
    rw [extend?] at extended
    split at extended
    · rename_i letter
      cases extended
      obtain ⟨start, more⟩ := valid
      refine ⟨.intro start fun d mem => ?_, rfl⟩
      rcases List.mem_append.1 mem with old | new
      · exact more d old
      · exact List.mem_singleton.1 new ▸ letter
    · cases extended

theorem step?_sound (valid : q.Valid) (stepped : q.step? c = some (out, q')) :
    q'.Valid ∧ ∀ rest ls, Lexes (q'.chars ++ rest) ls →
      Lexes (q.chars ++ c :: rest) (out ++ ls) := by
  rw [step?] at stepped
  cases extended : q.extend? c with
  | some q₁ =>
    simp only [extended, Option.some.injEq, Prod.mk.injEq] at stepped
    obtain ⟨rfl, rfl⟩ := stepped
    obtain ⟨valid', chars⟩ := extend?_sound valid extended
    refine ⟨valid', fun rest ls more => ?_⟩
    rw [chars, List.append_assoc] at more
    exact more
  | none =>
    simp only [extended, Option.bind_eq_bind, Option.bind_eq_some_iff, Option.pure_def,
      Option.some.injEq, Prod.mk.injEq] at stepped
    obtain ⟨done, finished, ⟨begun, q₁⟩, started, rfl, rfl⟩ := stepped
    obtain ⟨valid', sound⟩ := start?_sound started
    refine ⟨valid', fun rest ls more => ?_⟩
    rw [List.append_assoc]
    exact finish?_sound valid extended finished (sound rest ls more)

end Pending

/-- The lexemes of a piece in front of those of the text behind it. -/
theorem scan?_sound {q q' : Pending} (valid : q.Valid) (scanned : scan? q cs = some (out, q'))
    (more : Lexes (q'.chars ++ rest) ls) : Lexes (q.chars ++ (cs ++ rest)) (out ++ ls) := by
  induction cs generalizing q out with
  | nil =>
    cases scanned
    exact more
  | cons c cs ih =>
    simp only [scan?, Option.bind_eq_bind, Option.bind_eq_some_iff, Option.pure_def,
      Option.some.injEq, Prod.mk.injEq] at scanned
    obtain ⟨⟨first, q₁⟩, stepped, ⟨later, q₂⟩, scanned, rfl, rfl⟩ := scanned
    obtain ⟨valid', sound⟩ := Pending.step?_sound valid stepped
    rw [List.append_assoc]
    exact sound _ _ (ih valid' scanned)

end CrudForge.Grammar
