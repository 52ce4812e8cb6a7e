import CrudForge.Proofs.Grammar.Characters
import CrudForge.Proofs.Grammar.Scanning
import CrudForge.Proofs.Grammar.Trees
import CrudForge.Proofs.Grammar.Types

/-!
# Texts that spell phrases

A text spells a phrase if its lexemes are those of token trees that a reader takes for the phrase,
in front of whatever may follow it (`Spelled`). The length of the text bounds the levels that the
reader has to go down. Texts that spell phrases are put together to longer ones, and a whole text
that spells what a reader reads is accepted (`acceptsChars_of_lexes`).
-/

namespace CrudForge.Grammar

open Text (isIdentStart)

variable {P : Readers → List Token → Prop} {fits : List Char → Prop} {s t : String}
  {cs rest : List Char} {ls : List Lexeme}

/-! ## Pieces -/

/-- A known piece, of which the last lexeme may still go on. -/
theorem Lexes.piece {q : Pending} {out : List Lexeme}
    (scanned : scan? .none s.toList = some (out, q)) (more : Lexes (q.chars ++ rest) ls) :
    Lexes (s.toList ++ rest) (out ++ ls) :=
  scan?_sound (q := .none) trivial scanned more

/-- A known piece that ends with its last lexeme. -/
theorem Lexes.closed {out : List Lexeme} (scanned : scan? .none s.toList = some (out, .none))
    (more : Lexes rest ls) : Lexes (s.toList ++ rest) (out ++ ls) :=
  .piece scanned more

/-- A known piece that ends with a parenthesis. -/
theorem Lexes.opened {out : List Lexeme} (scanned : scan? .none s.toList = some (out, .paren))
    (noSlash : rest.head? ≠ some '/') (more : Lexes rest ls) :
    Lexes (s.toList ++ rest) (out ++ .opening .paren :: ls) :=
  .piece scanned (.paren noSlash more)

/-- A word that is no keyword. -/
structure FreeWord (w : String) : Prop where
  word : Word w.toList
  name : IsName w

/-- The letters of a word are checked one by one. -/
theorem FreeWord.of_letters {w : String} (start : w.toList.head?.any isIdentStart = true)
    (more : w.toList.all Text.isIdentContinue = true) (free : w ∉ keywords) : FreeWord w := by
  refine ⟨?_, free⟩
  cases letters : w.toList with
  | nil =>
    rw [letters] at start
    cases start
  | cons c cs =>
    rw [letters] at start more
    rw [List.all_cons, Bool.and_eq_true] at more
    exact .of_all start more.2

theorem FreeWord.begins {w : String} (free : FreeWord w) :
    ∃ c cs, w.toList = c :: cs ∧ isIdentStart c = true := by
  obtain ⟨word, -⟩ := free
  generalize w.toList = cs at word
  obtain ⟨start, -⟩ := word
  exact ⟨_, _, rfl, start⟩

theorem Word.lexes {w : String} (word : Word w.toList) (ends : WordEnd rest)
    (more : Lexes rest ls) : Lexes (w.toList ++ rest) (.token (.ident w) :: ls) := by
  have lexes := Lexes.word word ends more
  rwa [String.ofList_toList] at lexes

theorem FreeWord.lexes {w : String} (free : FreeWord w) (ends : WordEnd rest)
    (more : Lexes rest ls) : Lexes (w.toList ++ rest) (.token (.ident w) :: ls) :=
  free.word.lexes ends more

/-- A mark in front of a text that begins like an identifier. -/
theorem Lexes.mark_before {c : Char} (mark : c ∈ plainMarks)
    (begins : ∃ d ds, cs = d :: ds ∧ isIdentStart d = true) (more : Lexes cs ls) :
    Lexes (c :: cs) (.token (.mark c false) :: ls) := by
  obtain ⟨d, ds, rfl, start⟩ := begins
  have lexes := Lexes.mark mark more
  rwa [markChar?_of_identStart start] at lexes

/-! ## Phrases -/

/-- A text spells a phrase in front of some texts, whatever its marks touch. -/
def Spelled (P : Readers → List Token → Prop) (fits : List Char → Prop) (s : String) : Prop :=
  ∀ rest ls, fits rest → Lexes rest ls →
    ∃ ts, Lexes (s.toList ++ rest) (Token.flatAll ts ++ ls) ∧ ∀ n, s.length ≤ n → P (readers n) ts

/-- Anything may follow. -/
def Anything (_ : List Char) : Prop := True

theorem Spelled.imp {Q : Readers → List Token → Prop} (spelled : Spelled P fits s)
    (imp : ∀ n ts, s.length ≤ n → P (readers n) ts → Q (readers n) ts) : Spelled Q fits s := by
  intro rest ls ends more
  obtain ⟨ts, lexes, read⟩ := spelled rest ls ends more
  exact ⟨ts, lexes, fun n deep => imp n ts deep (read n deep)⟩

/-! ### Phrases one after the other -/

/-- Phrases one after the other. -/
def ManyOf (P : Readers → List Token → Prop) (r : Readers) (ts : List Token) : Prop :=
  ∃ phrases : List (List Token), ts = phrases.flatten ∧ ∀ us ∈ phrases, P r us

theorem Spelled.single (spelled : Spelled P fits s) : Spelled (ManyOf P) fits s :=
  spelled.imp fun _ ts _ read => ⟨[ts], by simp, by simpa using read⟩

/-- A piece that holds no phrase. -/
theorem spelled_none (scanned : scan? .none s.toList = some ([], .none)) :
    Spelled (ManyOf P) Anything s :=
  fun _ _ _ more => ⟨[], .closed scanned more, fun _ _ => ⟨[], rfl, by simp⟩⟩

theorem Spelled.append (left : Spelled (ManyOf P) Anything s)
    (right : Spelled (ManyOf P) fits t) : Spelled (ManyOf P) fits (s ++ t) := by
  intro rest ls ends more
  obtain ⟨us, lexes, read⟩ := right rest ls ends more
  obtain ⟨ts, lexes', read'⟩ := left _ _ trivial lexes
  refine ⟨ts ++ us, by simpa using lexes', fun n deep => ?_⟩
  rw [String.length_append] at deep
  obtain ⟨phrases, rfl, all⟩ := read' n (by omega)
  obtain ⟨phrases', rfl, all'⟩ := read n (by omega)
  refine ⟨phrases ++ phrases', by simp, fun ts mem => ?_⟩
  rcases List.mem_append.1 mem with mem | mem
  · exact all ts mem
  · exact all' ts mem

/-! ### Phrases between commas -/

/-- Phrases with commas between them. -/
def ListOf (P : Readers → List Token → Prop) (r : Readers) (ts : List Token) : Prop :=
  ∃ phrases : List (List Token), phrases ≠ [] ∧ ts = [comma].intercalate phrases ∧
    ∀ us ∈ phrases, P r us

/-- Texts with something between them begin with the first of them. -/
theorem exists_intercalate_cons (sep s : String) (texts : List String) (rest : List Char) :
    ∃ tail, (sep.intercalate (s :: texts)).toList ++ rest = s.toList ++ tail := by
  cases texts with
  | nil => exact ⟨rest, by rw [String.intercalate_singleton]⟩
  | cons t texts =>
    rw [String.intercalate_cons_cons, String.append_assoc, String.toList_append, List.append_assoc]
    exact ⟨_, rfl⟩

theorem Spelled.separated {sep : String} {texts : List String} (nonempty : texts ≠ [])
    (follows : ∀ rest, fits (sep.toList ++ rest))
    (mark : ∀ s ∈ texts, ∀ rest ls, Lexes (s.toList ++ rest) ls →
      Lexes (sep.toList ++ (s.toList ++ rest)) (.token comma :: ls))
    (spelled : ∀ s ∈ texts, Spelled P fits s) :
    Spelled (ListOf P) fits (sep.intercalate texts) := by
  induction texts with
  | nil => exact absurd rfl nonempty
  | cons s texts ih =>
    have first := spelled s List.mem_cons_self
    cases texts with
    | nil =>
      rw [String.intercalate_singleton]
      exact first.imp fun n ts _ read => ⟨[ts], List.cons_ne_nil _ _, by simp, by simpa using read⟩
    | cons t texts =>
      intro rest ls ends more
      obtain ⟨us, lexes, read⟩ := ih (List.cons_ne_nil _ _)
        (fun s mem => mark s (List.mem_cons_of_mem _ mem))
        (fun s mem => spelled s (List.mem_cons_of_mem _ mem)) rest ls ends more
      obtain ⟨tail, split⟩ := exists_intercalate_cons sep t texts rest
      rw [split] at lexes
      have later := mark t (by simp) _ _ lexes
      rw [← split] at later
      obtain ⟨ts, lexes', read'⟩ := first _ _ (follows _) later
      refine ⟨ts ++ comma :: us, ?_, fun n deep => ?_⟩
      · simpa [String.intercalate_cons_cons, Token.flat, comma] using lexes'
      · rw [String.intercalate_cons_cons, String.length_append, String.length_append] at deep
        obtain ⟨phrases, some, rfl, all⟩ := read n (by omega)
        refine ⟨ts :: phrases, List.cons_ne_nil _ _, ?_, fun us mem => ?_⟩
        · cases phrases with
          | nil => exact absurd rfl some
          | cons => simp [List.intercalate_cons_cons]
        · rcases List.mem_cons.1 mem with rfl | mem
          · exact read' n (by omega)
          · exact all us mem

/-! ## Accepted texts -/

/-- A text with the lexemes of a phrase is accepted. -/
theorem acceptsChars_of_lexes {α : Type} {ts : List Token} {p : Readers → Read α} {a : α}
    (noMark : cs.head? ≠ some '\ufeff') (lexes : Lexes cs (Token.flatAll ts))
    (read : (p (readers (4 * cs.length + 64))).run ts = some (a, [])) :
    acceptsChars cs p = true := by
  have tokens : tokensOf? cs = some ts := by
    rw [tokensOf?, lexes _ (Nat.lt_succ_self _)]
    · exact Token.nest?_flatAll ts
    · rintro rest rfl
      exact noMark rfl
  rw [acceptsChars, tokens]
  dsimp only
  rw [read]
  rfl

end CrudForge.Grammar
