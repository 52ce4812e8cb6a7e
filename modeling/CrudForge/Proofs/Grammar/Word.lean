import Mathlib.Data.Bool.AllAny
import Mathlib.Data.List.TakeWhile
import CrudForge.Grammar.Recognize
import CrudForge.Proofs.Text.Ascii

/-!
# Words

A text that has the form of an identifier from its first character to its last is one token
(`tokens?_word`), and so is one with `r#` in front of it (`tokens?_raw`), unless it is one of the
five words that have no raw form.
-/

namespace CrudForge.Grammar

open Text (isIdentStart isIdentContinue)

/-! ## Characters that begin no identifier -/

section Characters

variable {c d : Char}

theorem ne_of_identStart (start : isIdentStart c = true) (other : isIdentStart d = false) :
    c ≠ d := by
  rintro rfl
  cases start.symm.trans other

theorem ne_of_identContinue (more : isIdentContinue c = true) (other : isIdentContinue d = false) :
    c ≠ d := by
  rintro rfl
  cases more.symm.trans other

theorem ascii_of_identStart (small : c.toNat < 128) : isIdentStart c = true →
    isDigit c = false ∧ isSpace c = false :=
  Text.of_ascii small (by decide)

theorem isDigit_of_identStart (start : isIdentStart c = true) : isDigit c = false := by
  by_cases small : c.toNat < 128
  · exact (ascii_of_identStart small start).1
  · cases digit : isDigit c with
    | false => rfl
    | true =>
      simp only [isDigit, Bool.and_eq_true, decide_eq_true_eq, Char.le_def,
        UInt32.le_iff_toNat_le] at digit
      exact absurd (Nat.lt_of_le_of_lt digit.2 (by decide)) small

/-- No character that begins an identifier is blank. -/
theorem identStart_of_whiteSpace {n : Nat} (space : Text.Class.Table.whiteSpace.contains n = true) :
    Text.Class.Table.identStart.contains n = false := by
  simp only [Text.Intervals.contains, Text.Class.Table.whiteSpace, List.any_cons, List.any_nil,
    Bool.or_false, Bool.or_eq_true, Bool.and_eq_true, decide_eq_true_eq] at space
  have listed : n ∈ [133, 160, 5760, 8192, 8193, 8194, 8195, 8196, 8197, 8198, 8199, 8200, 8201,
      8202, 8232, 8233, 8239, 8287, 12288] := by
    simp only [List.mem_cons]
    omega
  have none : ∀ m ∈ [133, 160, 5760, 8192, 8193, 8194, 8195, 8196, 8197, 8198, 8199, 8200, 8201,
      8202, 8232, 8233, 8239, 8287, 12288], Text.Class.Table.identStart.contains m = false := by
    decide +kernel
  exact none n listed

theorem isSpace_of_identStart (start : isIdentStart c = true) : isSpace c = false := by
  by_cases small : c.toNat < 128
  · exact (ascii_of_identStart small start).2
  · cases space : isSpace c with
    | false => rfl
    | true =>
      simp only [isSpace, Text.isBlank, small, if_false, Bool.or_eq_true, decide_eq_true_eq]
        at space
      rcases space with (space | rfl) | rfl
      · rw [isIdentStart, if_neg small, identStart_of_whiteSpace space] at start
        cases start
      · revert start
        decide +kernel
      · revert start
        decide +kernel

theorem markChar?_of_identStart (start : isIdentStart c = true) (cs : List Char) :
    markChar? (c :: cs) = none := by
  have noMark : "~!@#$%^&*-=+|;:,<.>/?'".toList.contains c = false := by
    have marks : "~!@#$%^&*-=+|;:,<.>/?'".toList.any isIdentStart = false := by
      decide
    rw [List.contains_eq_mem, decide_eq_false_iff_not]
    intro mark
    exact List.any_eq_false.1 marks c mark start
  unfold markChar?
  split
  · rfl
  · rfl
  · rename_i cs' _ _ same
    cases same
    simp only [noMark, Bool.false_eq_true, if_false]
  · rfl

end Characters

/-! ## Words -/

/-- Identifiers from the first character to the last. -/
inductive Word : List Char → Prop
  | intro {c : Char} {cs : List Char} :
    isIdentStart c = true → (∀ d ∈ cs, isIdentContinue d = true) → Word (c :: cs)

theorem Word.of_all {c : Char} {cs : List Char} (start : isIdentStart c = true)
    (more : cs.all isIdentContinue = true) : Word (c :: cs) :=
  .intro start (List.all_eq_true.1 more)

/-- The signs that make a literal or a raw identifier of the letters in front of them. -/
def prefixSigns : List Char := ['"', '\'', '#']

/-- A word does not go on. -/
def WordEnd (rest : List Char) : Prop :=
  ∀ c ∈ rest.head?, isIdentContinue c = false ∧ c ∉ prefixSigns

theorem WordEnd.nil : WordEnd [] := by
  simp [WordEnd]

theorem WordEnd.cons {c : Char} {cs : List Char} (other : isIdentContinue c = false)
    (noSign : c ∉ prefixSigns) : WordEnd (c :: cs) := by
  simpa [WordEnd] using ⟨other, noSign⟩

section Word

variable {c : Char} {cs rest : List Char}

theorem dropWhile_wordEnd (fits : WordEnd rest) : rest.dropWhile isIdentContinue = rest := by
  cases rest with
  | nil => rfl
  | cons c rest => exact List.dropWhile_cons_of_neg (by simp [(fits c rfl).1])

theorem dropWhile_letters (more : ∀ d ∈ cs, isIdentContinue d = true) (fits : WordEnd rest) :
    (cs ++ rest).dropWhile isIdentContinue = rest := by
  rw [List.dropWhile_append_of_pos more, dropWhile_wordEnd fits]

/-- Neither in a word nor behind it, a sign comes next that is part of a literal. -/
theorem head_noSign (more : ∀ d ∈ cs, isIdentContinue d = true) (fits : WordEnd rest) :
    ∀ d ∈ (cs ++ rest).head?, d ∉ prefixSigns := by
  intro d head
  cases cs with
  | nil => exact (fits d head).2
  | cons c cs =>
    obtain rfl := Option.some.inj head
    intro sign
    have letter := more c List.mem_cons_self
    have none : ∀ e ∈ prefixSigns, isIdentContinue e = false :=
      List.all_iff_forall_prop.1 (by decide)
    rw [none c sign] at letter
    cases letter

theorem plainIdent?_word (word : Word cs) (fits : WordEnd rest) :
    plainIdent? (cs ++ rest) = some rest := by
  obtain ⟨start, more⟩ := word
  rw [List.cons_append, plainIdent?, if_pos start, dropWhile_letters more fits]

/-- No raw text begins where no sign comes next. -/
theorem afterRawStart?_of_head (kind : QuoteKind) (head : ∀ d ∈ cs.head?, d ∉ prefixSigns) :
    afterRawStart? kind cs = none := by
  cases cs with
  | nil => rfl
  | cons d cs =>
    have noSign := head d rfl
    simp only [prefixSigns, List.mem_cons, List.not_mem_nil, or_false, not_or] at noSign
    simp [afterRawStart?, noSign]

theorem quoted?_cons (kind : QuoteKind) (noQuote : c ≠ '"')
    (head : ∀ d ∈ cs.head?, d ∉ prefixSigns) : quoted? kind (c :: cs) = none := by
  unfold quoted?
  split
  · rename_i same
    exact absurd (List.cons.inj same).1 noQuote
  · rename_i same
    cases same
    exact afterRawStart?_of_head kind head
  · rfl

theorem quoted?_letters (kind : QuoteKind) (more : ∀ d ∈ cs, isIdentContinue d = true)
    (fits : WordEnd rest) : quoted? kind (cs ++ rest) = none := by
  cases cs with
  | nil =>
    cases rest with
    | nil => rfl
    | cons d rest =>
      obtain ⟨other, noSign⟩ := fits d rfl
      have noQuote : d ≠ '"' := fun same => noSign (same ▸ List.mem_cons_self)
      have noLetter : d ≠ 'r' := by
        rintro rfl
        revert other
        decide
      unfold quoted?
      split
      · rename_i same
        exact absurd (List.cons.inj same).1 noQuote
      · rename_i same
        exact absurd (List.cons.inj same).1 noLetter
      · rfl
  | cons d cs =>
    exact quoted?_cons kind (ne_of_identContinue (more d List.mem_cons_self) (by decide))
      (head_noSign (fun e mem => more e (List.mem_cons_of_mem _ mem)) fits)

theorem float?_of_identStart (start : isIdentStart c = true) : float? (c :: cs) = none := by
  rw [float?, isDigit_of_identStart start]
  rfl

theorem int?_of_identStart (start : isIdentStart c = true) : int? (c :: cs) = none := by
  have noDigit := isDigit_of_identStart start
  have noZero : c ≠ '0' := ne_of_identStart start (by decide)
  have none : intDigits? 10 false (c :: cs) = none := by
    simp [intDigits?, noDigit]
  unfold int?
  simp [noZero, none]

/-- What begins like an identifier is no literal, unless a quote comes at once or behind its first
letters. -/
theorem literal?_of_identStart (start : isIdentStart c = true)
    (text : quoted? .text (c :: cs) = none) (bytes : quoted? .bytes cs = none)
    (terminated : quoted? .terminated cs = none) (noQuote : ∀ rest, cs ≠ '\'' :: rest) :
    literal? (c :: cs) = none := by
  have noByte : expect? ['b', '\''] (c :: cs) = none := by
    cases cs with
    | nil => simp [expect?]
    | cons d cs =>
      have other : d ≠ '\'' := by
        rintro rfl
        exact noQuote cs rfl
      simp [expect?, other.symm]
  have noChar : '\'' ≠ c := (ne_of_identStart start (by decide)).symm
  have textBind : (expect? "".toList (c :: cs)).bind (quoted? .text) = none := text
  have bytesBind : (expect? "b".toList (c :: cs)).bind (quoted? .bytes) = none := by
    by_cases letter : 'b' = c <;> simp [expect?, letter, bytes]
  have terminatedBind : (expect? "c".toList (c :: cs)).bind (quoted? .terminated) = none := by
    by_cases letter : 'c' = c <;> simp [expect?, letter, terminated]
  have charBind : (expect? ['\''] (c :: cs)).bind (charBody? .text) = none := by
    simp [expect?, noChar]
  simp only [literal?, noByte, textBind, bytesBind, terminatedBind, charBind,
    float?_of_identStart start, int?_of_identStart start]
  rfl

theorem literal?_word (word : Word cs) (fits : WordEnd rest) : literal? (cs ++ rest) = none := by
  obtain ⟨start, more⟩ := word
  have head := head_noSign more fits
  rename_i c cs
  refine literal?_of_identStart start (quoted?_cons _ (ne_of_identStart start (by decide)) head)
    (quoted?_letters _ more fits) (quoted?_letters _ more fits) fun rest' same => ?_
  have quote : (cs ++ rest).head? = some '\'' := congrArg List.head? same
  exact head '\'' quote (by decide)

/-- The quote of a raw text does not follow its `r#` where a word does. -/
theorem literal?_raw (word : Word cs) : literal? ('r' :: '#' :: cs) = none := by
  obtain ⟨start, more⟩ := word
  rename_i c cs
  have noHash : c ≠ '#' := ne_of_identStart start (by decide)
  have noQuote : c ≠ '"' := ne_of_identStart start (by decide)
  refine literal?_of_identStart (by decide) ?_ rfl rfl (by simp)
  simp [quoted?, afterRawStart?, noHash, noQuote]

theorem eq_append_of_expect? {w rest : List Char} (found : expect? w cs = some rest) :
    cs = w ++ rest := by
  induction w generalizing cs with
  | nil => exact Option.some.inj found
  | cons d w ih =>
    cases cs with
    | nil => cases found
    | cons c cs =>
      rw [expect?] at found
      split at found
      · rename_i same
        rw [ih found, same, List.cons_append]
      · cases found

/-- A word and what follows it do not begin with letters and a sign behind them. -/
theorem startsWith_word (word : Word cs) (fits : WordEnd rest) {w : String} {sign : Char}
    {more : List Char} (signed : w.toList.tail.dropWhile isIdentContinue = sign :: more)
    (mem : sign ∈ prefixSigns) : startsWith w (cs ++ rest) = false := by
  cases found : expect? w.toList (cs ++ rest) with
  | none => rw [startsWith, found]; rfl
  | some rest' =>
    obtain ⟨start, letters⟩ := word
    rename_i c cs
    have split := eq_append_of_expect? found
    cases spelled : w.toList with
    | nil =>
      rw [spelled] at signed
      cases signed
    | cons e w =>
      rw [spelled] at signed split
      have behind := dropWhile_letters letters fits
      have tails : cs ++ rest = w ++ rest' := (List.cons.inj split).2
      rw [tails, List.dropWhile_append, show w.dropWhile isIdentContinue = _ from signed] at behind
      have head : rest.head? = some sign := by rw [← behind]; rfl
      exact absurd mem (fits sign head).2

theorem anyIdent?_word (word : Word cs) (fits : WordEnd rest) :
    anyIdent? (cs ++ rest) = some (String.ofList cs, rest) := by
  have plain := plainIdent?_word word fits
  unfold anyIdent?
  split
  · rename_i raw
    obtain ⟨start, more⟩ := word
    have hash := congrArg List.head? (List.cons.inj raw).2
    exact absurd (by decide) (head_noSign more fits '#' hash)
  · simp [plain]

theorem ident?_word (word : Word cs) (fits : WordEnd rest) :
    ident? (cs ++ rest) = some (String.ofList cs, rest) := by
  have signs : ∀ w ∈ ["r\"", "r#\"", "r##", "b\"", "b'", "br\"", "br#", "c\"", "cr\"", "cr#"],
      (w.toList.tail.dropWhile isIdentContinue).head?.any (prefixSigns.contains ·) = true := by
    decide
  have noSign : ["r\"", "r#\"", "r##", "b\"", "b'", "br\"", "br#", "c\"", "cr\"", "cr#"].any
      (startsWith · (cs ++ rest)) = false := by
    rw [List.any_eq_false]
    intro w mem
    obtain ⟨sign, head, known⟩ := (Option.any_eq_true _ _).1 (signs w mem)
    obtain ⟨more, signed⟩ := List.head?_eq_some_iff.1 head
    rw [startsWith_word word fits signed (List.contains_iff_mem.1 known)]
    exact Bool.false_ne_true
  rw [ident?, noSign, anyIdent?_word word fits]
  rfl

theorem leaf?_word (word : Word cs) (fits : WordEnd rest) :
    leaf? (cs ++ rest) = some (.ident (String.ofList cs), rest) := by
  have literal := literal?_word word fits
  have mark : mark? (cs ++ rest) = none := by
    obtain ⟨start, more⟩ := word
    simp [mark?, markChar?_of_identStart start]
  rw [leaf?, literal, mark, ident?_word word fits]
  rfl

/-- The words that have no raw form. -/
def rawless : List String := ["_", "super", "self", "Self", "crate"]

theorem anyIdent?_raw (word : Word cs) (raw : String.ofList cs ∉ rawless) :
    anyIdent? ('r' :: '#' :: cs) = some (String.ofList ('r' :: '#' :: cs), []) := by
  have known : ∀ w ∈ ["r#_", "r#super", "r#self", "r#Self", "r#crate"],
      String.ofList (w.toList.drop 2) ∈ rawless := by
    decide
  have allowed : ["r#_", "r#super", "r#self", "r#Self", "r#crate"].contains
      (String.ofList ('r' :: '#' :: cs)) = false := by
    rw [List.contains_eq_mem, decide_eq_false_iff_not]
    intro mem
    have named := known _ mem
    rw [String.toList_ofList] at named
    exact raw named
  have plain := plainIdent?_word word .nil
  rw [List.append_nil] at plain
  simp only [anyIdent?, plain, Option.map_some, List.length_nil, Nat.sub_zero,
    List.take_length, List.cons_append, List.nil_append, Option.bind_eq_bind, Option.bind_some,
    allowed]
  rfl

theorem ident?_raw (word : Word cs) (raw : String.ofList cs ∉ rawless) :
    ident? ('r' :: '#' :: cs) = some (String.ofList ('r' :: '#' :: cs), []) := by
  have noHash : startsWith "r##" ('r' :: '#' :: cs) = false := by
    obtain ⟨start, more⟩ := word
    simp [startsWith, expect?, (ne_of_identStart start (by decide : isIdentStart '#' = false)).symm]
  have noQuote : startsWith "r#\"" ('r' :: '#' :: cs) = false := by
    obtain ⟨start, more⟩ := word
    simp [startsWith, expect?, (ne_of_identStart start (by decide : isIdentStart '"' = false)).symm]
  have noSign : ["r\"", "r#\"", "r##", "b\"", "b'", "br\"", "br#", "c\"", "cr\"", "cr#"].any
      (startsWith · ('r' :: '#' :: cs)) = false := by
    simp only [List.any_cons, List.any_nil, noHash, noQuote]
    simp [startsWith, expect?]
  rw [ident?, noSign, anyIdent?_raw word raw]
  rfl

theorem leaf?_raw (word : Word cs) (raw : String.ofList cs ∉ rawless) :
    leaf? ('r' :: '#' :: cs) = some (.ident (String.ofList ('r' :: '#' :: cs)), []) := by
  rw [leaf?, literal?_raw word, ident?_raw word raw]
  rfl

end Word

/-! ## Whole texts -/

section Text

variable {c : Char} {cs rest : List Char} {t : Token}

/-- Comments begin with a slash. -/
theorem comment?_eq_none (noSlash : c ≠ '/') (cs : List Char) : comment? (c :: cs) = none := by
  unfold comment?
  split
  · rename_i same
    exact absurd (List.cons.inj same).1 noSlash
  · rename_i same
    exact absurd (List.cons.inj same).1 noSlash
  · rename_i same
    exact absurd (List.cons.inj same).1 noSlash
  · rfl

theorem docComment?_eq_none (noSlash : c ≠ '/') (cs : List Char) :
    docComment? (c :: cs) = none := by
  simp [docComment?, noSlash]

theorem lexeme?_of_identStart (start : isIdentStart c = true)
    (leaf : leaf? (c :: cs) = some (t, rest)) : lexeme? (c :: cs) = some ([.token t], rest) := by
  have noFault : expect? faultSpelling (c :: cs) = none :=
    if_neg (ne_of_identStart start (by decide)).symm
  have noDelimiter : delimiter? c = none := by
    unfold delimiter?
    split <;> first | rfl | (exact absurd start (by decide))
  simp only [lexeme?, noFault, noDelimiter, leaf, Option.map_some]

/-- A text that is one token, which begins like an identifier. -/
theorem tokens?_of_leaf? (start : isIdentStart c = true)
    (leaf : leaf? (c :: cs) = some (t, [])) : tokens? (String.ofList (c :: cs)) = some [t] := by
  have noSlash : c ≠ '/' := ne_of_identStart start (by decide)
  have noMark : c ≠ '\ufeff' := ne_of_identStart start (by decide +kernel)
  have lexemes : lexemesFrom ((c :: cs).length + 1) (c :: cs) = some [.token t] := by
    simp only [lexemesFrom, isSpace_of_identStart start, comment?_eq_none noSlash,
      docComment?_eq_none noSlash, lexeme?_of_identStart start leaf, List.length_cons]
    rfl
  rw [tokens?, String.toList_ofList]
  split
  · rename_i same
    exact absurd (List.cons.inj same).1 noMark
  · rw [lexemes]
    rfl

theorem tokens?_word (word : Word cs) :
    tokens? (String.ofList cs) = some [.ident (String.ofList cs)] := by
  have leaf := leaf?_word word .nil
  rw [List.append_nil] at leaf
  obtain ⟨start, -⟩ := word
  exact tokens?_of_leaf? start leaf

theorem tokens?_raw (word : Word cs) (raw : String.ofList cs ∉ rawless) :
    tokens? (String.ofList ('r' :: '#' :: cs)) = some [.ident (String.ofList ('r' :: '#' :: cs))] :=
  tokens?_of_leaf? (by decide) (leaf?_raw word raw)

end Text

end CrudForge.Grammar
