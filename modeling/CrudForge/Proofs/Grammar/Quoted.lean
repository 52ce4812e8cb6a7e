import Mathlib.Algebra.Group.Nat.Defs
import CrudForge.Grammar.Lexer
import CrudForge.Text.Quoted

/-!
# Quoted texts

Whatever a text holds, it is one literal when it is quoted, so that nothing of it can become code.
The lexer finds where a literal ends; what it says up to there is read by `textLiteral?`, with all
escapes that a literal may have (`quoted?_eq_textLiteral?`). A quoted text says what was quoted,
whatever stands behind it (`textLiteral?_encode`).
-/

namespace CrudForge.Grammar

open Text.Quoted (encodeChar encodeChars hexDigits)

variable {rest : List Char}

/-! ## Characters by number -/

theorem digitValue?_digitChar : ∀ d < 16, Text.digitValue? 16 (Nat.digitChar d) = some d := by
  decide

/-- Digits are read one after the other, as long as there are no more than six. -/
theorem unicodeDigits?_hexDigits (n : Nat) (rest : List Char) (value : Nat) {count : Nat}
    (few : count + (hexDigits n).length ≤ 6) :
    unicodeDigits? count value (hexDigits n ++ rest) =
      unicodeDigits? (count + (hexDigits n).length) (value * 16 ^ (hexDigits n).length + n)
        rest := by
  have digit {count value d : Nat} (rest : List Char) (small : d < 16) (room : count < 6) :
      unicodeDigits? count value (Nat.digitChar d :: rest) =
        unicodeDigits? (count + 1) (16 * value + d) rest := by
    rw [unicodeDigits?, digitValue?_digitChar d small]
    exact if_neg (Nat.ne_of_lt room)
  induction n using Nat.strongRecOn generalizing rest with
  | ind n ih =>
    rcases Nat.lt_or_ge n 16 with small | large
    · have single : hexDigits n = [Nat.digitChar n] := Nat.toDigits_of_lt_base small
      rw [single] at few ⊢
      rw [List.singleton_append, digit rest small few, Nat.mul_comm]
      rfl
    · have split : hexDigits n = hexDigits (n / 16) ++ [Nat.digitChar (n % 16)] :=
        Nat.toDigits_of_base_le (by decide) large
      have shorter := ih (n / 16) (by omega) (Nat.digitChar (n % 16) :: rest) (by
        rw [split, List.length_append] at few
        omega)
      rw [split, List.length_append] at few ⊢
      have room : count + (hexDigits (n / 16)).length < 6 := few
      rw [List.append_assoc, List.singleton_append, shorter,
        digit rest (Nat.mod_lt n (by decide)) room, Nat.add_assoc]
      congr 1
      rw [List.length_singleton, Nat.pow_succ, ← Nat.mul_assoc]
      omega

/-- A character by its number is read up to the brace behind it. -/
theorem unicodeDigits?_braced (c : Char) (rest : List Char) :
    unicodeDigits? 0 0 (hexDigits c.toNat ++ '}' :: rest) = some (c.toNat, rest) := by
  have valid : c.toNat.isValidChar := c.valid
  have few : (hexDigits c.toNat).length ≤ 6 := by
    refine (Nat.length_toDigits_le_iff (by decide) (by decide)).2 ?_
    rcases valid with low | high <;> omega
  have some : 0 < (hexDigits c.toNat).length := Nat.length_toDigits_pos
  have closing : Text.digitValue? 16 '}' = none := by decide
  have fits : 0 + (hexDigits c.toNat).length ≤ 6 := by omega
  have read := unicodeDigits?_hexDigits c.toNat ('}' :: rest) 0 fits
  rw [Nat.zero_add, Nat.zero_mul, Nat.zero_add, unicodeDigits?, closing] at read
  simp only [gt_iff_lt, some, decide_true, Bool.and_true] at read
  simp [read]

/-! ## What a literal says -/

/-- The characters that `\x` stands for, and the text behind its two digits, the first of which is
less than eight. -/
def hexEscape? : List Char → Option (List Char × List Char)
  | a :: b :: cs =>
    match Text.digitValue? 16 a, Text.digitValue? 16 b with
    | some high, some low =>
      if '0' ≤ a && a ≤ '7' then some ([Char.ofNat (16 * high + low)], cs) else none
    | _, _ => none
  | _ => none

/-- The characters that `\u` stands for, and the text behind its brace. -/
def unicodeEscape? : List Char → Option (List Char × List Char)
  | '{' :: cs =>
    (unicodeDigits? 0 0 cs).bind fun (n, rest) =>
      if n.isValidChar then some ([Char.ofNat n], rest) else none
  | _ => none

/-- The escapes that are a letter or a sign, and the characters that they stand for. -/
def namedEscapes : List (Char × Char) :=
  [('n', '\n'), ('r', '\r'), ('t', '\t'), ('\\', '\\'), ('\'', '\''), ('"', '"')]

/-- The character that is escaped in front of a text, and what follows it. -/
def charEscape? : List Char → Option (List Char × List Char)
  | 'x' :: cs => hexEscape? cs
  | 'u' :: cs => unicodeEscape? cs
  | '0' :: cs => some (['\x00'], cs)
  | c :: cs => (namedEscapes.lookup c).map fun said => ([said], cs)
  | [] => none

/-- What a backslash stands for together with what follows it, and the text behind that. At the end
of a line it stands for nothing. -/
def escape? : List Char → Option (List Char × List Char)
  | '\n' :: cs => (afterLineEnd? false cs).map fun rest => ([], rest)
  | '\r' :: cs => (afterLineEnd? true cs).map fun rest => ([], rest)
  | cs => charEscape? cs

/-- What a text with escapes says up to its closing quote, and the text behind the quote. The end
of a line is one character, however it is written. The fuel bounds the length. -/
def textBody? : Nat → List Char → Option (List Char × List Char)
  | 0, _ => none
  | fuel + 1, cs =>
    match cs with
    | '"' :: cs => some ([], cs)
    | '\r' :: '\n' :: cs => (textBody? fuel cs).map fun (more, rest) => ('\n' :: more, rest)
    | '\r' :: _ => none
    | '\\' :: cs =>
      (escape? cs).bind fun (said, behind) =>
        (textBody? fuel behind).map fun (more, rest) => (said ++ more, rest)
    | c :: cs => (textBody? fuel cs).map fun (more, rest) => (c :: more, rest)
    | [] => none

/-- What the literal between quotes at the front of a text says, and the text behind it. -/
def textLiteral? : List Char → Option (String × List Char)
  | '"' :: cs => (textBody? (cs.length + 1) cs).map fun (said, rest) => (String.ofList said, rest)
  | _ => none

/-! ## Where a literal ends -/

theorem hexEscape?_behind (cs : List Char) :
    (hexEscape? cs).map Prod.snd = afterHexEscape? .text cs := by
  match cs with
  | [] => rfl
  | [_] => rfl
  | a :: b :: cs =>
    rw [hexEscape?, afterHexEscape?, isHex, isHex]
    cases Text.digitValue? 16 a with
    | none => rfl
    | some high =>
      cases Text.digitValue? 16 b with
      | none => rfl
      | some low =>
        simp only [Option.isSome_some, Bool.and_self, Bool.true_and]
        split <;> rfl

theorem unicodeEscape?_behind (cs : List Char) :
    (unicodeEscape? cs).map Prod.snd = afterUnicodeEscape? .text cs := by
  fun_cases unicodeEscape? cs with
  | case1 cs =>
    rw [afterUnicodeEscape?]
    cases unicodeDigits? 0 0 cs with
    | none => rfl
    | some read =>
      have any : (decide read.1.isValidChar && !(decide (QuoteKind.text = .terminated) &&
          decide (read.1 = 0))) = decide read.1.isValidChar := Bool.and_true _
      simp only [Option.bind_some, Option.bind_eq_bind, any, decide_eq_true_eq]
      split <;> rfl
  | case2 cs noBrace =>
    rw [afterUnicodeEscape?]
    · rfl
    · exact noBrace

theorem isSome_lookup (c : Char) (es : List (Char × Char)) :
    (es.lookup c).isSome = (es.map Prod.fst).contains c := by
  induction es with
  | nil => rfl
  | cons e es ih =>
    obtain ⟨name, said⟩ := e
    rw [List.map_cons, List.contains_cons, List.lookup_cons]
    cases c == name with
    | true => rfl
    | false => exact ih

theorem charEscape?_behind (cs : List Char) :
    (charEscape? cs).map Prod.snd = afterCharEscape? .text cs := by
  fun_cases charEscape? cs with
  | case1 cs => exact hexEscape?_behind cs
  | case2 cs => exact unicodeEscape?_behind cs
  | case3 cs => rfl
  | case4 c cs noX noU noZero =>
    have known : ['n', 'r', 't', '\\', '\'', '"'].contains c = (namedEscapes.lookup c).isSome :=
      (isSome_lookup c namedEscapes).symm
    rw [afterCharEscape?, known, Option.map_map]
    · cases namedEscapes.lookup c <;> rfl
    · exact noX
    · exact noU
    · exact noZero
  | case5 => rfl

theorem escape?_behind (cs : List Char) : (escape? cs).map Prod.snd = afterEscape? .text cs := by
  have all (rest : Option (List Char)) :
      (rest.map fun rest => (([] : List Char), rest)).map Prod.snd = rest := by
    cases rest <;> rfl
  fun_cases escape? cs with
  | case1 cs => exact all _
  | case2 cs => exact all _
  | case3 cs noFeed noReturn =>
    rw [afterEscape?]
    · exact charEscape?_behind cs
    · exact noFeed
    · exact noReturn

/-- A literal is read up to where the lexer says that it ends. -/
theorem textBody?_behind (fuel : Nat) (cs : List Char) :
    (textBody? fuel cs).map (fun read => afterSuffix read.2) = afterQuoted? .text fuel cs := by
  fun_induction textBody? fuel cs with
  | case1 => rfl
  | case2 => rfl
  | case3 fuel cs ih =>
    rw [afterQuoted?, ← ih, Option.map_map]
    rfl
  | case4 fuel cs noFeed =>
    rw [afterQuoted?]
    · rfl
    · exact noFeed
  | case5 fuel cs ih =>
    rw [afterQuoted?, ← escape?_behind]
    cases escape? cs with
    | none => rfl
    | some read =>
      rw [Option.map_some, Option.bind_some, Option.bind_some, ← ih, Option.map_map]
      rfl
  | case6 fuel c cs noQuote noLineEnd noReturn noBackslash ih =>
    rw [afterQuoted?, Option.map_map, ← ih]
    · rfl
    · exact noQuote
    · exact noLineEnd
    · exact noReturn
    · exact noBackslash
  | case7 => rfl

theorem quoted?_eq_textLiteral? (cs : List Char) :
    quoted? .text ('"' :: cs) =
      (textLiteral? ('"' :: cs)).map fun read => afterSuffix read.2 := by
  rw [quoted?, ← textBody?_behind, textLiteral?, Option.map_map]
  rfl

/-! ## Texts -/

/-- A character is written as an escape that stands for it, or as itself where it can be. -/
theorem encodeChar_cases (c : Char) :
    (∃ sign, encodeChar c = '\\' :: sign ∧ ∀ cs, escape? (sign ++ cs) = some ([c], cs)) ∨
      (encodeChar c = [c] ∧ c ≠ '"' ∧ c ≠ '\r' ∧ c ≠ '\\') := by
  unfold encodeChar
  split
  · rename_i zero
    subst zero
    exact .inl ⟨['0'], rfl, fun _ => rfl⟩
  split
  · rename_i tab
    subst tab
    exact .inl ⟨['t'], rfl, fun _ => rfl⟩
  split
  · rename_i feed
    subst feed
    exact .inl ⟨['n'], rfl, fun _ => rfl⟩
  split
  · rename_i carriage
    subst carriage
    exact .inl ⟨['r'], rfl, fun _ => rfl⟩
  split
  · rename_i quote
    subst quote
    exact .inl ⟨['"'], rfl, fun _ => rfl⟩
  split
  · rename_i backslash
    subst backslash
    exact .inl ⟨['\\'], rfl, fun _ => rfl⟩
  rename_i noReturn noQuote noBackslash
  split
  · exact .inr ⟨rfl, noQuote, noReturn, noBackslash⟩
  · refine .inl ⟨'u' :: '{' :: (hexDigits c.toNat ++ ['}']), rfl, fun cs => ?_⟩
    have read := unicodeDigits?_braced c cs
    have valid : c.toNat.isValidChar := c.valid
    have escape : unicodeEscape? ('{' :: (hexDigits c.toNat ++ '}' :: cs)) = some ([c], cs) := by
      rw [unicodeEscape?, read, Option.bind_some]
      dsimp only
      rw [if_pos valid, Char.ofNat_toNat]
    rw [List.cons_append, List.cons_append, List.append_assoc, List.singleton_append]
    exact escape

/-- Each character is read as a whole, be it escaped or not. -/
theorem textBody?_encodeChar (c : Char) (fuel : Nat) (cs : List Char) :
    textBody? (fuel + 1) (encodeChar c ++ cs) =
      (textBody? fuel cs).map fun (more, rest) => (c :: more, rest) := by
  rcases encodeChar_cases c with ⟨sign, written, read⟩ | ⟨written, noQuote, noReturn, noBackslash⟩
  · rw [written, List.cons_append, textBody?, read]
    rfl
  · rw [written, List.singleton_append, textBody?]
    · exact noQuote
    · exact fun _ same _ => noReturn same
    · exact noReturn
    · exact noBackslash

/-- A text between quotes says what was quoted, and ends with the quote that was put behind it. -/
theorem textBody?_encode (s : List Char) {fuel : Nat} (enough : s.length < fuel) :
    textBody? fuel (s.flatMap encodeChar ++ '"' :: rest) = some (s, rest) := by
  induction s generalizing fuel with
  | nil =>
    obtain ⟨fuel, rfl⟩ := Nat.exists_eq_add_of_lt enough
    rfl
  | cons c s ih =>
    obtain ⟨fuel, rfl⟩ : ∃ n, fuel = n + 1 := ⟨fuel - 1, by omega⟩
    rw [List.flatMap_cons, List.append_assoc, textBody?_encodeChar,
      ih (Nat.lt_of_succ_lt_succ enough)]
    rfl

theorem length_le_flatMap_encodeChar (s : List Char) :
    s.length ≤ (s.flatMap encodeChar).length := by
  have some (c : Char) : 0 < (encodeChar c).length := by
    unfold encodeChar
    repeat' split
    all_goals simp
  induction s with
  | nil => exact Nat.le_refl 0
  | cons c s ih =>
    have first := some c
    simp only [List.length_cons, List.flatMap_cons, List.length_append]
    omega

/-- A quoted text says what was quoted, whatever follows it. -/
theorem textLiteral?_encode (s : String) (rest : List Char) :
    textLiteral? ((Text.Quoted.encode s).toList ++ rest) = some (s, rest) := by
  have body : (Text.Quoted.encode s).toList ++ rest =
      '"' :: (s.toList.flatMap encodeChar ++ '"' :: rest) := by
    simp [Text.Quoted.encode, encodeChars]
  have enough := length_le_flatMap_encodeChar s.toList
  rw [body, textLiteral?, textBody?_encode, Option.map_some]
  · dsimp only
    rw [String.ofList_toList]
  · rw [List.length_append, List.length_cons]
    omega

/-- Quoted texts in front of what follows them are told apart by what was quoted. -/
theorem encode_append_inj {s t : String} {rest' : List Char} :
    (Text.Quoted.encode s).toList ++ rest = (Text.Quoted.encode t).toList ++ rest' ↔
      s = t ∧ rest = rest' := by
  constructor
  · intro same
    have read := textLiteral?_encode s rest
    rw [same, textLiteral?_encode t rest'] at read
    cases read
    exact ⟨rfl, rfl⟩
  · rintro ⟨rfl, rfl⟩
    rfl

/-- The lexer takes a quoted text for one literal, with the name that follows it at once. -/
theorem literal?_encodeChars (s : List Char) (rest : List Char) :
    literal? (encodeChars s ++ rest) = some (.str, afterSuffix rest) := by
  have read := textLiteral?_encode (String.ofList s) rest
  rw [Text.Quoted.encode, String.toList_ofList, String.toList_ofList] at read
  have quoted : quoted? .text (encodeChars s ++ rest) = some (afterSuffix rest) := by
    rw [encodeChars, List.cons_append, List.cons_append] at read ⊢
    rw [quoted?_eq_textLiteral?, read, Option.map_some]
  have bare : (expect? "".toList (encodeChars s ++ rest)).bind (quoted? .text) = _ := quoted
  simp only [literal?, bare]
  rfl

/-- A quoted text is one literal, if no name follows it at once. -/
theorem leaf?_encodeChars (s : List Char) (suffix : afterSuffix rest = rest) :
    leaf? (encodeChars s ++ rest) =
      some (.literal .str (String.ofList (encodeChars s)), rest) := by
  rw [leaf?, literal?_encodeChars, suffix]
  simp

end CrudForge.Grammar
