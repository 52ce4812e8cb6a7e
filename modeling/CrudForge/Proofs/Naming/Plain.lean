import CrudForge.Proofs.Grammar.Spelling
import CrudForge.Proofs.Naming.SnakeCase

/-!
# Plain names

A plain name is an ASCII word that is no keyword, neither as it stands nor in snake case. Both are
words then that can be written without further ado, and so are the getters of a plain name.
-/

namespace CrudForge.Naming

open Grammar (Word FreeWord keywords)
open Text (isIdentStart isIdentContinue)

/-- A character of an ASCII word. -/
def isWordChar (c : Char) : Bool := c.isAlphanum || c = '_'

/-- An ASCII letter with ASCII letters, digits and underscores behind it. -/
def isAsciiWord : List Char → Bool
  | [] => false
  | c :: cs => c.isAlpha && cs.all isWordChar

/-- An ASCII word that is no keyword and does not become one in snake case. -/
structure Plain (s : String) : Prop where
  ascii : isAsciiWord s.toList = true
  free : s ∉ keywords
  snakeFree : snakeCase s ∉ keywords

instance (s : String) : Decidable (Plain s) :=
  decidable_of_iff (isAsciiWord s.toList = true ∧ s ∉ keywords ∧ snakeCase s ∉ keywords)
    ⟨fun ⟨ascii, free, snakeFree⟩ => ⟨ascii, free, snakeFree⟩,
      fun ⟨ascii, free, snakeFree⟩ => ⟨ascii, free, snakeFree⟩⟩

variable {s : String} {c : Char} {cs : List Char}

/-! ## Characters -/

theorem toNat_lt_of_isWordChar (word : isWordChar c = true) : c.toNat < 128 := by
  rw [isWordChar, Bool.or_eq_true, decide_eq_true_eq] at word
  rcases word with alphanum | rfl
  · exact Text.toNat_lt_of_isAlphanum alphanum
  · decide

/-- What is to be known of the characters of an ASCII word. -/
theorem ascii_wordChar (small : c.toNat < 128) : isWordChar c = true →
    isIdentContinue c = true ∧ isIdentContinue c.toLower = true ∧
      isIdentContinue c.toUpper = true :=
  Text.of_ascii small (by decide)

theorem ascii_alpha (small : c.toNat < 128) : c.isAlpha = true →
    isIdentStart c = true ∧ isIdentStart c.toLower = true :=
  Text.of_ascii small (by decide)

theorem isWordChar_of_isAlpha (letter : c.isAlpha = true) : isWordChar c = true := by
  simp [isWordChar, Char.isAlphanum, letter]

theorem wordChar_cases (word : isWordChar c = true) :
    isIdentContinue c = true ∧ (∀ d ∈ Text.lowerChar c, isIdentContinue d = true) ∧
      ∀ d ∈ Text.upperChar c, isIdentContinue d = true := by
  have small := toNat_lt_of_isWordChar word
  obtain ⟨same, lower, upper⟩ := ascii_wordChar small word
  simp [Text.lowerChar, Text.upperChar, small, same, lower, upper]

theorem alpha_cases (letter : c.isAlpha = true) :
    isIdentStart c = true ∧ Text.lowerChar c = [c.toLower] ∧ isIdentStart c.toLower = true := by
  have small := toNat_lt_of_isWordChar (isWordChar_of_isAlpha letter)
  obtain ⟨start, lower⟩ := ascii_alpha small letter
  exact ⟨start, Text.lowerChar_ascii small, lower⟩

/-! ## Names as words -/

theorem snakeFrom_letters (afterUpper : Bool) (last : Option Char)
    (word : cs.all isWordChar = true) :
    ∀ d ∈ snakeFrom afterUpper last cs, isIdentContinue d = true := by
  have sign : isIdentContinue '_' = true := by decide
  refine (forall_mem_snakeFrom sign).2 fun c mem => ?_
  obtain ⟨same, lower, -⟩ := wordChar_cases (List.all_eq_true.1 word c mem)
  rw [snakeChar]
  split
  · exact lower
  · exact List.forall_mem_singleton.2 same

theorem word_of_asciiWord (ascii : isAsciiWord cs = true) : Word cs := by
  cases cs with
  | nil => cases ascii
  | cons c cs =>
    rw [isAsciiWord, Bool.and_eq_true] at ascii
    refine .intro (alpha_cases ascii.1).1 fun d mem => ?_
    exact (wordChar_cases (List.all_eq_true.1 ascii.2 d mem)).1

/-- An ASCII word is one in snake case. -/
theorem word_snakeCase (ascii : isAsciiWord s.toList = true) : Word (snakeCase s).toList := by
  rw [snakeCase, String.toList_ofList]
  generalize s.toList = cs at ascii
  cases cs with
  | nil => cases ascii
  | cons c cs =>
    rw [isAsciiWord, Bool.and_eq_true] at ascii
    obtain ⟨start, low, lower⟩ := alpha_cases ascii.1
    rw [snakeFrom]
    split
    · rw [low]
      exact .intro lower (snakeFrom_letters _ _ ascii.2)
    · exact .intro start (snakeFrom_letters _ _ ascii.2)

theorem Plain.freeWord (plain : Plain s) : FreeWord s :=
  ⟨word_of_asciiWord plain.ascii, plain.free⟩

theorem Plain.snake (plain : Plain s) : FreeWord (snakeCase s) :=
  ⟨word_snakeCase plain.ascii, plain.snakeFree⟩

theorem Plain.letters (plain : Plain s) : s.toList.all isWordChar = true := by
  obtain ⟨ascii, -⟩ := plain
  generalize s.toList = cs at ascii
  cases cs with
  | nil => rfl
  | cons c cs =>
    rw [isAsciiWord, Bool.and_eq_true] at ascii
    rw [List.all_cons, Bool.and_eq_true]
    exact ⟨isWordChar_of_isAlpha ascii.1, ascii.2⟩

/-! ## Names with a known beginning -/

/-- A word that begins like no keyword is none. -/
theorem freeWord_of_prefix {start : List Char} {w : String} (first : w.toList = start ++ cs)
    (none : ∀ k ∈ keywords, k.toList.take start.length ≠ start) (word : Word w.toList) :
    FreeWord w := by
  refine ⟨word, fun keyword => none w keyword ?_⟩
  rw [first, List.take_left]

/-- The getter of a plain name in snake case. -/
theorem Plain.getter (plain : Plain s) : FreeWord (snakeCase ("get_" ++ s)) := by
  have split : (snakeCase ("get_" ++ s)).toList =
      ['g', 'e', 't', '_'] ++ snakeFrom true none s.toList := by
    rw [snakeCase_getter, snakeCase, String.toList_append, String.toList_ofList,
      String.toList_ofList]
  refine freeWord_of_prefix split (by decide) ?_
  rw [split]
  refine .intro (by decide) fun d mem => ?_
  rcases List.mem_append.1 mem with first | later
  · have letters : ∀ d ∈ ['e', 't', '_'], isIdentContinue d = true :=
      List.all_iff_forall_prop.1 (by decide)
    exact letters d first
  · exact snakeFrom_letters _ _ plain.letters d later

/-- The getter of a plain name that is capitalized. -/
theorem Plain.bean (plain : Plain s) : FreeWord ("get" ++ capitalize s) := by
  have letters : ∀ d ∈ (capitalize s).toList, isIdentContinue d = true := by
    have all := plain.letters
    rw [capitalize]
    split
    · simp
    · rename_i c cs spelled
      rw [spelled, List.all_cons, Bool.and_eq_true] at all
      rw [String.toList_ofList]
      intro d mem
      rcases List.mem_append.1 mem with first | later
      · exact (wordChar_cases all.1).2.2 d first
      · exact (wordChar_cases (List.all_eq_true.1 all.2 d later)).1
  have split : ("get" ++ capitalize s).toList = ['g', 'e', 't'] ++ (capitalize s).toList :=
    String.toList_append
  refine freeWord_of_prefix split (by decide) ?_
  rw [split]
  refine .intro (by decide) fun d mem => ?_
  rcases List.mem_append.1 mem with first | later
  · have start : ∀ d ∈ ['e', 't'], isIdentContinue d = true :=
      List.all_iff_forall_prop.1 (by decide)
    exact start d first
  · exact letters d later

end CrudForge.Naming
