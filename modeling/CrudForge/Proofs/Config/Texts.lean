import CrudForge.Proofs.Config.Overrides
import CrudForge.Proofs.Decimal.Whole
import CrudForge.Proofs.Text.Ascii

/-!
# Values and their texts

A variable of the environment holds a text, where a file can hold a number, a truth value or a
list. Nothing is lost by that: whatever a single value is read as, its text is read as the same
(`base?_string_of_text?`), and whatever a list is read as, the texts of its items between commas
are (`convert_eq_convert_text`).
-/

namespace CrudForge.ConfigValue

variable {v : ConfigValue} {s key : String} {b : BaseKind}

/-! ## Single values -/

theorem isBlank_of_isDigit {c : Char} (digit : c.isDigit = true) : Text.isBlank c = false := by
  have small := Text.toNat_lt_of_isDigit digit
  revert digit
  exact Text.of_ascii small (by decide)

theorem isBlank_of_mem_repr {i : Int} {c : Char} (mem : c ∈ i.repr.toList) :
    Text.isBlank c = false := by
  rcases Decimal.isDigit_or_minus_of_mem_repr mem with digit | rfl
  · exact isBlank_of_isDigit digit
  · decide

theorem inInt64_toInt (i : Int64) : Decimal.inInt64 i.toInt = true := by
  rw [Decimal.inInt64, Bool.and_eq_true, decide_eq_true_eq, decide_eq_true_eq]
  exact ⟨i.le_toInt, i.toInt_lt⟩

/-- Every signed word is read back from its digits. -/
theorem integer?_repr (i : Int64) : (string i.toInt.repr).integer? = some i := by
  have trimmed : Text.trimChars i.toInt.repr.toList = i.toInt.repr.toList :=
    Text.trimChars_eq_self (fun _ first => isBlank_of_mem_repr (List.mem_of_mem_head? first))
      fun _ last => isBlank_of_mem_repr (List.mem_of_mem_getLast? last)
  rw [integer?, trimmed, Decimal.intOfChars?_repr, Option.filter_some, if_pos (inInt64_toInt i),
    Option.map_some, Int64.ofInt_toInt]

/-- A value that is read as one of the types that values are made of has a text. -/
theorem exists_text?_of_base? {x : (Kind.base b).Carrier} (read : v.base? b = some x) :
    ∃ s, v.text? = some s := by
  cases v with
  | null => cases b <;> cases read
  | list items => cases b <;> cases read
  | _ => exact ⟨_, rfl⟩

/-- The text of a value is read as what the value is read as. -/
theorem base?_string_of_text? {x : (Kind.base b).Carrier} (read : v.base? b = some x)
    (text : v.text? = some s) : (string s).base? b = some x := by
  cases b with
  | string =>
    have same : some s = some x := text.symm.trans read
    exact same
  | integer =>
    cases v with
    | integer i =>
      cases text
      exact (integer?_repr i).trans read
    | string s =>
      cases text
      exact read
    | _ => cases read
  | bool =>
    cases v with
    | bool t =>
      cases text
      exact (convert_base_eq_ok_iff.1 (RenderOptions.convert_bool t "")).trans read
    | string s =>
      cases text
      exact read
    | _ => cases read

/-! ## Lists -/

/-- What is known of each item by its value is known of it by its text. -/
theorem forall₂_base?_of_text? {vs : List ConfigValue} {xs : List (Kind.base b).Carrier}
    {texts : List String} (read : List.Forall₂ (fun v x => v.base? b = some x) vs xs)
    (spelled : List.Forall₂ (fun v s => v.text? = some s) vs texts) :
    List.Forall₂ (fun v x => v.base? b = some x) (texts.map string) xs := by
  induction read generalizing texts with
  | nil =>
    cases spelled
    exact .nil
  | cons head _ ih =>
    cases spelled with
    | cons text rest => exact .cons (base?_string_of_text? head text) (ih rest)

/-- A value that is read as one of the types that values are made of has a text, and the text is
read as the same. If a list is read as values of such a type, and its items have texts that can be
told apart between commas, then those texts, joined by commas with any blanks around each of them,
are read as the same list. -/
theorem convert_eq_convert_text (b : BaseKind) :
    (∀ (v : ConfigValue) (key : String) (x : (Kind.base b).Carrier),
      v.convert (.base b) key = .ok x →
      ∃ s, (∀ k, v.convert .string k = .ok s) ∧ ∀ k, (string s).convert (.base b) k = .ok x) ∧
    ∀ (vs : List ConfigValue) (key : String) (xs : List (Kind.base b).Carrier)
      (texts pieces : List String), (list vs).convert (.list (.base b)) key = .ok xs →
      List.Forall₂ (fun v s => v.convert .string key = .ok s) vs texts →
      (∀ s ∈ texts, Text.Item s) → List.Forall₂ Text.Padded texts pieces →
      ∀ k, (string (",".intercalate pieces)).convert (.list (.base b)) k = .ok xs := by
  refine ⟨fun v key x read => ?_, fun vs key xs texts pieces read spelled items padded k => ?_⟩
  · have base := convert_base_eq_ok_iff.1 read
    obtain ⟨s, text⟩ := exists_text?_of_base? base
    exact ⟨s, fun k => convert_base_eq_ok_iff.2 text,
      fun k => convert_base_eq_ok_iff.2 (base?_string_of_text? base text)⟩
  · rw [convert] at read
    have bases := convertItems_base_eq_ok_iff.1 read
    have named := spelled.imp fun v s text => convert_base_eq_ok_iff.1 text
    rw [convert, parts_intercalate items padded]
    exact convertItems_base_eq_ok_iff.2 (forall₂_base?_of_text? bases named)

/-- The smallest number there is, and a text that spells a number with a sign. -/
def mixedNumbers : List ConfigValue :=
  [integer Int64.minValue, string "+7"]

theorem convert_eq_convert_text_mixedNumbers :
    (list mixedNumbers).convert (.list .integer) "k" = .ok [Int64.minValue, 7] ∧
      (string "-9223372036854775808,  +7 ").convert (.list .integer) "k" =
        .ok [Int64.minValue, 7] ∧
      ∃ s, (∀ k, (integer Int64.minValue).convert .string k = .ok s) ∧
        ∀ k, (string s).convert .integer k = .ok Int64.minValue := by
  have read : (list mixedNumbers).convert (.list .integer) "k" = .ok [Int64.minValue, 7] := by
    decide +kernel
  have spelled : List.Forall₂ (fun v s => v.convert .string "k" = .ok s) mixedNumbers
      ["-9223372036854775808", "+7"] :=
    .cons (by decide +kernel) (.cons (by decide +kernel) .nil)
  have blanks : ∀ c ∈ [' ', ' '] ++ [' '], Text.isBlank c = true :=
    List.all_eq_true.1 (by decide)
  have padded : List.Forall₂ Text.Padded ["-9223372036854775808", "+7"]
      ["-9223372036854775808", "  +7 "] :=
    .cons .refl (.cons ⟨[' ', ' '], [' '], by decide, blanks⟩ .nil)
  have both := convert_eq_convert_text .integer
  exact ⟨read, both.2 _ _ _ _ _ read spelled (by decide +kernel) padded "k",
    both.1 (integer Int64.minValue) "k" _ rfl⟩

end CrudForge.ConfigValue
