import Mathlib.Data.List.DropRight
import CrudForge.Text.Blank

/-!
# Texts in pieces

A text is split at its separators whatever stands between them (`splitChars_append`), and so texts
that are joined by a mark are told apart again if none of them holds it
(`split_intercalate_of_notMem`). Blanks at the ends of a line do not count, and so the carriage
return at its end does not either (`hasLine_iff`).
-/

namespace CrudForge.Text

variable {cs xs ys word : List Char} {s : String}

/-! ## Splitting -/

theorem splitChars_ne_nil (sep : Char) (cs : List Char) : splitChars sep cs ≠ [] := by
  cases cs with
  | nil => exact List.cons_ne_nil _ _
  | cons c cs =>
    rw [splitChars]
    split
    · exact List.cons_ne_nil _ _
    · split <;> exact List.cons_ne_nil _ _

theorem splitChars_append (sep : Char) (xs ys : List Char) :
    splitChars sep (xs ++ sep :: ys) = splitChars sep xs ++ splitChars sep ys := by
  induction xs with
  | nil => simp [splitChars]
  | cons x xs ih =>
    rw [List.cons_append, splitChars, splitChars]
    split
    · rw [ih, List.cons_append]
    · rw [ih]
      cases pieces : splitChars sep xs with
      | nil => exact absurd pieces (splitChars_ne_nil sep xs)
      | cons piece rest => rfl

theorem splitChars_of_notMem {sep : Char} {cs : List Char} (free : sep ∉ cs) :
    splitChars sep cs = [cs] := by
  induction cs with
  | nil => rfl
  | cons c cs ih =>
    have other : c ≠ sep := fun same => free (same ▸ List.mem_cons_self)
    rw [splitChars, if_neg other, ih fun mem => free (List.mem_cons_of_mem c mem)]

/-! ## Trimming -/

/-- Nothing is cut off a text that has no blank at either end. -/
theorem trimChars_eq_self (first : ∀ c ∈ cs.head?, isBlank c = false)
    (last : ∀ c ∈ cs.getLast?, isBlank c = false) : trimChars cs = cs := by
  have front : cs.dropWhile isBlank = cs := by
    cases cs with
    | nil => rfl
    | cons c cs => rw [List.dropWhile_cons, first c rfl, if_neg Bool.false_ne_true]
  have back : dropEndWhile isBlank cs = cs := by
    refine List.rdropWhile_eq_self_iff.2 fun more => ?_
    rw [last _ (List.getLast?_eq_some_getLast more)]
    exact Bool.false_ne_true
  rw [trimChars, front, back]

theorem trimChars_append_blank {c : Char} (blank : isBlank c = true) (cs : List Char) :
    trimChars (cs ++ [c]) = trimChars cs := by
  rw [trimChars, trimChars, List.dropWhile_append]
  cases front : cs.dropWhile isBlank with
  | nil => simp [blank]
  | cons d ds =>
    rw [List.isEmpty_cons, if_neg Bool.false_ne_true, dropEndWhile, List.reverse_append,
      List.reverse_singleton, List.singleton_append, List.dropWhile_cons, if_pos blank]
    rfl

theorem trimChars_append_blanks {blanks : List Char} (blank : ∀ c ∈ blanks, isBlank c = true) :
    trimChars (cs ++ blanks) = trimChars cs := by
  induction blanks using List.reverseRecOn with
  | nil => rw [List.append_nil]
  | append_singleton blanks c ih =>
    rw [List.forall_mem_append, List.forall_mem_singleton] at blank
    rw [← List.append_assoc, trimChars_append_blank blank.2, ih blank.1]

theorem trimChars_blanks_append {blanks : List Char} (blank : ∀ c ∈ blanks, isBlank c = true) :
    trimChars (blanks ++ cs) = trimChars cs := by
  rw [trimChars, trimChars, List.dropWhile_append_of_pos blank]

theorem trimChars_dropReturn (line : List Char) : trimChars (dropReturn line) = trimChars line := by
  rw [dropReturn]
  split
  · rename_i rest ends
    have whole : line = rest.reverse ++ ['\r'] := by
      rw [← List.reverse_reverse line, ends, List.reverse_cons]
    rw [whole, trimChars_append_blank (by decide +kernel)]
  · rfl

/-! ## Items between commas -/

/-- A text that can be told from what is around it: it is not empty, has no comma in it, and no
blank at either end. -/
structure Item (s : String) : Prop where
  nonempty : s ≠ ""
  comma : ',' ∉ s.toList
  first : ∀ c ∈ s.toList.head?, isBlank c = false
  last : ∀ c ∈ s.toList.getLast?, isBlank c = false

/-- Blanks are looked for at both ends, not among all characters there are. -/
instance (s : String) : Decidable (Item s) :=
  decidable_of_iff (s ≠ "" ∧ ',' ∉ s.toList ∧ s.toList.head?.all (!isBlank ·) = true ∧
      s.toList.getLast?.all (!isBlank ·) = true) <| by
    simp only [Option.all_eq_true, Bool.not_eq_true']
    exact ⟨fun ⟨nonempty, comma, first, last⟩ => ⟨nonempty, comma, first, last⟩,
      fun item => ⟨item.nonempty, item.comma, item.first, item.last⟩⟩

theorem trim_of_item (item : Item s) : trim s = s := by
  rw [trim, trimChars_eq_self item.first item.last, String.ofList_toList]

theorem split_intercalate_of_notMem {sep : Char} {mark : String} (single : mark.toList = [sep])
    {texts : List String} (free : ∀ s ∈ texts, sep ∉ s.toList) (more : texts ≠ []) :
    split sep (mark.intercalate texts) = texts := by
  induction texts with
  | nil => exact absurd rfl more
  | cons s texts ih =>
    obtain ⟨own, free⟩ := List.forall_mem_cons.1 free
    have one : splitChars sep s.toList = [s.toList] := splitChars_of_notMem own
    cases texts with
    | nil => rw [String.intercalate_singleton, split, one, List.map_singleton, String.ofList_toList]
    | cons s' texts =>
      rw [String.intercalate_cons_cons, split, String.toList_append, String.toList_append, single,
        List.append_assoc, List.singleton_append, splitChars_append, one, List.map_append,
        List.map_singleton, String.ofList_toList]
      exact congrArg (s :: ·) (ih free (List.cons_ne_nil _ _))

/-- A text with blanks around it. -/
def Padded (s piece : String) : Prop :=
  ∃ before after, piece.toList = before ++ s.toList ++ after ∧
    ∀ c ∈ before ++ after, isBlank c = true

theorem Padded.refl : Padded s s :=
  ⟨[], [], (List.append_nil _).symm, nofun⟩

theorem Padded.trim {piece : String} (padded : Padded s piece) : trim piece = trim s := by
  obtain ⟨before, after, split, blank⟩ := padded
  obtain ⟨front, back⟩ := List.forall_mem_append.1 blank
  rw [Text.trim, split, trimChars_append_blanks back, trimChars_blanks_append front, Text.trim]

/-- A comma is no blank, and so it is in a padded text only if it is in the text. -/
theorem Padded.comma {piece : String} (padded : Padded s piece) (free : ',' ∉ s.toList) :
    ',' ∉ piece.toList := by
  obtain ⟨before, after, split, blank⟩ := padded
  obtain ⟨front, back⟩ := List.forall_mem_append.1 blank
  have visible : ¬ isBlank ',' = true := by decide
  rw [split, List.mem_append, List.mem_append]
  rintro ((mem | mem) | mem)
  · exact visible (front _ mem)
  · exact free mem
  · exact visible (back _ mem)

/-! ## Lines -/

/-- Between two line feeds of a text, or at one of its ends, there is a word and nothing else but
blanks. -/
def HasLine (cs word : List Char) : Prop :=
  ∃ piece ∈ splitChars '\n' cs, trimChars piece = word

theorem hasLine_append : HasLine (xs ++ '\n' :: ys) word ↔ HasLine xs word ∨ HasLine ys word := by
  simp only [HasLine, splitChars_append, List.mem_append, or_and_right, exists_or]

theorem hasLine_of_notMem (free : '\n' ∉ cs) : HasLine cs word ↔ trimChars cs = word := by
  simp only [HasLine, splitChars_of_notMem free, List.mem_singleton, exists_eq_left]

theorem not_hasLine_nil (some : word ≠ []) : ¬ HasLine [] word := by
  rw [hasLine_of_notMem List.not_mem_nil]
  exact some.symm

/-- Only blank lines are told from others by the ways in which lines can end. -/
theorem hasLine_iff (some : word ≠ []) :
    HasLine cs word ↔ ∃ line ∈ lineChars cs, trimChars line = word := by
  obtain ⟨init, last, pieces⟩ : ∃ init last, splitChars '\n' cs = init ++ [last] :=
    ⟨_, _, (List.dropLast_append_getLast (splitChars_ne_nil '\n' cs)).symm⟩
  have lines : lineChars cs = init.map dropReturn ++ if last.isEmpty then [] else [last] := by
    rw [lineChars, pieces, List.dropLast_concat, List.getLast?_concat]
    rfl
  rw [HasLine, lines, pieces]
  simp only [List.mem_append, or_and_right, exists_or]
  refine or_congr ?_ ?_
  · simp [trimChars_dropReturn]
  cases last with
  | nil =>
    have blank : trimChars [] ≠ word := some.symm
    simp [blank]
  | cons c last => rfl

end CrudForge.Text
