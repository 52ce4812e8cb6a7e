import CrudForge.Naming.Repeat
import Mathlib.Data.List.Nodup

/-!
# The first repeated name

`firstRepeat?` finds a name iff the names are not all different, and the one it finds is the first
that stands behind an equal one (`FirstRepeat`).
-/

namespace CrudForge.Naming

/-- `name` repeats an earlier name, and no name in front of it does. -/
def FirstRepeat (names : List String) (name : String) : Prop :=
  ∃ front back, names = front ++ name :: back ∧ front.Nodup ∧ name ∈ front

theorem firstRepeatFrom_eq_none_iff {seen names : List String} :
    firstRepeatFrom seen names = none ↔ names.Nodup ∧ ∀ name ∈ names, name ∉ seen := by
  induction names generalizing seen with
  | nil => simp [firstRepeatFrom]
  | cons name rest ih =>
    by_cases known : name ∈ seen
    · simp [firstRepeatFrom, known]
    · simp only [firstRepeatFrom, known, if_false, ih, List.nodup_cons, List.mem_cons,
        forall_eq_or_imp, not_or]
      constructor
      · rintro ⟨nodup, fresh⟩
        exact ⟨⟨fun again => (fresh name again).1 rfl, nodup⟩, not_false,
          fun x mem => (fresh x mem).2⟩
      · rintro ⟨⟨once, nodup⟩, -, fresh⟩
        exact ⟨nodup, fun x mem => ⟨fun same => once (same ▸ mem), fresh x mem⟩⟩

theorem firstRepeat?_eq_none_iff {names : List String} :
    firstRepeat? names = none ↔ names.Nodup := by
  simp [firstRepeat?, firstRepeatFrom_eq_none_iff]

/-- A name that is found repeats a known one or one in front of it, and those in front of it
repeat nothing. -/
theorem firstRepeatFrom_eq_some_iff {seen names : List String} {name : String} :
    firstRepeatFrom seen names = some name ↔
      ∃ front back, names = front ++ name :: back ∧
        firstRepeatFrom seen front = none ∧ (name ∈ seen ∨ name ∈ front) := by
  induction names generalizing seen with
  | nil => simp [firstRepeatFrom]
  | cons first rest ih =>
    by_cases known : first ∈ seen
    · simp only [firstRepeatFrom, known, if_true, Option.some.injEq]
      constructor
      · rintro rfl
        exact ⟨[], rest, rfl, rfl, .inl known⟩
      · rintro ⟨front, back, split, fresh, -⟩
        cases front with
        | nil => exact (List.cons.inj split).1
        | cons x front =>
          obtain ⟨rfl, -⟩ := List.cons.inj split
          simp [firstRepeatFrom, known] at fresh
    · simp only [firstRepeatFrom, known, if_false, ih, List.mem_cons]
      constructor
      · rintro ⟨front, back, rfl, fresh, found⟩
        refine ⟨first :: front, back, rfl, ?_, ?_⟩
        · simpa [firstRepeatFrom, known] using fresh
        · rcases found with (same | seen) | mem
          · exact .inr (by simp [same])
          · exact .inl seen
          · exact .inr (List.mem_cons_of_mem _ mem)
      · rintro ⟨front, back, split, fresh, found⟩
        cases front with
        | nil =>
          obtain ⟨rfl, -⟩ := List.cons.inj split
          simp [known] at found
        | cons x front =>
          obtain ⟨rfl, rfl⟩ := List.cons.inj split
          refine ⟨front, back, rfl, ?_, ?_⟩
          · simpa [firstRepeatFrom, known] using fresh
          · rcases found with seen | mem
            · exact .inl (.inr seen)
            · rcases List.mem_cons.1 mem with same | mem
              · exact .inl (.inl same)
              · exact .inr mem

theorem firstRepeat?_eq_some_iff {names : List String} {name : String} :
    firstRepeat? names = some name ↔ FirstRepeat names name := by
  simp [firstRepeat?, firstRepeatFrom_eq_some_iff, firstRepeatFrom_eq_none_iff, FirstRepeat]

end CrudForge.Naming
