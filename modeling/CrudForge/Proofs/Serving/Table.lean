import Mathlib.Data.List.Basic
import CrudForge.Serving.Table

/-!
# Tables as maps

A table is seen through its look-up: putting a row changes it at one key (`get?_put`), and so does
erasing one (`get?_erase`). Since the keys ascend, the rows of a table are exactly what it looks up
(`mem_rows_iff`).
-/

namespace CrudForge.Table

variable {T : Type} {key : Int} {row : T}

theorem lookup_putRow (key : Int) (row : T) (rows : List (Int × T)) (k : Int) :
    (putRow key row rows).lookup k = if k = key then some row else rows.lookup k := by
  induction rows with
  | nil =>
    by_cases here : k = key
    · rw [if_pos here, putRow, here, List.lookup_cons_self]
    · rw [if_neg here, putRow, List.lookup_cons, beq_eq_false_iff_ne.2 here]
  | cons first rest ih =>
    obtain ⟨k₀, r₀⟩ := first
    rw [putRow]
    by_cases here : k = key
    · subst here
      rw [if_pos rfl] at ih ⊢
      split
      · rw [List.lookup_cons_self]
      · split
        · rw [List.lookup_cons_self]
        · rename_i other
          rw [List.lookup_cons, beq_eq_false_iff_ne.2 other]
          exact ih
    · rw [if_neg here] at ih ⊢
      split
      · rw [List.lookup_cons, beq_eq_false_iff_ne.2 here]
      · split
        · rename_i same
          rw [List.lookup_cons, List.lookup_cons, ← same, beq_eq_false_iff_ne.2 here]
        · rw [List.lookup_cons, List.lookup_cons, ih]

theorem get?_put (t : Table T) (key : Int) (row : T) (k : Int) :
    (t.put key row).get? k = if k = key then some row else t.get? k :=
  lookup_putRow key row t.rows k

theorem lookup_erase (key : Int) (rows : List (Int × T)) (k : Int) :
    (rows.filter (·.1 != key)).lookup k = if k = key then none else rows.lookup k := by
  induction rows with
  | nil => simp
  | cons first rest ih =>
    obtain ⟨k₀, r₀⟩ := first
    rw [List.filter_cons]
    by_cases gone : k₀ = key
    · rw [if_neg (by simp [gone]), ih]
      by_cases here : k = key
      · rw [if_pos here, if_pos here]
      · rw [if_neg here, if_neg here, List.lookup_cons, beq_eq_false_iff_ne.2 (gone ▸ here)]
    · rw [if_pos (by simp [gone]), List.lookup_cons, List.lookup_cons, ih]
      by_cases first : k = k₀
      · subst first
        rw [if_neg gone, if_neg gone]
      · rw [beq_eq_false_iff_ne.2 first]

theorem get?_erase (t : Table T) (key k : Int) :
    (t.erase key).get? k = if k = key then none else t.get? k :=
  lookup_erase key t.rows k

/-- The rows of a table are what it looks up. -/
theorem mem_rows_iff (t : Table T) : (key, row) ∈ t.rows ↔ t.get? key = some row := by
  obtain ⟨rows, sorted⟩ := t
  show (key, row) ∈ rows ↔ rows.lookup key = some row
  induction rows with
  | nil => simp
  | cons first rest ih =>
    obtain ⟨k₀, r₀⟩ := first
    obtain ⟨below, ascending⟩ := List.pairwise_cons.1 sorted
    rw [List.mem_cons, List.lookup_cons, ih ascending]
    by_cases here : key = k₀
    · subst here
      rw [beq_self_eq_true]
      have once : rest.lookup key ≠ some row := by
        intro again
        have later := below (key, row) ((ih ascending).2 again)
        exact Int.lt_irrefl key later
      simp [once, eq_comm]
    · rw [beq_eq_false_iff_ne.2 here]
      simp [here]

end CrudForge.Table
