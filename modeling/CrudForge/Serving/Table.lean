import CrudForge.Serving.Repository

/-!
Tables: rows under whole numbers, in ascending order. A table is the memory of a repository, which
answers every call with one and the same error as long as it is out of order.
-/

namespace CrudForge

/-- Rows under keys that ascend. -/
structure Table (T : Type) where
  rows : List (Int × T)
  sorted : rows.Pairwise (·.1 < ·.1)

namespace Table

/-- The rows with one more, which replaces a row under the same key. -/
def putRow (key : Int) (row : T) : List (Int × T) → List (Int × T)
  | [] => [(key, row)]
  | (k, r) :: rest =>
    if key < k then (key, row) :: (k, r) :: rest
    else if key = k then (key, row) :: rest
    else (k, r) :: putRow key row rest

theorem mem_putRow {key : Int} {row : T} {rows : List (Int × T)} {p : Int × T}
    (h : p ∈ putRow key row rows) : p = (key, row) ∨ p ∈ rows := by
  induction rows with
  | nil => simpa [putRow] using h
  | cons q rest ih =>
    obtain ⟨k, r⟩ := q
    simp only [putRow] at h
    split at h
    · simpa using h
    · split at h
      · rcases List.mem_cons.1 h with h | h
        · exact .inl h
        · exact .inr (List.mem_cons_of_mem _ h)
      · rcases List.mem_cons.1 h with h | h
        · exact .inr (h ▸ List.mem_cons_self)
        · exact (ih h).imp id (List.mem_cons_of_mem _)

theorem sorted_putRow {key : Int} {row : T} {rows : List (Int × T)}
    (h : rows.Pairwise (·.1 < ·.1)) : (putRow key row rows).Pairwise (·.1 < ·.1) := by
  induction rows with
  | nil => simp [putRow]
  | cons q rest ih =>
    obtain ⟨k, r⟩ := q
    obtain ⟨hk, hrest⟩ := List.pairwise_cons.1 h
    simp only [putRow]
    split
    · next hlt =>
      refine List.pairwise_cons.2 ⟨fun p hp => ?_, h⟩
      rcases List.mem_cons.1 hp with rfl | hp
      · exact hlt
      · exact Int.lt_trans hlt (hk p hp)
    · split
      · next heq => exact List.pairwise_cons.2 ⟨heq ▸ hk, hrest⟩
      · next hlt hne =>
        refine List.pairwise_cons.2 ⟨fun p hp => ?_, ih hrest⟩
        rcases mem_putRow hp with rfl | hp
        · show k < key
          omega
        · exact hk p hp

/-- No rows. -/
def empty : Table T := ⟨[], .nil⟩

/-- The rows in ascending order of their keys. -/
def toList (t : Table T) : List T :=
  t.rows.map (·.2)

/-- The row under a key. -/
def get? (t : Table T) (key : Int) : Option T :=
  t.rows.lookup key

/-- A table with one more row, which replaces a row under the same key. -/
def put (t : Table T) (key : Int) (row : T) : Table T :=
  ⟨putRow key row t.rows, sorted_putRow t.sorted⟩

/-- A table without the row under a key. -/
def erase (t : Table T) (key : Int) : Table T :=
  ⟨t.rows.filter (·.1 != key), t.sorted.filter _⟩

end Table

/-- A table, with the error that it answers with while it is out of order. -/
structure Store (T : Type) where
  table : Table T
  fault : Option DataError := none

namespace Store

/-- Nothing kept, and in order. -/
def empty : Store T := { table := .empty }

/-- Gives an answer unless the store is out of order. -/
def guard (s : Store T) (answer : α) : Except DataError α :=
  match s.fault with
  | some e => .error e
  | none => .ok answer

/-- The repository of a store, for entities under whole numbers. -/
def repository (keyOf : T → Int) (keyOfId : ID → Int) : CrudRepository (Store T) ID T where
  findById id s := s.guard (s.table.get? (keyOfId id))
  findAll s := s.guard s.table.toList
  findAllPaged w s := s.guard (Page.slice s.table.toList w)
  save row s := s.guard (row, { s with table := s.table.put (keyOf row) row })
  deleteById id s :=
    s.guard ((s.table.get? (keyOfId id)).isSome, { s with table := s.table.erase (keyOfId id) })

end Store
end CrudForge
