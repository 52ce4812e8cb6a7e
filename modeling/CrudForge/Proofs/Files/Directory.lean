import Mathlib.Data.List.Induction
import CrudForge.Proofs.Files.Tree

/-!
# Making directories

Making the directories of a path adds directories where nothing was, and leaves everything else as
it is (`Grows`). A path may lead to more places in the grown tree than before. But if it never goes
up, and around everything in the tree there was a directory (`Closed`), then it leads to no file
to which it did not lead before (`Grows.place?_of_file`).
-/

namespace CrudForge.FileTree

variable {t t' : FileTree} {path : String} {parts : List String} {p q : Place}
  {content : FileContent}

/-- A tree with everything that another one has, and with directories where that has nothing. -/
structure Grows (t t' : FileTree) : Prop where
  here : t'.here = t.here
  node : ∀ q, t'.node? q = t.node? q ∨ t.node? q = none ∧ t'.node? q = some .directory

theorem Grows.refl (t : FileTree) : Grows t t := ⟨rfl, fun _ => .inl rfl⟩

theorem Grows.trans {t'' : FileTree} (first : Grows t t') (second : Grows t' t'') :
    Grows t t'' := by
  refine ⟨second.here.trans first.here, fun q => ?_⟩
  rcases first.node q with same | ⟨free, made⟩
  · rcases second.node q with same' | ⟨free', made'⟩
    · exact .inl (same'.trans same)
    · exact .inr ⟨same.symm.trans free', made'⟩
  · rcases second.node q with same' | ⟨free', -⟩
    · exact .inr ⟨free, same'.trans made⟩
    · rw [made] at free'
      cases free'

/-- The files of a grown tree are those that were there before. -/
theorem Grows.node?_eq_file_iff (grows : Grows t t') :
    t'.node? q = some (.file content) ↔ t.node? q = some (.file content) := by
  rcases grows.node q with same | ⟨free, made⟩
  · rw [same]
  · rw [free, made]
    simp

theorem grows_put (free : t.node? p = none) : Grows t (t.put p .directory) := by
  have below : p ≠ [] := by
    intro root
    rw [root] at free
    cases free
  refine ⟨rfl, fun q => ?_⟩
  rw [node?_put t below]
  by_cases here : q = p
  · rw [if_pos here, here]
    exact .inr ⟨free, rfl⟩
  · rw [if_neg here]
    exact .inl rfl

theorem grows_makeDirectory {way : List String} (made : t.makeDirectory p way = .ok t') :
    Grows t t' := by
  obtain ⟨q, -, made⟩ := Outcome.bind_eq_ok_iff.1 made
  split at made
  · cases made
  · rename_i free
    cases made
    exact grows_put free

theorem grows_ensureDirectory (t : FileTree) (p : Place) (way : List String) :
    Grows t (t.ensureDirectory p way).1 := by
  rw [ensureDirectory]
  split
  · rename_i made
    exact grows_makeDirectory made
  · split <;> exact .refl t

theorem grows_makeWays (t : FileTree) (p : Place) (ways : List (List String)) :
    Grows t (t.makeWays p ways).1 := by
  induction ways with
  | nil => exact .refl t
  | cons way shorter ih =>
    rw [makeWays]
    split
    · split
      · rename_i made
        rw [made] at ih
        exact ih.trans (grows_ensureDirectory _ p way)
      · exact ih
    · exact grows_ensureDirectory t p way

theorem grows_createDirs (t : FileTree) (path : String) : Grows t (t.createDirs path).1 := by
  rw [createDirs]
  split
  · exact .refl t
  · split
    · exact grows_makeWays t _ _
    · exact .refl t

example : ({} : FileTree).createDirs "a/../b/" =
    ({ entries := [(["a"], .directory), (["b"], .directory)] }, .ok ()) := by
  decide +kernel

-- Nothing is made at the end of a path that says that it is there.
example : ({} : FileTree).createDirs "a/b/." =
    ({ entries := [(["a"], .directory)] }, .error .missing) := by
  decide +kernel

/-- The tree in which there is something at a path: a directory, if nothing was there. -/
def withDirectory (t : FileTree) (path : String) : FileTree :=
  if t.look path = .nothing then (t.createDirs path).1 else t

theorem grows_withDirectory (t : FileTree) (path : String) : Grows t (t.withDirectory path) := by
  rw [withDirectory]
  split
  · exact grows_createDirs t path
  · exact .refl t

/-! ## Paths that never go up -/

/-- Around everything in a tree there is a directory. -/
def Closed (t : FileTree) : Prop :=
  ∀ p name, t.node? (p ++ [name]) ≠ none → t.node? p = some .directory

theorem closed_of_entries (around : ∀ e ∈ t.entries, t.node? e.1.dropLast = some .directory) :
    t.Closed := by
  intro p name found
  rw [node?, if_neg (List.concat_ne_nil name p)] at found
  have some : ∃ e ∈ t.entries, e.1 = p ++ [name] := by
    by_contra none
    refine found (List.lookup_eq_none_iff.2 fun e mem => ?_)
    rw [bne_iff_ne]
    exact fun same => none ⟨e, mem, same.symm⟩
  obtain ⟨e, mem, place⟩ := some
  have directory := around e mem
  rw [place, List.dropLast_concat] at directory
  exact directory

theorem Closed.directory_of_append (closed : t.Closed) {rest : Place} (below : rest ≠ [])
    (found : t.node? (p ++ rest) ≠ none) : t.node? p = some .directory := by
  induction rest using List.reverseRecOn with
  | nil => exact absurd rfl below
  | append_singleton front name ih =>
    rw [← List.append_assoc] at found
    have around : t.node? (p ++ front) = some .directory := closed (p ++ front) name found
    by_cases last : front = []
    · rw [last, List.append_nil] at around
      exact around
    · refine ih last ?_
      rw [around]
      exact Option.some_ne_none _

/-- A way that never goes up ends below where it begins. -/
theorem isPrefix_of_walk (straight : ".." ∉ parts) (walked : t.walk p parts = .ok q) : p <+: q := by
  induction parts generalizing p with
  | nil =>
    cases walked
    exact List.prefix_refl _
  | cons part rest ih =>
    have here : part ≠ ".." := fun up => straight (up ▸ List.mem_cons_self)
    have later : ".." ∉ rest := fun mem => straight (List.mem_cons_of_mem part mem)
    obtain ⟨-, walked⟩ := walk_cons_eq_ok_iff.1 walked
    rw [if_neg here] at walked
    split at walked
    · exact ih later walked
    · split at walked
      · exact (List.prefix_append p [part]).trans (ih later walked)
      · cases walked

theorem Grows.walk_of_file (grows : Grows t t') (closed : t.Closed) (straight : ".." ∉ parts)
    (walked : t'.walk p parts = .ok q) (file : t.node? q = some (.file content)) :
    t.walk p parts = .ok q := by
  induction parts generalizing p with
  | nil => exact walked
  | cons part rest ih =>
    have here : part ≠ ".." := fun up => straight (up ▸ List.mem_cons_self)
    have later : ".." ∉ rest := fun mem => straight (List.mem_cons_of_mem part mem)
    obtain ⟨below, ends⟩ := isPrefix_of_walk straight walked
    obtain ⟨directory, walked⟩ := walk_cons_eq_ok_iff.1 walked
    -- The way ends at a file, and so it goes on from here, which is a directory.
    have onward : below ≠ [] := by
      intro stays
      rw [stays, List.append_nil] at ends
      rw [ends, grows.node?_eq_file_iff.2 file] at directory
      cases directory
    have around : t.node? p = some .directory := by
      refine closed.directory_of_append onward ?_
      rw [ends, file]
      exact Option.some_ne_none _
    refine walk_cons_eq_ok_iff.2 ⟨around, ?_⟩
    rw [if_neg here] at walked ⊢
    split at walked
    · rename_i same
      rw [if_pos same]
      exact ih later walked
    · rename_i other
      rw [if_neg other]
      split at walked
      · rename_i name
        rw [if_pos name]
        exact ih later walked
      · cases walked

/-- A path that never goes up leads to no file in a grown tree to which it did not lead before. -/
theorem Grows.place?_of_file (grows : Grows t t') (closed : t.Closed)
    (straight : ".." ∉ Path.parts path) (placed : t'.place? path = some q)
    (file : t.node? q = some (.file content)) : t.place? path = some q := by
  rw [place?_eq_some_iff_walk, start_congr grows.here] at placed
  rw [place?_eq_some_iff_walk]
  exact ⟨placed.1, grows.walk_of_file closed straight placed.2 file⟩

end CrudForge.FileTree
