import CrudForge.Files.Tree
import CrudForge.Proofs.Outcome

/-!
# Places of paths

Where a path leads depends on the directories of a tree and on the place of the working directory
alone, and writing makes no directory and replaces none. So a path leads to one place before a file
is written and behind it (`sameDirectories_of_write`), and what is at a place is what was written
there last (`node?_of_write`).
-/

namespace CrudForge.FileTree

variable {t t' : FileTree} {path text : String} {p q : Place}

/-- Two trees have the same directories, and a program works at the same place in them. -/
structure SameDirectories (t t' : FileTree) : Prop where
  here : t'.here = t.here
  directory : ∀ p, t'.node? p = some .directory ↔ t.node? p = some .directory

theorem walk_cons_eq_ok_iff {part : String} {rest : List String} :
    t.walk p (part :: rest) = .ok q ↔
      t.node? p = some .directory ∧
        (if part = "" || part = "." then t.walk p rest
        else if part = ".." then t.walk p.dropLast rest
        else if Path.isName part then t.walk (p ++ [part]) rest
        else .error .nameTooLong) = .ok q := by
  rw [walk]
  cases t.node? p with
  | none => simp
  | some e => cases e <;> simp

theorem SameDirectories.walk_eq_ok_iff (same : SameDirectories t t') {parts : List String} :
    t'.walk p parts = .ok q ↔ t.walk p parts = .ok q := by
  induction parts generalizing p with
  | nil => rfl
  | cons part rest ih =>
    rw [walk_cons_eq_ok_iff, walk_cons_eq_ok_iff, same.directory p]
    refine and_congr_right fun _ => ?_
    split
    · exact ih
    · split
      · exact ih
      · split
        · exact ih
        · rfl

theorem start_congr (same : t'.here = t.here) (path : String) : t'.start path = t.start path := by
  rw [start, start, same]

/-- A path leads to a place if it is one to the system, and its parts lead there from where it
begins. -/
theorem place_eq_ok_iff :
    t.place path = .ok q ↔
      Path.check path = .ok () ∧ t.walk (t.start path) (Path.parts path) = .ok q := by
  rw [place, Outcome.bind_eq_ok_iff]
  constructor
  · rintro ⟨⟨⟩, checked, walked⟩
    exact ⟨checked, walked⟩
  · rintro ⟨checked, walked⟩
    exact ⟨(), checked, walked⟩

example : ({ entries := [(["srv"], .directory)], here := ["srv"] } : FileTree).place "../x" =
    .ok ["x"] := rfl

example : ({ entries := [(["srv"], .directory)], here := ["srv"] } : FileTree).place "/srv/x" =
    .ok ["srv", "x"] := rfl

theorem SameDirectories.place_eq_ok_iff (same : SameDirectories t t') :
    t'.place path = .ok p ↔ t.place path = .ok p := by
  rw [FileTree.place_eq_ok_iff, FileTree.place_eq_ok_iff, start_congr same.here,
    same.walk_eq_ok_iff]

/-- The place to which a path leads, if it leads anywhere. -/
def place? (t : FileTree) (path : String) : Option Place :=
  (t.place path).toOption

theorem place?_eq_some_iff : t.place? path = some p ↔ t.place path = .ok p := by
  rw [place?]
  cases t.place path <;> simp [Except.toOption]

theorem place?_eq_some_iff_walk :
    t.place? path = some q ↔
      Path.check path = .ok () ∧ t.walk (t.start path) (Path.parts path) = .ok q :=
  place?_eq_some_iff.trans place_eq_ok_iff

theorem SameDirectories.place?_eq (same : SameDirectories t t') (path : String) :
    t'.place? path = t.place? path :=
  Option.ext fun p => by rw [place?_eq_some_iff, place?_eq_some_iff, same.place_eq_ok_iff]

theorem SameDirectories.refl (t : FileTree) : SameDirectories t t := ⟨rfl, fun _ => Iff.rfl⟩

theorem SameDirectories.trans {t'' : FileTree} (first : SameDirectories t t')
    (second : SameDirectories t' t'') : SameDirectories t t'' :=
  ⟨second.here.trans first.here, fun p => (second.directory p).trans (first.directory p)⟩

/-! ## Writing -/

theorem write_eq_ok_iff :
    t.write path text = .ok t' ↔
      ∃ p, t.place? path = some p ∧ t.node? p ≠ some .directory ∧
        t.put p (.file (.text text)) = t' := by
  simp only [write, Outcome.bind_eq_ok_iff, place?_eq_some_iff]
  refine exists_congr fun p => and_congr_right fun _ => ?_
  split
  · rename_i directory
    simp [directory]
  · rename_i other
    have file : t.node? p ≠ some .directory := other
    simp [file]

/-- What is written to is at no root. -/
theorem ne_nil_of_node? (file : t.node? p ≠ some .directory) : p ≠ [] := by
  rintro rfl
  exact file rfl

theorem sameDirectories_of_write (written : t.write path text = .ok t') :
    SameDirectories t t' := by
  obtain ⟨p, -, file, rfl⟩ := write_eq_ok_iff.1 written
  refine ⟨rfl, fun q => ?_⟩
  rw [node?_put t (ne_nil_of_node? file)]
  split
  · rename_i same
    simp [same, file]
  · rfl

/-- A text is at the place it is written to, and everything else stays. -/
theorem node?_of_write (written : t.write path text = .ok t') (placed : t.place? path = some p)
    (q : Place) :
    t'.node? q = if q = p then some (.file (.text text)) else t.node? q := by
  obtain ⟨p', placed', file, rfl⟩ := write_eq_ok_iff.1 written
  cases placed.symm.trans placed'
  exact node?_put t (ne_nil_of_node? file) _ q

/-! ## Looking -/

theorem look_eq_file_iff {content : FileContent} :
    t.look path = .file content ↔
      ∃ p, t.place? path = some p ∧ t.node? p = some (.file content) := by
  simp only [look, place?_eq_some_iff]
  cases t.place path with
  | error fault => simp
  | ok p =>
    cases found : t.node? p with
    | none => simp [found]
    | some e => cases e <;> simp [found]

theorem look_eq_file_iff_of_place? (placed : t.place? path = some p) {content : FileContent} :
    t.look path = .file content ↔ t.node? p = some (.file content) := by
  rw [look_eq_file_iff, placed]
  simp only [Option.some.injEq, exists_eq_left']

theorem look_eq_nothing_iff :
    t.look path = .nothing ↔ ∀ p, t.place? path = some p → t.node? p = none := by
  simp only [look, place?_eq_some_iff]
  cases t.place path with
  | error fault => simp
  | ok p =>
    cases found : t.node? p with
    | none => simp [found]
    | some e => cases e <;> simp [found]

theorem text_eq_ok_iff {found : Found} :
    found.text = .ok text ↔ found = .file (.text text) := by
  cases found with
  | nothing | directory => simp [Found.text]
  | file content => cases content <;> simp [Found.text]

/-- A path finds the same in two trees if its place has the same in both. -/
theorem SameDirectories.look_eq (same : SameDirectories t t')
    (kept : ∀ p, t.place? path = some p → t'.node? p = t.node? p) : t'.look path = t.look path := by
  rw [look, look]
  cases place : t.place path with
  | ok p =>
    rw [same.place_eq_ok_iff.2 place]
    dsimp only
    rw [kept p (place?_eq_some_iff.2 place)]
  | error fault =>
    cases place' : t'.place path with
    | error fault' => rfl
    | ok p =>
      rw [same.place_eq_ok_iff.1 place'] at place
      cases place

end CrudForge.FileTree
