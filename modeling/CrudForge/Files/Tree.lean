import CrudForge.Files.Content
import CrudForge.Files.Path

/-!
The files of a system: a tree, seen from its root, and the place in it where a program works. Paths
from the root begin there, and all others where the program works. What is at a place is told by
`FileTree.node?`, and what writing does is told in terms of it: nothing changes but the place that
is written to. The tree has no links in it, and all of it may be read and written.
-/

namespace CrudForge

/-- A place in a tree: the names on the way to it from the root. -/
abbrev Place := List String

/-- What is at a place. -/
inductive Entry
  | directory
  | file (content : FileContent)
  deriving DecidableEq, Repr

/-- A tree of files. -/
structure FileTree where
  /-- What is at places other than the root. -/
  entries : List (Place × Entry) := []
  /-- The working directory. -/
  here : Place := []
  deriving DecidableEq, Repr

namespace FileTree

/-- What is at a place. The root is a directory. -/
def node? (t : FileTree) (p : Place) : Option Entry :=
  if p = [] then some .directory else t.entries.lookup p

/-- The entries with one at a place, in the position of the one that was there, or at the end. -/
def putEntry (p : Place) (e : Entry) : List (Place × Entry) → List (Place × Entry)
  | [] => [(p, e)]
  | (q, f) :: rest => if q = p then (q, e) :: rest else (q, f) :: putEntry p e rest

theorem lookup_putEntry (p : Place) (e : Entry) (es : List (Place × Entry)) (q : Place) :
    (putEntry p e es).lookup q = if q = p then some e else es.lookup q := by
  induction es with
  | nil =>
    by_cases h : q = p
    · simp [putEntry, h]
    · simp [putEntry, List.lookup_cons, beq_eq_false_iff_ne.2 h, h]
  | cons x rest ih =>
    obtain ⟨r, f⟩ := x
    simp only [putEntry]
    split <;> rename_i hr
    · subst hr
      by_cases h : q = r
      · simp [h]
      · simp [List.lookup_cons, beq_eq_false_iff_ne.2 h, h]
    · by_cases h : q = r
      · subst h
        simp [hr]
      · simp [List.lookup_cons, beq_eq_false_iff_ne.2 h, ih]

/-- The tree with an entry at a place. -/
def put (t : FileTree) (p : Place) (e : Entry) : FileTree :=
  { t with entries := putEntry p e t.entries }

theorem node?_put (t : FileTree) {p : Place} (hp : p ≠ []) (e : Entry) (q : Place) :
    (t.put p e).node? q = if q = p then some e else t.node? q := by
  by_cases hq : q = []
  · subst hq
    simp [node?, hp.symm]
  · simp [node?, put, hq, lookup_putEntry]

/-! ## Paths in a tree -/

/-- The place to which parts of a path lead from another place. Only a directory leads anywhere,
and the one above the root is the root. -/
def walk (t : FileTree) : Place → List String → Except FileFault Place
  | p, [] => .ok p
  | p, part :: rest =>
    match t.node? p with
    | none => .error .missing
    | some (.file _) => .error .notDirectory
    | some .directory =>
      if part = "" || part = "." then t.walk p rest
      else if part = ".." then t.walk p.dropLast rest
      else if Path.isName part then t.walk (p ++ [part]) rest
      else .error .nameTooLong

/-- Where a path begins. -/
def start (t : FileTree) (path : String) : Place :=
  if Path.isAbsolute path then [] else t.here

/-- The place of a path. -/
def place (t : FileTree) (path : String) : Except FileFault Place := do
  Path.check path
  t.walk (t.start path) (Path.parts path)

/-- What is found at a path. -/
def look (t : FileTree) (path : String) : Found :=
  match t.place path with
  | .error _ => .nothing
  | .ok p =>
    match t.node? p with
    | none => .nothing
    | some .directory => .directory
    | some (.file content) => .file content

/-- The tree with a text in the file at a path. The directory of the file must be there. -/
def write (t : FileTree) (path text : String) : Except FileFault FileTree := do
  let p ← t.place path
  match t.node? p with
  | some .directory => .error .isDirectory
  | _ => .ok (t.put p (.file (.text text)))

/-! ## Making directories -/

/-- The tree with a directory at the end of a way, where nothing was. -/
def makeDirectory (t : FileTree) (p : Place) (way : List String) : Except FileFault FileTree := do
  let q ← t.walk p (Path.withoutSlashes way)
  match t.node? q with
  | some _ => .error .occupied
  | none => .ok (t.put q .directory)

/-- The tree with a directory at the end of a way, which may have been there before. -/
def ensureDirectory (t : FileTree) (p : Place) (way : List String) :
    FileTree × Except FileFault Unit :=
  match t.makeDirectory p way with
  | .ok t' => (t', .ok ())
  | .error fault =>
    match t.walk p way with
    | .ok q => (t, if t.node? q = some .directory then .ok () else .error fault)
    | .error _ => (t, .error fault)

/-- The tree with a directory at the end of the first way. If something is missing on that way, the
directories at the ends of the others are made before. -/
def makeWays (t : FileTree) (p : Place) : List (List String) → FileTree × Except FileFault Unit
  | [] => (t, .ok ())
  | way :: shorter =>
    match t.makeDirectory p way with
    | .error .missing =>
      match t.makeWays p shorter with
      | (t', .ok ()) => t'.ensureDirectory p way
      | failed => failed
    | _ => t.ensureDirectory p way

/-- The tree with the directory of a path and those around it, as far as they can be made. -/
def createDirs (t : FileTree) (path : String) : FileTree × Except FileFault Unit :=
  if path = "" then (t, .ok ())
  else
    match Path.check path with
    | .ok () => t.makeWays (t.start path) (Path.ways (Path.parts path))
    | .error fault => (t, .error fault)

end FileTree
end CrudForge
