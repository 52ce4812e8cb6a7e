import CrudForge.Proofs.Files.Tree
import CrudForge.Proofs.Text.Split

/-!
# Paths of files in one directory

A file whose name is a part of a path by itself (`Plain`) stands in its directory under that name.
So two paths into one directory lead to one place iff the names are the same
(`place?_join_eq_iff`).
-/

namespace CrudForge

/-! ## Parts -/

namespace Path

/-- A name that is a part of a path by itself, and leads to a file of that name. -/
structure Plain (name : String) : Prop where
  whole : '/' ∉ name.toList
  allowed : isName name = true
  nonempty : name ≠ ""
  dot : name ≠ "."
  dots : name ≠ ".."

/-- The parts of a path that come from the directory. -/
def directoryParts (directory : String) : List String :=
  if directory = "" then []
  else if directory.toList.getLast? = some '/' then (parts directory).dropLast
  else parts directory

theorem parts_of_whole {name : String} (whole : '/' ∉ name.toList) : parts name = [name] := by
  rw [parts, Text.split, Text.splitChars_of_notMem whole, List.map_singleton, String.ofList_toList]

theorem parts_append {path front name : String} (whole : '/' ∉ name.toList)
    (split : path.toList = front.toList ++ '/' :: name.toList) :
    parts path = parts front ++ [name] := by
  rw [parts, Text.split, split, Text.splitChars_append, List.map_append, ← parts_of_whole whole]
  rfl

/-- A path that ends with a slash ends with the empty part. -/
theorem parts_of_slash {directory : String} (slash : directory.toList.getLast? = some '/') :
    ∃ front : String, directory.toList = front.toList ++ ['/'] ∧
      parts directory = parts front ++ [""] := by
  obtain ⟨front, ends⟩ := List.getLast?_eq_some_iff.1 slash
  refine ⟨String.ofList front, by rw [ends, String.toList_ofList], ?_⟩
  rw [parts, Text.split, ends, Text.splitChars_append, List.map_append, parts, Text.split,
    String.toList_ofList]
  rfl

/-- A name without slashes does not begin at the root. -/
theorem join_of_whole (directory : String) {name : String} (whole : '/' ∉ name.toList) :
    join directory name =
      if directory = "" then name
      else if directory.toList.getLast? = some '/' then directory ++ name
      else directory ++ "/" ++ name := by
  have relative : name.toList.head? ≠ some '/' := fun root =>
    whole (List.mem_of_mem_head? root)
  simp [join, relative]

/-- A path that ends with a name without slashes ends with the part of that name. -/
theorem parts_join (directory : String) {name : String} (whole : '/' ∉ name.toList) :
    parts (join directory name) = directoryParts directory ++ [name] := by
  rw [join_of_whole directory whole, directoryParts]
  split
  · exact parts_of_whole whole
  · split
    · rename_i slash
      obtain ⟨front, ends, trailing⟩ := parts_of_slash slash
      have path : (directory ++ name).toList = front.toList ++ '/' :: name.toList := by
        rw [String.toList_append, ends, List.append_assoc, List.singleton_append]
      rw [parts_append whole path, trailing, List.dropLast_concat]
    · refine parts_append whole ?_
      rw [String.append_assoc, String.toList_append, String.toList_append]
      rfl

/-! ## Beginnings -/

/-- A text is a path to the system if it is not empty, has no zero byte and is not too long. -/
theorem check_eq_ok_iff {path : String} :
    check path = .ok () ↔
      path ≠ "" ∧ '\x00' ∉ path.toList ∧ path.utf8ByteSize < 4096 := by
  by_cases empty : path = ""
  · simp [check, empty]
  · by_cases zero : '\x00' ∈ path.toList
    · simp [check, empty, zero]
    · by_cases long : 4096 ≤ path.utf8ByteSize
      · simp [check, empty, zero, long]
      · simp [check, empty, zero, long, Nat.not_le.1 long]

/-- What a path begins with is a path, unless it is empty. -/
theorem check_of_append {front back : String} (nonempty : front ≠ "")
    (checked : check (front ++ back) = .ok ()) : check front = .ok () := by
  obtain ⟨-, noZero, short⟩ := check_eq_ok_iff.1 checked
  rw [String.toList_append, List.mem_append, not_or] at noZero
  rw [String.utf8ByteSize_append] at short
  exact check_eq_ok_iff.2 ⟨nonempty, noZero.1, by omega⟩

/-- The path of a file in a directory begins with that of the directory. -/
theorem exists_join_eq (directory : String) {name : String} (whole : '/' ∉ name.toList) :
    ∃ back, join directory name = directory ++ back := by
  rw [join_of_whole directory whole]
  split
  · rename_i empty
    rw [empty]
    exact ⟨name, String.empty_append.symm⟩
  · split
    · exact ⟨name, rfl⟩
    · exact ⟨"/" ++ name, String.append_assoc⟩

theorem isAbsolute_join (directory : String) {name : String} (whole : '/' ∉ name.toList) :
    isAbsolute (join directory name) = isAbsolute directory := by
  have relative : isAbsolute name = false := decide_eq_false fun root =>
    whole (List.mem_of_mem_head? root)
  by_cases empty : directory = ""
  · rw [empty, join_of_whole "" whole, if_pos rfl, relative]
    rfl
  · obtain ⟨back, same⟩ := exists_join_eq directory whole
    have nonempty : directory.toList ≠ [] := fun none => empty (String.toList_inj.1 none)
    rw [same, isAbsolute, isAbsolute, String.toList_append, List.head?_append_of_ne_nil _ nonempty]

end Path

/-! ## Places -/

namespace FileTree

variable {t : FileTree} {p q : Place} {directory a b : String}

theorem walk_append (t : FileTree) (p : Place) (xs ys : List String) :
    t.walk p (xs ++ ys) = t.walk p xs >>= fun q => t.walk q ys := by
  induction xs generalizing p with
  | nil => rfl
  | cons part xs ih =>
    rw [List.cons_append, walk, walk]
    rcases t.node? p with _ | _ | content
    · rfl
    · by_cases here : (part = "" || part = ".") = true
      · simp only [if_pos here, ih]
      · by_cases up : part = ".."
        · rw [if_neg here, if_neg here, if_pos up, if_pos up, ih]
        · by_cases name : Path.isName part = true
          · rw [if_neg here, if_neg here, if_neg up, if_neg up, if_pos name, if_pos name, ih]
          · rw [if_neg here, if_neg here, if_neg up, if_neg up, if_neg name, if_neg name]
            rfl
    · rfl

theorem walk_plain {name : String} (plain : Path.Plain name) :
    t.walk p [name] = .ok q ↔ t.node? p = some .directory ∧ q = p ++ [name] := by
  have other : (name = "" || name = ".") = false := by
    simp [plain.nonempty, plain.dot]
  rw [walk_cons_eq_ok_iff, other, if_neg Bool.false_ne_true, if_neg plain.dots,
    if_pos plain.allowed, walk, Except.ok.injEq]
  exact and_congr_right fun _ => eq_comm

theorem start_join (t : FileTree) (directory : String) {name : String}
    (whole : '/' ∉ name.toList) : t.start (Path.join directory name) = t.start directory := by
  rw [start, start, Path.isAbsolute_join directory whole]

/-- A file with a plain name stands in its directory under that name. -/
theorem place?_join_eq_some_iff {name : String} (plain : Path.Plain name) :
    t.place? (Path.join directory name) = some q ↔
      Path.check (Path.join directory name) = .ok () ∧
      ∃ p, t.walk (t.start directory) (Path.directoryParts directory) = .ok p ∧
        t.node? p = some .directory ∧ q = p ++ [name] := by
  rw [place?_eq_some_iff_walk, start_join t directory plain.whole,
    Path.parts_join directory plain.whole, walk_append, Outcome.bind_eq_ok_iff]
  exact and_congr_right fun _ => exists_congr fun p => and_congr_right fun _ => walk_plain plain

/-- A path only leads to a place if its last part can be a name. -/
theorem isName_of_place? {name : String} (whole : '/' ∉ name.toList) (nonempty : name ≠ "")
    (dot : name ≠ ".") (dots : name ≠ "..")
    (placed : t.place? (Path.join directory name) = some p) : Path.isName name = true := by
  rw [place?_eq_some_iff_walk, Path.parts_join directory whole, walk_append,
    Outcome.bind_eq_ok_iff] at placed
  obtain ⟨-, q, -, last⟩ := placed
  have other : (name = "" || name = ".") = false := by
    simp [nonempty, dot]
  rw [walk_cons_eq_ok_iff, other, if_neg Bool.false_ne_true, if_neg dots] at last
  by_contra long
  rw [if_neg long] at last
  exact absurd last.2.symm Outcome.ok_ne_error

/-- A directory in which a path leads to a file is at the end of its own path. -/
theorem place?_of_join {name : String} (plain : Path.Plain name) (nonempty : directory ≠ "")
    (placed : t.place? (Path.join directory name) = some q) :
    ∃ p, t.place? directory = some p ∧ t.node? p = some .directory := by
  obtain ⟨checked, p, walked, there, -⟩ := (place?_join_eq_some_iff plain).1 placed
  obtain ⟨back, same⟩ := Path.exists_join_eq directory plain.whole
  rw [same] at checked
  refine ⟨p, place?_eq_some_iff_walk.2 ⟨Path.check_of_append nonempty checked, ?_⟩, there⟩
  rw [Path.directoryParts, if_neg nonempty] at walked
  by_cases slash : directory.toList.getLast? = some '/'
  · rw [if_pos slash] at walked
    obtain ⟨front, -, trailing⟩ := Path.parts_of_slash slash
    rw [trailing, List.dropLast_concat] at walked
    rw [trailing, walk_append, walked]
    exact walk_cons_eq_ok_iff.2 ⟨there, rfl⟩
  · rwa [if_neg slash] at walked

/-- Plain names in one directory lead to one place iff they are the same. -/
theorem place?_join_eq_iff (plainA : Path.Plain a) (plainB : Path.Plain b)
    (placed : t.place? (Path.join directory a) = some p) :
    t.place? (Path.join directory a) = t.place? (Path.join directory b) ↔ a = b := by
  constructor
  · intro same
    obtain ⟨-, q, walked, -, rfl⟩ := (place?_join_eq_some_iff plainA).1 placed
    obtain ⟨-, q', walked', -, ends⟩ := (place?_join_eq_some_iff plainB).1 (same ▸ placed)
    cases walked.symm.trans walked'
    exact (List.cons.inj (List.append_cancel_left ends)).1
  · rintro rfl
    rfl

end FileTree
end CrudForge
