import CrudForge.Files.Content
import CrudForge.Text.Blank

/-!
Paths: how they are written, how one is put behind another, and the paths of the directories
around one.
-/

namespace CrudForge.Path

/-- The path of a file in a directory. A path from the root stands on its own, and nothing comes
between a file and the empty path. -/
def join (directory file : String) : String :=
  if directory = "" || file.toList.head? = some '/' then file
  else if directory.toList.getLast? = some '/' then directory ++ file
  else directory ++ "/" ++ file

/-- The parts of a path between slashes. Slashes at the beginning or the end, or next to each
other, have the empty part between them. -/
def parts (path : String) : List String :=
  Text.split '/' path

/-- Whether a path begins at the root and not where the program works. -/
def isAbsolute (path : String) : Bool :=
  path.toList.head? = some '/'

/-- Whether a part of a path can be the name of a file or directory. -/
def isName (part : String) : Bool :=
  part.utf8ByteSize ≤ 255

/-- Fails for a text that is no path to the system, whatever files there are. -/
def check (path : String) : Except FileFault Unit :=
  if path = "" then .error .missing
  else if path.toList.contains '\x00' then .error .zeroByte
  else if 4096 ≤ path.utf8ByteSize then .error .nameTooLong
  else .ok ()

/-- Parts without the empty ones at the end. -/
def withoutSlashes (parts : List String) : List String :=
  (parts.reverse.dropWhile (· = "")).reverse

/-- The beginnings of some parts, behind those in front of them, that end with a name or with two
dots; the longest one comes first. -/
def waysFrom (front : List String) : List String → List (List String)
  | [] => []
  | part :: rest =>
    let longer := waysFrom (front ++ [part]) rest
    if part = "" || part = "." then longer else longer ++ [front ++ [part]]

/-- The parts of a path, and of the paths of the directories around it, the nearest one first. What
is written behind a name, such as a slash or a single dot, belongs to the path itself alone. -/
def ways (parts : List String) : List (List String) :=
  match waysFrom [] parts with
  | [] => []
  | _ :: shorter => parts :: shorter

example : ways ["a", "..", "b", ""] = [["a", "..", "b", ""], ["a", ".."], ["a"]] := by decide

end CrudForge.Path
