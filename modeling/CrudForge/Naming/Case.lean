import CrudForge.Text.Case

/-!
How names change case: `capitalize` raises the first character, and `snakeCase` turns
`camelCase` and `PascalCase` into `snake_case`. Names that are already in snake case stay as they
are, and a run of capitals is one word (`HTTPCode` becomes `httpcode`).
-/

namespace CrudForge.Naming

/-- A name with its first character in upper case and the rest untouched. -/
def capitalize (name : String) : String :=
  match name.toList with
  | [] => ""
  | c :: rest => String.ofList (Text.upperChar c ++ rest)

/-- Snake case of the rest of a name. `afterUpper` tells whether the character before was
uppercase, which also holds at the beginning; `last` is the last character written so far. An
uppercase character begins a new word unless one precedes it or the word break is there already. -/
def snakeFrom (afterUpper : Bool) (last : Option Char) : List Char → List Char
  | [] => []
  | c :: rest =>
    if Text.isUpper c then
      let low := Text.lowerChar c
      let word := if !afterUpper && last != some '_' then '_' :: low else low
      word ++ snakeFrom true (word.getLast?.or last) rest
    else
      c :: snakeFrom false (some c) rest

/-- A name in snake case. -/
def snakeCase (name : String) : String :=
  String.ofList (snakeFrom true none name.toList)

example : snakeCase "orderLine" = "order_line" := by decide +kernel
example : snakeCase "HTTPCode" = "httpcode" := by decide +kernel
example : snakeCase "already_Snake" = "already_snake" := by decide +kernel

end CrudForge.Naming
