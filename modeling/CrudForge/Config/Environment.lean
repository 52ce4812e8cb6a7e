import CrudForge.Config.Basic

/-!
The variables of the environment, and those among them that stand for values of a configuration:
`SVCGEN__A__B_C` is the variable for the key `svcgen.a.b_c`.
-/

namespace CrudForge

/-- The variables of the environment, in order, each name once. -/
abbrev Environment := List (String × String)

namespace Environment

/-- The variables with one more, unless its name is taken. -/
def addNew (name value : String) (env : Environment) : Environment :=
  if (env.lookup name).isSome then env else env ++ [(name, value)]

/-- What the variables for values of a configuration begin with. -/
def variableStart : String := "SVCGEN__"

/-- What the keys of those values begin with. -/
def keyStart : String := "svcgen."

/-- The text with a dot for every two underscores, from the left. -/
def dotted : List Char → List Char
  | [] => []
  | '_' :: '_' :: cs => '.' :: dotted cs
  | c :: cs => c :: dotted cs

/-- What follows some characters at the front of a text. -/
def behind? : List Char → List Char → Option (List Char)
  | [], cs => some cs
  | _ :: _, [] => none
  | x :: xs, c :: cs => if x = c then behind? xs cs else none

/-- The key for which a variable stands. -/
def keyOf? (name : String) : Option String :=
  (behind? variableStart.toList name.toList).map fun rest =>
    keyStart ++ String.ofList (dotted (Text.lower (String.ofList rest)).toList)

/-- The entries with the values of the variables in front, the last one first. -/
def overlay : Environment → ConfigEntries → ConfigEntries
  | [], es => es
  | (name, value) :: env, es =>
    match keyOf? name with
    | some key => overlay env ((key, .string value) :: es)
    | none => overlay env es

end Environment
end CrudForge
