/-!
The first name of a list that an earlier one repeats. Parameters of a method, methods of a class
and entities of a manifest are all told apart by name, and the first repetition is what is
reported.
-/

namespace CrudForge.Naming

/-- The first name that is in `seen` or equals one that stands before it in the list. -/
def firstRepeatFrom (seen : List String) : List String → Option String
  | [] => none
  | name :: rest => if name ∈ seen then some name else firstRepeatFrom (name :: seen) rest

/-- The first name that equals an earlier one. -/
def firstRepeat? (names : List String) : Option String :=
  firstRepeatFrom [] names

example : firstRepeat? ["id", "page", "page", "id"] = some "page" := by decide
example : firstRepeat? ["id", "page"] = none := by decide

end CrudForge.Naming
