/-!
JSON values. Whole numbers and floating-point numbers are told apart, as `1` and `1.0` are. An
object is a list of members; a member that comes again takes the place of the first.
-/

namespace CrudForge

/-- A JSON value. -/
inductive Json
  | null
  | bool (b : Bool)
  | int (i : Int)
  | float (x : Float)
  | str (s : String)
  | arr (items : List Json)
  | obj (members : List (String × Json))
  deriving Inhabited

namespace Json

/-- A natural number. -/
def nat (n : Nat) : Json := .int n

/-- An array of texts. -/
def strs (ss : List String) : Json := .arr (ss.map .str)

/-- The members of an object with one more, which replaces a member of the same name. -/
def setMember (name : String) (value : Json) : List (String × Json) → List (String × Json)
  | [] => [(name, value)]
  | (n, v) :: rest =>
    if n = name then (n, value) :: rest else (n, v) :: setMember name value rest

/-- A member of an object. -/
def member? (name : String) : Json → Option Json
  | obj members => members.lookup name
  | _ => none

end Json
end CrudForge
