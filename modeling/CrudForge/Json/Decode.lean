import CrudForge.Json.Basic

/-!
Decoding JSON values. A record is written as an object, whose other members do not matter, or as
an array of its members in order, which may stop early but must not go on. A choice is written
with a tag, which says what the rest is.
-/

namespace CrudForge.Json

/-- A text. -/
def asString? : Json → Option String
  | str s => some s
  | _ => none

/-- A truth value. -/
def asBool? : Json → Option Bool
  | bool b => some b
  | _ => none

/-- A whole number between two bounds, both included. -/
def asInt? (low high : Int) : Json → Option Int
  | int i => if low ≤ i && i ≤ high then some i else none
  | _ => none

/-- An unsigned word of 64 bits. -/
def asWord? (j : Json) : Option UInt64 :=
  (fun i => i.toNat.toUInt64) <$> asInt? 0 (Nat.pow 2 64 - 1) j

/-- A signed word of 64 bits. -/
def asInt64? : Json → Option Int :=
  asInt? (-(Nat.pow 2 63 : Int)) (Nat.pow 2 63 - 1)

/-- A floating-point number, which may be written as a whole one. -/
def asFloat? : Json → Option Float
  | float x => some x
  | int i => some (Float.ofInt i)
  | _ => none

/-- Values of one kind. -/
def asList? (decode : Json → Option α) : Json → Option (List α)
  | arr items => items.mapM decode
  | _ => none

/-- A value that may be missing. -/
def asOption? (decode : Json → Option α) : Json → Option (Option α)
  | null => some none
  | j => some <$> decode j

/-- The members of a record, one for each name. -/
def asRecord? (names : List String) : Json → Option (List (Option Json))
  | obj members => some (names.map fun name => members.lookup name)
  | arr items =>
    if items.length ≤ names.length then
      some (items.map some ++ List.replicate (names.length - items.length) none)
    else none
  | _ => none

/-- A member that must be there. -/
def required? (decode : Json → Option α) (member : Option Json) : Option α :=
  member.bind decode

/-- A member that has a value of its own if it is not there. -/
def defaulted? (decode : Json → Option α) (value : α) (member : Option Json) : Option α :=
  (member.map decode).getD (some value)

/-- A choice without contents: its name, or an object whose only member has that name and is
null. -/
def asName? : Json → Option String
  | str name => some name
  | obj [(name, null)] => some name
  | _ => none

/-- The tag of a choice whose other members stand beside the tag, and the record without it. -/
def asTagged? (tag : String) : Json → Option (String × Json)
  | obj members => do
    let name ← (members.lookup tag).bind asString?
    some (name, obj (members.filter (·.1 != tag)))
  | arr (str name :: rest) => some (name, arr rest)
  | _ => none

/-- The tag and the content of a choice that keeps them in members of their own. In an array both
must be there. -/
def asTaggedContent? (tag content : String) : Json → Option (String × Option Json)
  | obj members => do
    let name ← (members.lookup tag).bind asName?
    some (name, members.lookup content)
  | arr [name, content] => (fun name => (name, some content)) <$> asName? name
  | _ => none

/-- The content of a choice that has none; null counts as none. -/
def noContent? : Option Json → Option Unit
  | none | some null => some ()
  | _ => none

end CrudForge.Json
