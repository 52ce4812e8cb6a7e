/-!
What is asked of the service of an entity: whether its listing comes in pages, which fields it
filters by, and which members have a method of their own.
-/

namespace CrudForge

/-- The fields by which a listing is filtered. -/
inductive FilterSpec
  /-- The listing is not filtered. -/
  | unfiltered
  /-- By every field that is not transient, looked up when the service is generated. -/
  | wildcard
  /-- By the fields of a list. -/
  | fields (names : List String)
  deriving DecidableEq, Repr

namespace FilterSpec

/-- The filter that a list of names stands for; only a star on its own is the wildcard. -/
def ofList : List String → FilterSpec
  | [] => unfiltered
  | ["*"] => wildcard
  | names => fields names

/-- The list of names that a filter is written as. -/
def toList : FilterSpec → List String
  | unfiltered => []
  | wildcard => ["*"]
  | fields names => names

/-- Whether the listing is not filtered. -/
def isUnfiltered : FilterSpec → Bool
  | unfiltered => true
  | _ => false

end FilterSpec

/-- What the service of an entity offers. -/
structure EntityConfig where
  name : String
  pagination : Bool := false
  filter : FilterSpec := .unfiltered
  deriving DecidableEq, Repr

/-- A parameter of a callable member. -/
structure EndpointParam where
  name : String
  ty : String
  deriving DecidableEq, Repr

/-- A member of an entity that has a method of its own. -/
inductive Endpoint
  /-- The method answers with a field. -/
  | field (name owner : String)
  /-- The method calls a method of the entity. -/
  | callable (name owner : String) (params : List EndpointParam)
  deriving DecidableEq, Repr

namespace Endpoint

/-- The name of the member. -/
def name : Endpoint → String
  | field name _ | callable name _ _ => name

/-- The entity that declares the member. -/
def owner : Endpoint → String
  | field _ owner | callable _ owner _ => owner

end Endpoint
end CrudForge
