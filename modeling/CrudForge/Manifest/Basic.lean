import CrudForge.Entity.Metadata

/-!
A manifest: what is declared about each of some entities. Nothing says yet that the declarations
fit together.
-/

namespace CrudForge

/-- The declaration of an endpoint. It should name a field or a method. -/
structure EndpointDeclaration where
  field : Option String := none
  method : Option String := none
  /-- The entity that has the member; the one that the endpoint belongs to if it is left out. -/
  owner : Option String := none
  params : List EndpointParam := []
  deriving DecidableEq, Repr

/-- The declaration of an entity. -/
structure EntityDeclaration where
  name : String
  idType : String := "i64"
  fields : List EntityField := []
  pagination : Bool := false
  filter : List String := []
  endpoints : List EndpointDeclaration := []
  deriving DecidableEq, Repr

/-- A manifest. -/
structure Manifest where
  entities : List EntityDeclaration := []
  deriving DecidableEq, Repr

end CrudForge
