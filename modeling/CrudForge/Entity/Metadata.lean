import CrudForge.Entity.Basic

/-!
What is known about an entity when its service is generated. `EntityMetadata` is all that
generation looks at; where it comes from is left open, and nothing says that the answers of a
provider fit together. `StaticEntity` is the provider that has all fields at hand.
-/

namespace CrudForge

/-- Looking up the fields of an entity. -/
structure FieldResolver where
  /-- The declared type of a field, if there is such a field. -/
  fieldType : String → Option String
  /-- The fields that are not transient, in order. -/
  nonTransient : List String

/-- What generation needs to know about one entity. -/
structure EntityMetadata extends FieldResolver where
  name : String
  /-- The type of the identifiers. -/
  idType : String
  crud : EntityConfig
  endpoints : List Endpoint

/-- A field of an entity. -/
structure EntityField where
  name : String
  ty : String
  transient : Bool := false
  deriving DecidableEq, Repr

/-- An entity of which everything is known. -/
structure StaticEntity where
  idType : String
  fields : List EntityField
  crud : EntityConfig
  endpoints : List Endpoint
  deriving DecidableEq, Repr

namespace StaticEntity

/-- The declared type of the first field of a name. -/
def fieldType (e : StaticEntity) (field : String) : Option String :=
  (e.fields.find? (·.name = field)).map (·.ty)

/-- The names of the fields that are not transient, in order. -/
def nonTransientFields (e : StaticEntity) : List String :=
  (e.fields.filter (!·.transient)).map (·.name)

/-- An entity as generation sees it. -/
def metadata (e : StaticEntity) : EntityMetadata where
  fieldType := e.fieldType
  nonTransient := e.nonTransientFields
  name := e.crud.name
  idType := e.idType
  crud := e.crud
  endpoints := e.endpoints

end StaticEntity
end CrudForge
