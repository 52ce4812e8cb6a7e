/-!
The reasons for which a service class cannot be generated. Generation stops at the first one and
never yields half a class.
-/

namespace CrudForge

/-- Why a service class cannot be generated. -/
inductive GenerationError
  /-- The entity has no name. -/
  | emptyEntityName
  /-- The entity goes by another name than its configuration. -/
  | entityNameMismatch (entity crud : String)
  /-- A filter names a field that the entity does not have. -/
  | unknownFilterField (entity field : String)
  /-- An endpoint does not say which entity declares it. -/
  | missingOwner (entity member : String)
  /-- Two parameters of a method have one name. -/
  | duplicateParameter (method name : String)
  /-- The body of a method is not sound. -/
  | malformedBody (method reason : String)
  deriving DecidableEq, Repr

/-- The text of a generation error. -/
def GenerationError.message : GenerationError → String
  | emptyEntityName => "Entity name must not be empty"
  | entityNameMismatch entity crud =>
    "Entity '" ++ entity ++ "' carries a CRUD configuration for '" ++ crud ++ "'"
  | unknownFilterField entity field =>
    "Filter field '" ++ field ++ "' is not a field of entity '" ++ entity ++ "'"
  | missingOwner entity member =>
    "Endpoint '" ++ member ++ "' of entity '" ++ entity ++ "' has no declaring entity"
  | duplicateParameter method name =>
    "Method '" ++ method ++ "' declares parameter '" ++ name ++ "' more than once"
  | malformedBody method reason => "Malformed body for method '" ++ method ++ "': " ++ reason

end CrudForge
