import CrudForge.Generation.Methods

/-!
From an entity to its service class. A generator is nothing but its naming conventions, so that
one serves any number of entities, one at a time.
-/

namespace CrudForge.Generation

/-- The name of the field of every service that holds its repository. -/
def repositoryField : String := "repository"

/-- The class that holds the methods of an entity. -/
def serviceClass (naming : NamingConfig) (entity : String) (methods : List Method) :
    ServiceClass where
  name := naming.serviceName entity
  repository :=
    { name := repositoryField, ty := .declared (naming.repositoryName entity), injected := true }
  methods := methods

/-- The service class of an entity, or the first error met. -/
def generate (naming : NamingConfig) (entity : EntityMetadata) :
    Except GenerationError ServiceClass :=
  if entity.name = "" then .error .emptyEntityName
  else if entity.crud.name ≠ entity.name then
    .error (.entityNameMismatch entity.name entity.crud.name)
  else
    (serviceClass naming entity.name ·) <$>
      methods entity.crud entity.idType entity.endpoints entity.toFieldResolver
        naming.accessorStyle

/-- The service classes of some entities, or the first error met. -/
def generateAll (naming : NamingConfig) (entities : List EntityMetadata) :
    Except GenerationError (List ServiceClass) :=
  entities.mapM (generate naming)

end CrudForge.Generation
