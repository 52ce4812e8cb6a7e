/-!
What can be chosen about the files that services are written to.
-/

namespace CrudForge

/-- The options of rendering. -/
structure RenderOptions where
  /-- What is imported besides what every service needs. -/
  imports : List String := []
  /-- Whether a container may build the service by its constructor. -/
  beanWiring : Bool := false
  deriving DecidableEq, Repr

end CrudForge
