import CrudForge.Code.Block
import CrudForge.Naming.Case

/-!
The naming conventions of generated classes: what is put around the name of an entity, and how a
method that answers with a field reads it from the entity.
-/

namespace CrudForge

/-- How a field is read from an entity. -/
inductive AccessorStyle
  /-- As it stands: `.status`. -/
  | field
  /-- By a getter: `.get_status()`. -/
  | getter
  /-- By a getter that capitalizes the field: `.getStatus()`. -/
  | bean
  deriving DecidableEq, Repr, Inhabited

namespace AccessorStyle

/-- The name of a style. -/
def text : AccessorStyle → String
  | field => "field"
  | getter => "getter"
  | bean => "bean"

/-- What stands behind an entity to read one of its fields. In the first two styles the member is
a name and takes the case of the output; the last fixes its case. -/
def accessor (style : AccessorStyle) (member : String) : CodeBlock :=
  match style with
  | field => { format := ".$N", args := [.name member] }
  | getter => { format := ".$N()", args := [.name ("get_" ++ member)] }
  | bean => { format := "$L", args := [.literal (".get" ++ Naming.capitalize member ++ "()")] }

end AccessorStyle

/-- A text that is the name of no accessor style. -/
structure UnknownAccessorStyle where
  text : String
  deriving DecidableEq, Repr

/-- The text of the error. -/
def UnknownAccessorStyle.message (e : UnknownAccessorStyle) : String :=
  "unknown accessor style '" ++ e.text ++ "' (expected field, getter or bean)"

/-- The accessor style of a name, whose letter case does not matter. -/
def AccessorStyle.ofText (s : String) : Except UnknownAccessorStyle AccessorStyle :=
  let name := Text.lower s
  if name = "field" then .ok .field
  else if name = "getter" then .ok .getter
  else if name = "bean" then .ok .bean
  else .error ⟨name⟩

/-- The naming conventions. -/
structure NamingConfig where
  classPrefix : String := ""
  serviceSuffix : String := "Service"
  repositorySuffix : String := "Repository"
  accessorStyle : AccessorStyle := .field
  deriving DecidableEq, Repr

namespace NamingConfig

/-- The name of the service of an entity. -/
def serviceName (naming : NamingConfig) (entity : String) : String :=
  naming.classPrefix ++ entity ++ naming.serviceSuffix

/-- The name of the repository of an entity. -/
def repositoryName (naming : NamingConfig) (entity : String) : String :=
  naming.classPrefix ++ entity ++ naming.repositorySuffix

end NamingConfig
end CrudForge
