import CrudForge.Config.Property
import CrudForge.Naming.Basic
import CrudForge.Rendering.Options

/-!
The sections of a configuration that mean something: the naming conventions and the options of
rendering. A property without a value has its default.
-/

namespace CrudForge

/-- A section of a configuration, which is read as a value of a type. -/
structure ConfigSection (α : Type) where
  /-- The key in front of the keys of the properties. -/
  path : String
  properties : List Property
  read : Config → Except ConfigError α

namespace NamingConfig

/-- The key of the section of naming conventions. -/
def path : String := "svcgen.naming"

/-- The properties of naming conventions. -/
def properties : List Property :=
  [{ key := "class_prefix", typeName := "String", default := some ""
     description := "Prepended to service and repository type names" },
    { key := "service_suffix", typeName := "String", default := some "Service"
      description := "Appended to the entity name to form the service name" },
    { key := "repository_suffix", typeName := "String", default := some "Repository"
      description := "Appended to the entity name to form the repository type" },
    { key := "accessor_style", typeName := "String", default := some "field"
      description := "Field endpoint accessor: field, getter or bean" }]

/-- The accessor style of a configuration. -/
def styleOf (c : Config) : Except ConfigError AccessorStyle :=
  let key := path ++ ".accessor_style"
  match c.get .string key with
  | .ok name => (AccessorStyle.ofText name).mapError fun e => .invalid key e.message
  | .error (.notFound _) => .ok ({} : NamingConfig).accessorStyle
  | .error e => .error e

/-- The naming conventions of a configuration. The accessor style is looked at first. -/
def ofConfig (c : Config) : Except ConfigError NamingConfig := do
  let standard : NamingConfig := {}
  let accessorStyle ← styleOf c
  let classPrefix ← c.getOr .string (path ++ ".class_prefix") standard.classPrefix
  let serviceSuffix ← c.getOr .string (path ++ ".service_suffix") standard.serviceSuffix
  let repositorySuffix ←
    c.getOr .string (path ++ ".repository_suffix") standard.repositorySuffix
  return { classPrefix, serviceSuffix, repositorySuffix, accessorStyle }

/-- The section of naming conventions. -/
def configSection : ConfigSection NamingConfig := { path, properties, read := ofConfig }

end NamingConfig

namespace RenderOptions

/-- The key of the section of the options of rendering. -/
def path : String := "svcgen.render"

/-- The properties that are options of rendering. -/
def properties : List Property :=
  [{ key := "imports", typeName := "Vec<String>", default := none
     description := "Use paths added to every generated file" },
    { key := "bean_wiring", typeName := "bool", default := some "false"
      description := "Annotate the generated constructor with #[bean]" }]

/-- The options of rendering of a configuration. -/
def ofConfig (c : Config) : Except ConfigError RenderOptions := do
  let imports ← c.getOr (.list .string) (path ++ ".imports") []
  let beanWiring ← c.getOr .bool (path ++ ".bean_wiring") false
  return { imports, beanWiring }

/-- The section of the options of rendering. -/
def configSection : ConfigSection RenderOptions := { path, properties, read := ofConfig }

end RenderOptions
end CrudForge
