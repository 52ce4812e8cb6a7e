import CrudForge.Naming.Basic
import CrudForge.Json.Decode

/-!
Naming conventions as JSON. Whatever is left out has its usual value.
-/

namespace CrudForge

open Json

/-- An accessor style as JSON. -/
def AccessorStyle.toJson (s : AccessorStyle) : Json := .str s.text

/-- The accessor style of a JSON value; letter case matters here. -/
def AccessorStyle.ofJson? (j : Json) : Option AccessorStyle := do
  match ← asName? j with
  | "field" => some field
  | "getter" => some getter
  | "bean" => some bean
  | _ => none

/-- Naming conventions as JSON. -/
def NamingConfig.toJson (n : NamingConfig) : Json :=
  .obj [("class_prefix", .str n.classPrefix), ("service_suffix", .str n.serviceSuffix),
    ("repository_suffix", .str n.repositorySuffix), ("accessor_style", n.accessorStyle.toJson)]

/-- The naming conventions of a JSON value. -/
def NamingConfig.ofJson? (j : Json) : Option NamingConfig := do
  let [pre, service, repository, style] ←
    asRecord? ["class_prefix", "service_suffix", "repository_suffix", "accessor_style"] j | none
  let usual : NamingConfig := {}
  let classPrefix ← defaulted? asString? usual.classPrefix pre
  let serviceSuffix ← defaulted? asString? usual.serviceSuffix service
  let repositorySuffix ← defaulted? asString? usual.repositorySuffix repository
  let accessorStyle ← defaulted? AccessorStyle.ofJson? usual.accessorStyle style
  return { classPrefix, serviceSuffix, repositorySuffix, accessorStyle }

end CrudForge
