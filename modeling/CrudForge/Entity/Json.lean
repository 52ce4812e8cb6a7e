import CrudForge.Entity.Basic
import CrudForge.Json.Decode

/-!
The configuration of an entity as JSON. A filter is written as the list of its names.
-/

namespace CrudForge

open Json

/-- A filter as JSON. -/
def FilterSpec.toJson (f : FilterSpec) : Json := .strs f.toList

/-- The filter of a JSON value. -/
def FilterSpec.ofJson? (j : Json) : Option FilterSpec :=
  ofList <$> asList? asString? j

/-- The configuration of an entity as JSON. -/
def EntityConfig.toJson (c : EntityConfig) : Json :=
  .obj [("name", .str c.name), ("pagination", .bool c.pagination), ("filter", c.filter.toJson)]

/-- The configuration of a JSON value. -/
def EntityConfig.ofJson? (j : Json) : Option EntityConfig := do
  let [name, pagination, filter] ← asRecord? ["name", "pagination", "filter"] j | none
  let name ← required? asString? name
  let pagination ← defaulted? asBool? false pagination
  let filter ← defaulted? FilterSpec.ofJson? .unfiltered filter
  return { name, pagination, filter }

/-- A parameter of a member as JSON. -/
def EndpointParam.toJson (p : EndpointParam) : Json :=
  .obj [("name", .str p.name), ("ty", .str p.ty)]

/-- The parameter of a JSON value. -/
def EndpointParam.ofJson? (j : Json) : Option EndpointParam := do
  let [name, ty] ← asRecord? ["name", "ty"] j | none
  let name ← required? asString? name
  let ty ← required? asString? ty
  return { name, ty }

/-- An endpoint as JSON. -/
def Endpoint.toJson : Endpoint → Json
  | field name owner =>
    .obj [("kind", .str "field"), ("name", .str name), ("owner", .str owner)]
  | callable name owner params =>
    .obj [("kind", .str "callable"), ("name", .str name), ("owner", .str owner),
      ("params", .arr (params.map EndpointParam.toJson))]

/-- The endpoint of a JSON value. -/
def Endpoint.ofJson? (j : Json) : Option Endpoint := do
  let (kind, rest) ← asTagged? "kind" j
  match kind with
  | "field" =>
    let [name, owner] ← asRecord? ["name", "owner"] rest | none
    let name ← required? asString? name
    let owner ← required? asString? owner
    return field name owner
  | "callable" =>
    let [name, owner, params] ← asRecord? ["name", "owner", "params"] rest | none
    let name ← required? asString? name
    let owner ← required? asString? owner
    let params ← defaulted? (asList? EndpointParam.ofJson?) [] params
    return callable name owner params
  | _ => none

end CrudForge
