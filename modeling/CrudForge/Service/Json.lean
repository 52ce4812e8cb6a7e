import CrudForge.Service.Basic
import CrudForge.Code.Json

/-!
Service classes as JSON, down to the fragments of their methods.
-/

namespace CrudForge

open Json

/-- A type as JSON. -/
def TypeRef.toJson : TypeRef → Json
  | entity name => .obj [("kind", .str "entity"), ("name", .str name)]
  | id name => .obj [("kind", .str "id"), ("name", .str name)]
  | optionalInt => .obj [("kind", .str "optional_int")]
  | declared name => .obj [("kind", .str "declared"), ("name", .str name)]

/-- The type of a JSON value. -/
def TypeRef.ofJson? (j : Json) : Option TypeRef := do
  let (kind, content) ← asTaggedContent? "kind" "name" j
  let name := required? asString? content
  match kind with
  | "entity" => name.map entity
  | "id" => name.map id
  | "optional_int" => (fun _ => optionalInt) <$> noContent? content
  | "declared" => name.map declared
  | _ => none

/-- A parameter as JSON. -/
def Parameter.toJson (p : Parameter) : Json :=
  .obj [("name", .str p.name), ("ty", p.ty.toJson)]

/-- The parameter of a JSON value. -/
def Parameter.ofJson? (j : Json) : Option Parameter := do
  let [name, ty] ← asRecord? ["name", "ty"] j | none
  let name ← required? asString? name
  let ty ← required? TypeRef.ofJson? ty
  return { name, ty }

/-- A failure kind as JSON. -/
def FailureKind.toJson (kind : FailureKind) : Json := .str kind.text

/-- The failure kind of a JSON value. -/
def FailureKind.ofJson? (j : Json) : Option FailureKind := do
  match ← asName? j with
  | "NotFound" => some notFound
  | _ => none

/-- A set of failure kinds as JSON. -/
def FailureSet.toJson (s : FailureSet) : Json := .arr (s.toList.map FailureKind.toJson)

/-- The set of failure kinds of a JSON value, in which a kind may come more than once. -/
def FailureSet.ofJson? (j : Json) : Option FailureSet :=
  ofList <$> asList? FailureKind.ofJson? j

/-- Visibility as JSON. -/
def Visibility.toJson : Visibility → Json
  | everyone => .str "public"

/-- The visibility of a JSON value. -/
def Visibility.ofJson? (j : Json) : Option Visibility := do
  match ← asName? j with
  | "public" => some everyone
  | _ => none

/-- What a method answers with, as JSON. -/
def ReturnMarker.toJson : ReturnMarker → Json
  | response => .str "response"

/-- The answer of a JSON value. -/
def ReturnMarker.ofJson? (j : Json) : Option ReturnMarker := do
  match ← asName? j with
  | "response" => some response
  | _ => none

/-- A method as JSON. -/
def Method.toJson (m : Method) : Json :=
  .obj [("name", .str m.name), ("visibility", m.visibility.toJson),
    ("returns", m.returns.toJson), ("params", .arr (m.params.map Parameter.toJson)),
    ("failures", m.failures.toJson), ("body", .arr (m.body.map Fragment.toJson))]

/-- The method of a JSON value. Nothing is checked that a builder would check. -/
def Method.ofJson? (j : Json) : Option Method := do
  let [name, visibility, returns, params, failures, body] ←
    asRecord? ["name", "visibility", "returns", "params", "failures", "body"] j | none
  let name ← required? asString? name
  let visibility ← required? Visibility.ofJson? visibility
  let returns ← required? ReturnMarker.ofJson? returns
  let params ← required? (asList? Parameter.ofJson?) params
  let failures ← required? FailureSet.ofJson? failures
  let body ← required? (asList? Fragment.ofJson?) body
  return { name, visibility, returns, params, failures, body }

/-- A field as JSON. -/
def ServiceField.toJson (f : ServiceField) : Json :=
  .obj [("name", .str f.name), ("ty", f.ty.toJson), ("injected", .bool f.injected)]

/-- The field of a JSON value. -/
def ServiceField.ofJson? (j : Json) : Option ServiceField := do
  let [name, ty, injected] ← asRecord? ["name", "ty", "injected"] j | none
  let name ← required? asString? name
  let ty ← required? TypeRef.ofJson? ty
  let injected ← required? asBool? injected
  return { name, ty, injected }

/-- A service class as JSON. -/
def ServiceClass.toJson (c : ServiceClass) : Json :=
  .obj [("name", .str c.name), ("repository", c.repository.toJson),
    ("methods", .arr (c.methods.map Method.toJson))]

/-- The service class of a JSON value. -/
def ServiceClass.ofJson? (j : Json) : Option ServiceClass := do
  let [name, repository, methods] ← asRecord? ["name", "repository", "methods"] j | none
  let name ← required? asString? name
  let repository ← required? ServiceField.ofJson? repository
  let methods ← required? (asList? Method.ofJson?) methods
  return { name, repository, methods }

end CrudForge
