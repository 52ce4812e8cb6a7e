import CrudForge.Manifest.Basic
import CrudForge.Manifest.Error
import CrudForge.Naming.Repeat

/-!
From the declarations of a manifest to entities. The names of entities must differ, and every
endpoint must name one member of an entity of the manifest; an entity can come before or behind
those that refer to it.
-/

namespace CrudForge

namespace EntityDeclaration

/-- Whether an entity has a field. -/
def hasField (e : EntityDeclaration) (field : String) : Bool :=
  e.fields.any (·.name = field)

/-- What is asked of the service of an entity. -/
def crud (e : EntityDeclaration) : EntityConfig :=
  { name := e.name, pagination := e.pagination, filter := .ofList e.filter }

end EntityDeclaration

namespace Manifest

/-- The declaration of an entity. -/
def declaration? (m : Manifest) (name : String) : Option EntityDeclaration :=
  m.entities.find? (·.name = name)

/-- The endpoint that an entity declares. -/
def endpoint (m : Manifest) (e : EntityDeclaration) (d : EndpointDeclaration) :
    Except ManifestError Endpoint :=
  let owner := d.owner.getD e.name
  match d.field, d.method with
  | some field, none =>
    if !d.params.isEmpty then
      .error (.invalidEndpoint e.name ("field endpoint '" ++ field ++ "' cannot take params"))
    else
      match m.declaration? owner with
      | none => .error (.unknownOwner e.name field owner)
      | some o =>
        if o.hasField field then .ok (.field field owner)
        else .error (.unknownField e.name field owner)
  | none, some method =>
    match m.declaration? owner with
    | none => .error (.unknownOwner e.name method owner)
    | some _ => .ok (.callable method owner d.params)
  | _, _ =>
    .error (.invalidEndpoint e.name "each endpoint needs exactly one of `field` or `method`")

/-- The entity of a declaration. -/
def entity (m : Manifest) (e : EntityDeclaration) : Except ManifestError StaticEntity := do
  let endpoints ← e.endpoints.mapM (m.endpoint e)
  return { idType := e.idType, fields := e.fields, crud := e.crud, endpoints }

/-- The entities of a manifest in order, or the first error met. -/
def resolve (m : Manifest) : Except ManifestError (List StaticEntity) :=
  match Naming.firstRepeat? (m.entities.map (·.name)) with
  | some name => .error (.duplicateEntity name)
  | none => m.entities.mapM m.entity

end Manifest
end CrudForge
