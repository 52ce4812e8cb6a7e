import CrudForge.Generation.Parameters
import CrudForge.Service.Builder
import CrudForge.Entity.Metadata
import CrudForge.Naming.Basic

/-!
The methods of a service: `save`, `one`, the listing, `delete`, and one method for each endpoint.
The listing is `all` where nothing is filtered and `allByFilter` otherwise. Methods that look an
entity up fail with the entity that declares the member, which need not be the one served.
-/

namespace CrudForge.Generation

/-- The method that saves an entity. -/
def saveName : String := "save"

/-- The method that answers with one entity. -/
def oneName : String := "one"

/-- The listing without filters. -/
def allName : String := "all"

/-- The listing with filters. -/
def allByFilterName : String := "allByFilter"

/-- The method that deletes an entity. -/
def deleteName : String := "delete"

/-- The local variable that holds the part of a listing which is asked for. -/
def windowName : String := "window"

/-- The fields to filter by with their declared types; the first unknown one is an error. -/
def resolveFilter (crud : EntityConfig) (resolver : FieldResolver) :
    Except GenerationError (List (String × String)) :=
  let names :=
    match crud.filter with
    | .unfiltered => []
    | .wildcard => resolver.nonTransient
    | .fields names => names
  names.mapM fun field =>
    match resolver.fieldType field with
    | some ty => .ok (field, ty)
    | none => .error (.unknownFilterField crud.name field)

/-- Code that looks an entity up by `id`, failing with `owner` if there is none, and goes on with
`tail` behind the entity that was found. -/
def lookup (owner : String) (tail : CodeBlock) : CodeBlock where
  format :=
    "ServiceResponse::ok(self.repository.find_by_id(&$N).await?" ++
    ".ok_or_else(|| ServiceError::not_found($S, &$N))?" ++ tail.format ++ ")"
  args := [.name Parameter.idName, .str owner, .name Parameter.idName] ++ tail.args

/-- Whether a parameter has a name once it is written in snake case. -/
def isTaken (params : List Parameter) (name : String) : Bool :=
  params.any fun p => Naming.snakeCase p.name = name

/-- A name with underscores behind it. -/
def underscored (base : String) (count : Nat) : String :=
  base ++ String.ofList (List.replicate count '_')

/-- A name for a local variable that no parameter has: the base with as few underscores behind it
as will do. Each parameter takes one name at most, so one of the first names is free. -/
def localName (base : String) (params : List Parameter) : String :=
  let count := (List.range (params.length + 1)).find? fun k =>
    !isTaken params (underscored base k)
  underscored base (count.getD 0)

/-- Adds `page` and `pageSize` and turns them into a window. The window is cut only if both are
there; either of them alone counts for nothing. -/
def addPagination (b : MethodBuilder) (window : String) : MethodBuilder :=
  b.param .page
    |>.param .pageSize
    |>.beginBlock
      { format := "let $N = if let (Some($N), Some($N)) = ($N, $N)"
        args := [.name window, .name Parameter.pageName, .name Parameter.pageSizeName,
          .name Parameter.pageName, .name Parameter.pageSizeName] }
    |>.expr
      { format := "PageWindow::new($N, $N)"
        args := [.name Parameter.pageName, .name Parameter.pageSizeName] }
    |>.nextBlock { format := "else" }
    |>.expr { format := "PageWindow::unrestricted()" }
    |>.endBlock true

/-- Saves an entity. -/
def saveMethod (entity : String) : Except GenerationError Method :=
  (({ name := saveName } : MethodBuilder).param (.entity entity)
    |>.expr
      { format := "ServiceResponse::ok(self.repository.save(&$N).await?)"
        args := [.name Parameter.entityName] }).build

/-- Answers with one entity. -/
def oneMethod (entity idType : String) : Except GenerationError Method :=
  (({ name := oneName } : MethodBuilder).param (.id idType)
    |>.failure .notFound
    |>.expr (lookup entity { format := "" })).build

/-- Deletes an entity, whether or not there is one. -/
def deleteMethod (idType : String) : Except GenerationError Method :=
  (({ name := deleteName } : MethodBuilder).param (.id idType)
    |>.statement
      { format := "self.repository.delete_by_id(&$N).await?", args := [.name Parameter.idName] }
    |>.expr { format := "Ok(ServiceResponse::no_content())" }).build

/-- The listing without filters. -/
def allMethod (pagination : Bool) : Except GenerationError Method :=
  let b : MethodBuilder := { name := allName }
  if pagination then
    (addPagination b windowName |>.expr
      { format := "ServiceResponse::ok(self.repository.find_all_paged(&$N).await?)"
        args := [.name windowName] }).build
  else
    (b.expr { format := "ServiceResponse::ok(self.repository.find_all().await?)" }).build

/-- The listing that hands `filters` on to the repository, in order. -/
def allByFilterMethod (pagination : Bool) (filters : List Parameter) :
    Except GenerationError Method :=
  let b := ({ name := allByFilterName } : MethodBuilder).addParams filters
  let window := localName windowName filters
  let call (markers : List String) (args : List CodeArg) : CodeBlock :=
    { format := "ServiceResponse::ok(self.repository.all_by_filter("
        ++ ", ".intercalate markers ++ ").await?)"
      args }
  let markers := filters.map fun _ => "$N"
  let args := filters.map fun p => CodeArg.name p.name
  if pagination then
    (addPagination b window |>.expr (call (markers ++ ["&$N"]) (args ++ [.name window]))).build
  else
    (b.expr (call markers args)).build

/-- The listing that the configuration of an entity asks for. -/
def listMethod (crud : EntityConfig) (resolver : FieldResolver) :
    Except GenerationError Method :=
  if crud.filter.isUnfiltered then allMethod crud.pagination
  else do
    let fields ← resolveFilter crud resolver
    allByFilterMethod crud.pagination (fields.map fun (field, ty) => .declared field ty)

/-- The call of a member with parameters, in order. -/
def memberCall (name : String) (params : List Parameter) : CodeBlock where
  format := ".$L(" ++ ", ".intercalate (params.map fun _ => "$N") ++ ")"
  args := .literal name :: params.map fun p => .name p.name

/-- The method of an endpoint. -/
def endpointMethod (idType : String) (style : AccessorStyle) (member : Endpoint) :
    Except GenerationError Method :=
  let b := ({ name := member.name } : MethodBuilder).param (.id idType)
  match member with
  | .field name owner =>
    (b.failure .notFound |>.expr (lookup owner (style.accessor name))).build
  | .callable name owner params =>
    let forwarded := params.map fun p => Parameter.declared p.name p.ty
    (b.addParams forwarded |>.failure .notFound
      |>.expr (lookup owner (memberCall name forwarded))).build

/-- The method of an endpoint of an entity; it must say who declares the member. -/
def endpointMethodOf (entity idType : String) (style : AccessorStyle) (member : Endpoint) :
    Except GenerationError Method :=
  if member.owner = "" then .error (.missingOwner entity member.name)
  else endpointMethod idType style member

/-- All methods of the service of an entity, in order. -/
def methods (crud : EntityConfig) (idType : String) (endpoints : List Endpoint)
    (resolver : FieldResolver) (style : AccessorStyle) :
    Except GenerationError (List Method) :=
  if crud.name = "" then .error .emptyEntityName
  else do
    let save ← saveMethod crud.name
    let one ← oneMethod crud.name idType
    let list ← listMethod crud resolver
    let delete ← deleteMethod idType
    let members ← endpoints.mapM (endpointMethodOf crud.name idType style)
    return save :: one :: list :: delete :: members

end CrudForge.Generation
