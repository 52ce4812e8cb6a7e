import CrudForge.Manifest.Basic
import CrudForge.Manifest.Error
import CrudForge.Yaml.Value

/-!
Reading manifests. What a scalar means depends on what is asked for: where a text is, every scalar
is one, whatever it looks like. A list or record that is left out is empty; entries that are not
known, and entries that come twice, are errors.
-/

namespace CrudForge.Yaml.Node

/-- The text of a scalar. -/
def text? : Node → Option String
  | scalar _ _ text => some text
  | _ => none

/-- The truth value of a scalar, which has no quotes. A block is one only if its tag says so. -/
def truth? : Node → Option Bool
  | scalar tag style text =>
    if style = .plain || (style = .literal && tag = some "tag:yaml.org,2002:bool") then bool? text
    else none
  | _ => none

/-- Whether a node is left out. -/
def isLeftOut : Node → Bool
  | void => true
  | scalar _ style text => style = .plain && text = ""
  | _ => false

/-- What a reader makes of the items of a sequence. -/
def items? (read : Node → Option α) : Node → Option (List α)
  | sequence _ items => items.mapM read
  | n => if n.isLeftOut then some [] else none

/-- Whether a node stands for a value that is missing. None if its tag says so but its text does
not. -/
def missing? : Node → Option Bool
  | void => some true
  | scalar tag style text =>
    if style ≠ .plain then some false
    else
      match tag with
      | some tag =>
        if tag ≠ "tag:yaml.org,2002:null" then some false
        else if isNull text then some true
        else none
      | none => some (text = "" || isNull text)
  | _ => some false

/-- What a reader makes of a value that may be missing. -/
def option? (read : Node → Option α) (n : Node) : Option (Option α) := do
  if ← n.missing? then return none else some <$> read n

/-- Whether no text comes twice. -/
def allDiffer : List String → Bool
  | [] => true
  | s :: ss => !ss.contains s && allDiffer ss

/-- The entries of a record, of which the names are known and differ. -/
def record? (known : List String) : Node → Option (List (String × Node))
  | mapping _ entries => do
    let fields ← entries.mapM fun (k, v) => (text? k).map fun name => (name, v)
    let names := fields.map (·.1)
    if names.all known.contains && allDiffer names then some fields else none
  | n => if n.isLeftOut then some [] else none

end CrudForge.Yaml.Node

namespace CrudForge

open Yaml (Node)

/-- What a reader makes of an entry of a record that must be there. -/
def requiredEntry? (fields : List (String × Node)) (name : String) (read : Node → Option α) :
    Option α :=
  fields.lookup name >>= read

/-- What a reader makes of an entry of a record, or a value if it is not there. -/
def entryOr? (fields : List (String × Node)) (name : String) (default : α)
    (read : Node → Option α) : Option α :=
  match fields.lookup name with
  | none => some default
  | some n => read n

/-- The parameter that a node declares. -/
def EndpointParam.ofNode? (n : Node) : Option EndpointParam := do
  let r ← n.record? ["name", "type"]
  let name ← requiredEntry? r "name" Node.text?
  let ty ← requiredEntry? r "type" Node.text?
  return { name, ty }

/-- The endpoint that a node declares. -/
def EndpointDeclaration.ofNode? (n : Node) : Option EndpointDeclaration := do
  let r ← n.record? ["field", "method", "owner", "params"]
  let field ← entryOr? r "field" none (Node.option? Node.text?)
  let method ← entryOr? r "method" none (Node.option? Node.text?)
  let owner ← entryOr? r "owner" none (Node.option? Node.text?)
  let params ← entryOr? r "params" [] (Node.items? EndpointParam.ofNode?)
  return { field, method, owner, params }

/-- The field that a node declares. -/
def EntityField.ofNode? (n : Node) : Option EntityField := do
  let r ← n.record? ["name", "type", "transient"]
  let name ← requiredEntry? r "name" Node.text?
  let ty ← requiredEntry? r "type" Node.text?
  let transient ← entryOr? r "transient" false Node.truth?
  return { name, ty, transient }

/-- Whether a listing comes in pages and what it filters by, as a node declares. -/
def listingOfNode? (n : Node) : Option (Bool × List String) := do
  let r ← n.record? ["pagination", "filter"]
  let pagination ← entryOr? r "pagination" false Node.truth?
  let filter ← entryOr? r "filter" [] (Node.items? Node.text?)
  return (pagination, filter)

/-- The entity that a node declares. -/
def EntityDeclaration.ofNode? (n : Node) : Option EntityDeclaration := do
  let r ← n.record? ["name", "id_type", "fields", "crud", "endpoints"]
  let name ← requiredEntry? r "name" Node.text?
  let idType ← entryOr? r "id_type" "i64" Node.text?
  let fields ← entryOr? r "fields" [] (Node.items? EntityField.ofNode?)
  let (pagination, filter) ← entryOr? r "crud" (false, []) listingOfNode?
  let endpoints ← entryOr? r "endpoints" [] (Node.items? EndpointDeclaration.ofNode?)
  return { name, idType, fields, pagination, filter, endpoints }

/-- The manifest that a node describes. -/
def Manifest.ofNode? (n : Node) : Option Manifest := do
  let r ← n.record? ["entities"]
  let entities ← entryOr? r "entities" [] (Node.items? EntityDeclaration.ofNode?)
  return { entities }

/-- The manifest that a text describes. -/
def Manifest.ofText (text : String) : Except ManifestError Manifest :=
  match Node.ofText? text >>= Manifest.ofNode? with
  | some m => .ok m
  | none => .error .parse

end CrudForge
