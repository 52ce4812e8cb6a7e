import CrudForge.Rendering.Body
import CrudForge.Rendering.Options
import CrudForge.Service.Basic

/-!
Service classes as files: the structure with its constructor, and its methods. Before a file is
handed out it is checked as a whole, since texts that come from outside, such as imports and type
names, may have broken it.
-/

namespace CrudForge.Rendering

/-- The first line of every file. -/
def header : String := "// Generated by svcgen. Do not edit by hand.\n"

/-- Accepts a type that can be written down. -/
def checkType (g : TargetGrammar) (item ty : String) : Except RenderError Unit :=
  if g.isType ty then .ok () else .error (.invalidType item ty)

/-- The parameters of a method as they are written, each behind a comma. `seen` are the
identifiers of those in front. -/
def paramsFrom (g : TargetGrammar) (method : String) (seen : List String) :
    List Parameter → Except RenderError String
  | [] => .ok ""
  | p :: rest => do
    let name := identifier g p.name
    if name ∈ seen then
      throw (.duplicateIdentifier ("method '" ++ method ++ "'") name)
    checkType g ("parameter '" ++ p.name ++ "' of '" ++ method ++ "'") p.ty.text
    let more ← paramsFrom g method (name :: seen) rest
    return ", " ++ name ++ ": " ++ p.ty.text ++ more

/-- What is said about a way to fail. -/
def failureDoc : FailureKind → String
  | .notFound => "Returns `ServiceError::NotFound` when no entity matches `id`."

/-- The documentation of the ways in which a method may fail. -/
def failureDocs (s : FailureSet) : String :=
  if s.toList.isEmpty then ""
  else
    indent ++ "/// # Errors\n" ++ indent ++ "///\n" ++
      String.join (s.toList.map fun kind => indent ++ "/// " ++ failureDoc kind ++ "\n")

/-- Visibility as it is written. -/
def visibilityText : Visibility → String
  | .everyone => "pub "

/-- The type of what a method answers with. -/
def returnText : ReturnMarker → String
  | .response => "ServiceResult"

/-- A method under its identifier. -/
def renderMethod (g : TargetGrammar) (name : String) (m : Method) :
    Except RenderError String := do
  let params ← paramsFrom g m.name [] m.params
  let body ← bodyLines g m.name m.body
  return failureDocs m.failures ++
    indent ++ visibilityText m.visibility ++ "async fn " ++ name ++ "(&self" ++ params ++ ") -> " ++
    returnText m.returns ++ " \x7b\n" ++
    String.join (body.map BodyLine.render) ++
    indent ++ "\x7d\n"

/-- The methods of a class, in order. `seen` are the identifiers of those in front. -/
def methodsFrom (g : TargetGrammar) (className : String) (seen : List String) :
    List Method → Except RenderError (List String)
  | [] => .ok []
  | m :: rest => do
    let name := identifier g m.name
    if name ∈ seen then throw (.duplicateIdentifier className name)
    let text ← renderMethod g name m
    let more ← methodsFrom g className (name :: seen) rest
    return text :: more

/-- The part of a file in front of the methods. -/
def preamble (g : TargetGrammar) (c : ServiceClass) (o : RenderOptions) : String :=
  let field := identifier g c.repository.name
  let ty := c.repository.ty.text
  header ++ "\nuse svcgen_runtime::prelude::*;\n" ++
    String.join (o.imports.map fun path => "use " ++ path ++ ";\n") ++
    "\n#[derive(Clone)]\npub struct " ++ c.name ++ " \x7b\n" ++
    indent ++ field ++ ": " ++ ty ++ ",\n\x7d\n\n" ++
    (if o.beanWiring && c.repository.injected then "#[bean]\n" else "") ++
    "impl " ++ c.name ++ " \x7b\n" ++
    indent ++ "pub fn new(" ++ field ++ ": " ++ ty ++ ") -> Self \x7b\n" ++
    indent ++ indent ++ "Self \x7b " ++ field ++ " \x7d\n" ++
    indent ++ "\x7d\n\x7d\n\n"

/-- The file of a class. -/
def renderClass (g : TargetGrammar) (c : ServiceClass) (o : RenderOptions) :
    Except RenderError String := do
  checkType g (c.name ++ "." ++ c.repository.name) c.repository.ty.text
  let methods ← methodsFrom g c.name [] c.methods
  let text :=
    preamble g c o ++ "impl " ++ c.name ++ " \x7b\n" ++ "\n".intercalate methods ++ "\x7d\n"
  if g.isFile text then .ok text else .error .invalidSyntax

/-- The module that the file of a class becomes. -/
def moduleName (c : ServiceClass) : String := Naming.snakeCase c.name

/-- The file of a class. -/
def fileName (c : ServiceClass) : String := moduleName c ++ ".rs"

end CrudForge.Rendering
