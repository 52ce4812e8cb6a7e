/-!
The reasons for which a service class cannot be rendered.
-/

namespace CrudForge

/-- Why a service class cannot be rendered. -/
inductive RenderError
  /-- A type is not one that can be written down. -/
  | invalidType (item ty : String)
  /-- Two names become one identifier. -/
  | duplicateIdentifier (scope name : String)
  /-- The body of a method is not sound. -/
  | malformedBody (method reason : String)
  /-- The file as a whole cannot be read back. -/
  | invalidSyntax
  deriving DecidableEq, Repr

namespace RenderError

/-- The text of an error up to what the grammar has to say. -/
def summary : RenderError → String
  | invalidType item ty => "Invalid type `" ++ ty ++ "` for " ++ item ++ ": "
  | duplicateIdentifier scope name =>
    "Identifier `" ++ name ++ "` is defined twice in " ++ scope
  | malformedBody method reason => "Cannot render body of '" ++ method ++ "': " ++ reason
  | invalidSyntax => "Generated code does not parse: "

/-- The text of an error. -/
def message (e : RenderError) : String :=
  match e with
  | invalidType _ _ => e.summary ++ "not a type"
  | invalidSyntax => e.summary ++ "unexpected token"
  | e => e.summary

end RenderError
end CrudForge
