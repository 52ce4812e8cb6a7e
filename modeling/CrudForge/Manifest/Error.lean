/-!
What can be wrong with a manifest.
-/

namespace CrudForge

/-- What is wrong with a manifest. -/
inductive ManifestError
  /-- The file cannot be read. -/
  | read (path reason : String)
  /-- The text is no manifest. -/
  | parse
  /-- Two entities have one name. -/
  | duplicateEntity (name : String)
  /-- An endpoint names an owner that is not declared. -/
  | unknownOwner (entity member owner : String)
  /-- An endpoint names a field that its owner does not have. -/
  | unknownField (entity member owner : String)
  /-- The declaration of an endpoint has no meaning. -/
  | invalidEndpoint (entity reason : String)
  deriving DecidableEq, Repr

namespace ManifestError

/-- The text of an error up to what the system or the reader of the file has to say. -/
def summary : ManifestError → String
  | read path _ => "Cannot read manifest '" ++ path ++ "': "
  | parse => "Invalid manifest: "
  | duplicateEntity name => "Entity '" ++ name ++ "' is declared more than once"
  | unknownOwner entity member owner =>
    "Endpoint '" ++ member ++ "' of '" ++ entity ++ "' names owner '" ++ owner ++
      "', which is not a declared entity"
  | unknownField entity member owner =>
    "Endpoint '" ++ member ++ "' of '" ++ entity ++ "' is not a field of '" ++ owner ++ "'"
  | invalidEndpoint entity reason => "Invalid endpoint on '" ++ entity ++ "': " ++ reason

/-- The text of an error. -/
def message (e : ManifestError) : String :=
  match e with
  | read _ reason => e.summary ++ reason
  | parse => e.summary ++ "not a manifest"
  | e => e.summary

end ManifestError
end CrudForge
