/-!
What can go wrong when a service is called: the repository fails, there is no entity with the
identifier that was asked for, or a value has no place in a response.
-/

namespace CrudForge

/-- A failure of a repository. -/
inductive DataError
  | notFound (text : String)
  /-- The store under the repository failed, for the reason that `cause` tells. -/
  | database (cause : String)
  | other (text : String)
  deriving DecidableEq, Repr

namespace DataError

/-- The text of a failure. -/
def message : DataError → String
  | notFound text => "Not found: " ++ text
  | database cause => "Database error: " ++ cause
  | other text => "Data error: " ++ text

/-- The text of the failure behind a failure. -/
def cause? : DataError → Option String
  | database cause => some cause
  | _ => none

end DataError

/-- Why a value has no place in a response, or no value can be taken out of it. -/
inductive SerializationFault
  | notEncodable
  | notDecodable
  deriving DecidableEq, Repr

/-- The text of a fault. -/
def SerializationFault.message : SerializationFault → String
  | notEncodable => "the value has no JSON form"
  | notDecodable => "the body has another type"

/-- A failure of a service. -/
inductive ServiceError
  /-- No entity has the identifier. -/
  | notFound (entity id : String)
  | data (error : DataError)
  | serialization (fault : SerializationFault)
  deriving DecidableEq, Repr

namespace ServiceError

/-- The status code of a failure. -/
def statusCode : ServiceError → Nat
  | notFound _ _ | data (.notFound _) => 404
  | data _ | serialization _ => 500

/-- The text of a failure up to the reason for a fault of serialization. -/
def summary : ServiceError → String
  | notFound entity id => entity ++ " with id " ++ id ++ " not found"
  | data error => error.message
  | serialization _ => "Serialization error: "

/-- The text of a failure. -/
def message : ServiceError → String
  | serialization fault => "Serialization error: " ++ fault.message
  | e => e.summary

end ServiceError
end CrudForge
