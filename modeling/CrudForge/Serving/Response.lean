import CrudForge.Serving.Error
import CrudForge.Json.Decode

/-!
The answer that all services give: a status, and a body unless there is nothing to say. A body
that is null is a body.
-/

namespace CrudForge

/-- How a call went. -/
inductive ResponseStatus
  | ok
  | noContent
  deriving DecidableEq, Repr

/-- The status code of an answer. -/
def ResponseStatus.code : ResponseStatus → Nat
  | ok => 200
  | noContent => 204

/-- An answer of a service. -/
structure ServiceResponse where
  status : ResponseStatus
  body : Option Json

/-- What a call of a service yields. -/
abbrev ServiceResult := Except ServiceError ServiceResponse

namespace ServiceResponse

/-- An answer with a value as its body; `none` is a value without a JSON form. -/
def ok : Option Json → ServiceResult
  | some body => .ok { status := .ok, body := some body }
  | none => .error (.serialization .notEncodable)

/-- An answer without a body. -/
def noContent : ServiceResponse where
  status := .noContent
  body := none

/-- The value of the body, if there is a body. -/
def bodyAs? (decode : Json → Option α) (r : ServiceResponse) :
    Except ServiceError (Option α) :=
  match r.body with
  | none => .ok none
  | some body =>
    match decode body with
    | some a => .ok (some a)
    | none => .error (.serialization .notDecodable)

end ServiceResponse
end CrudForge
