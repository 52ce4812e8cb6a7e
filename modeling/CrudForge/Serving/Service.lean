import CrudForge.Serving.Repository
import CrudForge.Serving.Response

/-!
The calls that all services have in common, over any repository. A call that fails changes
nothing.
-/

namespace CrudForge

/-- A call of a service whose entities are kept in `σ`: what it yields, and what is kept then. -/
abbrev ServiceCall (σ : Type) := StateT σ (Except ServiceError)

/-- What a service knows about its entities: where they are kept, what they are called, and how
they and their identifiers are written. -/
structure Service (σ ID T : Type) where
  entity : String
  repository : CrudRepository σ ID T
  encode : T → Json
  idText : ID → String

namespace Service

/-- An answer to a question that changes nothing. -/
def ask (question : σ → Except DataError α) : ServiceCall σ α := fun s =>
  match question s with
  | .ok a => .ok (a, s)
  | .error e => .error (.data e)

/-- An order that may change what is kept. -/
def order (change : σ → Except DataError (α × σ)) : ServiceCall σ α := fun s =>
  (change s).mapError .data

/-- Answers with a value. -/
def answer (body : Json) : ServiceCall σ ServiceResponse :=
  StateT.lift (ServiceResponse.ok (some body))

/-- Saves an entity. -/
def save (svc : Service σ ID T) (entity : T) : ServiceCall σ ServiceResponse := do
  let saved ← order (svc.repository.save entity)
  answer (svc.encode saved)

/-- Answers with something about the entity of an identifier, which must be there. -/
def member (svc : Service σ ID T) (id : ID) (tell : T → Json) : ServiceCall σ ServiceResponse := do
  match ← ask (svc.repository.findById id) with
  | some entity => answer (tell entity)
  | none => throw (.notFound svc.entity (svc.idText id))

/-- Answers with an entity. -/
def one (svc : Service σ ID T) (id : ID) : ServiceCall σ ServiceResponse :=
  svc.member id svc.encode

/-- Answers with a page. -/
def listing (svc : Service σ ID T) (page : σ → Except DataError (Page T)) :
    ServiceCall σ ServiceResponse := do
  let page ← ask page
  answer (page.toJson svc.encode)

/-- Answers with the page of a number and a size, with everything if one of them is missing. -/
def all (svc : Service σ ID T) (page size : Option UInt64) :
    ServiceCall σ ServiceResponse :=
  svc.listing (svc.repository.findAllPaged (.ofOptions page size))

/-- Deletes an entity, whether or not there is one. -/
def delete (svc : Service σ ID T) (id : ID) : ServiceCall σ ServiceResponse := do
  let _ ← order (svc.repository.deleteById id)
  return .noContent

end Service
end CrudForge
