import CrudForge.Serving.Service
import CrudForge.Serving.Table

/-!
The service of users, whose listing comes in pages and who can be asked for their address and for
a greeting.
-/

namespace CrudForge

open Json

/-- A user. -/
structure User where
  id : UInt64
  email : String
  name : String
  deriving DecidableEq, Repr

namespace User

/-- A greeting to a user. -/
def greeting (u : User) (salutation : String) : String :=
  salutation ++ " " ++ u.name

/-- A user as JSON. -/
def toJson (u : User) : Json :=
  .obj [("id", .word u.id), ("email", .str u.email), ("name", .str u.name)]

/-- The user of a JSON value. -/
def ofJson? (j : Json) : Option User := do
  let [id, email, name] ← asRecord? ["id", "email", "name"] j | none
  let id ← required? asWord? id
  let email ← required? asString? email
  let name ← required? asString? name
  return { id, email, name }

end User

namespace UserService

/-- A call of the service of users. -/
abbrev Call := ServiceCall (Store User) ServiceResponse

/-- The service of users in a store. -/
def service : Service (Store User) UInt64 User where
  entity := "User"
  repository := Store.repository (fun u => u.id.toNat) (fun id => id.toNat)
  encode := User.toJson
  idText id := id.toNat.repr

/-- Saves a user. -/
def save (u : User) : Call := service.save u

/-- Answers with a user. -/
def one (id : UInt64) : Call := service.one id

/-- Answers with a page of users. -/
def all (page pageSize : Option UInt64) : Call := service.all page pageSize

/-- Deletes a user. -/
def delete (id : UInt64) : Call := service.delete id

/-- Answers with the address of a user. -/
def email (id : UInt64) : Call := service.member id fun u => .str u.email

/-- Answers with a greeting to a user. -/
def greeting (id : UInt64) (salutation : String) : Call :=
  service.member id fun u => .str (u.greeting salutation)

end UserService
end CrudForge
