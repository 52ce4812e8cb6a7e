import CrudForge.Serving.Service
import CrudForge.Serving.Table

/-!
The service of products, whose listing is filtered by category and type and comes in pages, and
which can be asked for their price and type.
-/

namespace CrudForge

open Json

/-- A product. -/
structure Product where
  id : Int64
  category : String
  type : String
  unitPrice : Float

/-- A floating-point number as JSON, which has no other numbers than the finite ones. -/
def Json.ofFloat (x : Float) : Json :=
  if x.isFinite then .float x else .null

namespace Product

/-- A product as JSON. -/
def toJson (p : Product) : Json :=
  .obj [("id", .int p.id.toInt), ("category", .str p.category), ("type", .str p.type),
    ("unit_price", .ofFloat p.unitPrice)]

/-- The product of a JSON value. -/
def ofJson? (j : Json) : Option Product := do
  let [id, category, type, unitPrice] ← asRecord? ["id", "category", "type", "unit_price"] j | none
  let id ← required? asInt64? id
  let category ← required? asString? category
  let type ← required? asString? type
  let unitPrice ← required? asFloat? unitPrice
  return { id := Int64.ofInt id, category, type, unitPrice }

end Product

namespace ProductService

/-- A call of the service of products. -/
abbrev Call := ServiceCall (Store Product) ServiceResponse

/-- The service of products in a store. -/
def service : Service (Store Product) Int64 Product where
  entity := "Product"
  repository := Store.repository (fun p => p.id.toInt) (fun id => id.toInt)
  encode := Product.toJson
  idText id := id.toInt.repr

/-- The part of the products of a category and type that a window shows. -/
def allByFilterPage (category type : String) (w : PageWindow) (s : Store Product) :
    Except DataError (Page Product) :=
  s.guard (Page.slice
    (s.table.toList.filter fun p => p.category = category && p.type = type) w)

/-- Saves a product. -/
def save (p : Product) : Call := service.save p

/-- Answers with a product. -/
def one (id : Int64) : Call := service.one id

/-- Answers with a page of the products of a category and type. -/
def allByFilter (category type : String) (page pageSize : Option UInt64) : Call :=
  service.listing (allByFilterPage category type (.ofOptions page pageSize))

/-- Deletes a product. -/
def delete (id : Int64) : Call := service.delete id

/-- Answers with the price of a product. -/
def unitPrice (id : Int64) : Call :=
  service.member id fun p => .ofFloat p.unitPrice

/-- Answers with the type of a product. -/
def type (id : Int64) : Call := service.member id fun p => .str p.type

end ProductService
end CrudForge
