import CrudForge.Service.Basic

/-!
The parameters that come back in every service.
-/

namespace CrudForge.Parameter

/-- The name of the entity that is saved. -/
def entityName : String := "entity"

/-- The name of an identifier. -/
def idName : String := "id"

/-- The name of the number of a page. -/
def pageName : String := "page"

/-- The name of the size of a page. -/
def pageSizeName : String := "pageSize"

/-- The entity that is saved. -/
def entity (name : String) : Parameter := ⟨entityName, .entity name⟩

/-- An identifier of a type. -/
def id (idType : String) : Parameter := ⟨idName, .id idType⟩

/-- The number of a page. -/
def page : Parameter := ⟨pageName, .optionalInt⟩

/-- The size of a page. -/
def pageSize : Parameter := ⟨pageSizeName, .optionalInt⟩

/-- A parameter with the type of a declaration: a filter of a listing, or what is handed on to a
callable member. -/
def declared (name ty : String) : Parameter := ⟨name, .declared ty⟩

end CrudForge.Parameter
