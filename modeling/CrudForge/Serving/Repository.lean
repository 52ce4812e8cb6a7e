import CrudForge.Serving.Error
import CrudForge.Serving.Page

/-!
What a service needs of the place where its entities are kept. Only saving and deleting change
what is kept. A listing with filters is not a part of this, since its filters are the fields of
one entity.
-/

namespace CrudForge

/-- A repository of entities `T` with identifiers `ID`, kept in `σ`. -/
structure CrudRepository (σ ID T : Type) where
  findById : ID → σ → Except DataError (Option T)
  findAll : σ → Except DataError (List T)
  findAllPaged : PageWindow → σ → Except DataError (Page T)
  /-- Keeps an entity, and answers with it as it is kept. -/
  save : T → σ → Except DataError (T × σ)
  /-- Drops an entity, and tells whether there was one. -/
  deleteById : ID → σ → Except DataError (Bool × σ)

end CrudForge
