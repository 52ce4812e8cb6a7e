import CrudForge.Grammar.Recognize
import CrudForge.Rendering.Class

/-!
Rendering with the grammar of the language that services are written in.
-/

namespace CrudForge

/-- The grammar of services. -/
def TargetGrammar.standard : TargetGrammar where
  isType := Grammar.isType
  isIdent := Grammar.isIdent
  isFile := Grammar.isFile

/-- The file of a service class. -/
def ServiceClass.render (c : ServiceClass) (o : RenderOptions) : Except RenderError String :=
  Rendering.renderClass .standard c o

end CrudForge
