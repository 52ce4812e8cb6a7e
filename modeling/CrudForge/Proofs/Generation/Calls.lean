import CrudForge.Proofs.Code.Expanding
import CrudForge.Proofs.Generation.Shape

/-!
# What generated code says

The calls that generated bodies are made of are known as texts, however their arguments are
written: each argument stands where it belongs, and lists of them keep their order.
-/

namespace CrudForge.Generation

open CodeBlock (expand_append expand_plain expand_name expand_arg expand_list)

variable {write : CodeArg → String} {t : String}

/-- Code with a tail put in front of what closes it. -/
def closing (head tail : CodeBlock) : CodeBlock where
  format := head.format ++ tail.format ++ ")"
  args := head.args ++ tail.args

/-- Looking up an entity, up to what is done with it. -/
def lookupHead (owner : String) : CodeBlock where
  format := "ServiceResponse::ok(self.repository.find_by_id(&$N).await?" ++
    ".ok_or_else(|| ServiceError::not_found($S, &$N))?"
  args := [.name Parameter.idName, .str owner, .name Parameter.idName]

/-- Looking up an entity, with the text of what is done with it. -/
def lookupText (write : CodeArg → String) (owner tail : String) : String :=
  "ServiceResponse::ok(self.repository.find_by_id(&" ++ write (.name Parameter.idName) ++
    ").await?.ok_or_else(|| ServiceError::not_found(" ++ write (.str owner) ++ ", &" ++
    write (.name Parameter.idName) ++ "))?" ++ tail ++ ")"

theorem expand_lookup (owner : String) {tail : CodeBlock} (expanded : tail.expand write = .ok t) :
    (lookup owner tail).expand write = .ok (lookupText write owner t) := by
  have found : CodeBlock.expand write
      ⟨"ServiceResponse::ok(self.repository.find_by_id(&", []⟩ = .ok _ := expand_plain (by decide)
  have missing : CodeBlock.expand write
      ⟨").await?.ok_or_else(|| ServiceError::not_found(", []⟩ = .ok _ := expand_plain (by decide)
  have comma : CodeBlock.expand write ⟨", &", []⟩ = .ok _ := expand_plain (by decide)
  have behind : CodeBlock.expand write ⟨"))?", []⟩ = .ok _ := expand_plain (by decide)
  have last : CodeBlock.expand write ⟨")", []⟩ = .ok _ := expand_plain (by decide)
  have id := @expand_name write Parameter.idName
  have named : CodeBlock.expand write ⟨"$S", [.str owner]⟩ = .ok _ := expand_arg rfl
  have whole := expand_append (expand_append (expand_append (expand_append (expand_append
    (expand_append (expand_append (expand_append found id) missing) named) comma) id) behind)
    expanded) last
  have format : "ServiceResponse::ok(self.repository.find_by_id(&$N).await?" ++
        ".ok_or_else(|| ServiceError::not_found($S, &$N))?" =
      "ServiceResponse::ok(self.repository.find_by_id(&" ++ "$N" ++
        ").await?.ok_or_else(|| ServiceError::not_found(" ++ "$S" ++ ", &" ++ "$N" ++ "))?" := rfl
  have split := congrArg (fun head => CodeBlock.mk (head ++ tail.format ++ ")")
    ([.name Parameter.idName, .str owner, .name Parameter.idName] ++ tail.args)) format
  rw [List.append_nil] at whole
  exact (congrArg (CodeBlock.expand write) split).trans whole

/-- A field that is read from an entity. -/
def accessorText (write : CodeArg → String) (style : AccessorStyle) (member : String) : String :=
  match style with
  | .field => "." ++ write (.name member)
  | .getter => "." ++ write (.name ("get_" ++ member)) ++ "()"
  | .bean => write (.literal (".get" ++ Naming.capitalize member ++ "()"))

theorem expand_accessor (style : AccessorStyle) (member : String) :
    (style.accessor member).expand write = .ok (accessorText write style member) := by
  have dot : CodeBlock.expand write ⟨".", []⟩ = .ok _ := expand_plain (by decide)
  have call : CodeBlock.expand write ⟨"()", []⟩ = .ok _ := expand_plain (by decide)
  cases style with
  | field => exact expand_append dot (expand_name member)
  | getter => exact expand_append (expand_append dot (expand_name ("get_" ++ member))) call
  | bean => exact expand_arg rfl

/-- A member that is called with some arguments. -/
def memberText (write : CodeArg → String) (name : String) (params : List Parameter) : String :=
  "." ++ write (.literal name) ++ "(" ++
    ", ".intercalate (params.map fun p => write (.name p.name)) ++ ")"

theorem expand_memberCall (name : String) (params : List Parameter) :
    (memberCall name params).expand write = .ok (memberText write name params) := by
  have dot : CodeBlock.expand write ⟨".", []⟩ = .ok _ := expand_plain (by decide)
  have called : CodeBlock.expand write ⟨"$L", [.literal name]⟩ = .ok _ := expand_arg rfl
  have opening : CodeBlock.expand write ⟨"(", []⟩ = .ok _ := expand_plain (by decide)
  have closing : CodeBlock.expand write ⟨")", []⟩ = .ok _ := expand_plain (by decide)
  have args := @expand_list write _ params (fun _ => "$N") (fun p => write (.name p.name))
    (fun p => .name p.name) fun p _ => expand_name p.name
  have whole := expand_append (expand_append (expand_append (expand_append dot called) opening)
    args) closing
  rw [List.append_nil] at whole
  exact whole

/-- The repository is asked for a listing with some arguments. -/
def filterText (args : List String) : String :=
  "ServiceResponse::ok(self.repository.all_by_filter(" ++ ", ".intercalate args ++ ").await?)"

/-- What is handed over to a listing with filters: the filters, and the window if there is one. -/
def filterArgs (write : CodeArg → String) (pagination : Bool) (filters : List Parameter) :
    List String :=
  (filters.map fun p => write (.name p.name)) ++
    if pagination then ["&" ++ write (.name (localName windowName filters))] else []

/-- Each piece of the arguments of a listing, with its sign and its name. -/
def filterPieces (pagination : Bool) (filters : List Parameter) : List (String × String) :=
  (filters.map fun p => ("", p.name)) ++
    if pagination then [("&", localName windowName filters)] else []

theorem map_filterPieces {α : Type} (f : String × String → α) (pagination : Bool)
    (filters : List Parameter) :
    (filterPieces pagination filters).map f =
      (filters.map fun p => f ("", p.name)) ++
        if pagination then [f ("&", localName windowName filters)] else [] := by
  rw [filterPieces, List.map_append, List.map_map]
  cases pagination <;> rfl

theorem sign_filterPieces {pagination : Bool} {filters : List Parameter} {p : String × String}
    (mem : p ∈ filterPieces pagination filters) : '$' ∉ p.1.toList := by
  rcases List.mem_append.1 mem with filter | window
  · obtain ⟨q, -, rfl⟩ := List.mem_map.1 filter
    exact List.not_mem_nil
  · cases pagination with
    | false => cases window
    | true =>
      obtain rfl := List.mem_singleton.1 window
      exact (by decide : '$' ∉ "&".toList)

theorem expand_filterCall (pagination : Bool) (filters : List Parameter) :
    (filterCall pagination filters).expand write =
      .ok (filterText (filterArgs write pagination filters)) := by
  have opening : CodeBlock.expand write
      ⟨"ServiceResponse::ok(self.repository.all_by_filter(", []⟩ = .ok _ :=
    expand_plain (by decide)
  have closing : CodeBlock.expand write ⟨").await?)", []⟩ = .ok _ := expand_plain (by decide)
  have args := @expand_list write _ (filterPieces pagination filters) (fun p => p.1 ++ "$N")
    (fun p => p.1 ++ write (.name p.2)) (fun p => .name p.2) fun p mem =>
      expand_append (expand_plain (sign_filterPieces mem)) (expand_name p.2)
  simp only [map_filterPieces, String.empty_append] at args
  have whole := expand_append (expand_append opening args) closing
  rw [List.nil_append, List.append_nil] at whole
  exact whole

end CrudForge.Generation
