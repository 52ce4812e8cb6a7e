import CrudForge.Proofs.Generation.Signatures
import CrudForge.Proofs.Rendering.Files
import CrudForge.Proofs.Rendering.PlainBodies

/-!
# Services with plain names

An entity with plain names has a service, and its service has a file (`render_plainEntity`). Every
method is one that spells a member (`PlainMethod.rendered`): its parameters are plain and distinct
in snake case, and its body is printable whatever it has to say about owners.
-/

namespace CrudForge.Rendering

open Generation Grammar
open Naming (Plain)

variable {name : String} {m : Method} {p : Parameter} {params : List Parameter}

/-! ## Bodies of methods -/

theorem printable_save (entity : String) : Printable (builtSave entity) := by
  have expanded : CodeBlock.expand written
      ⟨"ServiceResponse::ok(self.repository.save(&$N).await?)", [.name Parameter.entityName]⟩ =
      .ok ("ServiceResponse::ok(" ++ callText "save" ("&" ++ "entity") ++ ")") := by
    decide +kernel
  have borrowed : ExprText ("&" ++ "entity") := .borrow (free_fixed "entity" (by decide))
  exact printable_response rfl expanded
    (argsText_call (free_fixed "save" (by decide)) (argsText_single borrowed))

/-- A response with an entity that is looked up. -/
theorem printable_lookup {owner tail : String} {code : CodeBlock}
    (body : m.body = [.expr (lookup owner code)]) (expanded : code.expand written = .ok tail)
    (trail : TrailText tail) : Printable m := by
  have found := expand_lookup owner expanded
  rw [lookupText_eq] at found
  exact printable_response body found (argsText_found owner trail)

theorem printable_one (entity idType : String) : Printable (builtOne entity idType) :=
  printable_lookup rfl (CodeBlock.expand_plain (by decide)) .nil

theorem printable_delete (idType : String) : Printable (builtDelete idType) := by
  have lines : bodyLines .standard deleteName (builtDelete "").body =
      .ok [⟨0, "self.repository.delete_by_id(&id).await?;"⟩,
        ⟨0, "Ok(ServiceResponse::no_content())"⟩] := by
    decide +kernel
  exact ⟨_, lines, spelled_delete⟩

theorem printable_listing (pagination : Bool) : Printable (builtListing pagination) := by
  have body := body_builtListing pagination
  cases pagination with
  | false =>
    have expanded : CodeBlock.expand written (allCall false) =
        .ok ("ServiceResponse::ok(" ++ callText "find_all" "" ++ ")") := by
      decide +kernel
    exact printable_window body expanded (argsText_call (free_fixed "find_all" (by decide)) .none)
  | true =>
    have expanded : CodeBlock.expand written (allCall true) =
        .ok ("ServiceResponse::ok(" ++ callText "find_all_paged" ("&" ++ "window") ++ ")") := by
      decide +kernel
    have window : ExprText ("&" ++ "window") := .borrow (freeWord_window 0)
    exact printable_window body expanded
      (argsText_call (free_fixed "find_all_paged" (by decide)) (argsText_single window))

theorem filterText_eq (args : List String) :
    filterText args =
      "ServiceResponse::ok(" ++ callText "all_by_filter" (", ".intercalate args) ++ ")" := by
  have first : "ServiceResponse::ok(self.repository.all_by_filter(" =
      "ServiceResponse::ok(" ++ "self.repository." ++ "all_by_filter" ++ "(" := rfl
  have last : ").await?)" = ").await?" ++ ")" := rfl
  unfold filterText callText
  rw [first, last]
  simp only [String.append_assoc]

theorem printable_allByFilter (pagination : Bool) (plain : ∀ p ∈ params, Plain p.name) :
    Printable (builtAllByFilter pagination params) := by
  obtain ⟨count, body, -⟩ := exists_body_builtAllByFilter pagination params
  have expanded := @expand_filterCall written pagination params
  rw [filterText_eq] at expanded
  exact printable_window body expanded
    (argsText_call (free_fixed "all_by_filter" (by decide)) (argsText_filters pagination plain))

/-! ## Parameters -/

/-- A parameter with a plain name and a type made of plain names. -/
structure PlainParam (p : Parameter) : Prop where
  name : Plain p.name
  type : TypeText p.ty.text

/-- Plain parameters are written one after the other. -/
theorem exists_paramsFrom (method : String) {seen : List String}
    (plain : ∀ p ∈ params, PlainParam p)
    (distinct : (params.map fun p => Naming.snakeCase p.name).Nodup)
    (unseen : ∀ p ∈ params, Naming.snakeCase p.name ∉ seen) :
    ∃ text, paramsFrom .standard method seen params = .ok text ∧ ParamsText text := by
  -- By induction on the parameters: what is in front of them is not in their way.
  induction params generalizing seen with
  | nil => exact ⟨"", rfl, .nil⟩
  | cons p params ih =>
    obtain ⟨first, rest⟩ := List.forall_mem_cons.1 plain
    obtain ⟨new, others⟩ := List.nodup_cons.1 distinct
    obtain ⟨fresh, later⟩ := List.forall_mem_cons.1 unseen
    have named := identifier_of_free first.name.snake
    have type := (@checkType_eq_ok_iff .standard
      ("parameter '" ++ p.name ++ "' of '" ++ method ++ "'") p.ty.text ()).2 first.type.isType
    have unseen : ∀ q ∈ params, Naming.snakeCase q.name ∉ Naming.snakeCase p.name :: seen := by
      intro q mem taken
      rcases List.mem_cons.1 taken with same | taken
      · exact new (List.mem_map.2 ⟨q, mem, same⟩)
      · exact later q mem taken
    obtain ⟨text, written, params⟩ := ih rest others unseen
    refine ⟨_, ?_, .cons first.name.snake first.type params⟩
    simp only [paramsFrom, named, if_neg fresh, type, written]
    rfl

/-! ## Methods -/

/-- A method with a plain name and plain parameters that are distinct in snake case. -/
structure PlainMethod (m : Method) : Prop where
  name : Plain m.name
  params : ∀ p ∈ m.params, PlainParam p
  distinct : (m.paramNames.map Naming.snakeCase).Nodup
  body : Printable m

theorem PlainMethod.rendered (plain : PlainMethod m) :
    ∃ text, renderMethod .standard (identifier .standard m.name) m = .ok text ∧
      Spelled IsMemberFor Anything text := by
  have distinct := plain.distinct
  rw [Method.paramNames, List.map_map] at distinct
  obtain ⟨params, written, spelled⟩ := exists_paramsFrom m.name plain.params distinct fun _ _ =>
    List.not_mem_nil
  obtain ⟨lines, printed, block⟩ := plain.body
  refine ⟨_, renderMethod_eq_ok_iff.2 ⟨params, lines, written, printed, rfl⟩, ?_⟩
  rw [identifier_of_free plain.name.snake]
  exact spelled_method plain.name.snake spelled block

theorem exists_renderMethods {ms : List Method} (plain : ∀ m ∈ ms, PlainMethod m) :
    ∃ texts, List.Forall₂
        (fun m text => renderMethod .standard (identifier .standard m.name) m = .ok text) ms
        texts ∧
      ∀ s ∈ texts, Spelled IsMemberFor Anything s := by
  induction ms with
  | nil => exact ⟨[], .nil, fun _ none => absurd none List.not_mem_nil⟩
  | cons m ms ih =>
    obtain ⟨first, rest⟩ := List.forall_mem_cons.1 plain
    obtain ⟨text, rendered, spelled⟩ := first.rendered
    obtain ⟨texts, all, members⟩ := ih rest
    exact ⟨text :: texts, .cons rendered all, List.forall_mem_cons.2 ⟨spelled, members⟩⟩

/-- Fixed names are plain. -/
theorem plain_fixed : ∀ s ∈ [saveName, oneName, allName, allByFilterName, deleteName,
    Parameter.entityName, Parameter.idName, Parameter.pageName, Parameter.pageSizeName, "Option",
    "u64"], Plain s := by
  decide +kernel

theorem plainParam_id {idType : String} (type : TypeText idType) : PlainParam (.id idType) :=
  ⟨plain_fixed Parameter.idName (by decide), type⟩

theorem plainParam_pages (pagination : Bool) : ∀ p ∈ pageParams pagination, PlainParam p := by
  have integer : TypeText TypeRef.optionalInt.text := by
    have text : TypeRef.optionalInt.text = "Option" ++ "<" ++ ",".intercalate ["u64"] ++ ">" := by
      decide
    rw [text]
    exact .apply (plain_fixed "Option" (by decide)) (List.cons_ne_nil _ _) (.inl rfl)
      (List.forall_mem_singleton.2 (.name (plain_fixed "u64" (by decide))))
  cases pagination with
  | false => exact fun p none => absurd none List.not_mem_nil
  | true =>
    exact List.forall_mem_cons.2 ⟨⟨plain_fixed _ (by decide), integer⟩,
      List.forall_mem_singleton.2 ⟨plain_fixed _ (by decide), integer⟩⟩

theorem plainMethod_save {entity : String} (plain : Plain entity) :
    PlainMethod (builtSave entity) where
  name := plain_fixed saveName (by decide)
  params := List.forall_mem_singleton.2
    ⟨plain_fixed Parameter.entityName (by decide), .name plain⟩
  distinct := List.nodup_singleton _
  body := printable_save entity

theorem plainMethod_one (entity : String) {idType : String} (type : TypeText idType) :
    PlainMethod (builtOne entity idType) where
  name := plain_fixed oneName (by decide)
  params := List.forall_mem_singleton.2 (plainParam_id type)
  distinct := List.nodup_singleton _
  body := printable_one entity idType

theorem plainMethod_delete {idType : String} (type : TypeText idType) :
    PlainMethod (builtDelete idType) where
  name := plain_fixed deleteName (by decide)
  params := List.forall_mem_singleton.2 (plainParam_id type)
  distinct := List.nodup_singleton _
  body := printable_delete idType

theorem plainMethod_listing (pagination : Bool) : PlainMethod (builtListing pagination) where
  name := plain_fixed allName (by decide)
  params := plainParam_pages pagination
  distinct := by cases pagination <;> decide +kernel
  body := printable_listing pagination

/-! ## Classes -/

/-- Plain names with two colons between them. -/
def PlainPath (path : String) : Prop :=
  ∃ segments : List String, segments ≠ [] ∧ (∀ w ∈ segments, Plain w) ∧
    path = "::".intercalate segments

/-- A class with plain names is rendered, if no two of its methods are the same in snake case. -/
theorem exists_render {c : ServiceClass} {o : RenderOptions} (named : Plain c.name)
    (field : c.repository.name = repositoryField) (type : TypeText c.repository.ty.text)
    (plain : ∀ m ∈ c.methods, PlainMethod m)
    (distinct : (c.methodNames.map Naming.snakeCase).Nodup)
    (imports : ∀ s ∈ o.imports, PlainPath s) : ∃ text, c.render o = .ok text := by
  obtain ⟨texts, rendered, members⟩ := exists_renderMethods plain
  have identifiers : (c.methods.map fun m => identifier .standard m.name) =
      c.methodNames.map Naming.snakeCase := by
    rw [ServiceClass.methodNames, List.map_map]
    exact List.map_congr_left fun m mem => identifier_of_free (plain m mem).name.snake
  have repository : identifier .standard c.repository.name = "repository" := by
    rw [field]
    decide
  have paths : ∀ s ∈ o.imports, PathText s := fun s mem => by
    obtain ⟨segments, nonempty, all, same⟩ := imports s mem
    exact ⟨segments, nonempty, fun w mem => (all w mem).freeWord, same⟩
  exact ⟨_, renderClass_eq_ok_iff.2 ⟨type.isType, identifiers ▸ distinct, texts, rendered, rfl,
    isFile_classText repository named.freeWord type paths members⟩⟩

/-! ## Entities -/

/-- An endpoint with plain names that says who declares it. -/
structure PlainEndpoint (member : Endpoint) : Prop where
  name : Plain member.name
  owned : member.owner ≠ ""
  params : ∀ name owner params, member = .callable name owner params →
    ∀ p ∈ params, Plain p.name ∧ TypeText p.ty
  distinct : ((endpointNames member).map Naming.snakeCase).Nodup

/-- An entity whose names and types can be written as they are. The text that names the owner of
an endpoint may be anything. -/
structure PlainEntity (naming : NamingConfig) (e : EntityMetadata) : Prop where
  name : Plain e.name
  same : e.crud.name = e.name
  service : Plain (naming.serviceName e.name)
  repository : Plain (naming.repositoryName e.name)
  idType : TypeText e.idType
  fields : ∀ field ty, e.fieldType field = some ty → Plain field ∧ TypeText ty
  known : ∀ field ∈ filterNames e, Known e field
  filters : ((listingNames e).map Naming.snakeCase).Nodup
  endpoints : ∀ member ∈ e.endpoints, PlainEndpoint member
  apart : ((e.endpoints.map (·.name)).map Naming.snakeCase).Nodup
  ordinary : ∀ member ∈ e.endpoints,
    Naming.snakeCase member.name ∉ (ordinaryNames e).map Naming.snakeCase

variable {naming : NamingConfig} {e : EntityMetadata}

theorem PlainEndpoint.serviceable {member : Endpoint} (plain : PlainEndpoint member) :
    Serviceable member :=
  ⟨plain.owned, nodup_endpointNames_iff.1 (.of_map _ plain.distinct)⟩

theorem PlainEntity.generable (plain : PlainEntity naming e) : Generable e where
  nonempty empty := by
    have ascii := plain.name.ascii
    rw [empty] at ascii
    cases ascii
  same := plain.same
  known := plain.known
  distinct _ := .of_map _ plain.filters
  endpoints member mem := (plain.endpoints member mem).serviceable

theorem PlainEndpoint.plainParams {member : Endpoint} (plain : PlainEndpoint member) :
    ∀ p ∈ memberParams member, PlainParam p := by
  cases member with
  | field => exact fun p none => absurd none List.not_mem_nil
  | callable name owner params =>
    intro p mem
    obtain ⟨q, param, rfl⟩ := List.mem_map.1 mem
    obtain ⟨named, typed⟩ := plain.params _ _ _ rfl q param
    exact ⟨named, typed⟩

theorem PlainEndpoint.method {member : Endpoint} (plain : PlainEndpoint member) {idType : String}
    (type : TypeText idType) (style : AccessorStyle) :
    PlainMethod (builtEndpoint idType style member) where
  name := plain.name
  params := by
    rw [params_builtEndpoint]
    exact List.forall_mem_cons.2 ⟨plainParam_id type, plain.plainParams⟩
  distinct := by
    rw [paramNames_builtEndpoint]
    exact plain.distinct
  body := by
    have params := plain.plainParams
    cases member with
    | field name owner =>
      exact printable_lookup rfl (expand_accessor style name) (trailText_accessor style plain.name)
    | callable name owner =>
      exact printable_lookup rfl (expand_memberCall name _)
        (trailText_member plain.name fun p mem => (params p mem).name)

theorem PlainEntity.plainFilters (plain : PlainEntity naming e) :
    ∀ p ∈ filterParams e, PlainParam p := by
  intro p mem
  obtain ⟨field, filter, rfl⟩ := List.mem_map.1 mem
  obtain ⟨ty, found⟩ := plain.known field filter
  obtain ⟨named, typed⟩ := plain.fields field ty found
  rw [found]
  exact ⟨named, typed⟩

theorem PlainEntity.listing (plain : PlainEntity naming e) : PlainMethod (builtList e) := by
  rw [builtList]
  split
  · exact plainMethod_listing e.crud.pagination
  · have filters := plain.plainFilters
    have distinct := plain.filters
    rw [← paramNames_builtAllByFilter] at distinct
    exact ⟨plain_fixed allByFilterName (by decide),
      List.forall_mem_append.2 ⟨filters, plainParam_pages e.crud.pagination⟩, distinct,
      printable_allByFilter _ fun p mem => (filters p mem).name⟩

theorem PlainEntity.methods (plain : PlainEntity naming e) :
    ∀ m ∈ (builtService naming e).methods, PlainMethod m := by
  refine List.forall_mem_cons.2 ⟨plainMethod_save plain.name, List.forall_mem_cons.2
    ⟨plainMethod_one e.name plain.idType, List.forall_mem_cons.2 ⟨plain.listing,
      List.forall_mem_cons.2 ⟨plainMethod_delete plain.idType, fun m mem => ?_⟩⟩⟩⟩
  obtain ⟨member, endpoint, rfl⟩ := List.mem_map.1 mem
  exact (plain.endpoints member endpoint).method plain.idType naming.accessorStyle

theorem nodup_ordinaryNames (e : EntityMetadata) :
    ((ordinaryNames e).map Naming.snakeCase).Nodup := by
  rw [ordinaryNames, builtList]
  split
  · show ([saveName, oneName, allName, deleteName].map Naming.snakeCase).Nodup
    decide +kernel
  · show ([saveName, oneName, allByFilterName, deleteName].map Naming.snakeCase).Nodup
    decide +kernel

theorem PlainEntity.distinct (plain : PlainEntity naming e) :
    ((builtService naming e).methodNames.map Naming.snakeCase).Nodup := by
  rw [methodNames_builtService, List.map_append]
  refine .append (nodup_ordinaryNames e) plain.apart fun name ordinary endpoint => ?_
  rw [List.map_map] at endpoint
  obtain ⟨member, mem, rfl⟩ := List.mem_map.1 endpoint
  exact plain.ordinary member mem ordinary

/-- An entity with plain names and types has a service, and the service has a file. -/
theorem render_plainEntity {o : RenderOptions} (plain : PlainEntity naming e)
    (imports : ∀ s ∈ o.imports, PlainPath s) :
    ∃ c text, generate naming e = .ok c ∧ c.render o = .ok text := by
  have repository : TypeText (builtService naming e).repository.ty.text := .name plain.repository
  obtain ⟨text, rendered⟩ := exists_render plain.service rfl repository plain.methods
    plain.distinct imports
  exact ⟨_, text, generate_eq_ok_iff.2 ⟨plain.generable, rfl⟩, rendered⟩

theorem plainEndpoint_orderEntity :
    ∀ member ∈ orderEntity.metadata.endpoints, PlainEndpoint member := by
  have params : ∀ p ∈ [⟨"currency", "Currency"⟩, (⟨"dueDate", "Date"⟩ : EndpointParam)],
      Plain p.name ∧ TypeText p.ty :=
    List.forall_mem_cons.2 ⟨⟨by decide +kernel, .name (by decide +kernel)⟩,
      List.forall_mem_singleton.2 ⟨by decide +kernel, .name (by decide +kernel)⟩⟩
  refine List.forall_mem_cons.2 ⟨⟨by decide +kernel, by decide, ?_, by decide +kernel⟩,
    List.forall_mem_singleton.2 ⟨by decide +kernel, by decide, ?_, by decide +kernel⟩⟩
  · intro name owner params other
    cases other
  · intro name owner params same
    cases same
    exact params

theorem plainFields_orderEntity (field ty : String)
    (found : orderEntity.metadata.fieldType field = some ty) : Plain field ∧ TypeText ty := by
  have vec {s : String} (plain : Plain s) : TypeText ("Vec" ++ "<" ++ ",".intercalate [s] ++ ">") :=
    .apply (by decide +kernel) (List.cons_ne_nil _ _) (.inl rfl)
      (List.forall_mem_singleton.2 (.name plain))
  have numbers : TypeText "Option<Vec<i32>>" := by
    have text : "Option<Vec<i32>>" = "Option" ++ "<" ++
        ",".intercalate ["Vec" ++ "<" ++ ",".intercalate ["i32"] ++ ">"] ++ ">" := by
      decide
    rw [text]
    exact .apply (by decide +kernel) (List.cons_ne_nil _ _) (.inl rfl)
      (List.forall_mem_singleton.2 (vec (by decide +kernel)))
  have all : ∀ f ∈ orderEntity.fields, Plain f.name ∧ TypeText f.ty :=
    List.forall_mem_cons.2 ⟨⟨by decide +kernel, .name (by decide +kernel)⟩,
      List.forall_mem_cons.2 ⟨⟨by decide +kernel, numbers⟩, List.forall_mem_singleton.2
        ⟨by decide +kernel, vec (s := "Line") (by decide +kernel)⟩⟩⟩
  obtain ⟨f, first, rfl⟩ := Option.map_eq_some_iff.1 found
  have named : f.name = field := by simpa using List.find?_some first
  exact named ▸ all f (List.mem_of_find?_eq_some first)

theorem plainEntity_orderEntity :
    PlainEntity { accessorStyle := .bean } orderEntity.metadata where
  name := by decide +kernel
  same := rfl
  service := by decide +kernel
  repository := by decide +kernel
  idType := .name (by decide +kernel)
  fields := plainFields_orderEntity
  known := generable_orderEntity.known
  filters := by decide +kernel
  endpoints := plainEndpoint_orderEntity
  apart := by decide +kernel
  ordinary := by decide +kernel

theorem render_plainEntity_orderEntity :
    ∃ c text, generate { accessorStyle := .bean } orderEntity.metadata = .ok c ∧
      c.render { imports := ["domain::orders"], beanWiring := true } = .ok text := by
  have path : PlainPath "domain::orders" :=
    ⟨["domain", "orders"], List.cons_ne_nil _ _, by decide +kernel, by decide⟩
  exact render_plainEntity plainEntity_orderEntity (List.forall_mem_singleton.2 path)

end CrudForge.Rendering
