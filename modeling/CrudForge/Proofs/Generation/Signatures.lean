import CrudForge.Proofs.Generation.Shape

/-!
# What services show to their callers

A service has its methods in a fixed order, each with its name, its parameters and the way in which
it may fail (`outlines_of_generate`). Bodies have no part in it, and of the conventions of naming
nothing but what is put around the name of the entity.
-/

namespace CrudForge.Generation

variable {naming : NamingConfig} {e : EntityMetadata} {c : ServiceClass}

/-! ## Names of parameters and methods -/

/-- The parameters that are handed on to a member. -/
def memberParams : Endpoint → List Parameter
  | .field _ _ => []
  | .callable _ _ params => params.map fun p => .declared p.name p.ty

theorem params_builtEndpoint (idType : String) (style : AccessorStyle) (member : Endpoint) :
    (builtEndpoint idType style member).params = .id idType :: memberParams member := by
  cases member <;> rfl

theorem paramNames_builtEndpoint (idType : String) (style : AccessorStyle) (member : Endpoint) :
    (builtEndpoint idType style member).paramNames = endpointNames member := by
  rw [Method.paramNames, params_builtEndpoint]
  cases member with
  | field => rfl
  | callable name owner params =>
    rw [memberParams, List.map_cons, List.map_map]
    rfl

theorem paramNames_pageParams (pagination : Bool) :
    (pageParams pagination).map (·.name) = pageNames pagination := by
  cases pagination <;> rfl

theorem names_filterParams (e : EntityMetadata) :
    (filterParams e).map (·.name) = filterNames e := by
  rw [filterParams, List.map_map]
  exact List.map_id _

theorem paramNames_builtAllByFilter (e : EntityMetadata) :
    (builtAllByFilter e.crud.pagination (filterParams e)).paramNames = listingNames e := by
  rw [Method.paramNames, builtAllByFilter, List.map_append, names_filterParams,
    paramNames_pageParams]
  rfl

/-- The names of the methods that every service of an entity has. -/
def ordinaryNames (e : EntityMetadata) : List String :=
  [saveName, oneName, (builtList e).name, deleteName]

theorem methodNames_builtService (naming : NamingConfig) (e : EntityMetadata) :
    (builtService naming e).methodNames = ordinaryNames e ++ e.endpoints.map (·.name) := by
  rw [ServiceClass.methodNames, builtService, serviceClass]
  simp only [List.map_cons, List.map_map]
  rfl

/-! ## Parameters of one method -/

theorem nodup_paramNames_builtList (listable : Listable e) : (builtList e).paramNames.Nodup := by
  rw [builtList]
  split
  · show ((pageParams e.crud.pagination).map (·.name)).Nodup
    rw [paramNames_pageParams]
    cases e.crud.pagination <;> decide
  · rename_i filtered
    rw [paramNames_builtAllByFilter]
    exact listable.distinct fun unfiltered => filtered (by rw [unfiltered]; rfl)

/-- No method of a service repeats the name of a parameter. -/
theorem nodup_paramNames_of_generable (generable : Generable e) :
    ∀ m ∈ (builtService naming e).methods, m.paramNames.Nodup := by
  refine List.forall_mem_cons.2 ⟨List.nodup_singleton _, List.forall_mem_cons.2
    ⟨List.nodup_singleton _, List.forall_mem_cons.2
      ⟨nodup_paramNames_builtList generable.toListable, List.forall_mem_cons.2
        ⟨List.nodup_singleton _, fun m mem => ?_⟩⟩⟩⟩
  obtain ⟨member, endpoint, rfl⟩ := List.mem_map.1 mem
  rw [paramNames_builtEndpoint]
  exact nodup_endpointNames_iff.2 (generable.endpoints member endpoint).distinct

/-! ## Outlines -/

/-- What a method shows to its callers. -/
structure Outline where
  name : String
  params : List Parameter
  /-- Whether it says that there may be no entity. -/
  notFound : Bool
  deriving DecidableEq

/-- The outline of a method. -/
def outline (m : Method) : Outline := ⟨m.name, m.params, m.declares .notFound⟩

/-- Filters are resolved: each has the name of its field and the type that is declared for it. -/
def ResolvedFilters (e : EntityMetadata) (filters : List Parameter) : Prop :=
  List.Forall₂ (fun field p => ∃ ty, e.fieldType field = some ty ∧ p = ⟨field, .declared ty⟩)
    (filterNames e) filters

theorem resolvedFilters (known : ∀ field ∈ filterNames e, Known e field) :
    ResolvedFilters e (filterParams e) := by
  rw [ResolvedFilters, filterParams, List.forall₂_map_right_iff, List.forall₂_same]
  intro field mem
  obtain ⟨ty, found⟩ := known field mem
  exact ⟨ty, found, by rw [found]; rfl⟩

/-- The outline of a listing. -/
def listOutline (e : EntityMetadata) (filters : List Parameter) : Outline where
  name := if e.crud.filter = .unfiltered then "all" else "allByFilter"
  params := filters ++
    if e.crud.pagination then [⟨"page", .optionalInt⟩, ⟨"pageSize", .optionalInt⟩] else []
  notFound := false

theorem outline_builtList (e : EntityMetadata) :
    outline (builtList e) = listOutline e (filterParams e) := by
  rw [builtList, listOutline]
  cases filter : e.crud.filter with
  | unfiltered =>
    have none : filterParams e = [] := by
      rw [filterParams, filterNames, filter]
      rfl
    rw [none]
    rfl
  | wildcard | fields => rfl

/-- The outline of the method of an endpoint. -/
def memberOutline (idType : String) (member : Endpoint) : Outline where
  name := member.name
  params := ⟨"id", .id idType⟩ :: memberParams member
  notFound := true

theorem outline_builtEndpoint (idType : String) (style : AccessorStyle) (member : Endpoint) :
    outline (builtEndpoint idType style member) = memberOutline idType member := by
  rw [outline, params_builtEndpoint]
  rfl

/-- What a service that is generated shows to its callers: the names of the class and of its
repository, and the outlines of its methods in order. No method repeats the name of a parameter,
and every body is accepted. -/
theorem outlines_of_generate (generated : generate naming e = .ok c) :
    c.name = naming.classPrefix ++ e.name ++ naming.serviceSuffix ∧
    c.repository = { name := "repository"
                     ty := .declared (naming.classPrefix ++ e.name ++ naming.repositorySuffix)
                     injected := true } ∧
    (∃ filters, ResolvedFilters e filters ∧
      c.methods.map outline =
        ⟨"save", [⟨"entity", .entity e.name⟩], false⟩ ::
        ⟨"one", [⟨"id", .id e.idType⟩], true⟩ ::
        listOutline e filters ::
        ⟨"delete", [⟨"id", .id e.idType⟩], false⟩ ::
        e.endpoints.map (memberOutline e.idType)) ∧
    ∀ m ∈ c.methods, m.paramNames.Nodup ∧ checkBody m.body = .ok () := by
  obtain ⟨generable, rfl⟩ := generate_eq_ok_iff.1 generated
  have members : (e.endpoints.map (builtEndpoint e.idType naming.accessorStyle)).map outline =
      e.endpoints.map (memberOutline e.idType) := by
    rw [List.map_map]
    exact List.map_congr_left fun member _ => outline_builtEndpoint _ _ member
  refine ⟨rfl, rfl, ⟨filterParams e, resolvedFilters generable.known, ?_⟩, fun m mem =>
    ⟨nodup_paramNames_of_generable generable m mem, checkBody_of_generate generated mem⟩⟩
  rw [← outline_builtList, ← members]
  rfl

/-- Orders in pages, with a filter that is called as the window would be, and an endpoint of an
owner whose name is no word. -/
def orderEntity : StaticEntity where
  idType := "Uuid"
  fields := [⟨"status", "String", false⟩, ⟨"window", "Option<Vec<i32>>", false⟩,
    ⟨"lines", "Vec<Line>", true⟩]
  crud := { name := "Order", pagination := true, filter := .wildcard }
  endpoints := [.field "status" "Order",
    .callable "priceIn" "the \"shop\"\n$N" [⟨"currency", "Currency"⟩, ⟨"dueDate", "Date"⟩]]

theorem generable_orderEntity : Generable orderEntity.metadata where
  nonempty := by decide
  same := rfl
  known := List.forall_mem_cons.2 ⟨⟨"String", rfl⟩,
    List.forall_mem_singleton.2 ⟨"Option<Vec<i32>>", rfl⟩⟩
  distinct _ := by decide
  endpoints := List.forall_mem_cons.2 ⟨⟨by decide, trivial⟩,
    List.forall_mem_singleton.2 ⟨by decide, by decide, by decide⟩⟩

theorem outlines_of_generate_orderEntity :
    ∃ c, generate { classPrefix := "My" } orderEntity.metadata = .ok c ∧
      c.name = "MyOrderService" ∧
      c.repository = ⟨"repository", .declared "MyOrderRepository", true⟩ ∧
      (c.methods.map outline).drop 2 = [
        ⟨"allByFilter", [⟨"status", .declared "String"⟩, ⟨"window", .declared "Option<Vec<i32>>"⟩,
          ⟨"page", .optionalInt⟩, ⟨"pageSize", .optionalInt⟩], false⟩,
        ⟨"delete", [⟨"id", .id "Uuid"⟩], false⟩,
        ⟨"status", [⟨"id", .id "Uuid"⟩], true⟩,
        ⟨"priceIn", [⟨"id", .id "Uuid"⟩, ⟨"currency", .declared "Currency"⟩,
          ⟨"dueDate", .declared "Date"⟩], true⟩] := by
  have generated : generate { classPrefix := "My" } orderEntity.metadata = .ok _ :=
    generate_eq_ok_iff.2 ⟨generable_orderEntity, rfl⟩
  obtain ⟨name, repository, ⟨filters, resolved, outlines⟩, -⟩ := outlines_of_generate generated
  refine ⟨_, generated, name, repository, ?_⟩
  have fields : filters =
      [⟨"status", .declared "String"⟩, ⟨"window", .declared "Option<Vec<i32>>"⟩] := by
    obtain _ | ⟨⟨_, found, rfl⟩, _ | ⟨⟨_, found', rfl⟩, _ | _⟩⟩ := resolved
    cases found
    cases found'
    rfl
  rw [outlines, fields]
  rfl

end CrudForge.Generation
