import CrudForge.Proofs.Generation.Bodies

/-!
# When generation fails

An entity has its service iff it is `Generable`, a matter of names alone: nothing is asked of the
texts of types, and a body is never at fault. Otherwise generation ends with the one error that
`FirstFault` allows: the name of the entity is looked at before its listing, the listing before
the endpoints, and each endpoint before the next one.
-/

namespace CrudForge.Generation

open Naming (FirstRepeat)

/-! ## What can be wrong -/

/-- The names of the fields that a listing is filtered by. -/
def filterNames (e : EntityMetadata) : List String :=
  match e.crud.filter with
  | .unfiltered => []
  | .wildcard => e.nonTransient
  | .fields names => names

/-- The names of the parameters of a listing with filters. -/
def listingNames (e : EntityMetadata) : List String :=
  filterNames e ++ pageNames e.crud.pagination

/-- An entity has a field of a name. -/
def Known (e : EntityMetadata) (field : String) : Prop :=
  ∃ ty, e.fieldType field = some ty

/-- The entity has a name, and its configuration is for an entity of that name. -/
structure Named (e : EntityMetadata) : Prop where
  nonempty : e.name ≠ ""
  same : e.crud.name = e.name

/-- The listing can be made. Names may repeat each other only if there is no filter. -/
structure Listable (e : EntityMetadata) : Prop where
  known : ∀ field ∈ filterNames e, Known e field
  distinct : e.crud.filter ≠ .unfiltered → (listingNames e).Nodup

/-- The parameters of a member can stand behind an identifier. -/
def DistinctParams : Endpoint → Prop
  | .field _ _ => True
  | .callable _ _ params =>
    (params.map (·.name)).Nodup ∧ Parameter.idName ∉ params.map (·.name)

/-- An endpoint can have its method. -/
structure Serviceable (member : Endpoint) : Prop where
  owned : member.owner ≠ ""
  distinct : DistinctParams member

/-- Everything that a service needs is there. -/
structure Generable (e : EntityMetadata) : Prop extends Named e, Listable e where
  endpoints : ∀ member ∈ e.endpoints, Serviceable member

/-- The error of a listing. -/
inductive ListingFault (e : EntityMetadata) : GenerationError → Prop
  | unknown {front back : List String} {field : String} :
    filterNames e = front ++ field :: back → (∀ f ∈ front, Known e f) →
    e.fieldType field = none → ListingFault e (.unknownFilterField e.crud.name field)
  | repeated {name : String} :
    e.crud.filter ≠ .unfiltered → (∀ field ∈ filterNames e, Known e field) →
    FirstRepeat (listingNames e) name →
    ListingFault e (.duplicateParameter allByFilterName name)

/-- The error of an endpoint. -/
inductive EndpointFault (entity : String) (member : Endpoint) : GenerationError → Prop
  | ownerless : member.owner = "" → EndpointFault entity member (.missingOwner entity member.name)
  | repeated {name : String} :
    member.owner ≠ "" → FirstRepeat (endpointNames member) name →
    EndpointFault entity member (.duplicateParameter member.name name)

/-- The first error of an entity. -/
inductive FirstFault (e : EntityMetadata) : GenerationError → Prop
  | unnamed : e.name = "" → FirstFault e .emptyEntityName
  | mismatch : e.name ≠ "" → e.crud.name ≠ e.name →
    FirstFault e (.entityNameMismatch e.name e.crud.name)
  | listing {err : GenerationError} : Named e → ListingFault e err → FirstFault e err
  | endpoint {front back : List Endpoint} {member : Endpoint} {err : GenerationError} :
    Named e → Listable e → e.endpoints = front ++ member :: back →
    (∀ m ∈ front, Serviceable m) → EndpointFault e.name member err → FirstFault e err

variable {e : EntityMetadata} {err : GenerationError}

/-! ## The listing -/

/-- What resolving a filter does with one name. -/
def resolveField (e : EntityMetadata) (field : String) :
    Except GenerationError (String × String) :=
  match e.fieldType field with
  | some ty => .ok (field, ty)
  | none => .error (.unknownFilterField e.crud.name field)

theorem resolveFilter_eq :
    resolveFilter e.crud e.toFieldResolver = (filterNames e).mapM (resolveField e) := rfl

theorem resolveField_eq_ok_iff {field : String} {found : String × String} :
    resolveField e field = .ok found ↔ ∃ ty, e.fieldType field = some ty ∧ (field, ty) = found := by
  rw [resolveField]
  cases e.fieldType field <;> simp

theorem exists_resolveField_iff {field : String} :
    (∃ found, resolveField e field = .ok found) ↔ Known e field := by
  simp [resolveField_eq_ok_iff, Known]

theorem resolveField_eq_error_iff {field : String} :
    resolveField e field = .error err ↔
      e.fieldType field = none ∧ .unknownFilterField e.crud.name field = err := by
  rw [resolveField]
  cases e.fieldType field <;> simp

theorem exists_resolveFilter_iff :
    (∃ fields, resolveFilter e.crud e.toFieldResolver = .ok fields) ↔
      ∀ field ∈ filterNames e, Known e field := by
  rw [resolveFilter_eq, Outcome.exists_mapM_eq_ok_iff]
  simp only [exists_resolveField_iff]

/-- Resolving keeps the names and their order. -/
theorem names_of_resolveFilter {fields : List (String × String)}
    (resolved : resolveFilter e.crud e.toFieldResolver = .ok fields) :
    fields.map (·.1) = filterNames e := by
  rw [resolveFilter_eq, Outcome.mapM_eq_ok_iff] at resolved
  generalize filterNames e = names at resolved
  induction resolved with
  | nil => rfl
  | cons first _ ih =>
    obtain ⟨ty, -, rfl⟩ := resolveField_eq_ok_iff.1 first
    rw [List.map_cons, ih]

/-- The method of a listing with filters, once the types of the filters are known. -/
theorem exists_listing_builder {fields : List (String × String)}
    (resolved : resolveFilter e.crud e.toFieldResolver = .ok fields) :
    ∃ b : MethodBuilder,
      allByFilterMethod e.crud.pagination (fields.map fun (field, ty) => .declared field ty) =
        b.build ∧
      b.name = allByFilterName ∧ b.params.map (·.name) = listingNames e ∧
      checkBody b.body = .ok () := by
  obtain ⟨b, built, named, params, accepted⟩ := exists_allByFilter_builder e.crud.pagination
    (fields.map fun (field, ty) => .declared field ty)
  refine ⟨b, built, named, ?_, accepted⟩
  rw [params, listingNames, ← names_of_resolveFilter resolved, List.map_map]
  rfl

theorem exists_listMethod_iff :
    (∃ m, listMethod e.crud e.toFieldResolver = .ok m) ↔ Listable e := by
  rw [listMethod]
  cases filter : e.crud.filter with
  | unfiltered =>
    refine iff_of_true (exists_allMethod e.crud.pagination) ⟨?_, fun filtered => ?_⟩
    · simp [filterNames, filter]
    · exact absurd filter filtered
  | wildcard | fields =>
    have filtered : e.crud.filter ≠ .unfiltered := by simp [filter]
    simp only [FilterSpec.isUnfiltered, Bool.false_eq_true, if_false, Outcome.bind_eq_ok_iff]
    constructor
    · rintro ⟨m, fields, resolved, made⟩
      obtain ⟨b, built, -, params, accepted⟩ := exists_listing_builder resolved
      have distinct := (MethodBuilder.build_eq_ok_iff.1 (built ▸ made)).1
      exact ⟨exists_resolveFilter_iff.1 ⟨fields, resolved⟩, fun _ => params ▸ distinct⟩
    · intro listable
      obtain ⟨fields, resolved⟩ := exists_resolveFilter_iff.2 listable.known
      obtain ⟨b, built, -, params, accepted⟩ := exists_listing_builder resolved
      have distinct : (b.params.map (·.name)).Nodup := params ▸ listable.distinct filtered
      obtain ⟨m, made⟩ := (MethodBuilder.exists_build_eq_ok_iff_of_body accepted).2 distinct
      exact ⟨m, fields, resolved, built.trans made⟩

theorem resolveFilter_eq_error_iff :
    resolveFilter e.crud e.toFieldResolver = .error err ↔
      ∃ front field back, filterNames e = front ++ field :: back ∧ (∀ f ∈ front, Known e f) ∧
        e.fieldType field = none ∧ .unknownFilterField e.crud.name field = err := by
  rw [resolveFilter_eq, Outcome.mapM_eq_error_iff]
  simp only [exists_resolveField_iff, resolveField_eq_error_iff]

theorem listMethod_eq_error_iff :
    listMethod e.crud e.toFieldResolver = .error err ↔ ListingFault e err := by
  rw [listMethod]
  cases filter : e.crud.filter with
  | unfiltered =>
    obtain ⟨m, made⟩ := exists_allMethod e.crud.pagination
    simp only [FilterSpec.isUnfiltered, if_true, made]
    refine iff_of_false Outcome.ok_ne_error fun fault => ?_
    cases fault with
    | unknown split => simp [filterNames, filter] at split
    | repeated filtered => exact filtered filter
  | wildcard | fields =>
    have filtered : e.crud.filter ≠ .unfiltered := by simp [filter]
    simp only [FilterSpec.isUnfiltered, Bool.false_eq_true, if_false, Outcome.bind_eq_error_iff,
      resolveFilter_eq_error_iff]
    constructor
    · rintro (⟨front, field, back, split, known, unknown, rfl⟩ | ⟨fields, resolved, failed⟩)
      · exact .unknown split known unknown
      · obtain ⟨b, built, named, params, accepted⟩ := exists_listing_builder resolved
        obtain ⟨name, repeated, rfl⟩ :=
          (MethodBuilder.build_eq_error_iff_of_body accepted).1 (built ▸ failed)
        rw [named]
        exact .repeated filtered (exists_resolveFilter_iff.1 ⟨fields, resolved⟩)
          (params ▸ repeated)
    · intro fault
      cases fault with
      | unknown split known unknown => exact .inl ⟨_, _, _, split, known, unknown, rfl⟩
      | @repeated name _ known repeated =>
        obtain ⟨fields, resolved⟩ := exists_resolveFilter_iff.2 known
        obtain ⟨b, built, named, params, accepted⟩ := exists_listing_builder resolved
        refine .inr ⟨fields, resolved, built.trans ?_⟩
        exact (MethodBuilder.build_eq_error_iff_of_body accepted).2
          ⟨name, params ▸ repeated, by rw [named]⟩

/-! ## The endpoints -/

section Endpoints

variable {entity idType : String} {style : AccessorStyle} {member : Endpoint}

theorem nodup_endpointNames_iff : (endpointNames member).Nodup ↔ DistinctParams member := by
  cases member with
  | field => simp [endpointNames, DistinctParams]
  | callable name owner params =>
    rw [endpointNames, DistinctParams, List.nodup_cons, and_comm]

theorem exists_endpointMethodOf_iff :
    (∃ m, endpointMethodOf entity idType style member = .ok m) ↔ Serviceable member := by
  rw [endpointMethodOf]
  by_cases owner : member.owner = ""
  · rw [if_pos owner]
    exact iff_of_false Outcome.not_exists_error_eq_ok fun serviceable => serviceable.owned owner
  · obtain ⟨b, built, -, params, accepted⟩ := exists_endpoint_builder idType style member
    rw [if_neg owner, built, MethodBuilder.exists_build_eq_ok_iff_of_body accepted, params,
      nodup_endpointNames_iff]
    exact ⟨fun distinct => ⟨owner, distinct⟩, fun serviceable => serviceable.distinct⟩

theorem endpointMethodOf_eq_error_iff :
    endpointMethodOf entity idType style member = .error err ↔
      EndpointFault entity member err := by
  rw [endpointMethodOf]
  by_cases owner : member.owner = ""
  · rw [if_pos owner, Except.error.injEq]
    constructor
    · rintro rfl
      exact .ownerless owner
    · intro fault
      cases fault with
      | ownerless => rfl
      | repeated owned => exact absurd owner owned
  · obtain ⟨b, built, named, params, accepted⟩ := exists_endpoint_builder idType style member
    rw [if_neg owner, built, MethodBuilder.build_eq_error_iff_of_body accepted, params, named]
    constructor
    · rintro ⟨name, repeated, rfl⟩
      exact .repeated owner repeated
    · intro fault
      cases fault with
      | ownerless ownerless => exact absurd ownerless owner
      | repeated _ repeated => exact ⟨_, repeated, rfl⟩

end Endpoints

/-! ## The entity -/

/-- Of the methods of an entity with a name, only the listing and the endpoints can fail. -/
theorem methods_eq (style : AccessorStyle) (named : Named e) :
    methods e.crud e.idType e.endpoints e.toFieldResolver style = do
      let list ← listMethod e.crud e.toFieldResolver
      let members ← e.endpoints.mapM (endpointMethodOf e.name e.idType style)
      return builtSave e.name :: builtOne e.name e.idType :: list :: builtDelete e.idType ::
        members := by
  rw [methods, named.same, if_neg named.nonempty, saveMethod_eq, oneMethod_eq, deleteMethod_eq]
  rfl

theorem exists_methods_iff {style : AccessorStyle} (named : Named e) :
    (∃ ms, methods e.crud e.idType e.endpoints e.toFieldResolver style = .ok ms) ↔
      Generable e := by
  simp only [methods_eq style named, Outcome.bind_eq_ok_iff, Outcome.pure_eq_ok_iff]
  constructor
  · rintro ⟨_, list, listed, members, served, -⟩
    refine { named, exists_listMethod_iff.1 ⟨list, listed⟩ with endpoints := fun m mem => ?_ }
    exact exists_endpointMethodOf_iff.1 (Outcome.exists_mapM_eq_ok_iff.1 ⟨members, served⟩ m mem)
  · intro generable
    obtain ⟨list, listed⟩ := exists_listMethod_iff.2 generable.toListable
    obtain ⟨members, served⟩ := Outcome.exists_mapM_eq_ok_iff.2 fun m mem =>
      (@exists_endpointMethodOf_iff e.name e.idType style m).2 (generable.endpoints m mem)
    exact ⟨_, list, listed, members, served, rfl⟩

theorem methods_eq_error_iff {style : AccessorStyle} (named : Named e) :
    methods e.crud e.idType e.endpoints e.toFieldResolver style = .error err ↔
      FirstFault e err := by
  simp only [methods_eq style named, Outcome.bind_eq_error_iff, Outcome.pure_ne_error, and_false,
    exists_false, or_false, listMethod_eq_error_iff, Outcome.mapM_eq_error_iff,
    exists_endpointMethodOf_iff, endpointMethodOf_eq_error_iff]
  constructor
  · rintro (fault | ⟨list, listed, front, member, back, split, served, fault⟩)
    · exact .listing named fault
    · exact .endpoint named (exists_listMethod_iff.1 ⟨list, listed⟩) split served fault
  · intro fault
    cases fault with
    | unnamed unnamed => exact absurd unnamed named.nonempty
    | mismatch _ mismatch => exact absurd named.same mismatch
    | listing _ fault => exact .inl fault
    | endpoint _ listable split served fault =>
      obtain ⟨list, listed⟩ := exists_listMethod_iff.2 listable
      exact .inr ⟨list, listed, _, _, _, split, served, fault⟩

theorem exists_generate_iff {naming : NamingConfig} :
    (∃ c, generate naming e = .ok c) ↔ Generable e := by
  rw [generate]
  by_cases unnamed : e.name = ""
  · rw [if_pos unnamed]
    exact iff_of_false Outcome.not_exists_error_eq_ok fun generable => generable.nonempty unnamed
  · rw [if_neg unnamed]
    by_cases same : e.crud.name = e.name
    · rw [if_neg (not_not_intro same),
        ← @exists_methods_iff e naming.accessorStyle ⟨unnamed, same⟩]
      constructor
      · rintro ⟨c, made⟩
        obtain ⟨ms, made, -⟩ := Outcome.map_eq_ok_iff.1 made
        exact ⟨ms, made⟩
      · rintro ⟨ms, made⟩
        exact ⟨_, Outcome.map_eq_ok_iff.2 ⟨ms, made, rfl⟩⟩
    · rw [if_pos same]
      exact iff_of_false Outcome.not_exists_error_eq_ok fun generable => same generable.same

theorem generate_eq_error_iff {naming : NamingConfig} :
    generate naming e = .error err ↔ FirstFault e err := by
  rw [generate]
  by_cases unnamed : e.name = ""
  · rw [if_pos unnamed, Except.error.injEq]
    constructor
    · rintro rfl
      exact .unnamed unnamed
    · intro fault
      cases fault with
      | unnamed => rfl
      | mismatch named => exact absurd unnamed named
      | listing named | endpoint named => exact absurd unnamed named.nonempty
  · rw [if_neg unnamed]
    by_cases same : e.crud.name = e.name
    · rw [if_neg (not_not_intro same), Outcome.map_eq_error_iff,
        methods_eq_error_iff ⟨unnamed, same⟩]
    · rw [if_pos same, Except.error.injEq]
      constructor
      · rintro rfl
        exact .mismatch unnamed same
      · intro fault
        cases fault with
        | unnamed empty => exact absurd empty unnamed
        | mismatch => rfl
        | listing named | endpoint named => exact absurd named.same same

/-- A service is generated iff everything it needs is there; otherwise the error is the first one
in order. That a body is malformed is never the reason. -/
theorem generate_outcome (naming : NamingConfig) (e : EntityMetadata) :
    ((∃ c, generate naming e = .ok c) ↔ Generable e) ∧
    (∀ err, generate naming e = .error err ↔ FirstFault e err) ∧
    ∀ method reason, generate naming e ≠ .error (.malformedBody method reason) := by
  refine ⟨exists_generate_iff, fun err => generate_eq_error_iff, fun method reason failed => ?_⟩
  cases generate_eq_error_iff.1 failed with
  | listing _ fault => cases fault
  | endpoint _ _ _ _ fault => cases fault

end CrudForge.Generation
