import CrudForge.Proofs.Generation.Failure

/-!
# The service of an entity

What is generated for an entity is known in full as soon as it is known that generation succeeds:
the class is `builtService`, whose methods are given here one by one with their parameters and
their bodies (`generate_eq_ok_iff`).
-/

namespace CrudForge.Generation

open CodeBlock (Sound sound_of_letters)

/-! ## Listings -/

/-- The parameters that turn a listing into pages. -/
def pageParams (pagination : Bool) : List Parameter :=
  if pagination then [.page, .pageSize] else []

/-- The fragments that cut a window, if the listing comes in pages. -/
def windowBody (pagination : Bool) (window : String) : List Fragment :=
  if pagination then [
    .beginBlock
      { format := "let $N = if let (Some($N), Some($N)) = ($N, $N)"
        args := [.name window, .name Parameter.pageName, .name Parameter.pageSizeName,
          .name Parameter.pageName, .name Parameter.pageSizeName] },
    .expr
      { format := "PageWindow::new($N, $N)"
        args := [.name Parameter.pageName, .name Parameter.pageSizeName] },
    .nextBlock { format := "else" },
    .expr { format := "PageWindow::unrestricted()" },
    .endBlock true]
  else []

/-- The call of the repository for all entities, or for those in the window. -/
def allCall (pagination : Bool) : CodeBlock :=
  if pagination then
    { format := "ServiceResponse::ok(self.repository.find_all_paged(&$N).await?)"
      args := [.name windowName] }
  else { format := "ServiceResponse::ok(self.repository.find_all().await?)" }

/-- The listing without filters. -/
def builtListing (pagination : Bool) : Method where
  name := allName
  params := pageParams pagination
  failures := .empty
  body := windowBody pagination windowName ++ [.expr (allCall pagination)]

/-- The call of the repository that hands over filters, and the window behind them. -/
def filterCall (pagination : Bool) (filters : List Parameter) : CodeBlock where
  format := "ServiceResponse::ok(self.repository.all_by_filter(" ++
    ", ".intercalate ((filters.map fun _ => "$N") ++ if pagination then ["&$N"] else []) ++
    ").await?)"
  args := (filters.map fun p => .name p.name) ++
    if pagination then [.name (localName windowName filters)] else []

/-- The listing with filters. -/
def builtAllByFilter (pagination : Bool) (filters : List Parameter) : Method where
  name := allByFilterName
  params := filters ++ pageParams pagination
  failures := .empty
  body := windowBody pagination (localName windowName filters) ++
    [.expr (filterCall pagination filters)]

theorem allMethod_eq_built (pagination : Bool) :
    allMethod pagination = .ok (builtListing pagination) := by
  cases pagination with
  | false => exact allMethod_eq
  | true =>
    have answer : Sound (allCall true) := sound_of_letters ['N'] (by decide) rfl
    have accepted := checkBody_addPagination { name := allName } windowName rfl answer
    exact MethodBuilder.build_eq_ok_iff.2 ⟨by decide, accepted, rfl⟩

/-- One placeholder for each argument of the call, the window included. -/
theorem fit_filterArgs (pagination : Bool) (filters : List Parameter) :
    List.Forall₂ (fun marker arg => Sound ⟨marker, [arg]⟩)
      ((filters.map fun _ => "$N") ++ if pagination then ["&$N"] else [])
      ((filters.map fun p => .name p.name) ++
        if pagination then [.name (localName windowName filters)] else []) := by
  refine List.rel_append (fit_params filters) ?_
  cases pagination with
  | false => exact .nil
  | true =>
    have windowed : Sound ⟨"&$N", [.name (localName windowName filters)]⟩ :=
      sound_of_letters ['N'] (by decide) rfl
    exact .cons windowed .nil

theorem sound_call (pagination : Bool) (filters : List Parameter) :
    Sound (filterCall pagination filters) :=
  sound_filterCall (fit_filterArgs pagination filters)

/-- The builder of the listing with filters. -/
def allByFilterBuilder (pagination : Bool) (filters : List Parameter) : MethodBuilder where
  name := allByFilterName
  params := filters ++ pageParams pagination
  body := windowBody pagination (localName windowName filters) ++
    [.expr (filterCall pagination filters)]

theorem filterCall_false (filters : List Parameter) :
    filterCall false filters =
      { format := "ServiceResponse::ok(self.repository.all_by_filter(" ++
          ", ".intercalate (filters.map fun _ => "$N") ++ ").await?)"
        args := filters.map fun p => .name p.name } :=
  congrArg₂
    (fun markers args => CodeBlock.mk ("ServiceResponse::ok(self.repository.all_by_filter(" ++
      ", ".intercalate markers ++ ").await?)") args)
    (List.append_nil _) (List.append_nil _)

theorem allByFilterMethod_eq (pagination : Bool) (filters : List Parameter) :
    allByFilterMethod pagination filters = (allByFilterBuilder pagination filters).build := by
  cases pagination with
  | false =>
    have params : filters ++ pageParams false = filters := List.append_nil filters
    rw [allByFilterBuilder, filterCall_false, params]
    rfl
  | true =>
    have params : filters ++ pageParams true = (filters ++ [.page]) ++ [.pageSize] :=
      (List.append_assoc filters [.page] [.pageSize]).symm
    rw [allByFilterBuilder, params]
    rfl

theorem checkBody_allByFilterBuilder (pagination : Bool) (filters : List Parameter) :
    checkBody (allByFilterBuilder pagination filters).body = .ok () := by
  have sound := sound_call pagination filters
  rw [allByFilterBuilder]
  generalize filterCall pagination filters = call at sound
  cases pagination with
  | false => exact checkBody_expr sound
  | true => exact checkBody_addPagination { name := allByFilterName } _ rfl sound

theorem allByFilterMethod_eq_ok_iff {pagination : Bool} {filters : List Parameter} {m : Method} :
    allByFilterMethod pagination filters = .ok m ↔
      (builtAllByFilter pagination filters).paramNames.Nodup ∧
        builtAllByFilter pagination filters = m := by
  rw [allByFilterMethod_eq, MethodBuilder.build_eq_ok_iff, checkBody_allByFilterBuilder]
  simp only [true_and]
  rfl

/-! ## Endpoints -/

/-- The method of an endpoint. -/
def builtEndpoint (idType : String) (style : AccessorStyle) (member : Endpoint) : Method where
  name := member.name
  params := .id idType ::
    match member with
    | .field _ _ => []
    | .callable _ _ params => params.map fun p => .declared p.name p.ty
  failures := FailureSet.empty.insert .notFound
  body := [.expr <| lookup member.owner <|
    match member with
    | .field name _ => style.accessor name
    | .callable name _ params => memberCall name (params.map fun p => .declared p.name p.ty)]

theorem endpointMethodOf_eq_ok_iff {entity idType : String} {style : AccessorStyle}
    {member : Endpoint} {m : Method} :
    endpointMethodOf entity idType style member = .ok m ↔
      Serviceable member ∧ builtEndpoint idType style member = m := by
  rw [← @exists_endpointMethodOf_iff entity idType style]
  have unique {m : Method} (made : endpointMethodOf entity idType style member = .ok m) :
      builtEndpoint idType style member = m := by
    rw [endpointMethodOf] at made
    split at made
    · cases made
    · cases member with
      | field name owner =>
        rw [endpointMethod] at made
        exact (MethodBuilder.build_eq_ok_iff.1 made).2.2
      | callable name owner params =>
        rw [endpointMethod] at made
        exact (MethodBuilder.build_eq_ok_iff.1 made).2.2
  constructor
  · intro made
    exact ⟨⟨m, made⟩, unique made⟩
  · rintro ⟨⟨m', made⟩, rfl⟩
    rw [unique made]
    exact made

/-! ## Classes -/

/-- The filters of the listing of an entity, with the types of the fields. -/
def filterParams (e : EntityMetadata) : List Parameter :=
  (filterNames e).map fun field => .declared field ((e.fieldType field).getD "")

/-- The listing of an entity. -/
def builtList (e : EntityMetadata) : Method :=
  if e.crud.filter.isUnfiltered then builtListing e.crud.pagination
  else builtAllByFilter e.crud.pagination (filterParams e)

/-- The service of an entity. -/
def builtService (naming : NamingConfig) (e : EntityMetadata) : ServiceClass :=
  serviceClass naming e.name (builtSave e.name :: builtOne e.name e.idType :: builtList e ::
    builtDelete e.idType :: e.endpoints.map (builtEndpoint e.idType naming.accessorStyle))

variable {e : EntityMetadata}

theorem resolveFilter_eq_ok {fields : List (String × String)}
    (resolved : resolveFilter e.crud e.toFieldResolver = .ok fields) :
    (fields.map fun (field, ty) => Parameter.declared field ty) = filterParams e := by
  rw [resolveFilter_eq, Outcome.mapM_eq_ok_iff] at resolved
  rw [filterParams]
  generalize filterNames e = names at resolved
  induction resolved with
  | nil => rfl
  | cons first _ ih =>
    obtain ⟨ty, found, rfl⟩ := resolveField_eq_ok_iff.1 first
    rw [List.map_cons, List.map_cons, ih, found]
    rfl

theorem listMethod_eq_ok {m : Method} (made : listMethod e.crud e.toFieldResolver = .ok m) :
    builtList e = m := by
  rw [listMethod] at made
  rw [builtList]
  split at made
  · rename_i unfiltered
    rw [if_pos unfiltered]
    exact Except.ok.inj ((allMethod_eq_built _).symm.trans made)
  · rename_i filtered
    obtain ⟨fields, resolved, made⟩ := Outcome.bind_eq_ok_iff.1 made
    rw [if_neg filtered, ← resolveFilter_eq_ok resolved]
    exact (allByFilterMethod_eq_ok_iff.1 made).2

/-- Generation yields the service of the entity, if it yields anything. -/
theorem generate_eq_ok_iff {naming : NamingConfig} {c : ServiceClass} :
    generate naming e = .ok c ↔ Generable e ∧ builtService naming e = c := by
  rw [← @exists_generate_iff e naming]
  have unique {c : ServiceClass} (generated : generate naming e = .ok c) :
      builtService naming e = c := by
    have named := (exists_generate_iff.1 ⟨c, generated⟩).toNamed
    rw [generate, if_neg named.nonempty, if_neg (not_not_intro named.same), methods_eq _ named]
      at generated
    obtain ⟨ms, made, rfl⟩ := Outcome.map_eq_ok_iff.1 generated
    obtain ⟨list, listed, made⟩ := Outcome.bind_eq_ok_iff.1 made
    obtain ⟨members, served, made⟩ := Outcome.bind_eq_ok_iff.1 made
    obtain rfl := Outcome.pure_eq_ok_iff.1 made
    have endpoints : e.endpoints.map (builtEndpoint e.idType naming.accessorStyle) = members :=
      Outcome.map_eq_of_mapM (fun _ _ made => (endpointMethodOf_eq_ok_iff.1 made).2) served
    rw [builtService, listMethod_eq_ok listed, endpoints]
  constructor
  · intro generated
    exact ⟨⟨c, generated⟩, unique generated⟩
  · rintro ⟨⟨c', generated⟩, rfl⟩
    rw [unique generated]
    exact generated

end CrudForge.Generation
