import CrudForge.Generation.Generator
import CrudForge.Proofs.Service.Build

/-!
# The bodies of generated methods

Every body that is generated is accepted, whatever the names in it are: texts from outside only
ever become arguments, and the formats have one placeholder for each of them. So a method is made
iff no two of its parameters have one name.
-/

namespace CrudForge.Generation

open CodeBlock (Sound sound_of_letters)

/-! ## Pieces of code -/

theorem sound_lookup (owner : String) {tail : CodeBlock} (sound : tail.Sound) :
    (lookup owner tail).Sound := by
  have head : Sound
      ⟨"ServiceResponse::ok(self.repository.find_by_id(&$N).await?" ++
        ".ok_or_else(|| ServiceError::not_found($S, &$N))?",
        [.name Parameter.idName, .str owner, .name Parameter.idName]⟩ :=
    sound_of_letters ['N', 'S', 'N'] (by decide) rfl
  have last : Sound ⟨")", []⟩ := rfl
  have whole := (head.append sound).append last
  rw [List.append_nil] at whole
  exact whole

theorem sound_accessor (style : AccessorStyle) (member : String) :
    (style.accessor member).Sound := by
  cases style with
  | field | getter => exact sound_of_letters ['N'] (by decide) rfl
  | bean => exact sound_of_letters ['L'] (by decide) rfl

/-- One placeholder for each parameter, and the names of the parameters in order. -/
theorem fit_params (params : List Parameter) :
    List.Forall₂ (fun marker arg => Sound ⟨marker, [arg]⟩) (params.map fun _ => "$N")
      (params.map fun p => .name p.name) :=
  List.forall₂_map_left_iff.2 (List.forall₂_map_right_iff.2
    (List.forall₂_same.2 fun p _ => CodeBlock.sound_name p.name))

theorem sound_memberCall (name : String) (params : List Parameter) :
    (memberCall name params).Sound := by
  have opening : Sound ⟨".$L(", [.literal name]⟩ :=
    sound_of_letters ['L'] (by decide) rfl
  have closing : Sound ⟨")", []⟩ := rfl
  have whole := (opening.append (CodeBlock.sound_list (fit_params params))).append closing
  rw [List.append_nil] at whole
  exact whole

/-- The call of the repository that a listing with filters ends with. -/
theorem sound_filterCall {markers : List String} {args : List CodeArg}
    (fit : List.Forall₂ (fun marker arg => Sound ⟨marker, [arg]⟩) markers args) :
    Sound
      ⟨"ServiceResponse::ok(self.repository.all_by_filter(" ++ ", ".intercalate markers ++
        ").await?)", args⟩ := by
  have opening : Sound ⟨"ServiceResponse::ok(self.repository.all_by_filter(", []⟩ := rfl
  have closing : Sound ⟨").await?)", []⟩ := rfl
  have whole := (opening.append (CodeBlock.sound_list fit)).append closing
  rw [List.append_nil] at whole
  exact whole

/-! ## Bodies -/

theorem checkBody_expr {code : CodeBlock} (sound : code.Sound) :
    checkBody [.expr code] = .ok () := by
  rw [checkBody_eq_ok_iff, List.forall_mem_singleton, Fragment.checkCode_eq_ok_iff]
  exact ⟨fun _ same => Option.some.inj same ▸ sound, rfl⟩

/-- The window is cut in front of the expression that uses it. -/
theorem checkBody_addPagination (b : MethodBuilder) (window : String) {code : CodeBlock}
    (empty : b.body = []) (sound : code.Sound) :
    checkBody ((addPagination b window).expr code).body = .ok () := by
  have cut : Sound
      ⟨"let $N = if let (Some($N), Some($N)) = ($N, $N)",
        [.name window, .name Parameter.pageName, .name Parameter.pageSizeName,
          .name Parameter.pageName, .name Parameter.pageSizeName]⟩ :=
    sound_of_letters ['N', 'N', 'N', 'N', 'N'] (by decide) rfl
  have both : Sound
      ⟨"PageWindow::new($N, $N)", [.name Parameter.pageName, .name Parameter.pageSizeName]⟩ :=
    sound_of_letters ['N', 'N'] (by decide) rfl
  have other : Sound ⟨"else", []⟩ := rfl
  have unrestricted : Sound ⟨"PageWindow::unrestricted()", []⟩ := rfl
  rw [checkBody_eq_ok_iff]
  constructor
  · intro f mem
    rw [Fragment.checkCode_eq_ok_iff]
    simp only [addPagination, MethodBuilder.param, MethodBuilder.beginBlock, MethodBuilder.expr,
      MethodBuilder.nextBlock, MethodBuilder.endBlock, MethodBuilder.fragment, empty,
      List.nil_append, List.cons_append, List.mem_cons, List.not_mem_nil, or_false] at mem
    rcases mem with rfl | rfl | rfl | rfl | rfl | rfl <;> intro c same <;> cases same <;> assumption
  · simp only [addPagination, MethodBuilder.param, MethodBuilder.beginBlock, MethodBuilder.expr,
      MethodBuilder.nextBlock, MethodBuilder.endBlock, MethodBuilder.fragment, empty]
    rfl

/-! ## Methods -/

/-- The method that saves an entity. -/
def builtSave (entity : String) : Method where
  name := saveName
  params := [.entity entity]
  failures := .empty
  body := [.expr
    { format := "ServiceResponse::ok(self.repository.save(&$N).await?)"
      args := [.name Parameter.entityName] }]

/-- The method that answers with an entity. -/
def builtOne (entity idType : String) : Method where
  name := oneName
  params := [.id idType]
  failures := FailureSet.empty.insert .notFound
  body := [.expr (lookup entity { format := "" })]

/-- The method that answers with all entities. -/
def builtAll : Method where
  name := allName
  params := []
  failures := .empty
  body := [.expr { format := "ServiceResponse::ok(self.repository.find_all().await?)" }]

/-- The method that deletes an entity. -/
def builtDelete (idType : String) : Method where
  name := deleteName
  params := [.id idType]
  failures := .empty
  body := [
    .statement
      { format := "self.repository.delete_by_id(&$N).await?", args := [.name Parameter.idName] },
    .expr { format := "Ok(ServiceResponse::no_content())" }]

theorem saveMethod_eq (entity : String) : saveMethod entity = .ok (builtSave entity) := by
  refine MethodBuilder.build_eq_ok_iff.2 ⟨List.nodup_singleton _, checkBody_expr ?_, rfl⟩
  exact sound_of_letters ['N'] (by decide) rfl

theorem oneMethod_eq (entity idType : String) :
    oneMethod entity idType = .ok (builtOne entity idType) := by
  have tail : Sound ⟨"", []⟩ := rfl
  exact MethodBuilder.build_eq_ok_iff.2
    ⟨List.nodup_singleton _, checkBody_expr (sound_lookup entity tail), rfl⟩

theorem deleteMethod_eq (idType : String) : deleteMethod idType = .ok (builtDelete idType) := by
  refine MethodBuilder.build_eq_ok_iff.2 ⟨List.nodup_singleton _, ?_, rfl⟩
  have statement : Sound
      ⟨"self.repository.delete_by_id(&$N).await?", [.name Parameter.idName]⟩ :=
    sound_of_letters ['N'] (by decide) rfl
  have answer : Sound ⟨"Ok(ServiceResponse::no_content())", []⟩ := rfl
  rw [checkBody_eq_ok_iff]
  refine ⟨fun f mem => ?_, rfl⟩
  rw [Fragment.checkCode_eq_ok_iff]
  simp only [MethodBuilder.param, MethodBuilder.statement, MethodBuilder.expr,
    MethodBuilder.fragment, List.nil_append, List.cons_append, List.mem_cons, List.not_mem_nil,
    or_false] at mem
  rcases mem with rfl | rfl <;> intro c same <;> cases same <;> assumption

theorem allMethod_eq : allMethod false = .ok builtAll := by
  have answer : Sound ⟨"ServiceResponse::ok(self.repository.find_all().await?)", []⟩ := rfl
  rw [allMethod, if_neg Bool.false_ne_true]
  exact MethodBuilder.build_eq_ok_iff.2 ⟨List.nodup_nil, checkBody_expr answer, rfl⟩

theorem exists_allMethod (pagination : Bool) : ∃ m, allMethod pagination = .ok m := by
  cases pagination with
  | false => exact ⟨_, allMethod_eq⟩
  | true =>
    have answer : Sound
        ⟨"ServiceResponse::ok(self.repository.find_all_paged(&$N).await?)",
          [.name windowName]⟩ :=
      sound_of_letters ['N'] (by decide) rfl
    simp only [allMethod, if_true]
    exact (MethodBuilder.exists_build_eq_ok_iff_of_body
      (checkBody_addPagination _ windowName rfl answer)).2 (by decide)

/-- The names of the parameters that turn a listing into pages. -/
def pageNames (pagination : Bool) : List String :=
  if pagination then [Parameter.pageName, Parameter.pageSizeName] else []

/-- The builder of a listing with filters: its name, its parameters, and a body that is
accepted. -/
theorem exists_allByFilter_builder (pagination : Bool) (filters : List Parameter) :
    ∃ b : MethodBuilder, allByFilterMethod pagination filters = b.build ∧
      b.name = allByFilterName ∧
      b.params.map (·.name) = filters.map (·.name) ++ pageNames pagination ∧
      checkBody b.body = .ok () := by
  cases pagination with
  | false =>
    refine ⟨_, rfl, rfl, ?_, checkBody_expr (sound_filterCall (fit_params filters))⟩
    simp [MethodBuilder.addParams, MethodBuilder.expr, MethodBuilder.fragment, pageNames]
  | true =>
    have windowed : Sound ⟨"&$N", [.name (localName windowName filters)]⟩ :=
      sound_of_letters ['N'] (by decide) rfl
    have fit := List.rel_append (fit_params filters)
      (List.forall₂_cons.2 ⟨windowed, List.Forall₂.nil⟩)
    refine ⟨_, rfl, rfl, ?_, checkBody_addPagination _ _ rfl (sound_filterCall fit)⟩
    simp [MethodBuilder.addParams, MethodBuilder.expr, MethodBuilder.fragment, addPagination,
      MethodBuilder.param, MethodBuilder.beginBlock, MethodBuilder.nextBlock,
      MethodBuilder.endBlock, pageNames, Parameter.page, Parameter.pageSize]

/-- The names of the parameters of the method of an endpoint: the identifier comes first. -/
def endpointNames : Endpoint → List String
  | .field _ _ => [Parameter.idName]
  | .callable _ _ params => Parameter.idName :: params.map (·.name)

/-- The builder of the method of an endpoint: its name, its parameters, and a body that is
accepted. -/
theorem exists_endpoint_builder (idType : String) (style : AccessorStyle) (member : Endpoint) :
    ∃ b : MethodBuilder, endpointMethod idType style member = b.build ∧
      b.name = member.name ∧
      b.params.map (·.name) = endpointNames member ∧
      checkBody b.body = .ok () := by
  cases member with
  | field name owner =>
    exact ⟨(({ name } : MethodBuilder).param (.id idType)).failure .notFound
        |>.expr (lookup owner (style.accessor name)),
      rfl, rfl, rfl, checkBody_expr (sound_lookup owner (sound_accessor style name))⟩
  | callable name owner params =>
    refine ⟨_, rfl, rfl, ?_, checkBody_expr (sound_lookup owner (sound_memberCall name _))⟩
    simp [MethodBuilder.addParams, MethodBuilder.param, MethodBuilder.expr,
      MethodBuilder.fragment, MethodBuilder.failure, endpointNames, Parameter.id,
      Parameter.declared]

/-! ## Classes -/

theorem checkBody_of_listMethod {crud : EntityConfig} {resolver : FieldResolver} {m : Method}
    (listed : listMethod crud resolver = .ok m) : checkBody m.body = .ok () := by
  rw [listMethod] at listed
  by_cases filter : crud.filter.isUnfiltered = true
  · rw [if_pos filter, allMethod] at listed
    split at listed <;> exact MethodBuilder.checkBody_of_build listed
  · rw [if_neg filter] at listed
    obtain ⟨fields, -, built⟩ := Outcome.bind_eq_ok_iff.1 listed
    obtain ⟨b, same, -⟩ := exists_allByFilter_builder crud.pagination
      (fields.map fun f => .declared f.1 f.2)
    exact MethodBuilder.checkBody_of_build (same.symm.trans built)

theorem checkBody_of_endpointMethodOf {entity idType : String} {style : AccessorStyle}
    {member : Endpoint} {m : Method} (made : endpointMethodOf entity idType style member = .ok m) :
    checkBody m.body = .ok () := by
  rw [endpointMethodOf] at made
  by_cases owner : member.owner = ""
  · rw [if_pos owner] at made
    cases made
  · rw [if_neg owner] at made
    obtain ⟨b, same, -⟩ := exists_endpoint_builder idType style member
    exact MethodBuilder.checkBody_of_build (same.symm.trans made)

/-- Every body in a class that has been generated is accepted. -/
theorem checkBody_of_generate {naming : NamingConfig} {e : EntityMetadata} {c : ServiceClass}
    (generated : generate naming e = .ok c) {m : Method} (mem : m ∈ c.methods) :
    checkBody m.body = .ok () := by
  rw [generate] at generated
  split at generated
  · cases generated
  split at generated
  · cases generated
  obtain ⟨ms, made, rfl⟩ := Outcome.map_eq_ok_iff.1 generated
  rw [methods] at made
  split at made
  · cases made
  obtain ⟨save, saved, made⟩ := Outcome.bind_eq_ok_iff.1 made
  obtain ⟨one, found, made⟩ := Outcome.bind_eq_ok_iff.1 made
  obtain ⟨list, listed, made⟩ := Outcome.bind_eq_ok_iff.1 made
  obtain ⟨delete, deleted, made⟩ := Outcome.bind_eq_ok_iff.1 made
  obtain ⟨members, served, made⟩ := Outcome.bind_eq_ok_iff.1 made
  cases Outcome.pure_eq_ok_iff.1 made
  simp only [serviceClass, List.mem_cons] at mem
  rcases mem with rfl | rfl | rfl | rfl | mem
  · exact MethodBuilder.checkBody_of_build saved
  · exact MethodBuilder.checkBody_of_build found
  · exact checkBody_of_listMethod listed
  · exact MethodBuilder.checkBody_of_build deleted
  · obtain ⟨member, -, made⟩ :=
      Outcome.exists_of_mem_right (Outcome.mapM_eq_ok_iff.1 served) mem
    exact checkBody_of_endpointMethodOf made

end CrudForge.Generation
