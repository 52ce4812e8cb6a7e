import CrudForge.Proofs.Rendering.PlainService

/-!
# Services of entities of which nothing is asked

An entity without filters, pages or endpoints has a service with four methods. Its file is known
up to the names in it (`bareText`), and it is rendered if those names are plain
(`render_bareService`).
-/

namespace CrudForge.Rendering

open Generation Grammar
open Naming (Plain)

variable {entity idType : String}

/-! ## Generation -/

/-- The service of an entity without filters, pages or endpoints. -/
def bareService (naming : NamingConfig) (entity idType : String) : ServiceClass :=
  serviceClass naming entity
    [builtSave entity, builtOne entity idType, builtAll, builtDelete idType]

theorem generate_bareService (naming : NamingConfig) {e : EntityMetadata} (named : e.name ≠ "")
    (asked : e.crud = { name := e.name }) (none : e.endpoints = []) :
    generate naming e = .ok (bareService naming e.name e.idType) := by
  have listed : listMethod { name := e.name } e.toFieldResolver = allMethod false := rfl
  have same : ({ name := e.name } : EntityConfig).name = e.name := rfl
  rw [generate, if_neg named, asked, if_neg (not_not_intro same), methods, if_neg named, none,
    saveMethod_eq, oneMethod_eq, listed, allMethod_eq, deleteMethod_eq]
  rfl

/-! ## Rendering -/

theorem paramsFrom_singleton {g : TargetGrammar} {method id : String} {p : Parameter}
    (written : identifier g p.name = id) (type : g.isType p.ty.text = true) :
    paramsFrom g method [] [p] = .ok (", " ++ id ++ ": " ++ p.ty.text ++ "") := by
  have typed := (@checkType_eq_ok_iff g ("parameter '" ++ p.name ++ "' of '" ++ method ++ "'")
    p.ty.text ()).2 type
  simp only [paramsFrom, written, typed, List.not_mem_nil, if_false]
  rfl

theorem expand_bareLookup {g : TargetGrammar} {id : String}
    (written : identifier g Parameter.idName = id) (entity : String) :
    (lookup entity { format := "" }).expand (writeArg g) =
      .ok ("ServiceResponse::ok(self.repository.find_by_id(&" ++ id ++
        ").await?.ok_or_else(|| ServiceError::not_found(" ++ Text.Quoted.encode entity ++ ", &" ++
        id ++ "))?)") := by
  have nothing : CodeBlock.expand (writeArg g) { format := "" } = .ok _ :=
    CodeBlock.expand_plain (by decide)
  have name : writeArg g (.name Parameter.idName) = id := written
  have last : "))?)" = "))?" ++ "" ++ ")" := rfl
  have text : lookupText (writeArg g) entity "" =
      "ServiceResponse::ok(self.repository.find_by_id(&" ++ id ++
        ").await?.ok_or_else(|| ServiceError::not_found(" ++ Text.Quoted.encode entity ++ ", &" ++
        id ++ "))?)" := by
    unfold lookupText
    rw [name, last]
    simp only [String.append_assoc]
    rfl
  exact (expand_lookup entity nothing).trans (congrArg Except.ok text)

theorem identifier_repository (naming : NamingConfig) (entity idType : String) :
    identifier .standard (bareService naming entity idType).repository.name = "repository" := by
  have written : identifier .standard repositoryField = "repository" := by decide
  exact written

/-- The texts of the methods of a bare service. -/
def bareTexts (entity idType : String) : List String := [
  methodText (builtSave entity) "save" (", " ++ "entity" ++ ": " ++ entity ++ "")
    [⟨0, "ServiceResponse::ok(self.repository.save(&entity).await?)"⟩],
  methodText (builtOne entity idType) "one" (", " ++ "id" ++ ": " ++ idType ++ "")
    [⟨0, "ServiceResponse::ok(self.repository.find_by_id(&" ++ "id" ++
      ").await?.ok_or_else(|| ServiceError::not_found(" ++ Text.Quoted.encode entity ++ ", &" ++
      "id" ++ "))?)"⟩],
  methodText builtAll "all" "" [⟨0, "ServiceResponse::ok(self.repository.find_all().await?)"⟩],
  methodText (builtDelete idType) "delete" (", " ++ "id" ++ ": " ++ idType ++ "")
    [⟨0, "self.repository.delete_by_id(&id).await?;"⟩, ⟨0, "Ok(ServiceResponse::no_content())"⟩]]

/-- The file of a bare service. -/
def bareText (naming : NamingConfig) (entity idType : String) : String :=
  classText .standard (bareService naming entity idType) {} (bareTexts entity idType)

theorem identifier_bare : ∀ name ∈ [saveName, oneName, allName, deleteName, Parameter.entityName,
    Parameter.idName], identifier .standard name = name := by
  decide +kernel

theorem bodyLines_builtOne (entity idType : String) :
    bodyLines .standard oneName (builtOne entity idType).body =
      .ok [⟨0, "ServiceResponse::ok(self.repository.find_by_id(&" ++ "id" ++
        ").await?.ok_or_else(|| ServiceError::not_found(" ++ Text.Quoted.encode entity ++ ", &" ++
        "id" ++ "))?)"⟩] := by
  have written : identifier .standard Parameter.idName = "id" := identifier_bare _ (by decide)
  have expanded := expand_bareLookup written entity
  rw [builtOne, bodyLines, bodyLinesFrom, Fragment.code?, Option.map_some, expanded]
  rfl

/-- A method whose name is an identifier as it is. -/
theorem renderMethod_unescaped {g : TargetGrammar} {m : Method} {params : String}
    {lines : List BodyLine} (named : identifier g m.name = m.name)
    (written : paramsFrom g m.name [] m.params = .ok params)
    (printed : bodyLines g m.name m.body = .ok lines) :
    renderMethod g (identifier g m.name) m = .ok (methodText m m.name params lines) := by
  rw [named]
  exact renderMethod_eq_ok_iff.2 ⟨params, lines, written, printed, rfl⟩

/-- The methods of a bare service have the texts of `bareTexts`. -/
theorem renderMethod_bareService (type : TargetGrammar.standard.isType entity = true)
    (idText : TargetGrammar.standard.isType idType = true) :
    List.Forall₂ (fun m text => renderMethod .standard (identifier .standard m.name) m = .ok text)
      [builtSave entity, builtOne entity idType, builtAll, builtDelete idType]
      (bareTexts entity idType) := by
  have entityParam : paramsFrom .standard saveName [] [.entity entity] = .ok _ :=
    paramsFrom_singleton (identifier_bare Parameter.entityName (by decide)) type
  have idParam (method : String) : paramsFrom .standard method [] [.id idType] = .ok _ :=
    paramsFrom_singleton (identifier_bare Parameter.idName (by decide)) idText
  have save : bodyLines .standard saveName [.expr
      { format := "ServiceResponse::ok(self.repository.save(&$N).await?)"
        args := [.name Parameter.entityName] }] =
      .ok [⟨0, "ServiceResponse::ok(self.repository.save(&entity).await?)"⟩] := by
    decide +kernel
  have all : bodyLines .standard allName builtAll.body =
      .ok [⟨0, "ServiceResponse::ok(self.repository.find_all().await?)"⟩] := by
    decide +kernel
  have delete : bodyLines .standard deleteName [
      .statement
        { format := "self.repository.delete_by_id(&$N).await?", args := [.name Parameter.idName] },
      .expr { format := "Ok(ServiceResponse::no_content())" }] =
      .ok [⟨0, "self.repository.delete_by_id(&id).await?;"⟩,
        ⟨0, "Ok(ServiceResponse::no_content())"⟩] := by
    decide +kernel
  refine .cons (renderMethod_unescaped ?_ entityParam save) (.cons (renderMethod_unescaped ?_
    (idParam oneName) (bodyLines_builtOne entity idType)) (.cons (renderMethod_unescaped ?_ rfl all)
      (.cons (renderMethod_unescaped ?_ (idParam deleteName) delete) .nil)))
  · exact identifier_bare saveName (by decide)
  · exact identifier_bare oneName (by decide)
  · exact identifier_bare allName (by decide)
  · exact identifier_bare deleteName (by decide)

theorem plainMethods_bareService (plain : Plain entity) (type : TypeText idType) :
    ∀ m ∈ [builtSave entity, builtOne entity idType, builtAll, builtDelete idType],
      PlainMethod m :=
  List.forall_mem_cons.2 ⟨plainMethod_save plain, List.forall_mem_cons.2
    ⟨plainMethod_one entity type, List.forall_mem_cons.2
      ⟨plainMethod_listing false, List.forall_mem_singleton.2 (plainMethod_delete type)⟩⟩⟩

/-- A bare service with plain names is rendered, and its file is the known one. -/
theorem render_bareService {naming : NamingConfig} (plain : Plain entity) (type : TypeText idType)
    (service : Plain (naming.serviceName entity))
    (repository : Plain (naming.repositoryName entity)) :
    (bareService naming entity idType).render {} = .ok (bareText naming entity idType) := by
  have distinct : ([saveName, oneName, allName, deleteName].map Naming.snakeCase).Nodup := by
    decide +kernel
  have imports : ∀ s ∈ ({} : RenderOptions).imports, PlainPath s := fun s none =>
    absurd none List.not_mem_nil
  obtain ⟨text, rendered⟩ := @exists_render (bareService naming entity idType) {} service rfl
    (.name repository) (plainMethods_bareService plain type) distinct imports
  have entityType : TypeText entity := .name plain
  have texts := renderMethod_bareService entityType.isType type.isType
  rw [rendered, bareText, classText_eq_of_renderClass rendered texts]

end CrudForge.Rendering
