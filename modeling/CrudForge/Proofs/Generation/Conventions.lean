import CrudForge.Proofs.Generation.Calls

/-!
# Conventions of naming

Two services of one entity that follow different conventions have the same methods, but for the
way in which fields are read (`generate_conventions`). Whether there is a service at all does not
depend on the conventions either.
-/

namespace CrudForge.Generation

/-- Two methods of an endpoint that differ in nothing but how a field is read. -/
structure SameButAccessor (style style' : AccessorStyle) (member : Endpoint) (m m' : Method) :
    Prop where
  name : m.name = m'.name
  visibility : m.visibility = m'.visibility
  returns : m.returns = m'.returns
  params : m.params = m'.params
  failures : m.failures = m'.failures
  body : match member with
    | .field name _ => ∃ head, m.body = [.expr (closing head (style.accessor name))] ∧
        m'.body = [.expr (closing head (style'.accessor name))]
    | .callable _ _ _ => m.body = m'.body

theorem sameButAccessor (idType : String) (style style' : AccessorStyle) (member : Endpoint) :
    SameButAccessor style style' member (builtEndpoint idType style member)
      (builtEndpoint idType style' member) where
  name := rfl
  visibility := rfl
  returns := rfl
  params := rfl
  failures := rfl
  body := by
    cases member with
    | field name owner => exact ⟨lookupHead owner, rfl, rfl⟩
    | callable => rfl

/-- Under any two conventions an entity has a service, or the same error. The services have four
methods in common, and those of the endpoints differ in how fields are read, which is all that an
accessor style has a say in. What is put around names is seen in the names of the class and of its
repository only. -/
theorem generate_conventions (naming naming' : NamingConfig) (e : EntityMetadata) :
    (∃ err, generate naming e = .error err ∧ generate naming' e = .error err) ∨
    ∃ c c', generate naming e = .ok c ∧ generate naming' e = .ok c' ∧
      (∃ (ordinary : List Method) (members : List (Method × Method)), ordinary.length = 4 ∧
        c.methods = ordinary ++ members.map (·.1) ∧ c'.methods = ordinary ++ members.map (·.2) ∧
        List.Forall₂ (fun member ms =>
          SameButAccessor naming.accessorStyle naming'.accessorStyle member ms.1 ms.2)
          e.endpoints members) ∧
      (naming.accessorStyle = naming'.accessorStyle → c.methods = c'.methods) ∧
      (naming.classPrefix = naming'.classPrefix → naming.serviceSuffix = naming'.serviceSuffix →
        naming.repositorySuffix = naming'.repositorySuffix →
        c.name = c'.name ∧ c.repository = c'.repository) := by
  -- Neither success nor an error has to do with conventions, so the first run decides for both.
  rcases Outcome.ok_or_error (generate naming e) with ⟨c, generated⟩ | ⟨err, failed⟩
  · obtain ⟨generable, rfl⟩ := generate_eq_ok_iff.1 generated
    refine .inr ⟨_, _, generated, generate_eq_ok_iff.2 ⟨generable, rfl⟩, ?_, ?_, ?_⟩
    · refine ⟨[builtSave e.name, builtOne e.name e.idType, builtList e, builtDelete e.idType],
        e.endpoints.map fun member => (builtEndpoint e.idType naming.accessorStyle member,
          builtEndpoint e.idType naming'.accessorStyle member), rfl, ?_, ?_, ?_⟩
      · rw [List.map_map]
        rfl
      · rw [List.map_map]
        rfl
      · rw [List.forall₂_map_right_iff, List.forall₂_same]
        exact fun member _ => sameButAccessor _ _ _ member
    · intro style
      rw [builtService, builtService, style]
      rfl
    · intro first service repository
      refine ⟨?_, ?_⟩
      · show naming.serviceName e.name = naming'.serviceName e.name
        rw [NamingConfig.serviceName, NamingConfig.serviceName, first, service]
      · have name : naming.repositoryName e.name = naming'.repositoryName e.name := by
          rw [NamingConfig.repositoryName, NamingConfig.repositoryName, first, repository]
        exact congrArg (fun name => ServiceField.mk repositoryField (.declared name) true) name
  · exact .inl ⟨err, failed, generate_eq_error_iff.2 (generate_eq_error_iff.1 failed)⟩

end CrudForge.Generation
