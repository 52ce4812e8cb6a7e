import CrudForge.Command.Settings
import CrudForge.Proofs.Manifest.Validity

/-!
# The order of declarations

The entity of a declaration says what has been declared, wherever the declaration stands and
whatever stands around it (`entities_eq_of_resolve`). The rest of a manifest only decides whether
there are entities at all, and its order has no part in that. So entities and their services are
the same however their declarations are arranged, and stay the same when others are added
(`resolve_reordered`).
-/

namespace CrudForge

namespace EntityDeclaration

/-- The endpoint that an entity declares, if it names one member. -/
def endpointOf (e : EntityDeclaration) (d : EndpointDeclaration) : Endpoint :=
  match d.field with
  | some field => .field field (d.ownerFor e)
  | none => .callable (d.method.getD "") (d.ownerFor e) d.params

/-- The entity that is declared. -/
def entityOf (e : EntityDeclaration) : StaticEntity :=
  { idType := e.idType, fields := e.fields, crud := e.crud,
    endpoints := e.endpoints.map e.endpointOf }

end EntityDeclaration

namespace Manifest

variable {m m' : Manifest} {e : EntityDeclaration} {es es' : List StaticEntity}

/-! ## What does not depend on the manifest -/

theorem endpointOf_eq (distinct : (m.entities.map (·.name)).Nodup) {d : EndpointDeclaration}
    {member : Endpoint} (made : m.endpoint e d = .ok member) : e.endpointOf d = member := by
  obtain ⟨sound, stands⟩ := (endpoint_eq_ok_iff distinct).1 made
  have single := sound.single
  rw [EntityDeclaration.endpointOf]
  cases stands with
  | field named => rw [named]
  | method named =>
    cases field : d.field with
    | some =>
      rw [field, named] at single
      exact absurd rfl single
    | none =>
      rw [named]
      rfl

theorem entityOf_eq (distinct : (m.entities.map (·.name)).Nodup) {s : StaticEntity}
    (made : m.entity e = .ok s) : e.entityOf = s := by
  obtain ⟨members, traversed, last⟩ := Outcome.bind_eq_ok_iff.1 made
  obtain rfl := Outcome.pure_eq_ok_iff.1 last
  rw [EntityDeclaration.entityOf,
    Outcome.map_eq_of_mapM (fun d member => endpointOf_eq distinct) traversed]

/-- The entities of a manifest are those that are declared, in the same order. -/
theorem entities_eq_of_resolve (resolved : m.resolve = .ok es) :
    m.entities.map EntityDeclaration.entityOf = es := by
  have distinct := distinct_of_resolve resolved
  rw [resolve_of_distinct distinct] at resolved
  exact Outcome.map_eq_of_mapM (fun e s => entityOf_eq distinct) resolved

/-! ## What does not depend on the order -/

theorem declares_iff_of_perm (perm : m.entities.Perm m'.entities) {name : String} :
    m.Declares name ↔ m'.Declares name := by
  simp only [Declares, perm.mem_iff]

theorem declaresField_iff_of_perm (perm : m.entities.Perm m'.entities) {owner field : String} :
    m.DeclaresField owner field ↔ m'.DeclaresField owner field := by
  simp only [DeclaresField, perm.mem_iff]

theorem soundEntity_of_perm (perm : m.entities.Perm m'.entities) (sound : m.SoundEntity e) :
    m'.SoundEntity e := by
  intro d declared
  obtain ⟨single, owned, field⟩ := sound d declared
  refine ⟨single, (declares_iff_of_perm perm).1 owned, fun name named => ?_⟩
  obtain ⟨none, known⟩ := field name named
  exact ⟨none, (declaresField_iff_of_perm perm).1 known⟩

theorem valid_of_perm (perm : m.entities.Perm m'.entities) (valid : m.Valid) : m'.Valid where
  distinct := (perm.map _).nodup_iff.1 valid.distinct
  sound e declared := soundEntity_of_perm perm (valid.sound e (perm.mem_iff.2 declared))

/-- Whether a manifest has entities does not depend on its order. -/
theorem exists_resolve_iff_of_perm (perm : m.entities.Perm m'.entities) :
    (∃ es, m.resolve = .ok es) ↔ ∃ es, m'.resolve = .ok es := by
  rw [exists_resolve_iff, exists_resolve_iff]
  exact ⟨valid_of_perm perm, valid_of_perm perm.symm⟩

/-! ## Entities beside their declarations -/

/-- What comes of each declaration: its entity and, under some conventions, its service or the
reason why there is none. -/
def served (m : Manifest) (es : List StaticEntity) (naming : NamingConfig) :
    List (EntityDeclaration × StaticEntity × Except GenerationError ServiceClass) :=
  m.entities.zip (es.map fun s => (s, Generation.generate naming s.metadata))

theorem served_eq (resolved : m.resolve = .ok es) (naming : NamingConfig) :
    m.served es naming = m.entities.map fun e =>
      (e, e.entityOf, Generation.generate naming e.entityOf.metadata) := by
  have pairs : (m.entities.map id).zip (m.entities.map fun e =>
      (e.entityOf, Generation.generate naming e.entityOf.metadata)) = _ := List.zip_map'
  rw [List.map_id] at pairs
  rw [served, ← entities_eq_of_resolve resolved, List.map_map]
  exact pairs

/-- The services of a manifest are the same in any order. -/
theorem classes_perm (perm : m.entities.Perm m'.entities) {naming : NamingConfig}
    {cs : List ServiceClass} (made : m.classes naming = .ok cs) :
    ∃ cs', m'.classes naming = .ok cs' ∧ cs.Perm cs' := by
  obtain ⟨es, resolved, generated⟩ := Outcome.bind_eq_ok_iff.1 made
  rw [Outcome.mapError_eq_ok_iff] at resolved generated
  obtain ⟨es', resolved'⟩ := (exists_resolve_iff_of_perm perm).1 ⟨es, resolved⟩
  have entities : es.Perm es' := by
    rw [← entities_eq_of_resolve resolved, ← entities_eq_of_resolve resolved']
    exact perm.map _
  obtain ⟨cs', generated', same⟩ :=
    Outcome.mapM_perm (entities.map StaticEntity.metadata) generated
  refine ⟨cs', Outcome.bind_eq_ok_iff.2 ⟨es', ?_, ?_⟩, same⟩
  · rw [resolved']
    rfl
  · exact Outcome.mapError_eq_ok_iff.2 generated'

/-- Manifests whose declarations are the same but for their order both have entities or both have
none. In the first case the entities are rearranged as the declarations are, and each has the same
service or fails for the same reason. What comes of a declaration also stays the same in a manifest
with further ones. -/
theorem resolve_reordered (m m' : Manifest) :
    (m.entities.Perm m'.entities →
      ((∃ es, m.resolve = .ok es) ↔ ∃ es', m'.resolve = .ok es') ∧
      ∀ es es', m.resolve = .ok es → m'.resolve = .ok es' →
        es.Perm es' ∧ ∀ naming, (m.served es naming).Perm (m'.served es' naming) ∧
          ∀ cs, m.classes naming = .ok cs → ∃ cs', m'.classes naming = .ok cs' ∧ cs.Perm cs') ∧
    (m.entities ⊆ m'.entities → ∀ es es', m.resolve = .ok es → m'.resolve = .ok es' →
      ∀ naming, m.served es naming ⊆ m'.served es' naming) := by
  refine ⟨fun perm => ⟨exists_resolve_iff_of_perm perm, fun es es' resolved resolved' => ?_⟩,
    fun more es es' resolved resolved' naming => ?_⟩
  · refine ⟨?_, fun naming => ?_⟩
    · rw [← entities_eq_of_resolve resolved, ← entities_eq_of_resolve resolved']
      exact perm.map _
    · refine ⟨?_, fun cs => classes_perm perm⟩
      rw [served_eq resolved, served_eq resolved']
      exact perm.map _
  · rw [served_eq resolved, served_eq resolved']
    exact List.map_subset _ more

/-- A shop that also has customers, who live at the addresses of orders. -/
def largerShop : Manifest where
  entities :=
    { name := "Customer", endpoints := [{ field := some "street", owner := some "Address" }] } ::
      shop.entities.reverse

theorem resolve_reordered_shop :
    (∃ es, (⟨shop.entities.reverse⟩ : Manifest).resolve = .ok es) ∧
    ∃ es es', shop.resolve = .ok es ∧ largerShop.resolve = .ok es' ∧
      ∀ naming, shop.served es naming ⊆ largerShop.served es' naming := by
  have resolved : shop.resolve = .ok _ := rfl
  have resolved' : largerShop.resolve = .ok _ := rfl
  have more : shop.entities ⊆ largerShop.entities := fun e declared =>
    List.mem_cons_of_mem _ (List.mem_reverse.2 declared)
  obtain ⟨reversed, -⟩ :=
    (resolve_reordered shop ⟨shop.entities.reverse⟩).1 (List.reverse_perm _).symm
  exact ⟨reversed.1 ⟨_, resolved⟩, _, _, resolved, resolved',
    (resolve_reordered shop largerShop).2 more _ _ resolved resolved'⟩

end Manifest
end CrudForge
