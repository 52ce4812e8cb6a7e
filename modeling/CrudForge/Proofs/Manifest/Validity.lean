import CrudForge.Manifest.Resolve
import CrudForge.Proofs.Generation.Failure

/-!
# Which manifests have entities

A manifest is `Valid` if the names of its entities differ and each of its endpoints is sound, which
may depend on any of its entities. Only then does it have entities, and they say what has been
declared. Otherwise the error is the one that `FirstFault` allows: a repeated name is looked for in
the whole manifest before any endpoint is, and endpoints come in the order of the manifest.
-/

namespace CrudForge

/-- The entity that has the member: the one that is named, or else the one that declares it. -/
def EndpointDeclaration.ownerFor (d : EndpointDeclaration) (e : EntityDeclaration) : String :=
  d.owner.getD e.name

namespace Manifest

/-! ## What can be wrong -/

/-- An entity of a name is declared. -/
def Declares (m : Manifest) (name : String) : Prop :=
  ∃ o ∈ m.entities, o.name = name

/-- An entity of a name is declared with a field. -/
def DeclaresField (m : Manifest) (owner field : String) : Prop :=
  ∃ o ∈ m.entities, o.name = owner ∧ ∃ f ∈ o.fields, f.name = field

/-- An endpoint has a meaning: it names one member, of an entity of the manifest. -/
structure SoundEndpoint (m : Manifest) (e : EntityDeclaration) (d : EndpointDeclaration) :
    Prop where
  single : d.field.isSome ≠ d.method.isSome
  owned : m.Declares (d.ownerFor e)
  field : ∀ field, d.field = some field → d.params = [] ∧ m.DeclaresField (d.ownerFor e) field

/-- All endpoints of an entity have a meaning. -/
def SoundEntity (m : Manifest) (e : EntityDeclaration) : Prop :=
  ∀ d ∈ e.endpoints, m.SoundEndpoint e d

/-- The declarations fit together. -/
structure Valid (m : Manifest) : Prop where
  distinct : (m.entities.map (·.name)).Nodup
  sound : ∀ e ∈ m.entities, m.SoundEntity e

/-- The error of an endpoint. -/
inductive EndpointFault (m : Manifest) (e : EntityDeclaration) (d : EndpointDeclaration) :
    ManifestError → Prop
  | unclear : d.field.isSome = d.method.isSome →
    EndpointFault m e d
      (.invalidEndpoint e.name "each endpoint needs exactly one of `field` or `method`")
  | params {field : String} : d.field = some field → d.method = none → d.params ≠ [] →
    EndpointFault m e d
      (.invalidEndpoint e.name ("field endpoint '" ++ field ++ "' cannot take params"))
  | owner {member : String} : d.field.isSome ≠ d.method.isSome →
    d.field.or d.method = some member → (d.field.isSome → d.params = []) →
    ¬ m.Declares (d.ownerFor e) → EndpointFault m e d (.unknownOwner e.name member (d.ownerFor e))
  | field {field : String} : d.field = some field → d.method = none → d.params = [] →
    m.Declares (d.ownerFor e) → ¬ m.DeclaresField (d.ownerFor e) field →
    EndpointFault m e d (.unknownField e.name field (d.ownerFor e))

/-- The first error of a manifest. -/
inductive FirstFault (m : Manifest) : ManifestError → Prop
  | duplicate {name : String} :
    Naming.FirstRepeat (m.entities.map (·.name)) name → FirstFault m (.duplicateEntity name)
  | endpoint {front back : List EntityDeclaration} {e : EntityDeclaration}
    {before behind : List EndpointDeclaration} {d : EndpointDeclaration} {err : ManifestError} :
    (m.entities.map (·.name)).Nodup → m.entities = front ++ e :: back →
    (∀ e' ∈ front, m.SoundEntity e') → e.endpoints = before ++ d :: behind →
    (∀ d' ∈ before, m.SoundEndpoint e d') → EndpointFault m e d err → FirstFault m err

/-! ## What comes of a declaration -/

/-- The endpoint that a declaration stands for. -/
inductive Stands (e : EntityDeclaration) (d : EndpointDeclaration) : Endpoint → Prop
  | field {field : String} : d.field = some field → Stands e d (.field field (d.ownerFor e))
  | method {method : String} :
    d.method = some method → Stands e d (.callable method (d.ownerFor e) d.params)

/-- An entity is what has been declared. -/
structure Describes (e : EntityDeclaration) (s : StaticEntity) : Prop where
  name : s.crud.name = e.name
  idType : s.idType = e.idType
  fields : s.fields = e.fields
  pagination : s.crud.pagination = e.pagination
  filter : s.crud.filter = .ofList e.filter
  endpoints : List.Forall₂ (Stands e) e.endpoints s.endpoints

variable {m : Manifest} {e : EntityDeclaration} {d : EndpointDeclaration} {err : ManifestError}

theorem declaration?_eq_none_iff {name : String} :
    m.declaration? name = none ↔ ¬ m.Declares name := by
  simp [declaration?, Declares]

theorem mem_of_declaration? {name : String} {o : EntityDeclaration}
    (found : m.declaration? name = some o) : o ∈ m.entities ∧ o.name = name :=
  ⟨List.mem_of_find?_eq_some found, by simpa using List.find?_some found⟩

/-- The owner that is found has all the fields that an entity of its name is declared with. -/
theorem hasField_iff (distinct : (m.entities.map (·.name)).Nodup) {name field : String}
    {o : EntityDeclaration} (found : m.declaration? name = some o) :
    o.hasField field = true ↔ m.DeclaresField name field := by
  obtain ⟨mem, same⟩ := mem_of_declaration? found
  simp only [EntityDeclaration.hasField, List.any_eq_true, decide_eq_true_eq]
  constructor
  · intro has
    exact ⟨o, mem, same, has⟩
  · rintro ⟨o', mem', same', has⟩
    rwa [List.inj_on_of_nodup_map distinct mem mem' (same.trans same'.symm)]

/-! ## Endpoints -/

theorem endpoint_field {field : String} (named : d.field = some field) (alone : d.method = none)
    (none : d.params = []) :
    m.endpoint e d =
      match m.declaration? (d.ownerFor e) with
      | Option.none => .error (.unknownOwner e.name field (d.ownerFor e))
      | some o =>
        if o.hasField field then .ok (.field field (d.ownerFor e))
        else .error (.unknownField e.name field (d.ownerFor e)) := by
  rw [endpoint, named, alone, none]
  rfl

theorem endpoint_method {method : String} (alone : d.field = none)
    (named : d.method = some method) :
    m.endpoint e d =
      match m.declaration? (d.ownerFor e) with
      | none => .error (.unknownOwner e.name method (d.ownerFor e))
      | some _ => .ok (.callable method (d.ownerFor e) d.params) := by
  rw [endpoint, named, alone]
  rfl

/-- A method of an entity has an owner or it has a fault. -/
theorem endpoint_cases_method {method : String} (alone : d.field = none)
    (named : d.method = some method) :
    (∃ member, m.endpoint e d = .ok member ∧ m.SoundEndpoint e d ∧ Stands e d member) ∨
      ∃ err, m.endpoint e d = .error err ∧ EndpointFault m e d err := by
  have single : d.field.isSome ≠ d.method.isSome := by simp [alone, named]
  rw [endpoint_method alone named]
  cases found : m.declaration? (d.ownerFor e) with
  | none =>
    refine .inr ⟨_, rfl, .owner single ?_ ?_ (declaration?_eq_none_iff.1 found)⟩
    · rw [alone, named]
      rfl
    · simp [alone]
  | some o =>
    refine .inl ⟨_, rfl, ⟨single, ⟨o, mem_of_declaration? found⟩, ?_⟩, .method named⟩
    simp [alone]

/-- A field without parameters has an owner that is declared with it or it has a fault. -/
theorem endpoint_cases_field (distinct : (m.entities.map (·.name)).Nodup) {field : String}
    (named : d.field = some field) (alone : d.method = none) (none : d.params = []) :
    (∃ member, m.endpoint e d = .ok member ∧ m.SoundEndpoint e d ∧ Stands e d member) ∨
      ∃ err, m.endpoint e d = .error err ∧ EndpointFault m e d err := by
  have single : d.field.isSome ≠ d.method.isSome := by simp [named, alone]
  rw [endpoint_field named alone none]
  cases found : m.declaration? (d.ownerFor e) with
  | none =>
    refine .inr ⟨_, rfl, .owner single ?_ (fun _ => none) (declaration?_eq_none_iff.1 found)⟩
    rw [named]
    rfl
  | some o =>
    have owned : m.Declares (d.ownerFor e) := ⟨o, mem_of_declaration? found⟩
    dsimp only
    by_cases has : o.hasField field = true
    · rw [if_pos has]
      refine .inl ⟨_, rfl, ⟨single, owned, fun field' same => ⟨none, ?_⟩⟩, .field named⟩
      obtain rfl := Option.some.inj (named.symm.trans same)
      exact (hasField_iff distinct found).1 has
    · rw [if_neg has]
      refine .inr ⟨_, rfl, .field named alone none owned fun declared => has ?_⟩
      exact (hasField_iff distinct found).2 declared

/-- An endpoint either has its meaning or one of the faults. -/
theorem endpoint_cases (distinct : (m.entities.map (·.name)).Nodup) (e : EntityDeclaration)
    (d : EndpointDeclaration) :
    (∃ member, m.endpoint e d = .ok member ∧ m.SoundEndpoint e d ∧ Stands e d member) ∨
      ∃ err, m.endpoint e d = .error err ∧ EndpointFault m e d err := by
  cases named : d.field with
  | none =>
    cases method : d.method with
    | none =>
      refine .inr ⟨_, ?_, .unclear (by rw [named, method])⟩
      rw [endpoint, named, method]
    | some method' => exact endpoint_cases_method named method
  | some field =>
    cases method : d.method with
    | some method' =>
      refine .inr ⟨_, ?_, .unclear (by rw [named, method]; rfl)⟩
      rw [endpoint, named, method]
    | none =>
      by_cases none : d.params = []
      · exact endpoint_cases_field distinct named method none
      · refine .inr ⟨_, ?_, .params named method none⟩
        have some : (!d.params.isEmpty) = true := by
          cases params : d.params with
          | nil => exact absurd params none
          | cons => rfl
        rw [endpoint, named, method]
        dsimp only
        rw [if_pos some]

/-- A fault leaves no meaning. -/
theorem EndpointFault.not_sound (fault : EndpointFault m e d err) : ¬ m.SoundEndpoint e d := by
  rintro ⟨single, owned, field⟩
  cases fault with
  | unclear same => exact single same
  | params named _ some => exact some (field _ named).1
  | owner _ _ _ missing => exact missing owned
  | field named _ _ _ missing => exact missing (field _ named).2

/-- An endpoint has one fault at most. -/
theorem EndpointFault.unique {err' : ManifestError} (fault : EndpointFault m e d err)
    (fault' : EndpointFault m e d err') : err = err' := by
  cases fault <;> cases fault' <;> simp_all

theorem endpoint_eq_ok_iff (distinct : (m.entities.map (·.name)).Nodup) {member : Endpoint} :
    m.endpoint e d = .ok member ↔ m.SoundEndpoint e d ∧ Stands e d member := by
  rcases endpoint_cases distinct e d with ⟨member', made, sound, stands⟩ | ⟨err, failed, fault⟩
  · rw [made, Except.ok.injEq]
    constructor
    · rintro rfl
      exact ⟨sound, stands⟩
    · rintro ⟨-, stands'⟩
      have single := sound.single
      cases stands <;> cases stands' <;> simp_all
  · rw [failed]
    exact iff_of_false (fun same => by cases same) fun sound => fault.not_sound sound.1

theorem exists_endpoint_iff (distinct : (m.entities.map (·.name)).Nodup) :
    (∃ member, m.endpoint e d = .ok member) ↔ m.SoundEndpoint e d := by
  rcases endpoint_cases distinct e d with ⟨member, made, sound, -⟩ | ⟨err, failed, fault⟩
  · exact iff_of_true ⟨member, made⟩ sound
  · rw [failed]
    exact iff_of_false Outcome.not_exists_error_eq_ok fault.not_sound

theorem endpoint_eq_error_iff (distinct : (m.entities.map (·.name)).Nodup) :
    m.endpoint e d = .error err ↔ EndpointFault m e d err := by
  rcases endpoint_cases distinct e d with ⟨member, made, sound, -⟩ | ⟨err', failed, fault⟩
  · rw [made]
    exact iff_of_false Outcome.ok_ne_error fun fault => fault.not_sound sound
  · rw [failed, Except.error.injEq]
    constructor
    · rintro rfl
      exact fault
    · exact fault.unique

/-! ## Entities -/

theorem exists_entity_iff (distinct : (m.entities.map (·.name)).Nodup) :
    (∃ s, m.entity e = .ok s) ↔ m.SoundEntity e := by
  have traversed : (∃ s, m.entity e = .ok s) ↔
      ∃ members, e.endpoints.mapM (m.endpoint e) = .ok members := by
    simp only [entity, Outcome.bind_eq_ok_iff, Outcome.pure_eq_ok_iff]
    constructor
    · rintro ⟨_, members, made, -⟩
      exact ⟨members, made⟩
    · rintro ⟨members, made⟩
      exact ⟨_, members, made, rfl⟩
  rw [traversed, Outcome.exists_mapM_eq_ok_iff]
  simp only [exists_endpoint_iff distinct, SoundEntity]

theorem entity_eq_error_iff (distinct : (m.entities.map (·.name)).Nodup) :
    m.entity e = .error err ↔
      ∃ before d behind, e.endpoints = before ++ d :: behind ∧
        (∀ d' ∈ before, m.SoundEndpoint e d') ∧ EndpointFault m e d err := by
  simp only [entity, Outcome.bind_eq_error_iff, Outcome.pure_ne_error, and_false, exists_false,
    or_false, Outcome.mapM_eq_error_iff, exists_endpoint_iff distinct,
    endpoint_eq_error_iff distinct]

theorem describes_of_entity (distinct : (m.entities.map (·.name)).Nodup) {s : StaticEntity}
    (made : m.entity e = .ok s) : Describes e s := by
  obtain ⟨members, traversed, last⟩ := Outcome.bind_eq_ok_iff.1 made
  obtain rfl := Outcome.pure_eq_ok_iff.1 last
  refine ⟨rfl, rfl, rfl, rfl, rfl, (Outcome.mapM_eq_ok_iff.1 traversed).imp fun d member made => ?_⟩
  exact ((endpoint_eq_ok_iff distinct).1 made).2

/-! ## The manifest -/

theorem resolve_of_distinct (distinct : (m.entities.map (·.name)).Nodup) :
    m.resolve = m.entities.mapM m.entity := by
  rw [resolve, Naming.firstRepeat?_eq_none_iff.2 distinct]

/-- A repeated name is reported, whatever else there is. -/
theorem exists_resolve_of_repeat (repeated : ¬ (m.entities.map (·.name)).Nodup) :
    ∃ name, Naming.FirstRepeat (m.entities.map (·.name)) name ∧
      m.resolve = .error (.duplicateEntity name) := by
  rw [← Naming.firstRepeat?_eq_none_iff, ← ne_eq, Option.ne_none_iff_exists'] at repeated
  obtain ⟨name, found⟩ := repeated
  refine ⟨name, Naming.firstRepeat?_eq_some_iff.1 found, ?_⟩
  rw [resolve, found]

theorem distinct_of_resolve {es : List StaticEntity} (resolved : m.resolve = .ok es) :
    (m.entities.map (·.name)).Nodup := by
  by_contra repeated
  obtain ⟨name, -, failed⟩ := exists_resolve_of_repeat repeated
  cases resolved.symm.trans failed

theorem exists_resolve_iff : (∃ es, m.resolve = .ok es) ↔ m.Valid := by
  constructor
  · rintro ⟨es, resolved⟩
    have distinct := distinct_of_resolve resolved
    rw [resolve_of_distinct distinct] at resolved
    refine ⟨distinct, fun e mem => (exists_entity_iff distinct).1 ?_⟩
    exact Outcome.exists_mapM_eq_ok_iff.1 ⟨es, resolved⟩ e mem
  · rintro ⟨distinct, sound⟩
    rw [resolve_of_distinct distinct, Outcome.exists_mapM_eq_ok_iff]
    exact fun e mem => (exists_entity_iff distinct).2 (sound e mem)

theorem resolve_eq_error_iff : m.resolve = .error err ↔ FirstFault m err := by
  by_cases distinct : (m.entities.map (·.name)).Nodup
  · rw [resolve_of_distinct distinct, Outcome.mapM_eq_error_iff]
    simp only [exists_entity_iff distinct, entity_eq_error_iff distinct]
    constructor
    · rintro ⟨front, e, back, split, passed, before, d, behind, inner, sound, fault⟩
      exact .endpoint distinct split passed inner sound fault
    · intro fault
      cases fault with
      | duplicate repeated =>
        rw [← Naming.firstRepeat?_eq_some_iff, Naming.firstRepeat?_eq_none_iff.2 distinct]
          at repeated
        cases repeated
      | endpoint _ split passed inner sound fault =>
        exact ⟨_, _, _, split, passed, _, _, _, inner, sound, fault⟩
  · obtain ⟨name, repeated, failed⟩ := exists_resolve_of_repeat distinct
    rw [failed, Except.error.injEq]
    constructor
    · rintro rfl
      exact .duplicate repeated
    · intro fault
      cases fault with
      | duplicate repeated' =>
        have same := (Naming.firstRepeat?_eq_some_iff.2 repeated).symm.trans
          (Naming.firstRepeat?_eq_some_iff.2 repeated')
        rw [Option.some.inj same]
      | endpoint distinct' => exact absurd distinct' distinct

theorem describes_of_resolve {es : List StaticEntity} (resolved : m.resolve = .ok es) :
    List.Forall₂ Describes m.entities es := by
  have distinct := distinct_of_resolve resolved
  rw [resolve_of_distinct distinct, Outcome.mapM_eq_ok_iff] at resolved
  exact resolved.imp fun e s made => describes_of_entity distinct made

/-! ## Services of the entities -/

/-- The owner of an endpoint is an entity of the manifest. -/
theorem declares_of_resolve {es : List StaticEntity} (resolved : m.resolve = .ok es)
    {s : StaticEntity} (mem : s ∈ es) {member : Endpoint} (served : member ∈ s.endpoints) :
    m.Declares member.owner := by
  obtain ⟨e, declared, describes⟩ :=
    Outcome.exists_of_mem_right (describes_of_resolve resolved) mem
  obtain ⟨d, written, stands⟩ := Outcome.exists_of_mem_right describes.endpoints served
  have sound := (exists_resolve_iff.1 ⟨es, resolved⟩).sound e declared d written
  cases stands <;> exact sound.owned

theorem named_of_resolve {es : List StaticEntity} (resolved : m.resolve = .ok es)
    (names : ∀ e ∈ m.entities, e.name ≠ "") {s : StaticEntity} (mem : s ∈ es) :
    Generation.Named s.metadata := by
  obtain ⟨e, declared, describes⟩ :=
    Outcome.exists_of_mem_right (describes_of_resolve resolved) mem
  refine ⟨?_, rfl⟩
  show s.crud.name ≠ ""
  rw [describes.name]
  exact names e declared

/-- Where all entities have names, what is missing for a service is never a name. -/
theorem generate_of_resolve {es : List StaticEntity} (resolved : m.resolve = .ok es)
    (names : ∀ e ∈ m.entities, e.name ≠ "") {s : StaticEntity} (mem : s ∈ es)
    {naming : NamingConfig} {err : GenerationError}
    (failed : Generation.generate naming s.metadata = .error err) :
    err ≠ .emptyEntityName ∧ (∀ entity crud, err ≠ .entityNameMismatch entity crud) ∧
      ∀ entity member, err ≠ .missingOwner entity member := by
  have named := named_of_resolve resolved names mem
  cases Generation.generate_eq_error_iff.1 failed with
  | unnamed unnamed => exact absurd unnamed named.nonempty
  | mismatch _ mismatch => exact absurd named.same mismatch
  | listing _ fault => cases fault <;> simp
  | @endpoint front back member _ _ _ split _ fault =>
    cases fault with
    | ownerless ownerless =>
      have served : member ∈ s.endpoints := by
        show member ∈ s.metadata.endpoints
        rw [split]
        exact List.mem_append_right front List.mem_cons_self
      obtain ⟨o, declared, same⟩ := declares_of_resolve resolved mem served
      exact absurd (same.trans ownerless) (names o declared)
    | repeated => simp

/-- A manifest has entities iff it is valid, one for each declaration and in the same order;
otherwise the error is the first one. If all entities have names, no service of theirs lacks a name
or an owner. -/
theorem resolve_outcome (m : Manifest) :
    ((∃ es, m.resolve = .ok es) ↔ m.Valid) ∧
    (∀ err, m.resolve = .error err ↔ FirstFault m err) ∧
    ∀ es, m.resolve = .ok es →
      List.Forall₂ Describes m.entities es ∧
      ((∀ e ∈ m.entities, e.name ≠ "") →
        ∀ s ∈ es, ∀ naming err, Generation.generate naming s.metadata = .error err →
          err ≠ .emptyEntityName ∧ (∀ entity crud, err ≠ .entityNameMismatch entity crud) ∧
            ∀ entity member, err ≠ .missingOwner entity member) := by
  refine ⟨exists_resolve_iff, fun err => resolve_eq_error_iff, fun es resolved => ⟨?_, ?_⟩⟩
  · exact describes_of_resolve resolved
  · intro names s mem naming err failed
    exact generate_of_resolve resolved names mem failed

/-- Orders, one endpoint of which is a field of the entity behind them. -/
def shop : Manifest where
  entities := [
    { name := "Order"
      fields := [⟨"status", "String", false⟩]
      endpoints := [{ field := some "status" },
        { field := some "street", owner := some "Address" }] },
    { name := "Address", fields := [⟨"street", "String", false⟩] }]

theorem resolve_outcome_shop :
    ∃ es, shop.resolve = .ok es ∧ shop.Valid ∧ List.Forall₂ Describes shop.entities es := by
  obtain ⟨valid, -, described⟩ := resolve_outcome shop
  have resolved : shop.resolve = .ok _ := rfl
  exact ⟨_, resolved, valid.1 ⟨_, resolved⟩, (described _ resolved).1⟩

end Manifest
end CrudForge
