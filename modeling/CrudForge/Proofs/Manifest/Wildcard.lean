import CrudForge.Proofs.Generation.Shape
import CrudForge.Proofs.Manifest.Validity

/-!
# Wildcard filters

A wildcard stands for the fields that are not transient, in order. Their names are taken from the
fields themselves, but their types are looked up by name: each type is that of the first field of
the name, which may be a transient one. So a listing has the types that were declared iff no field
stands in the shadow of another (`wildcard_listing`), as is the case if the names of the fields
differ.
-/

namespace CrudForge

namespace EntityDeclaration

/-- The fields that are not transient, in order. -/
def kept (e : EntityDeclaration) : List EntityField :=
  e.fields.filter (!·.transient)

/-- The fields that are not transient as parameters, each with its own type. -/
def ownParams (e : EntityDeclaration) : List Parameter :=
  e.kept.map fun f => .declared f.name f.ty

/-- A field with no other of its name in front. -/
def First (e : EntityDeclaration) (g : EntityField) : Prop :=
  ∃ front back, e.fields = front ++ g :: back ∧ ∀ h ∈ front, h.name ≠ g.name

/-- A field is behind one of its name that has another type. -/
def Shadowed (e : EntityDeclaration) (f : EntityField) : Prop :=
  ∃ g, e.First g ∧ g.name = f.name ∧ g.ty ≠ f.ty

/-- The parameter that a wildcard makes of a field. -/
def Looked (e : EntityDeclaration) (f : EntityField) (p : Parameter) : Prop :=
  ∃ g, e.First g ∧ g.name = f.name ∧ p = .declared f.name g.ty

variable {e : EntityDeclaration} {f g g' : EntityField}

theorem First.find?_eq (first : e.First g) :
    e.fields.find? (·.name = g.name) = some g := by
  obtain ⟨front, back, split, others⟩ := first
  rw [split, List.find?_append, List.find?_eq_none.2 (by simpa using others), Option.none_or]
  exact List.find?_cons_of_pos (by simp)

theorem First.unique (first : e.First g) (first' : e.First g') (same : g.name = g'.name) :
    g = g' := by
  have found := first.find?_eq
  rw [same, first'.find?_eq] at found
  exact (Option.some.inj found).symm

theorem exists_first (mem : f ∈ e.fields) : ∃ g, e.First g ∧ g.name = f.name := by
  cases found : e.fields.find? (·.name = f.name) with
  | none => simpa using List.find?_eq_none.1 found f mem
  | some g =>
    obtain ⟨named, front, back, split, others⟩ := List.find?_eq_some_iff_append.1 found
    have same : g.name = f.name := of_decide_eq_true named
    refine ⟨g, ⟨front, back, split, fun h behind => ?_⟩, same⟩
    simpa [same] using others h behind

theorem looked_unique : Relator.RightUnique e.Looked := by
  intro f p p' looked looked'
  obtain ⟨g, first, same, rfl⟩ := looked
  obtain ⟨g', first', same', rfl⟩ := looked'
  rw [first.unique first' (same.trans same'.symm)]

theorem looked_own_iff (mem : f ∈ e.fields) :
    e.Looked f (.declared f.name f.ty) ↔ ¬ e.Shadowed f := by
  constructor
  · rintro ⟨g, first, same, looked⟩ ⟨g', first', same', other⟩
    have types : f.ty = g.ty := by simpa [Parameter.declared] using looked
    rw [first'.unique first (same'.trans same.symm)] at other
    exact other types.symm
  · intro clear
    obtain ⟨g, first, same⟩ := exists_first mem
    have types : g.ty = f.ty := by_contra fun other => clear ⟨g, first, same, other⟩
    exact ⟨g, first, same, by rw [types]⟩

/-- Where the names of the fields differ, there are no shadows. -/
theorem not_shadowed_of_nodup (distinct : (e.fields.map (·.name)).Nodup) (mem : f ∈ e.fields) :
    ¬ e.Shadowed f := by
  rintro ⟨g, ⟨front, back, split, -⟩, same, other⟩
  have mem' : g ∈ e.fields := split ▸ List.mem_append_right front List.mem_cons_self
  exact other (by rw [List.inj_on_of_nodup_map distinct mem' mem same])

theorem mem_fields_of_kept (mem : f ∈ e.kept) : f ∈ e.fields :=
  (List.mem_filter.1 mem).1

end EntityDeclaration

namespace Manifest

open EntityDeclaration Generation

variable {e : EntityDeclaration} {s : StaticEntity}

theorem Describes.fieldType_of_first (describes : Describes e s) {g : EntityField}
    (first : e.First g) : s.metadata.fieldType g.name = some g.ty := by
  show (s.fields.find? _).map _ = _
  rw [describes.fields, first.find?_eq]
  rfl

theorem Describes.filterNames_eq (describes : Describes e s) (star : e.filter = ["*"]) :
    filterNames s.metadata = e.kept.map (·.name) := by
  have wildcard : s.metadata.crud.filter = .wildcard := describes.filter.trans (by rw [star]; rfl)
  rw [filterNames, wildcard, kept, ← describes.fields]
  rfl

/-- The filters of a wildcard are those that are looked up. -/
theorem Describes.looked (describes : Describes e s) (star : e.filter = ["*"]) :
    List.Forall₂ e.Looked e.kept (filterParams s.metadata) := by
  rw [filterParams, describes.filterNames_eq star, List.map_map, List.forall₂_map_right_iff,
    List.forall₂_same]
  intro f mem
  obtain ⟨g, first, same⟩ := exists_first (mem_fields_of_kept mem)
  refine ⟨g, first, same, ?_⟩
  rw [Function.comp_apply, ← same, describes.fieldType_of_first first]
  rfl

/-- Filters that are looked up are the fields with their own types iff no field is shadowed. -/
theorem eq_ownParams_iff {filters : List Parameter}
    (looked : List.Forall₂ e.Looked e.kept filters) :
    filters = e.ownParams ↔ ∀ f ∈ e.kept, ¬ e.Shadowed f := by
  have own : List.Forall₂ e.Looked e.kept e.ownParams ↔ ∀ f ∈ e.kept, ¬ e.Shadowed f := by
    rw [ownParams, List.forall₂_map_right_iff, List.forall₂_same]
    exact forall₂_congr fun f mem => looked_own_iff (mem_fields_of_kept mem)
  rw [← own]
  constructor
  · rintro rfl
    exact looked
  · intro same
    exact looked_unique.forall₂ looked same

/-- The listing of a service, behind `save` and `one`. -/
theorem method?_allByFilter {naming : NamingConfig} {e : EntityMetadata}
    (filtered : e.crud.filter.isUnfiltered = false) :
    (builtService naming e).method? allByFilterName =
      some (builtAllByFilter e.crud.pagination (filterParams e)) := by
  have listing : builtList e = builtAllByFilter e.crud.pagination (filterParams e) := by
    rw [builtList, filtered, if_neg Bool.false_ne_true]
  rw [builtService, listing, ServiceClass.method?]
  have save : (builtSave e.name).name ≠ allByFilterName := by
    simp [builtSave, saveName, allByFilterName]
  have one : (builtOne e.name e.idType).name ≠ allByFilterName := by
    simp [builtOne, oneName, allByFilterName]
  rw [serviceClass, List.find?_cons_of_neg (by simpa using save),
    List.find?_cons_of_neg (by simpa using one)]
  exact List.find?_cons_of_pos (by simp [builtAllByFilter])

/-- The listing of an entity with a wildcard filters by the fields that are not transient, each
under the type of the first field of its name. These are the types that were declared iff no field
is shadowed, which cannot be where the names of the fields differ. -/
theorem wildcard_listing {m : Manifest} {es : List StaticEntity} (resolved : m.resolve = .ok es)
    {e : EntityDeclaration} {s : StaticEntity} (pair : (e, s) ∈ m.entities.zip es)
    (star : e.filter = ["*"]) {naming : NamingConfig} {c : ServiceClass}
    (generated : generate naming s.metadata = .ok c) :
    ∃ listing filters, c.method? allByFilterName = some listing ∧
      listing.params = filters ++ pageParams e.pagination ∧
      List.Forall₂ e.Looked e.kept filters ∧
      (filters = e.ownParams ↔ ∀ f ∈ e.kept, ¬ e.Shadowed f) ∧
      ((e.fields.map (·.name)).Nodup → filters = e.ownParams) := by
  have describes := (List.forall₂_iff_zip.1 (describes_of_resolve resolved)).2 pair
  have looked := describes.looked star
  obtain ⟨-, rfl⟩ := generate_eq_ok_iff.1 generated
  have filtered : s.metadata.crud.filter.isUnfiltered = false := by
    show s.crud.filter.isUnfiltered = false
    rw [describes.filter, star]
    rfl
  refine ⟨_, _, method?_allByFilter filtered, ?_, looked, eq_ownParams_iff looked, ?_⟩
  · rw [← describes.pagination]
    rfl
  · intro distinct
    rw [eq_ownParams_iff looked]
    exact fun f mem => not_shadowed_of_nodup distinct (mem_fields_of_kept mem)

/-- Without endpoints, a wildcard asks only for names that differ. -/
theorem generate_of_wildcard (naming : NamingConfig) {s : StaticEntity} (named : s.crud.name ≠ "")
    (star : s.crud.filter = .wildcard) (bare : s.endpoints = [])
    (distinct : (s.nonTransientFields ++ pageNames s.crud.pagination).Nodup) :
    generate naming s.metadata = .ok (builtService naming s.metadata) := by
  have names : filterNames s.metadata = s.nonTransientFields := by
    have asked : s.metadata.crud.filter = .wildcard := star
    rw [filterNames, asked]
    rfl
  refine generate_eq_ok_iff.2 ⟨⟨⟨named, rfl⟩, ⟨?_, fun _ => ?_⟩, ?_⟩, rfl⟩
  · rw [names]
    intro field mem
    obtain ⟨f, kept, rfl⟩ := List.mem_map.1 mem
    cases found : s.fields.find? (·.name = f.name) with
    | none => simpa using List.find?_eq_none.1 found f (List.mem_filter.1 kept).1
    | some g => exact ⟨g.ty, by simp [StaticEntity.metadata, StaticEntity.fieldType, found]⟩
  · rw [listingNames, names]
    exact distinct
  · intro member mem
    have none : s.metadata.endpoints = [] := bare
    rw [none] at mem
    cases mem

/-- Orders with a field that is not kept. -/
def orders : EntityDeclaration where
  name := "Order"
  fields := [⟨"note", "String", true⟩, ⟨"status", "String", false⟩, ⟨"total", "u64", false⟩]
  pagination := true
  filter := ["*"]

theorem wildcard_listing_orders :
    ∃ s c listing, resolve ⟨[orders]⟩ = .ok [s] ∧ generate {} s.metadata = .ok c ∧
      c.method? allByFilterName = some listing ∧
      listing.params = [.declared "status" "String", .declared "total" "u64", .page, .pageSize] := by
  let s : StaticEntity := ⟨"i64", orders.fields, ⟨"Order", true, .wildcard⟩, []⟩
  have resolved : resolve ⟨[orders]⟩ = .ok [s] := rfl
  have generated := generate_of_wildcard {} (s := s) (by decide) rfl rfl (by decide)
  obtain ⟨listing, filters, found, params, -, -, own⟩ :=
    wildcard_listing resolved (List.mem_singleton.2 rfl) rfl generated
  refine ⟨s, _, listing, resolved, generated, found, ?_⟩
  rw [params, own (by decide)]
  rfl

/-- A kept field behind a transient one of its name. -/
def shadowed : EntityDeclaration where
  name := "Order"
  fields := [⟨"a", "String", true⟩, ⟨"a", "i64", false⟩]
  filter := ["*"]

/-- The listing takes over the type of a field that is not kept. -/
theorem exists_listing_shadowed :
    ∃ s c listing, resolve ⟨[shadowed]⟩ = .ok [s] ∧ generate {} s.metadata = .ok c ∧
      c.method? allByFilterName = some listing ∧ listing.params = [.declared "a" "String"] ∧
      shadowed.ownParams = [.declared "a" "i64"] := by
  let s : StaticEntity := ⟨"i64", shadowed.fields, ⟨"Order", false, .wildcard⟩, []⟩
  have generated := generate_of_wildcard {} (s := s) (by decide) rfl rfl (by decide)
  exact ⟨s, _, _, rfl, generated, method?_allByFilter rfl, rfl, rfl⟩

end Manifest
end CrudForge
