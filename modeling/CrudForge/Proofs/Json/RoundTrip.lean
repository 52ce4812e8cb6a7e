import CrudForge.Entity.Json
import CrudForge.Naming.Json
import CrudForge.Service.Json
import CrudForge.Proofs.Serving.Decoding

/-!
# Descriptors come back from JSON

Whatever a descriptor holds, it is decoded from what it is written as; nothing asks whether it
makes sense. A filter is written as a list of names, and two filters can have one list, so that
only those that a list stands for come back (`FilterSpec.ofJson?_toJson_iff`). A configuration
comes back iff its filter does.
-/

namespace CrudForge

open Json

/-- Every value is decoded from what it is written as. -/
def RoundTrips {α : Type} (encode : α → Json) (decode : Json → Option α) : Prop :=
  ∀ a, decode (encode a) = some a

/-- Values that come back one by one come back as a list. -/
theorem RoundTrips.list {α : Type} {encode : α → Json} {decode : Json → Option α}
    (back : RoundTrips encode decode) (as : List α) :
    asList? decode (.arr (as.map encode)) = some as :=
  asList?_map fun a _ => back a

theorem asList?_strs (names : List String) : asList? asString? (.strs names) = some names :=
  asList?_map fun _ _ => rfl

/-! ## Code -/

namespace CodeArg

theorem roundTrips : RoundTrips toJson ofJson? := by
  intro a
  cases a <;> rfl

end CodeArg

namespace CodeBlock

/-- The members of a block are enough to decode it, whatever tag they stood beside. -/
theorem ofJson?_members (b : CodeBlock) : ofJson? (.obj b.members) = some b := by
  have members : asRecord? ["format", "args"] (.obj b.members) =
      some [some (.str b.format), some (.arr (b.args.map CodeArg.toJson))] := rfl
  rw [ofJson?, members]
  show (do
    let args ← asList? CodeArg.ofJson? (.arr (b.args.map CodeArg.toJson))
    some (CodeBlock.mk b.format args)) = some b
  rw [CodeArg.roundTrips.list]
  rfl

theorem roundTrips : RoundTrips toJson ofJson? := ofJson?_members

end CodeBlock

namespace Fragment

/-- The tag of a fragment stands beside the members of its code. -/
theorem asTagged?_members (kind : String) (code : CodeBlock) :
    asTagged? "fragment" (.obj (("fragment", .str kind) :: code.members)) =
      some (kind, .obj code.members) := rfl

theorem roundTrips : RoundTrips toJson ofJson? := by
  intro f
  cases f with
  | statement code | expr code | beginBlock code | nextBlock code =>
    rw [toJson, ofJson?, asTagged?_members]
    show _ <$> CodeBlock.ofJson? (.obj code.members) = _
    rw [CodeBlock.ofJson?_members]
    rfl
  | endBlock semicolon => rfl

end Fragment

/-! ## Services -/

theorem TypeRef.roundTrips : RoundTrips TypeRef.toJson TypeRef.ofJson? := by
  intro t
  cases t <;> rfl

theorem Parameter.roundTrips : RoundTrips Parameter.toJson Parameter.ofJson? := by
  intro p
  have members : asRecord? ["name", "ty"] p.toJson = some [some (.str p.name), some p.ty.toJson] :=
    rfl
  rw [Parameter.ofJson?, members]
  show (do
    let ty ← TypeRef.ofJson? p.ty.toJson
    some (Parameter.mk p.name ty)) = some p
  rw [TypeRef.roundTrips]
  rfl

/-- A set is written as the list of its kinds. -/
theorem FailureSet.roundTrips : RoundTrips FailureSet.toJson FailureSet.ofJson? := by
  intro s
  have kinds : RoundTrips FailureKind.toJson FailureKind.ofJson? := fun kind => by cases kind; rfl
  rw [FailureSet.ofJson?, FailureSet.toJson, kinds.list]
  exact congrArg some (FailureSet.ofList_toList s)

theorem Method.roundTrips : RoundTrips Method.toJson Method.ofJson? := by
  intro m
  have visibility : RoundTrips Visibility.toJson Visibility.ofJson? := fun v => by cases v; rfl
  have returns : RoundTrips ReturnMarker.toJson ReturnMarker.ofJson? := fun r => by cases r; rfl
  have members : asRecord? ["name", "visibility", "returns", "params", "failures", "body"]
      m.toJson = some [some (.str m.name), some m.visibility.toJson, some m.returns.toJson,
        some (.arr (m.params.map Parameter.toJson)), some m.failures.toJson,
        some (.arr (m.body.map Fragment.toJson))] := rfl
  rw [Method.ofJson?, members]
  show (do
    let visibility ← Visibility.ofJson? m.visibility.toJson
    let returns ← ReturnMarker.ofJson? m.returns.toJson
    let params ← asList? Parameter.ofJson? (.arr (m.params.map Parameter.toJson))
    let failures ← FailureSet.ofJson? m.failures.toJson
    let body ← asList? Fragment.ofJson? (.arr (m.body.map Fragment.toJson))
    some (Method.mk m.name visibility returns params failures body)) = some m
  rw [visibility, returns, Parameter.roundTrips.list, FailureSet.roundTrips,
    Fragment.roundTrips.list]
  rfl

theorem ServiceField.roundTrips : RoundTrips ServiceField.toJson ServiceField.ofJson? := by
  intro f
  have members : asRecord? ["name", "ty", "injected"] f.toJson =
      some [some (.str f.name), some f.ty.toJson, some (.bool f.injected)] := rfl
  rw [ServiceField.ofJson?, members]
  show (do
    let ty ← TypeRef.ofJson? f.ty.toJson
    some (ServiceField.mk f.name ty f.injected)) = some f
  rw [TypeRef.roundTrips]
  rfl

theorem ServiceClass.roundTrips : RoundTrips ServiceClass.toJson ServiceClass.ofJson? := by
  intro c
  have members : asRecord? ["name", "repository", "methods"] c.toJson =
      some [some (.str c.name), some c.repository.toJson,
        some (.arr (c.methods.map Method.toJson))] := rfl
  rw [ServiceClass.ofJson?, members]
  show (do
    let repository ← ServiceField.ofJson? c.repository.toJson
    let methods ← asList? Method.ofJson? (.arr (c.methods.map Method.toJson))
    some (ServiceClass.mk c.name repository methods)) = some c
  rw [ServiceField.roundTrips, Method.roundTrips.list]
  rfl

/-! ## Entities -/

theorem Endpoint.roundTrips : RoundTrips Endpoint.toJson Endpoint.ofJson? := by
  intro member
  have params : RoundTrips EndpointParam.toJson EndpointParam.ofJson? := fun _ => rfl
  cases member with
  | field name owner => rfl
  | callable name owner ps =>
    show (do
      let params ← asList? EndpointParam.ofJson? (.arr (ps.map EndpointParam.toJson))
      some (Endpoint.callable name owner params)) = _
    rw [params.list]
    rfl

theorem NamingConfig.roundTrips : RoundTrips NamingConfig.toJson NamingConfig.ofJson? := by
  intro n
  have style : RoundTrips AccessorStyle.toJson AccessorStyle.ofJson? := fun s => by
    cases s <;> rfl
  have members : asRecord? ["class_prefix", "service_suffix", "repository_suffix",
      "accessor_style"] n.toJson = some [some (.str n.classPrefix), some (.str n.serviceSuffix),
        some (.str n.repositorySuffix), some n.accessorStyle.toJson] := rfl
  rw [NamingConfig.ofJson?, members]
  show (do
    let accessorStyle ← AccessorStyle.ofJson? n.accessorStyle.toJson
    some (NamingConfig.mk n.classPrefix n.serviceSuffix n.repositorySuffix accessorStyle)) = some n
  rw [style]
  rfl

namespace FilterSpec

/-- Some list of names stands for a filter. -/
def Listed (f : FilterSpec) : Prop :=
  ∃ names, ofJson? (.strs names) = some f

theorem toList_ofList (names : List String) : (ofList names).toList = names := by
  unfold ofList
  split <;> rfl

theorem ofJson?_strs (names : List String) : ofJson? (.strs names) = some (ofList names) := by
  rw [ofJson?, asList?_strs]
  rfl

/-- A filter is decoded from its list as what the list stands for. -/
theorem ofJson?_toJson (f : FilterSpec) : ofJson? f.toJson = some (ofList f.toList) :=
  ofJson?_strs f.toList

theorem ofJson?_toJson_iff {f : FilterSpec} : ofJson? f.toJson = some f ↔ f.Listed := by
  constructor
  · intro back
    exact ⟨f.toList, back⟩
  · rintro ⟨names, decoded⟩
    rw [ofJson?_strs] at decoded
    obtain rfl := Option.some.inj decoded
    rw [ofJson?_toJson, toList_ofList]

/-- No list stands for the filter by no names, nor for the one by the star alone as a name. -/
theorem listed_iff {f : FilterSpec} : f.Listed ↔ f ≠ fields [] ∧ f ≠ fields ["*"] := by
  rw [← ofJson?_toJson_iff, ofJson?_toJson, Option.some.injEq]
  constructor
  · rintro back
    constructor <;> rintro rfl <;> cases back
  · rintro ⟨nonempty, noStar⟩
    cases f with
    | unfiltered | wildcard => rfl
    | fields names =>
      unfold toList ofList
      split
      · rename_i same
        exact absurd (congrArg fields same) nonempty
      · rename_i same
        exact absurd (congrArg fields same) noStar
      · rfl

end FilterSpec

namespace EntityConfig

/-- What is decoded from a configuration has the filter that its list stands for. -/
theorem ofJson?_toJson (c : EntityConfig) :
    ofJson? c.toJson = some { c with filter := .ofList c.filter.toList } := by
  have members : asRecord? ["name", "pagination", "filter"] c.toJson =
      some [some (.str c.name), some (.bool c.pagination), some c.filter.toJson] := rfl
  rw [ofJson?, members]
  show (do
    let filter ← FilterSpec.ofJson? c.filter.toJson
    some (EntityConfig.mk c.name c.pagination filter)) = _
  rw [FilterSpec.ofJson?_toJson]
  rfl

theorem ofJson?_toJson_iff {c : EntityConfig} :
    ofJson? c.toJson = some c ↔ c.filter.Listed := by
  rw [ofJson?_toJson, Option.some.injEq, ← FilterSpec.ofJson?_toJson_iff,
    FilterSpec.ofJson?_toJson, Option.some.injEq]
  obtain ⟨name, pagination, filter⟩ := c
  simp only [EntityConfig.mk.injEq, true_and]

end EntityConfig

/-! ## Windows -/

theorem PageWindow.roundTrips : RoundTrips PageWindow.toJson PageWindow.ofJson? := by
  intro w
  have members : asRecord? ["page", "size"] w.toJson =
      some [some (.word w.page), some (.word w.size)] := rfl
  rw [PageWindow.ofJson?, members]
  show (do
    let page ← asWord? (.word w.page)
    let size ← asWord? (.word w.size)
    some (PageWindow.mk page size)) = some w
  rw [asWord?_word, asWord?_word]
  rfl

/-! ## All descriptors -/

/-- Every descriptor comes back from JSON, and so does every page of contents that do. A list of
names stands for a filter that is written as the same list; filters, and configurations with them,
come back iff a list stands for the filter. -/
theorem descriptors_roundTrip :
    (RoundTrips TypeRef.toJson TypeRef.ofJson? ∧
      RoundTrips Parameter.toJson Parameter.ofJson? ∧
      RoundTrips CodeArg.toJson CodeArg.ofJson? ∧
      RoundTrips CodeBlock.toJson CodeBlock.ofJson? ∧
      RoundTrips Fragment.toJson Fragment.ofJson? ∧
      RoundTrips Method.toJson Method.ofJson? ∧
      RoundTrips ServiceField.toJson ServiceField.ofJson? ∧
      RoundTrips ServiceClass.toJson ServiceClass.ofJson? ∧
      RoundTrips Endpoint.toJson Endpoint.ofJson? ∧
      RoundTrips NamingConfig.toJson NamingConfig.ofJson? ∧
      RoundTrips PageWindow.toJson PageWindow.ofJson?) ∧
    (∀ (α : Type) (encode : α → Json) (decode : Json → Option α) (p : Page α),
      (∀ a ∈ p.content, decode (encode a) = some a) →
        Page.ofJson? decode (p.toJson encode) = some p) ∧
    (∀ names, ∃ f, FilterSpec.ofJson? (.strs names) = some f ∧ f.toJson = .strs names) ∧
    (∀ f, FilterSpec.ofJson? (FilterSpec.toJson f) = some f ↔ f.Listed) ∧
    (∀ c, EntityConfig.ofJson? (EntityConfig.toJson c) = some c ↔ c.filter.Listed) ∧
    ∀ f, FilterSpec.Listed f ↔ f ≠ .fields [] ∧ f ≠ .fields ["*"] := by
  refine ⟨⟨TypeRef.roundTrips, Parameter.roundTrips, CodeArg.roundTrips, CodeBlock.roundTrips,
    Fragment.roundTrips, Method.roundTrips, ServiceField.roundTrips, ServiceClass.roundTrips,
    Endpoint.roundTrips, NamingConfig.roundTrips, PageWindow.roundTrips⟩, ?_, ?_, ?_, ?_, ?_⟩
  · intro α encode decode p back
    exact Page.ofJson?_toJson back
  · intro names
    refine ⟨_, FilterSpec.ofJson?_strs names, ?_⟩
    rw [FilterSpec.toJson, FilterSpec.toList_ofList]
  · exact fun f => FilterSpec.ofJson?_toJson_iff
  · exact fun c => EntityConfig.ofJson?_toJson_iff
  · exact fun f => FilterSpec.listed_iff

/-- A page of words comes back, since words do. -/
theorem descriptors_roundTrip_words :
    (∀ w ∈ [1, 2], asWord? (.word w) = some w) ∧
    Page.ofJson? asWord? ((⟨[1, 2], 0, 2, 3, 2⟩ : Page UInt64).toJson .word) =
      some ⟨[1, 2], 0, 2, 3, 2⟩ := by
  have words : ∀ w ∈ [1, 2], asWord? (.word w) = some w := fun w _ => asWord?_word w
  exact ⟨words, descriptors_roundTrip.2.1 UInt64 .word asWord? ⟨[1, 2], 0, 2, 3, 2⟩ words⟩

end CrudForge
