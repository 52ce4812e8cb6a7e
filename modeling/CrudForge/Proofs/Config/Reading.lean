import CrudForge.Config.Section
import CrudForge.Proofs.Outcome

/-!
# Values of a wrong type

Reading a value as a type comes down to reading its elements as the type at the bottom
(`elements`): if one of them is of a wrong type, then the first such element is the error, told by
the indices on the way to it, and no other error can arise (`convert_ends`). So a default stands
for a missing value alone, in single reads (`getOr_eq`) and in the sections of a configuration
(`typedRead_outcome`).
-/

namespace CrudForge

namespace ConfigValue

/-! ## What is read -/

section Base

variable {v : ConfigValue} {b : BaseKind} {key : String}

theorem convert_base_eq_ok_iff {x : (Kind.base b).Carrier} :
    v.convert (.base b) key = .ok x ↔ v.base? b = some x := by
  rw [convert]
  cases v.base? b with
  | none => simp
  | some a => simp

/-- A list is read item by item. -/
theorem convertItems_base_eq_ok_iff {vs : List ConfigValue} {xs : List (Kind.base b).Carrier}
    {i : Nat} : convertItems (convert (.base b)) key i vs = .ok xs ↔
      List.Forall₂ (fun v x => v.base? b = some x) vs xs := by
  induction vs generalizing i xs with
  | nil =>
    rw [convertItems, List.forall₂_nil_left_iff, Except.ok.injEq]
    exact eq_comm
  | cons v vs ih =>
    simp only [convertItems, Outcome.bind_eq_ok_iff, Outcome.pure_eq_ok_iff, convert_base_eq_ok_iff,
      ih, List.forall₂_cons_left_iff]
    constructor
    · rintro ⟨x, head, xs, tail, rfl⟩
      exact ⟨x, xs, head, tail, rfl⟩
    · rintro ⟨x, xs, head, tail, rfl⟩
      exact ⟨x, head, xs, tail, rfl⟩

end Base

/-! ## Elements -/

/-- What a list is read off, item by item. A single value has no items. -/
def items? : ConfigValue → Option (List ConfigValue)
  | list items => some items
  | null => some []
  | string s => some ((parts s).map string)
  | _ => none

/-- A value within another one, and the indices of the items on the way to it. -/
structure Element where
  indices : List Nat
  value : ConfigValue

/-- The element as it is found in a list, in an item. -/
def Element.below (i : Nat) (e : Element) : Element :=
  { e with indices := i :: e.indices }

/-- The elements that are read as the type at the bottom of a type, depth first and from left to
right. -/
def elements : Kind → ConfigValue → List Element
  | .base _, v => [⟨[], v⟩]
  | .option _, null => []
  | .option kind, v => elements kind v
  | .list kind, v =>
    match items? v with
    | some items => items.zipIdx.flatMap fun (item, i) => (elements kind item).map (.below i)
    | none => elements kind v

/-- Indices as they stand behind a key. -/
def brackets : List Nat → String
  | [] => ""
  | i :: indices => "[" ++ i.repr ++ "]" ++ brackets indices

/-- An element is not of a type. -/
def Element.isOther (b : BaseKind) (e : Element) : Bool :=
  (e.value.base? b).isNone

/-- The first element that is not of the type at the bottom of a type. -/
def firstOther? (kind : Kind) (v : ConfigValue) : Option Element :=
  (elements kind v).find? (Element.isOther kind.bottom)

/-! ## How reading ends -/

/-- Reading succeeds if there is no element of a wrong type, and else tells the place of the first
one. -/
def Ends {α : Type} (b : BaseKind) (key : String) (first : Option Element)
    (result : Except ConfigError α) : Prop :=
  match first with
  | none => ∃ a, result = .ok a
  | some e => result = .error (.typeMismatch (key ++ brackets e.indices) b)

section Ends

variable {α β : Type} {b : BaseKind} {key : String} {first : Option Element}

theorem Ends.map {result : Except ConfigError α} (ends : Ends b key first result) (f : α → β) :
    Ends b key first (f <$> result) := by
  cases first with
  | none =>
    obtain ⟨a, rfl⟩ := ends
    exact ⟨f a, rfl⟩
  | some e =>
    rw [ends]
    rfl

theorem itemKey_brackets (key : String) (i : Nat) (indices : List Nat) :
    itemKey key i ++ brackets indices = key ++ brackets (i :: indices) := by
  simp only [itemKey, brackets, String.append_assoc]

/-- The first element of a wrong type in the items of a list is in the first item that has one. -/
theorem convertItems_ends {kind : Kind}
    (read : ∀ v key, Ends kind.bottom key (firstOther? kind v) (convert kind v key))
    (items : List ConfigValue) (key : String) (i : Nat) :
    Ends kind.bottom key
      (((items.zipIdx i).flatMap fun (item, j) => (elements kind item).map (.below j)).find?
        (Element.isOther kind.bottom))
      (convertItems (convert kind) key i items) := by
  induction items generalizing i with
  | nil => exact ⟨[], rfl⟩
  | cons v vs ih =>
    have head := read v (itemKey key i)
    have rest := ih (i + 1)
    have same : Element.isOther kind.bottom ∘ Element.below i = Element.isOther kind.bottom := rfl
    rw [List.zipIdx_cons, List.flatMap_cons, List.find?_append, List.find?_map, same, convertItems]
    rw [firstOther?] at head
    cases found : (elements kind v).find? (Element.isOther kind.bottom) with
    | some e =>
      rw [found, Ends, itemKey_brackets] at head
      rw [head]
      rfl
    | none =>
      rw [found] at head
      obtain ⟨a, converted⟩ := head
      rw [converted]
      exact rest.map (a :: ·)

/-- A value is read as a type, unless one of its elements is of a wrong type. -/
theorem convert_ends (kind : Kind) (v : ConfigValue) (key : String) :
    Ends kind.bottom key (firstOther? kind v) (convert kind v key) := by
  induction kind generalizing v key with
  | base b =>
    have single : firstOther? (.base b) v = if (v.base? b).isNone then some ⟨[], v⟩ else none := by
      rw [firstOther?, elements, List.find?_singleton]
      rfl
    rw [single, convert]
    cases v.base? b with
    | some a => exact ⟨a, rfl⟩
    | none => rw [if_pos (by rfl), Ends, brackets, String.append_empty]; rfl
  | option kind ih =>
    cases v with
    | null => exact ⟨none, rfl⟩
    | _ => exact (ih _ key).map some
  | list kind ih =>
    cases v with
    | list items => exact convertItems_ends ih items key 0
    | null => exact ⟨[], rfl⟩
    | string s => exact convertItems_ends ih ((parts s).map string) key 0
    | _ => exact (ih _ key).map ([·])

example : convert (.list (.list .integer)) (list [integer 1, string "1,, x"]) "k" =
    .error (.typeMismatch "k[1][1]" .integer) := by
  decide +kernel

theorem convert_ne_notFound (kind : Kind) (v : ConfigValue) (key missing : String) :
    convert kind v key ≠ .error (.notFound missing) := by
  have ends := convert_ends kind v key
  intro same
  cases found : firstOther? kind v with
  | none =>
    rw [found] at ends
    obtain ⟨a, converted⟩ := ends
    rw [converted] at same
    cases same
  | some e =>
    rw [found, Ends, same] at ends
    cases ends

end Ends

end ConfigValue

/-! ## Defaults -/

/-- No type has a single value. -/
theorem Kind.exists_ne (kind : Kind) : ∃ a b : kind.Carrier, a ≠ b := by
  induction kind with
  | base b =>
    cases b with
    | string => exact ⟨"", "a", by decide⟩
    | integer => exact ⟨(0 : Int64), (1 : Int64), by decide⟩
    | bool => exact ⟨false, true, by decide⟩
  | option kind ih =>
    obtain ⟨a, -⟩ := ih
    exact ⟨none, some a, nofun⟩
  | list kind ih =>
    obtain ⟨a, -⟩ := ih
    exact ⟨[], [a], nofun⟩

namespace Config

variable {c : Config} {kind : Kind} {key : String} {default x : kind.Carrier}

/-- A key is read as a value: as its own one if it has any, and else as the default. -/
def Reads (c : Config) (kind : Kind) (key : String) (default x : kind.Carrier) : Prop :=
  match c.value? key with
  | none => x = default
  | some v => v.convert kind key = .ok x

theorem getOr_eq (c : Config) (kind : Kind) (key : String) (default : kind.Carrier) :
    c.getOr kind key default =
      match c.value? key with
      | none => .ok default
      | some v => v.convert kind key := by
  rw [getOr, get]
  cases c.value? key with
  | none => rfl
  | some v =>
    dsimp only
    split
    · rename_i missing same
      exact absurd same (v.convert_ne_notFound kind key missing)
    · rfl

theorem getOr_eq_ok_iff : c.getOr kind key default = .ok x ↔ c.Reads kind key default x := by
  rw [getOr_eq, Reads]
  cases c.value? key with
  | none => exact ⟨fun same => (Except.ok.inj same).symm, fun same => congrArg Except.ok same.symm⟩
  | some v => rfl

/-- A default can be told by what is read iff the key has no value. -/
theorem forall_getOr_eq_ok_iff :
    (∀ default, c.getOr kind key default = .ok default) ↔ c.contains key = false := by
  rw [contains]
  cases value : c.value? key with
  | none => simp [getOr_eq, value]
  | some v =>
    refine ⟨fun always => ?_, nofun⟩
    obtain ⟨a, b, different⟩ := kind.exists_ne
    have first := always a
    have second := always b
    rw [getOr_eq, value] at first second
    exact absurd (Except.ok.inj (first.symm.trans second)) different

end Config

/-! ## Sections -/

namespace NamingConfig

/-- The accessor style is read as some style: as the one that the value of its key names if it has
any, and else as that of fields. -/
def ReadsStyle (c : Config) (style : AccessorStyle) : Prop :=
  match c.value? "svcgen.naming.accessor_style" with
  | none => style = .field
  | some v => ∃ name, v.convert .string "svcgen.naming.accessor_style" = .ok name ∧
    AccessorStyle.ofText name = .ok style

theorem styleOf_eq_ok_iff {c : Config} {style : AccessorStyle} :
    styleOf c = .ok style ↔ ReadsStyle c style := by
  have place : path ++ ".accessor_style" = "svcgen.naming.accessor_style" := rfl
  rw [styleOf, ReadsStyle, place, Config.get]
  cases c.value? "svcgen.naming.accessor_style" with
  | none => exact ⟨fun same => (Except.ok.inj same).symm, fun same => congrArg Except.ok same.symm⟩
  | some v =>
    dsimp only
    cases converted : v.convert .string "svcgen.naming.accessor_style" with
    | ok name => simp
    | error e =>
      cases e with
      | notFound missing => exact absurd converted (v.convert_ne_notFound _ _ missing)
      | _ => simp

/-- The naming conventions are read property by property. -/
theorem ofConfig_eq_ok_iff {c : Config} {n : NamingConfig} :
    ofConfig c = .ok n ↔
      c.Reads .string "svcgen.naming.class_prefix" "" n.classPrefix ∧
      c.Reads .string "svcgen.naming.service_suffix" "Service" n.serviceSuffix ∧
      c.Reads .string "svcgen.naming.repository_suffix" "Repository" n.repositorySuffix ∧
      ReadsStyle c n.accessorStyle := by
  simp only [ofConfig, Outcome.bind_eq_ok_iff, Outcome.pure_eq_ok_iff, styleOf_eq_ok_iff]
  constructor
  · rintro ⟨style, styled, first, one, second, two, third, three, rfl⟩
    exact ⟨Config.getOr_eq_ok_iff.1 one, Config.getOr_eq_ok_iff.1 two,
      Config.getOr_eq_ok_iff.1 three, styled⟩
  · rintro ⟨one, two, three, styled⟩
    exact ⟨_, styled, _, Config.getOr_eq_ok_iff.2 one, _, Config.getOr_eq_ok_iff.2 two, _,
      Config.getOr_eq_ok_iff.2 three, rfl⟩

end NamingConfig

/-- The options of rendering are read property by property. -/
theorem RenderOptions.ofConfig_eq_ok_iff {c : Config} {o : RenderOptions} :
    ofConfig c = .ok o ↔
      c.Reads (.list .string) "svcgen.render.imports" [] o.imports ∧
      c.Reads .bool "svcgen.render.bean_wiring" false o.beanWiring := by
  simp only [ofConfig, Outcome.bind_eq_ok_iff, Outcome.pure_eq_ok_iff]
  constructor
  · rintro ⟨imports, one, wiring, two, rfl⟩
    exact ⟨Config.getOr_eq_ok_iff.1 one, Config.getOr_eq_ok_iff.1 two⟩
  · rintro ⟨one, two⟩
    exact ⟨_, Config.getOr_eq_ok_iff.2 one, _, Config.getOr_eq_ok_iff.2 two, rfl⟩

/-- Reading a value as a type succeeds, or the value is of a wrong type: then the error names the
type at the bottom, and the key with the indices of the first element that is not of that type.
Where there may be a default, it is read iff the key has no value. The same is true of every
property of the two sections: a section is read iff each of its properties is, as its own value if
its key has one, and else as its default. -/
theorem typedRead_outcome :
    (∀ (kind : Kind) (v : ConfigValue) (key : String),
      match ConfigValue.firstOther? kind v with
      | none => ∃ x, v.convert kind key = .ok x
      | some e => v.convert kind key =
        .error (.typeMismatch (key ++ ConfigValue.brackets e.indices) kind.bottom)) ∧
    (∀ (c : Config) (kind : Kind) (key : String),
      (∀ default, c.getOr kind key default =
        match c.value? key with
        | none => .ok default
        | some v => v.convert kind key) ∧
      ((∀ default, c.getOr kind key default = .ok default) ↔ c.contains key = false)) ∧
    (∀ (c : Config) (n : NamingConfig), NamingConfig.ofConfig c = .ok n ↔
      c.Reads .string "svcgen.naming.class_prefix" "" n.classPrefix ∧
      c.Reads .string "svcgen.naming.service_suffix" "Service" n.serviceSuffix ∧
      c.Reads .string "svcgen.naming.repository_suffix" "Repository" n.repositorySuffix ∧
      NamingConfig.ReadsStyle c n.accessorStyle) ∧
    ∀ (c : Config) (o : RenderOptions), RenderOptions.ofConfig c = .ok o ↔
      c.Reads (.list .string) "svcgen.render.imports" [] o.imports ∧
      c.Reads .bool "svcgen.render.bean_wiring" false o.beanWiring :=
  ⟨ConfigValue.convert_ends,
    fun c kind key => ⟨c.getOr_eq kind key, Config.forall_getOr_eq_ok_iff⟩,
    fun _ _ => NamingConfig.ofConfig_eq_ok_iff, fun _ _ => RenderOptions.ofConfig_eq_ok_iff⟩

end CrudForge
