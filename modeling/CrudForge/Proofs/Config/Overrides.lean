import Mathlib.Data.Bool.AllAny
import Mathlib.Data.List.Chain
import Mathlib.Data.List.Forall2
import Mathlib.Data.List.Nodup
import CrudForge.Proofs.Config.Reading
import CrudForge.Proofs.Config.Variables
import CrudForge.Proofs.Text.Split

/-!
# Sections from the environment

Every property has a variable that stands for its key (`keyOf?_environmentVariable`), and a text
that is set so hides what the key had before, whatever that was. Reading the text gives the value
back: a name is a text as it is, an accessor style may be spelled in any letter case, and a list is
read off between commas (`parts_intercalate`). So a section that is written into the environment is
the section that is read (`read_overlay`).
-/

namespace CrudForge

/-! ## Texts of values -/

namespace Text

/-- A text spells a word, in any letter case. -/
def Spells (s word : String) : Prop :=
  s.toList.map Char.toLower = word.toList

theorem toNat_toLower_le {c : Char} (small : c.toLower.toNat < 128) : c.toNat < 128 := by
  by_contra large
  have same : c.toLower = c := dif_neg fun upper =>
    large (Nat.lt_of_le_of_lt upper.2 (by decide))
  rw [same] at small
  exact large small

theorem lowerFrom_ascii {seen cs : List Char} (ascii : ∀ c ∈ cs, c.toNat < 128) :
    Case.lowerFrom seen cs = cs.map Char.toLower := by
  induction cs generalizing seen with
  | nil => rfl
  | cons c cs ih =>
    obtain ⟨small, rest⟩ := List.forall_mem_cons.1 ascii
    have other : c ≠ 'Σ' := by
      rintro rfl
      exact absurd small (by decide)
    rw [Case.lowerFrom, if_neg other, lowerChar_ascii small, ih rest]
    rfl

theorem upper_ascii {s : String} (ascii : ∀ c ∈ s.toList, c.toNat < 128) :
    upper s = String.ofList (s.toList.map Char.toUpper) := by
  rw [upper, List.map_eq_flatMap]
  refine congrArg String.ofList (List.flatMap_congr fun c mem => ?_)
  rw [upperChar, if_pos (ascii c mem)]

/-- Letter case does not matter for an ASCII word. -/
theorem lower_of_spells {s word : String} (ascii : ∀ c ∈ word.toList, c.toNat < 128)
    (spells : Spells s word) : lower s = word := by
  have small : ∀ c ∈ s.toList, c.toNat < 128 := fun c mem =>
    toNat_toLower_le (ascii _ (spells ▸ List.mem_map_of_mem mem))
  rw [lower, lowerFrom_ascii small, spells, String.ofList_toList]

end Text

namespace ConfigValue

theorem trim_of_forall₂_padded {texts pieces : List String} (items : ∀ s ∈ texts, Text.Item s)
    (padded : List.Forall₂ Text.Padded texts pieces) :
    pieces.map Text.trim = texts ∧ ∀ piece ∈ pieces, ',' ∉ piece.toList := by
  induction padded with
  | nil => exact ⟨rfl, nofun⟩
  | cons around _ ih =>
    obtain ⟨item, items⟩ := List.forall_mem_cons.1 items
    obtain ⟨trimmed, free⟩ := ih items
    rw [List.map_cons, trimmed, around.trim, Text.trim_of_item item]
    exact ⟨rfl, List.forall_mem_cons.2 ⟨around.comma item.comma, free⟩⟩

/-- Texts that are joined by commas are the parts of the text that they make, also if there are
blanks around some of them. -/
theorem parts_intercalate {texts pieces : List String} (items : ∀ s ∈ texts, Text.Item s)
    (padded : List.Forall₂ Text.Padded texts pieces) :
    parts (",".intercalate pieces) = texts := by
  obtain ⟨trimmed, free⟩ := trim_of_forall₂_padded items padded
  by_cases none : pieces = []
  · rw [none, List.map_nil] at trimmed
    rw [none, ← trimmed]
    rfl
  · have comma : ",".toList = [','] := rfl
    rw [parts, Text.split_intercalate_of_notMem comma free none, trimmed, List.filter_eq_self]
    exact fun s mem => decide_eq_true (items s mem).nonempty

theorem convert_intercalate {texts : List String} (items : ∀ s ∈ texts, Text.Item s)
    (key : String) :
    convert (.list .string) (string (",".intercalate texts)) key = .ok texts := by
  have same : List.Forall₂ Text.Padded texts texts := List.forall₂_same.2 fun s _ => .refl
  rw [convert, parts_intercalate items same]
  exact convertItems_base_eq_ok_iff.2
    (List.forall₂_map_left_iff.2 (List.forall₂_same.2 fun _ _ => rfl))

end ConfigValue

/-! ## Variables of properties -/

/-- A key of which nothing is lost in the name of a variable: it has no capital letters, and behind
an underscore there is neither another one nor a dot. -/
structure PlainKey (key : String) : Prop where
  start : Environment.keyStart.toList <+: key.toList
  small : ∀ c ∈ key.toList, c.toNat < 128 ∧ c.toUpper.toLower = c
  apart : key.toList.IsChain fun c d => c = '_' → d ≠ '_' ∧ d ≠ '.'

/-- The characters of a key are looked at, not all characters there are. -/
instance (key : String) : Decidable (PlainKey key) :=
  decidable_of_iff
    (Environment.keyStart.toList <+: key.toList ∧
      (key.toList.all fun c => c.toNat < 128 ∧ c.toUpper.toLower = c) = true ∧
      key.toList.IsChain fun c d => c = '_' → d ≠ '_' ∧ d ≠ '.')
    ⟨fun ⟨start, small, apart⟩ => ⟨start, List.all_iff_forall_prop.1 small, apart⟩,
      fun plain => ⟨plain.start, List.all_iff_forall_prop.2 plain.small, plain.apart⟩⟩

namespace Environment

theorem dotted_cons {c : Char} {cs : List Char} (other : c = '_' → cs.head? ≠ some '_') :
    dotted (c :: cs) = c :: dotted cs := by
  rw [dotted]
  rintro rest rfl rfl
  exact other rfl rfl

/-- Dots are written as two underscores, and are read back as dots if no other underscores can be
taken for them. -/
theorem dotted_undotted {cs : List Char}
    (apart : cs.IsChain fun c d => c = '_' → d ≠ '_' ∧ d ≠ '.') :
    dotted (Property.undotted cs) = cs := by
  induction cs with
  | nil => rfl
  | cons c cs ih =>
    rw [Property.undotted]
    by_cases dot : c = '.'
    · rw [if_pos dot, dot]
      exact congrArg _ (ih apart.tail)
    · rw [if_neg dot, List.singleton_append, dotted_cons, ih apart.tail]
      intro underscore
      cases cs with
      | nil => exact nofun
      | cons d cs =>
        obtain ⟨one, two⟩ := (List.isChain_cons_cons.1 apart).1 underscore
        rw [Property.undotted, if_neg two]
        exact fun same => one (Option.some.inj same)

theorem undotted_append (xs ys : List Char) :
    Property.undotted (xs ++ ys) = Property.undotted xs ++ Property.undotted ys := by
  induction xs with
  | nil => rfl
  | cons x xs ih =>
    rw [List.cons_append, Property.undotted, ih, Property.undotted, List.append_assoc]

theorem forall_mem_undotted {P : Char → Prop} {cs : List Char} (underscore : P '_')
    (all : ∀ c ∈ cs, P c) : ∀ c ∈ Property.undotted cs, P c := by
  induction cs with
  | nil => exact nofun
  | cons c cs ih =>
    obtain ⟨first, rest⟩ := List.forall_mem_cons.1 all
    rw [Property.undotted, List.forall_mem_append]
    refine ⟨?_, ih rest⟩
    split
    · simpa using underscore
    · simpa using first

/-- The name of the variable of a property has its key in capitals behind the common start. -/
theorem environmentVariable_eq {p : Property} {path : String} {rest : List Char}
    (split : keyStart.toList ++ rest = (p.fullKey path).toList)
    (small : ∀ c ∈ (p.fullKey path).toList, c.toNat < 128) :
    p.environmentVariable path =
      "SVCGEN__" ++ String.ofList ((Property.undotted rest).map Char.toUpper) := by
  have ascii : ∀ c ∈ (String.ofList (Property.undotted (p.fullKey path).toList)).toList,
      c.toNat < 128 := by
    rw [String.toList_ofList]
    exact forall_mem_undotted (by decide) small
  rw [Property.environmentVariable, Text.upper_ascii ascii, String.toList_ofList, ← split,
    undotted_append, List.map_append, String.ofList_append]
  rfl

/-- In lower case the capitals of small letters are these letters again. -/
theorem lower_map_toUpper {cs : List Char}
    (small : ∀ c ∈ cs, c.toNat < 128 ∧ c.toUpper.toLower = c) :
    Text.lower (String.ofList (cs.map Char.toUpper)) = String.ofList cs := by
  have ascii : ∀ c ∈ (String.ofList cs).toList, c.toNat < 128 := by
    rw [String.toList_ofList]
    exact fun c mem => (small c mem).1
  have spells : Text.Spells (String.ofList (cs.map Char.toUpper)) (String.ofList cs) := by
    rw [Text.Spells, String.toList_ofList, String.toList_ofList, List.map_map]
    exact (List.map_congr_left fun c mem => (small c mem).2).trans (List.map_id' _)
  exact Text.lower_of_spells ascii spells

/-- The variable for a property stands for the key of the property. -/
theorem keyOf?_environmentVariable {p : Property} {path : String}
    (plain : PlainKey (p.fullKey path)) :
    keyOf? (p.environmentVariable path) = some (p.fullKey path) := by
  obtain ⟨⟨rest, split⟩, small, apart⟩ := plain
  have behind := forall_mem_undotted (P := fun c => c.toNat < 128 ∧ c.toUpper.toLower = c)
    (by decide) fun c mem => small c (split ▸ List.mem_append_right _ mem)
  have start : p.fullKey path = "svcgen." ++ String.ofList rest := by
    rw [← String.toList_inj, String.toList_append, ← split]
    exact congrArg (keyStart.toList ++ ·) String.toList_ofList.symm
  rw [keyOf?_eq_some_iff]
  refine ⟨_, environmentVariable_eq split fun c mem => (small c mem).1, ?_⟩
  rw [← split] at apart
  rw [lower_map_toUpper behind, String.toList_ofList, dotted_undotted apart.right_of_append, start]

/-! ## Texts that are set -/

section Set

variable {env overrides others : Environment} {name value key : String}

/-- A variable that is set counts wherever it stands, if no other one is for its key. -/
theorem last?_eq_some_of_perm (order : env.Perm (overrides ++ others))
    (distinct : (overrides.map fun entry => keyOf? entry.1).Nodup)
    (foreign : ∀ entry ∈ others, ¬ StandsFor entry.1 key) (mem : (name, value) ∈ overrides)
    (stands : keyOf? name = some key) : env.last? key = some value := by
  rw [last?]
  cases found : env.reverse.find? fun entry => StandsFor entry.1 key with
  | none =>
    have known : (name, value) ∈ env.reverse :=
      List.mem_reverse.2 (order.mem_iff.2 (List.mem_append_left _ mem))
    refine absurd (List.find?_eq_none.1 found _ known) (not_not_intro ?_)
    exact decide_eq_true (keyOf?_eq_some_iff.1 stands)
  | some entry =>
    have same : StandsFor entry.1 key := by simpa using List.find?_some found
    have known : entry ∈ env := List.mem_reverse.1 (List.mem_of_find?_eq_some found)
    rcases List.mem_append.1 (order.mem_iff.1 known) with own | other
    · have keys : keyOf? entry.1 = keyOf? name := (keyOf?_eq_some_iff.2 same).trans stands.symm
      rw [List.inj_on_of_nodup_map distinct own mem keys]
      rfl
    · exact absurd same (foreign entry other)

/-- Whatever a configuration has for a key, a text that is set is its value. -/
theorem value?_overlay_eq_some (base : Config) (set : env.last? key = some value) :
    Config.value? { base with entries := env.overlay base.entries } key = some (.string value) := by
  rw [Config.value?, lookup_overlay, set]
  rfl

end Set

end Environment

/-! ## Sections -/

/-- The variables of some properties with a text for each. -/
def Environment.settings (path : String) (properties : List Property) (texts : List String) :
    Environment :=
  (properties.zip texts).map fun entry => (entry.1.environmentVariable path, entry.2)

/-- In a configuration, some properties have these texts. -/
def Config.Holds (c : Config) (path : String) (properties : List Property)
    (texts : List String) : Prop :=
  List.Forall₂ (fun p text => c.value? (p.fullKey path) = some (.string text)) properties texts

theorem Config.reads_of_value {c : Config} {kind : Kind} {key : String} {v : ConfigValue}
    {default a : kind.Carrier} (value : c.value? key = some v) (read : v.convert kind key = .ok a) :
    c.Reads kind key default a := by
  rw [Config.Reads, value]
  exact read

namespace NamingConfig

/-- Naming conventions as texts, where the accessor style is spelled in some way. -/
def texts (n : NamingConfig) (style : String) : List String :=
  [n.classPrefix, n.serviceSuffix, n.repositorySuffix, style]

theorem plainKey_fullKey : ∀ p ∈ properties, PlainKey (p.fullKey path) := by
  decide +kernel

theorem ofText_of_spells {style : AccessorStyle} {s : String} (spells : Text.Spells s style.text) :
    AccessorStyle.ofText s = .ok style := by
  have ascii : ∀ c ∈ style.text.toList, c.toNat < 128 :=
    List.all_iff_forall_prop.1 (by cases style <;> decide)
  rw [AccessorStyle.ofText, Text.lower_of_spells ascii spells]
  cases style <;> decide

theorem ofConfig_of_holds {c : Config} {n : NamingConfig} {style : String}
    (spells : Text.Spells style n.accessorStyle.text)
    (holds : c.Holds path properties (n.texts style)) : ofConfig c = .ok n := by
  rw [Config.Holds, properties, texts] at holds
  simp only [List.forall₂_cons] at holds
  obtain ⟨classPrefix, serviceSuffix, repositorySuffix, accessorStyle, -⟩ := holds
  have styled : ReadsStyle c n.accessorStyle := by
    have found : c.value? "svcgen.naming.accessor_style" = some (.string style) := accessorStyle
    rw [ReadsStyle, found]
    exact ⟨style, rfl, ofText_of_spells spells⟩
  exact ofConfig_eq_ok_iff.2 ⟨Config.reads_of_value classPrefix rfl,
    Config.reads_of_value serviceSuffix rfl, Config.reads_of_value repositorySuffix rfl, styled⟩

end NamingConfig

namespace RenderOptions

/-- Options of rendering as texts. -/
def texts (o : RenderOptions) : List String :=
  [",".intercalate o.imports, if o.beanWiring then "true" else "false"]

theorem plainKey_fullKey : ∀ p ∈ properties, PlainKey (p.fullKey path) := by
  decide +kernel

theorem convert_bool (b : Bool) (key : String) :
    (ConfigValue.string (if b then "true" else "false")).convert .bool key = .ok b := by
  cases b <;> rfl

theorem ofConfig_of_holds {c : Config} {o : RenderOptions}
    (items : ∀ path ∈ o.imports, Text.Item path)
    (holds : c.Holds path properties o.texts) : ofConfig c = .ok o := by
  rw [Config.Holds, properties, texts] at holds
  simp only [List.forall₂_cons] at holds
  obtain ⟨imports, beanWiring, -⟩ := holds
  exact ofConfig_eq_ok_iff.2
    ⟨Config.reads_of_value imports (ConfigValue.convert_intercalate items _),
      Config.reads_of_value beanWiring (convert_bool _ _)⟩

end RenderOptions

namespace Environment

/-- The two sections, written into the environment. -/
def sections (n : NamingConfig) (style : String) (o : RenderOptions) : Environment :=
  settings NamingConfig.path NamingConfig.properties (n.texts style) ++
    settings RenderOptions.path RenderOptions.properties o.texts

/-- The keys of the two sections. -/
def sectionKeys : List String :=
  (NamingConfig.properties.map fun p => p.fullKey NamingConfig.path) ++
    RenderOptions.properties.map fun p => p.fullKey RenderOptions.path

theorem keyOf?_settings {path : String} {properties : List Property} {texts : List String}
    (length : properties.length = texts.length)
    (plain : ∀ p ∈ properties, PlainKey (p.fullKey path)) :
    ((settings path properties texts).map fun entry => keyOf? entry.1) =
      (properties.map fun p => p.fullKey path).map some := by
  have names : (properties.zip texts).map (·.1) = properties :=
    List.map_fst_zip (Nat.le_of_eq length)
  calc (settings path properties texts).map (fun entry => keyOf? entry.1)
      = (properties.zip texts).map fun entry => keyOf? (entry.1.environmentVariable path) := by
        rw [settings, List.map_map, Function.comp_def]
    _ = (properties.zip texts).map fun entry => some (entry.1.fullKey path) :=
        List.map_congr_left fun entry mem =>
          keyOf?_environmentVariable (plain entry.1 (List.of_mem_zip mem).1)
    _ = ((properties.zip texts).map (·.1)).map fun p => some (p.fullKey path) := by
        rw [List.map_map, Function.comp_def]
    _ = (properties.map fun p => p.fullKey path).map some := by
        rw [names, List.map_map, Function.comp_def]

/-- No two variables of the sections are for one key. -/
theorem nodup_keyOf?_sections (n : NamingConfig) (style : String) (o : RenderOptions) :
    ((sections n style o).map fun entry => keyOf? entry.1).Nodup := by
  have keys : sectionKeys.Nodup := by decide +kernel
  rw [sections, List.map_append, keyOf?_settings rfl NamingConfig.plainKey_fullKey,
    keyOf?_settings rfl RenderOptions.plainKey_fullKey, ← List.map_append]
  exact keys.map fun _ _ => Option.some.inj

theorem holds_overlay {path : String} {properties : List Property} {texts : List String}
    {env overrides others : Environment} (base : Config)
    (length : properties.length = texts.length)
    (plain : ∀ p ∈ properties, PlainKey (p.fullKey path))
    (order : env.Perm (overrides ++ others))
    (distinct : (overrides.map fun entry => keyOf? entry.1).Nodup)
    (among : settings path properties texts ⊆ overrides)
    (foreign : ∀ entry ∈ others, ∀ p ∈ properties, ¬ StandsFor entry.1 (p.fullKey path)) :
    Config.Holds { base with entries := env.overlay base.entries } path properties texts := by
  refine List.forall₂_iff_zip.2 ⟨length, fun {p text} mem => value?_overlay_eq_some base ?_⟩
  have known : p ∈ properties := (List.of_mem_zip mem).1
  exact last?_eq_some_of_perm order distinct (fun entry other => foreign entry other p known)
    (among (List.mem_map_of_mem mem)) (keyOf?_environmentVariable (plain p known))

variable {n : NamingConfig} {style : String} {o : RenderOptions} {env others : Environment}

/-- If the variables of the two sections are set to the texts of some naming conventions and
options, in any order and among any others that are for other keys, then those conventions and
options are read, whatever the configuration had for their keys before. -/
theorem read_overlay (base : Config) (spells : Text.Spells style n.accessorStyle.text)
    (items : ∀ path ∈ o.imports, Text.Item path)
    (order : env.Perm (sections n style o ++ others))
    (foreign : ∀ entry ∈ others, ∀ key ∈ sectionKeys, ¬ StandsFor entry.1 key) :
    NamingConfig.configSection.read { base with entries := env.overlay base.entries } = .ok n ∧
    RenderOptions.configSection.read { base with entries := env.overlay base.entries } =
      .ok o := by
  have distinct := nodup_keyOf?_sections n style o
  constructor
  · refine NamingConfig.ofConfig_of_holds spells (holds_overlay base rfl
      NamingConfig.plainKey_fullKey order distinct (List.subset_append_left _ _) ?_)
    exact fun entry other p mem =>
      foreign entry other _ (List.mem_append_left _ (List.mem_map_of_mem mem))
  · refine RenderOptions.ofConfig_of_holds items (holds_overlay base rfl
      RenderOptions.plainKey_fullKey order distinct (List.subset_append_right _ _) ?_)
    exact fun entry other p mem =>
      foreign entry other _ (List.mem_append_right _ (List.mem_map_of_mem mem))

/-- Naming conventions with an accessor style other than the standard one. -/
def beanNaming : NamingConfig :=
  { classPrefix := " a,b ", serviceSuffix := "", accessorStyle := .bean }

/-- Options with two imports. -/
def wiredOptions : RenderOptions := { imports := ["a::B", "c d"], beanWiring := true }

/-- A configuration with values of wrong types under the keys of the sections. -/
def mistypedConfig : Config where
  entries :=
    [("svcgen.naming.class_prefix", .null), ("svcgen.naming.accessor_style", .list []),
      ("svcgen.render.bean_wiring", .integer 2)]
  profile := "dev"

/-- The variables of the sections behind others, the last one first. -/
def beanEnvironment : Environment :=
  (sections beanNaming "bEaN" wiredOptions ++
    [("HOME", "/"), ("SVCGEN__NAMING__STYLE", "field")]).reverse

theorem read_overlay_beanNaming :
    NamingConfig.configSection.read
        { mistypedConfig with entries := beanEnvironment.overlay mistypedConfig.entries } =
        .ok beanNaming ∧
      RenderOptions.configSection.read
        { mistypedConfig with entries := beanEnvironment.overlay mistypedConfig.entries } =
        .ok wiredOptions := by
  have spells : Text.Spells "bEaN" beanNaming.accessorStyle.text := by
    unfold Text.Spells
    decide
  have items : ∀ path ∈ wiredOptions.imports, Text.Item path := by
    decide +kernel
  have foreign : ∀ entry ∈ [("HOME", "/"), ("SVCGEN__NAMING__STYLE", "field")],
      ∀ key ∈ sectionKeys, ¬ StandsFor entry.1 key := by
    decide +kernel
  exact read_overlay mistypedConfig spells items (List.reverse_perm _) foreign

end Environment
end CrudForge
