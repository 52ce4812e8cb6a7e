import Mathlib.Data.List.Nodup
import Mathlib.Data.List.Pairwise
import CrudForge.Proofs.Config.Layers
import CrudForge.Proofs.Text.Split

/-!
# Paths of a YAML value

Without its mappings, a YAML value is a row of leaves, each at the end of a path of keys
(`leaves`). The value of a key of the configuration is that of the last leaf whose path is the key
(`lookup_flatten`). Where no key of a mapping could be taken for a path (`Plain`), the path of a
leaf is neither that of another one nor the beginning of it (`pairwise_apart`), and it is read off
the key at the dots (`split_key`): so no leaf hides another one (`lookup_flatten_path`).
-/

namespace CrudForge.Config

/-! ## Leaves -/

/-- A part of a YAML value that is no mapping, and the segments of keys on the way to it. -/
structure Leaf where
  path : List String
  value : Yaml.Value

namespace Leaf

/-- The leaf as it is found in a mapping, behind a segment. -/
def below (segment : String) (leaf : Leaf) : Leaf :=
  { leaf with path := segment :: leaf.path }

/-- The key of a leaf: its segments joined by dots, without the empty ones at the front. -/
def key (leaf : Leaf) : String :=
  ".".intercalate (leaf.path.dropWhile (· = ""))

end Leaf

mutual

/-- The leaves of a YAML value, in order. -/
def leaves : Yaml.Value → List Leaf
  | .map entries => leavesOfEntries entries
  | v => [⟨[], v⟩]

/-- The leaves of the entries of a YAML mapping, in order. -/
def leavesOfEntries : List (Yaml.Value × Yaml.Value) → List Leaf
  | [] => []
  | (k, v) :: rest => (leaves v).map (Leaf.below (segment k)) ++ leavesOfEntries rest

end

theorem leaves_of_ne_map {v : Yaml.Value} (other : ∀ entries, v ≠ .map entries) :
    leaves v = [⟨[], v⟩] := by
  cases v with
  | map entries => exact absurd rfl (other entries)
  | _ => rfl

theorem leaves_map (entries : List (Yaml.Value × Yaml.Value)) :
    leaves (.map entries) =
      entries.flatMap fun entry => (leaves entry.2).map (Leaf.below (segment entry.1)) := by
  rw [leaves]
  induction entries with
  | nil => rfl
  | cons entry rest ih => rw [leavesOfEntries, ih, List.flatMap_cons]

/-! ## Entries -/

/-- The entry of a leaf of a value that stands under a key. -/
def Leaf.entry? (key : String) (leaf : Leaf) : Option (String × ConfigValue) :=
  let place := leaf.path.foldl childKey key
  if place = "" then none else some (place, .ofYaml leaf.value)

mutual

/-- The entries of a value are those of its leaves, the last one first. -/
theorem flatten_eq_leaves (key : String) (v : Yaml.Value) :
    flatten key v [] = ((leaves v).filterMap (Leaf.entry? key)).reverse := by
  cases v with
  | map entries =>
    rw [flatten, leaves]
    exact flattenEntries_eq_leaves key entries
  | _ =>
    by_cases root : key = "" <;> simp [flatten, leaves, Leaf.entry?, root]

theorem flattenEntries_eq_leaves (key : String) (entries : List (Yaml.Value × Yaml.Value)) :
    flattenEntries key entries [] =
      ((leavesOfEntries entries).filterMap (Leaf.entry? key)).reverse := by
  match entries with
  | [] => rfl
  | (k, v) :: rest =>
    have moved : Leaf.entry? key ∘ Leaf.below (segment k) =
        Leaf.entry? (childKey key (segment k)) := rfl
    rw [flattenEntries, leavesOfEntries, flattenEntries_eq_append, flatten_eq_leaves,
      flattenEntries_eq_leaves key rest, List.filterMap_append, List.reverse_append,
      List.filterMap_map, moved]

end

/-! ## Keys -/

theorem intercalate_append_cons (a b : String) (path : List String) :
    ".".intercalate ((a ++ b) :: path) = a ++ ".".intercalate (b :: path) := by
  cases path with
  | nil => rw [String.intercalate_singleton, String.intercalate_singleton]
  | cons s path =>
    rw [String.intercalate_cons_cons, String.intercalate_cons_cons, String.append_assoc,
      String.append_assoc, String.append_assoc]

/-- Behind a key that is not empty, every segment stands behind a dot. -/
theorem foldl_childKey {key : String} (nonempty : key ≠ "") (path : List String) :
    path.foldl childKey key = ".".intercalate (key :: path) := by
  induction path generalizing key with
  | nil => rw [List.foldl_nil, String.intercalate_singleton]
  | cons s path ih =>
    have longer : key ++ "." ++ s ≠ "" := fun empty => by simp at empty
    rw [List.foldl_cons, childKey, if_neg nonempty, ih longer, intercalate_append_cons,
      String.intercalate_cons_cons]

/-- The empty key tells that no segment has been found yet, and so empty ones at the front do not
count. -/
theorem foldl_childKey_root (leaf : Leaf) : leaf.path.foldl childKey "" = leaf.key := by
  obtain ⟨path, value⟩ := leaf
  rw [Leaf.key]
  induction path with
  | nil => rfl
  | cons s path ih =>
    rw [List.foldl_cons, childKey, if_pos rfl, List.dropWhile_cons]
    by_cases empty : s = ""
    · rw [if_pos (decide_eq_true empty), empty]
      exact ih
    · rw [if_neg (by simpa using empty), foldl_childKey empty]

theorem entry?_root (leaf : Leaf) :
    leaf.entry? "" = if leaf.key = "" then none else some (leaf.key, .ofYaml leaf.value) := by
  rw [Leaf.entry?, foldl_childKey_root]

/-- The last leaf of a value that has a key. The empty text is no key. -/
def lastAt? (v : Yaml.Value) (key : String) : Option Leaf :=
  (leaves v).reverse.find? fun leaf => leaf.key = key ∧ key ≠ ""

theorem lookup_filterMap_entry? (ls : List Leaf) (key : String) :
    (ls.filterMap (Leaf.entry? "")).lookup key =
      (ls.find? fun leaf => leaf.key = key ∧ key ≠ "").map fun leaf => .ofYaml leaf.value := by
  induction ls with
  | nil => rfl
  | cons leaf ls ih =>
    rw [List.filterMap_cons, entry?_root, List.find?_cons]
    by_cases root : leaf.key = ""
    · have other : ¬ (leaf.key = key ∧ key ≠ "") := fun ⟨same, more⟩ => more (same ▸ root)
      rw [if_pos root, decide_eq_false other]
      exact ih
    · rw [if_neg root]
      by_cases same : leaf.key = key
      · subst same
        rw [List.lookup_cons_self, decide_eq_true ⟨rfl, root⟩]
        rfl
      · have other : ¬ (leaf.key = key ∧ key ≠ "") := fun both => same both.1
        rw [decide_eq_false other, List.lookup_cons, beq_eq_false_iff_ne.2 (Ne.symm same)]
        exact ih

/-- Under a key there is the value of the last leaf that has it, or else what was there before. -/
theorem lookup_flatten (v : Yaml.Value) (es : ConfigEntries) (key : String) :
    (flatten "" v es).lookup key =
      ((lastAt? v key).map fun leaf => .ofYaml leaf.value).or (es.lookup key) := by
  rw [flatten_eq_append, List.lookup_append, flatten_eq_leaves, ← List.filterMap_reverse,
    lookup_filterMap_entry?, lastAt?]

/-! ## Plain keys -/

/-- A key of a mapping that can be told from a path: a text that is not empty and has no dot. -/
def PlainSegment (s : String) : Prop :=
  s ≠ "" ∧ '.' ∉ s.toList

/-- A YAML value in whose mappings all keys are plain and no key comes twice. -/
inductive Plain : Yaml.Value → Prop
  | leaf {v : Yaml.Value} : (∀ entries, v ≠ .map entries) → Plain v
  | map {entries : List (Yaml.Value × Yaml.Value)} :
    (∀ entry ∈ entries, ∃ s, entry.1 = .str s ∧ PlainSegment s) →
    (entries.map (·.1)).Nodup → (∀ entry ∈ entries, Plain entry.2) → Plain (.map entries)

section Plain

variable {v : Yaml.Value} {p q : List String}

theorem forall_mem_path (plain : Plain v) :
    ∀ leaf ∈ leaves v, ∀ s ∈ leaf.path, PlainSegment s := by
  induction plain with
  | leaf other =>
    rw [leaves_of_ne_map other]
    exact List.forall_mem_singleton.2 nofun
  | map segments _ _ ih =>
    rw [leaves_map]
    intro leaf mem
    obtain ⟨entry, among, mem⟩ := List.mem_flatMap.1 mem
    obtain ⟨inner, known, rfl⟩ := List.mem_map.1 mem
    obtain ⟨s, text, plain⟩ := segments entry among
    have same : segment entry.1 = s := by
      rw [text]
      rfl
    exact List.forall_mem_cons.2 ⟨same ▸ plain, ih entry among inner known⟩

/-- On the way to another leaf there is no leaf. -/
theorem pairwise_apart (plain : Plain v) :
    (leaves v).Pairwise fun a b => ¬ a.path <+: b.path ∧ ¬ b.path <+: a.path := by
  induction plain with
  | leaf other =>
    rw [leaves_of_ne_map other]
    exact List.pairwise_singleton _ _
  | map segments distinct _ ih =>
    rw [leaves_map, List.pairwise_flatMap]
    constructor
    · -- Two leaves of one entry stand behind the same segment.
      refine fun entry mem => List.pairwise_map.2 ((ih entry mem).imp fun {a b} apart => ?_)
      exact ⟨fun front => apart.1 (List.cons_prefix_cons.1 front).2,
        fun front => apart.2 (List.cons_prefix_cons.1 front).2⟩
    · -- Two leaves of different entries differ in the first segment.
      refine (List.pairwise_map.1 distinct).imp_of_mem fun {e f} memE memF different => ?_
      obtain ⟨s, textE, -⟩ := segments e memE
      obtain ⟨t, textF, -⟩ := segments f memF
      have apart : segment e.1 ≠ segment f.1 := by
        rw [textE, textF] at different ⊢
        exact fun same => different (congrArg Yaml.Value.str same)
      intro a memA b memB
      obtain ⟨a, -, rfl⟩ := List.mem_map.1 memA
      obtain ⟨b, -, rfl⟩ := List.mem_map.1 memB
      exact ⟨fun front => apart (List.cons_prefix_cons.1 front).1,
        fun front => apart (List.cons_prefix_cons.1 front).1.symm⟩

theorem eq_of_isPrefix (plain : Plain v) {a b : Leaf} (memA : a ∈ leaves v) (memB : b ∈ leaves v)
    (front : a.path <+: b.path) : a.path = b.path := by
  have symmetric : Std.Symm fun a b : Leaf =>
      a.path = b.path ∨ ¬ a.path <+: b.path ∧ ¬ b.path <+: a.path :=
    ⟨fun _ _ apart => apart.imp Eq.symm And.symm⟩
  have either : (leaves v).Pairwise fun a b =>
      a.path = b.path ∨ ¬ a.path <+: b.path ∧ ¬ b.path <+: a.path :=
    (pairwise_apart plain).imp fun apart => .inr apart
  exact (either.forall_of_forall (fun _ _ => .inl rfl) memA memB).resolve_right
    fun apart => apart.1 front

/-! ## Reading paths off keys -/

theorem split_key (plain : ∀ s ∈ p, PlainSegment s) (nonempty : p ≠ []) :
    Text.split '.' (".".intercalate p) = p :=
  Text.split_intercalate_of_notMem rfl (fun s mem => (plain s mem).2) nonempty

theorem intercalate_ne_empty (plain : ∀ s ∈ p, PlainSegment s) (nonempty : p ≠ []) :
    ".".intercalate p ≠ "" := by
  intro empty
  have pieces := split_key plain nonempty
  rw [empty] at pieces
  have first : "" ∈ p := pieces ▸ List.mem_singleton.2 rfl
  exact (plain "" first).1 rfl

theorem intercalate_inj (plainP : ∀ s ∈ p, PlainSegment s) (plainQ : ∀ s ∈ q, PlainSegment s)
    (same : ".".intercalate p = ".".intercalate q) : p = q := by
  by_cases emptyP : p = []
  · by_contra different
    refine intercalate_ne_empty plainQ (fun emptyQ => different (emptyP.trans emptyQ.symm)) ?_
    rw [← same, emptyP, String.intercalate_nil]
  · have nonemptyQ : q ≠ [] := by
      rintro rfl
      exact intercalate_ne_empty plainP emptyP same
    rw [← split_key plainP emptyP, same, split_key plainQ nonemptyQ]

/-- A key with a dot and more text behind it is the key of a longer path. -/
theorem isPrefix_of_intercalate {more : String} (plainP : ∀ s ∈ p, PlainSegment s)
    (plainQ : ∀ s ∈ q, PlainSegment s) (nonemptyP : p ≠ []) (nonemptyQ : q ≠ [])
    (longer : ".".intercalate p = ".".intercalate q ++ "." ++ more) : q <+: p ∧ p ≠ q := by
  have pieces : p = q ++ Text.split '.' more := by
    have dot : ".".toList = ['.'] := rfl
    calc p = Text.split '.' (".".intercalate q ++ "." ++ more) := by
          rw [← longer, split_key plainP nonemptyP]
      _ = Text.split '.' (".".intercalate q) ++ Text.split '.' more := by
          rw [Text.split, String.toList_append, String.toList_append, dot, List.append_assoc,
            List.singleton_append, Text.splitChars_append, List.map_append]
          rfl
      _ = q ++ Text.split '.' more := by rw [split_key plainQ nonemptyQ]
  refine ⟨⟨_, pieces.symm⟩, fun same => ?_⟩
  have none : Text.split '.' more = [] := List.self_eq_append_right.1 (same.symm.trans pieces)
  exact Text.splitChars_ne_nil '.' more.toList (List.map_eq_nil_iff.1 none)

theorem key_eq_intercalate (plain : Plain v) {leaf : Leaf} (mem : leaf ∈ leaves v) :
    leaf.key = ".".intercalate leaf.path := by
  have segments := forall_mem_path plain leaf mem
  rw [Leaf.key]
  cases path : leaf.path with
  | nil => rfl
  | cons s rest =>
    have first : ¬ decide (s = "") = true := by
      simpa using (segments s (path ▸ List.mem_cons_self)).1
    rw [List.dropWhile_cons, if_neg first]

/-! ## Leaves by their keys -/

theorem nodup_keys (plain : Plain v) : ((leaves v).map Leaf.key).Nodup := by
  refine List.pairwise_map.2 ((pairwise_apart plain).imp_of_mem ?_)
  intro a b memA memB apart same
  rw [key_eq_intercalate plain memA, key_eq_intercalate plain memB] at same
  have paths := intercalate_inj (forall_mem_path plain a memA) (forall_mem_path plain b memB) same
  exact apart.1 (paths ▸ List.prefix_rfl)

/-- A leaf in a plain value is the last one with its key, as it is the only one. -/
theorem lastAt?_key (plain : Plain v) {leaf : Leaf} (mem : leaf ∈ leaves v)
    (nonempty : leaf.key ≠ "") : lastAt? v leaf.key = some leaf := by
  rw [lastAt?]
  cases found : (leaves v).reverse.find? fun other => other.key = leaf.key ∧ leaf.key ≠ "" with
  | none =>
    refine absurd (List.find?_eq_none.1 found leaf (List.mem_reverse.2 mem)) (not_not_intro ?_)
    exact decide_eq_true ⟨rfl, nonempty⟩
  | some other =>
    have same : other.key = leaf.key := by simpa [nonempty] using List.find?_some found
    have known : other ∈ leaves v := List.mem_reverse.1 (List.mem_of_find?_eq_some found)
    rw [List.inj_on_of_nodup_map (nodup_keys plain) known mem same]

theorem lookup_flatten_path (plain : Plain v) {leaf : Leaf} (mem : leaf ∈ leaves v)
    (es : ConfigEntries) : (flatten "" v es).lookup (".".intercalate leaf.path) =
      if leaf.path = [] then es.lookup "" else some (.ofYaml leaf.value) := by
  by_cases root : leaf.path = []
  · have none : lastAt? v "" = none := List.find?_eq_none.2 fun other _ => by simp
    rw [if_pos root, root, String.intercalate_nil, lookup_flatten, none]
    rfl
  · have nonempty := intercalate_ne_empty (forall_mem_path plain leaf mem) root
    rw [← key_eq_intercalate plain mem] at nonempty ⊢
    rw [if_neg root, lookup_flatten, lastAt?_key plain mem nonempty]
    rfl

theorem exists_leaf_of_mem_flatten {key : String} (mem : key ∈ (flatten "" v []).map (·.1)) :
    ∃ leaf ∈ leaves v, leaf.key = key ∧ key ≠ "" := by
  obtain ⟨entry, among, rfl⟩ := List.mem_map.1 mem
  rw [flatten_eq_leaves, List.mem_reverse] at among
  obtain ⟨leaf, known, made⟩ := List.mem_filterMap.1 among
  rw [entry?_root] at made
  split at made
  · cases made
  · rename_i nonempty
    cases made
    exact ⟨leaf, known, rfl, nonempty⟩

theorem ne_append_of_mem_flatten (plain : Plain v) {key shorter more : String}
    (mem : key ∈ (flatten "" v []).map (·.1)) (mem' : shorter ∈ (flatten "" v []).map (·.1)) :
    key ≠ shorter ++ "." ++ more := by
  intro longer
  obtain ⟨a, memA, rfl, nonemptyA⟩ := exists_leaf_of_mem_flatten mem
  obtain ⟨b, memB, rfl, nonemptyB⟩ := exists_leaf_of_mem_flatten mem'
  rw [key_eq_intercalate plain memA] at longer nonemptyA
  rw [key_eq_intercalate plain memB] at longer nonemptyB
  have below {leaf : Leaf} (nonempty : ".".intercalate leaf.path ≠ "") : leaf.path ≠ [] := by
    intro root
    rw [root] at nonempty
    exact nonempty String.intercalate_nil
  obtain ⟨front, different⟩ := isPrefix_of_intercalate (forall_mem_path plain a memA)
    (forall_mem_path plain b memB) (below nonemptyA) (below nonemptyB) longer
  exact different (eq_of_isPrefix plain memB memA front).symm

end Plain

/-- A key has the value of the last leaf that it is the key of, or else the one that it had before,
and so no key is lost. If all keys of mappings are plain, then no two leaves have the same key; each
leaf is found under its path, unless it is the whole value and so has an empty path, which is no
key; and no key goes on behind another one and a dot. -/
theorem flatten_keeps (v : Yaml.Value) (es : ConfigEntries) :
    (∀ key, (flatten "" v es).lookup key =
      ((lastAt? v key).map fun leaf => .ofYaml leaf.value).or (es.lookup key)) ∧
    (∀ key, (es.lookup key).isSome → ((flatten "" v es).lookup key).isSome) ∧
    (Plain v →
      ((leaves v).map Leaf.key).Nodup ∧
      (∀ leaf ∈ leaves v, (flatten "" v es).lookup (".".intercalate leaf.path) =
        if leaf.path = [] then es.lookup "" else some (.ofYaml leaf.value)) ∧
      ∀ key ∈ (flatten "" v []).map (·.1), ∀ shorter ∈ (flatten "" v []).map (·.1),
        ∀ more, key ≠ shorter ++ "." ++ more) := by
  refine ⟨lookup_flatten v es, fun key known => ?_, fun plain => ⟨nodup_keys plain, ?_, ?_⟩⟩
  · rw [lookup_flatten, Option.isSome_or, known, Bool.or_true]
  · exact fun leaf mem => lookup_flatten_path plain mem es
  · exact fun key mem shorter mem' more => ne_append_of_mem_flatten plain mem mem'

/-- A value with leaves at several depths, one of which is a list. -/
def nestedValue : Yaml.Value :=
  .map [(.str "a", .map [(.str "b", .int 1), (.str "c", .seq [.null])]), (.str "ab", .bool true)]

theorem plain_nestedValue : Plain nestedValue := by
  have inner : Plain (.map [(.str "b", .int 1), (.str "c", .seq [.null])]) := by
    refine .map ?_ (by simp) ?_
    · simp [PlainSegment]
    · exact List.forall_mem_cons.2 ⟨.leaf nofun, List.forall_mem_singleton.2 (.leaf nofun)⟩
  refine .map ?_ (by simp) ?_
  · simp [PlainSegment]
  · exact List.forall_mem_cons.2 ⟨inner, List.forall_mem_singleton.2 (.leaf nofun)⟩

theorem flatten_keeps_nestedValue :
    (([("x", .null)] : ConfigEntries).lookup "x").isSome ∧
      ((flatten "" nestedValue [("x", .null)]).lookup "x").isSome ∧ Plain nestedValue ∧
      ⟨["a", "c"], .seq [.null]⟩ ∈ leaves nestedValue ∧
      (flatten "" nestedValue [("x", .null)]).lookup "a.c" = some (.list [.null]) ∧
      "ab" ≠ "a.b" ++ "." ++ "c" := by
  have known : (([("x", .null)] : ConfigEntries).lookup "x").isSome := rfl
  have mem : (⟨["a", "c"], .seq [.null]⟩ : Leaf) ∈ leaves nestedValue :=
    .tail _ (.head _)
  obtain ⟨-, kept, plainly⟩ := flatten_keeps nestedValue [("x", .null)]
  obtain ⟨-, found, apart⟩ := plainly plain_nestedValue
  have first : "ab" ∈ (flatten "" nestedValue []).map (·.1) := .head _
  have second : "a.b" ∈ (flatten "" nestedValue []).map (·.1) := .tail _ (.tail _ (.head _))
  exact ⟨known, kept "x" known, plain_nestedValue, mem, found _ mem, apart _ first _ second "c"⟩

end CrudForge.Config
