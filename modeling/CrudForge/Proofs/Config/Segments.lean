import Mathlib.Data.List.Infix
import CrudForge.Proofs.Config.Overrides
import CrudForge.Proofs.Text.Ascii

/-!
# Keys made of segments

In the name of a variable, two underscores stand for a dot, and so underscores of the key itself
can be taken for one. Where they may stand is told segment by segment (`ReadableSegments`): no two
in a row, and none in front of a dot. Such a key is the one that its variable sets, and no other
key of that form has the same variable (`overlay_environmentVariable`).
-/

namespace CrudForge

/-! ## Segments -/

/-- The characters of segments. -/
def isSegmentChar (c : Char) : Bool :=
  c.isLower || c.isDigit || c = '_'

/-- The key of the segments behind the name of the program. -/
def segmentKey (segments : List String) : String :=
  ".".intercalate ("svcgen" :: segments)

/-- Segments that can be told apart in the name of a variable. An underscore may begin a segment,
but only the last one may end in one. -/
structure ReadableSegments (segments : List String) : Prop where
  chars : ∀ s ∈ segments, ∀ c ∈ s.toList, isSegmentChar c = true
  single : ∀ s ∈ segments, ¬ ['_', '_'] <:+: s.toList
  inner : ∀ s ∈ segments.dropLast, s.toList.getLast? ≠ some '_'

instance (segments : List String) : Decidable (ReadableSegments segments) :=
  decidable_of_iff
    ((∀ s ∈ segments, s.toList.all isSegmentChar = true) ∧
      (∀ s ∈ segments, ¬ ['_', '_'] <:+: s.toList) ∧
      ∀ s ∈ segments.dropLast, s.toList.getLast? ≠ some '_')
    ⟨fun ⟨chars, single, inner⟩ =>
      ⟨fun s mem => List.all_eq_true.1 (chars s mem), single, inner⟩,
      fun readable => ⟨fun s mem => List.all_eq_true.2 (readable.chars s mem),
        readable.single, readable.inner⟩⟩

namespace ReadableSegments

variable {s : String} {segments : List String}

theorem tail (readable : ReadableSegments (s :: segments)) : ReadableSegments segments where
  chars s mem := readable.chars s (List.mem_cons_of_mem _ mem)
  single s mem := readable.single s (List.mem_cons_of_mem _ mem)
  inner s mem := by
    refine readable.inner s ?_
    rw [List.dropLast_cons_of_ne_nil]
    · exact List.mem_cons_of_mem _ mem
    · rintro rfl
      cases mem

/-- The name of the program is a segment like any other. -/
theorem behindProgram (readable : ReadableSegments segments) (nonempty : segments ≠ []) :
    ReadableSegments ("svcgen" :: segments) where
  chars := List.forall_mem_cons.2 ⟨List.all_eq_true.1 (by decide), readable.chars⟩
  single := List.forall_mem_cons.2 ⟨by decide, readable.single⟩
  inner := by
    rw [List.dropLast_cons_of_ne_nil nonempty]
    exact List.forall_mem_cons.2 ⟨by decide, readable.inner⟩

/-! ## Underscores -/

theorem forall_mem_intercalate (readable : ReadableSegments segments) :
    ∀ c ∈ (".".intercalate segments).toList, isSegmentChar c = true ∨ c = '.' := by
  induction segments with
  | nil => exact nofun
  | cons s segments ih =>
    have own : ∀ c ∈ s.toList, isSegmentChar c = true ∨ c = '.' := fun c mem =>
      .inl (readable.chars s List.mem_cons_self c mem)
    cases segments with
    | nil => rwa [String.intercalate_singleton]
    | cons s' segments =>
      rw [String.intercalate_cons_cons, String.toList_append, String.toList_append,
        List.forall_mem_append, List.forall_mem_append]
      have dot : ∀ c ∈ ".".toList, isSegmentChar c = true ∨ c = '.' :=
        fun c mem => .inr (List.mem_singleton.1 mem)
      exact ⟨⟨own, dot⟩, ih readable.tail⟩

/-- Within a segment, an underscore is followed by neither another one nor a dot. -/
theorem apart_segment (readable : ReadableSegments (s :: segments)) :
    s.toList.IsChain fun c d => c = '_' → d ≠ '_' ∧ d ≠ '.' := by
  refine (List.isChain_isInfix s.toList).imp fun c d pair underscore => ⟨?_, ?_⟩
  · rintro rfl
    exact readable.single s List.mem_cons_self (underscore ▸ pair)
  · rintro rfl
    have mem : '.' ∈ s.toList := pair.subset (List.mem_cons_of_mem _ List.mem_cons_self)
    exact absurd (readable.chars s List.mem_cons_self '.' mem) (by decide)

/-- Joined by dots, segments keep their underscores apart: a dot stands between any two of them,
and none ends in an underscore before it. -/
theorem apart_intercalate (readable : ReadableSegments segments) :
    (".".intercalate segments).toList.IsChain fun c d => c = '_' → d ≠ '_' ∧ d ≠ '.' := by
  induction segments with
  | nil => exact .nil
  | cons s segments ih =>
    have own := readable.apart_segment
    cases segments with
    | nil => rwa [String.intercalate_singleton]
    | cons s' segments =>
      have ends : s.toList.getLast? ≠ some '_' := readable.inner s List.mem_cons_self
      have dot : ".".toList = ['.'] := rfl
      rw [String.intercalate_cons_cons, String.toList_append, String.toList_append,
        List.append_assoc, dot, List.singleton_append, List.isChain_append, List.isChain_cons]
      refine ⟨own, ⟨fun d _ dotted => absurd dotted (by decide), ih readable.tail⟩, ?_⟩
      rintro c last d - rfl
      exact absurd last ends

theorem toNat_lt_of_isSegmentChar {c : Char} (segment : isSegmentChar c = true) :
    c.toNat < 128 := by
  simp only [isSegmentChar, Bool.or_eq_true, decide_eq_true_eq] at segment
  rcases segment with (lower | digit) | rfl
  · exact Text.toNat_lt_of_isLower lower
  · exact Text.toNat_lt_of_isDigit digit
  · decide

theorem toLower_toUpper {c : Char} (segment : isSegmentChar c = true) : c.toUpper.toLower = c := by
  have small := toNat_lt_of_isSegmentChar segment
  revert segment
  exact Text.of_ascii small (by decide)

/-- Nothing of such a key is lost in the name of its variable. -/
theorem plainKey_segmentKey (readable : ReadableSegments segments) (nonempty : segments ≠ []) :
    PlainKey (segmentKey segments) where
  start := by
    obtain ⟨s, rest, rfl⟩ := List.exists_cons_of_ne_nil nonempty
    rw [segmentKey, String.intercalate_cons_cons, String.toList_append]
    exact List.prefix_append _ _
  small c mem := by
    rcases (readable.behindProgram nonempty).forall_mem_intercalate c mem with segment | rfl
    · exact ⟨toNat_lt_of_isSegmentChar segment, toLower_toUpper segment⟩
    · decide
  apart := (readable.behindProgram nonempty).apart_intercalate

end ReadableSegments

/-! ## Variables -/

/-- Every key of segments is the key of some property. -/
theorem Property.exists_fullKey {segments : List String} (nonempty : segments ≠ []) :
    ∃ (p : Property) (path : String), p.fullKey path = segmentKey segments := by
  obtain ⟨s, rest, rfl⟩ := List.exists_cons_of_ne_nil nonempty
  refine ⟨⟨".".intercalate (s :: rest), "", none, ""⟩, "svcgen", ?_⟩
  rw [segmentKey, String.intercalate_cons_cons]
  rfl

namespace Environment

theorem lookup_overlay_single {name text k : String} (stands : keyOf? name = some k)
    (es : ConfigEntries) (key : String) :
    (overlay [(name, text)] es).lookup key =
      if key = k then some (.string text) else es.lookup key := by
  rw [overlay, stands]
  exact Config.value?_set { entries := es, profile := "" } k (.string text) key

/-- The variable of a property whose key is made of readable segments stands for exactly that key:
it sets the key to its text and leaves every other key as it was. Two such keys that differ have
two variables. -/
theorem overlay_environmentVariable {segments : List String} (nonempty : segments ≠ [])
    (readable : ReadableSegments segments) :
    (∃ (p : Property) (path : String), p.fullKey path = segmentKey segments) ∧
    ∀ (p : Property) (path : String), p.fullKey path = segmentKey segments →
      keyOf? (p.environmentVariable path) = some (segmentKey segments) ∧
      (∀ (text : String) (es : ConfigEntries) (key : String),
        (overlay [(p.environmentVariable path, text)] es).lookup key =
          if key = segmentKey segments then some (.string text) else es.lookup key) ∧
      ∀ (others : List String) (q : Property) (place : String), others ≠ [] →
        ReadableSegments others → q.fullKey place = segmentKey others →
        segmentKey others ≠ segmentKey segments →
        q.environmentVariable place ≠ p.environmentVariable path := by
  refine ⟨Property.exists_fullKey nonempty, fun p path key => ?_⟩
  have stands : keyOf? (p.environmentVariable path) = some (segmentKey segments) := by
    rw [← key]
    exact keyOf?_environmentVariable (key ▸ readable.plainKey_segmentKey nonempty)
  refine ⟨stands, fun text es => lookup_overlay_single stands es, ?_⟩
  intro others q place more otherReadable otherKey distinct same
  have otherStands : keyOf? (q.environmentVariable place) = some (segmentKey others) := by
    rw [← otherKey]
    exact keyOf?_environmentVariable (otherKey ▸ otherReadable.plainKey_segmentKey more)
  rw [same, stands, Option.some.injEq] at otherStands
  exact distinct otherStands.symm

/-- A property whose key has underscores and empty segments next to its dots. -/
def borderProperty : Property where
  key := "_x.._"
  typeName := "String"
  default := none
  description := ""

theorem overlay_environmentVariable_border :
    ReadableSegments ["naming", "_x", "", "_"] ∧
      borderProperty.fullKey "svcgen.naming" = "svcgen.naming._x.._" ∧
      borderProperty.environmentVariable "svcgen.naming" = "SVCGEN__NAMING___X_____" ∧
      (overlay [(borderProperty.environmentVariable "svcgen.naming", "1")]
        [("svcgen.naming", .null)]).lookup "svcgen.naming._x.._" = some (.string "1") ∧
      borderProperty.environmentVariable "svcgen" ≠
        borderProperty.environmentVariable "svcgen.naming" := by
  have readable : ReadableSegments ["naming", "_x", "", "_"] := by decide
  have other : ReadableSegments ["_x", "", "_"] := by decide
  have key : borderProperty.fullKey "svcgen.naming" = "svcgen.naming._x.._" := by decide
  obtain ⟨-, set, distinct⟩ := (overlay_environmentVariable (by decide) readable).2 borderProperty
    "svcgen.naming" key
  exact ⟨readable, key, by decide +kernel, set "1" _ "svcgen.naming._x.._",
    distinct ["_x", "", "_"] borderProperty "svcgen" (by decide) other (by decide) (by decide)⟩

end Environment
end CrudForge
