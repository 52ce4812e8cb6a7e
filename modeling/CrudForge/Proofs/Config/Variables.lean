import Mathlib.Data.List.Basic
import CrudForge.Config.DotEnv

/-!
# Variables as a layer

A file of variables comes to the pairs that its lines assign, of which the environment takes those
with a new name (`load_eq_extend`). In a configuration, the environment hides under each key what
was there before if one of its variables stands for the key, and then the last of them counts
(`lookup_overlay`).
-/

namespace CrudForge

/-! ## Files of variables -/

namespace Environment

/-- The environment with those of some pairs whose names are not taken, one after the other. -/
def extend (env : Environment) (pairs : List (String × String)) : Environment :=
  pairs.foldl (fun env pair => env.addNew pair.1 pair.2) env

theorem lookup_addNew (name value : String) (env : Environment) (x : String) :
    (env.addNew name value).lookup x = (env.lookup x).or (List.lookup x [(name, value)]) := by
  rw [addNew]
  split
  · rename_i taken
    by_cases here : x = name
    · obtain ⟨old, found⟩ := Option.isSome_iff_exists.1 taken
      rw [here, found]
      rfl
    · rw [List.lookup_cons, beq_eq_false_iff_ne.2 here, List.lookup_nil, Option.or_none]
  · rw [List.lookup_append]

/-- A name that is set keeps its value, and any other one gets that of the first pair with it. -/
theorem lookup_extend (env : Environment) (pairs : List (String × String)) (x : String) :
    (env.extend pairs).lookup x = (env.lookup x).or (pairs.lookup x) := by
  induction pairs generalizing env with
  | nil => rw [extend, List.foldl_nil, List.lookup_nil, Option.or_none]
  | cons pair pairs ih =>
    obtain ⟨name, value⟩ := pair
    have first : env.extend ((name, value) :: pairs) = (env.addNew name value).extend pairs := rfl
    rw [first, ih, lookup_addNew, Option.or_assoc, ← List.lookup_append]
    rfl

end Environment

namespace DotEnv

/-- The pairs that lines assign, up to the first error. -/
def pairsOf : Scope → List (List Char) → List (String × String)
  | _, [] => []
  | s, line :: lines =>
    match readLine? s line with
    | none => []
    | some none => pairsOf s lines
    | some (some (name, value)) => (name, value) ::
      pairsOf { env := s.env.addNew name value, assigned := (name, value) :: s.assigned } lines

theorem runLines_eq_extend (s : Scope) (lines : List (List Char)) :
    runLines s lines = s.env.extend (pairsOf s lines) := by
  induction lines generalizing s with
  | nil => rfl
  | cons line lines ih =>
    rw [runLines, pairsOf]
    cases readLine? s line with
    | none => rfl
    | some assigned =>
      cases assigned with
      | none => exact ih s
      | some pair => exact ih _

/-- The text without the mark of its byte order. -/
def unmarked : List Char → List Char
  | '\ufeff' :: cs => cs
  | cs => cs

/-- The pairs that a file assigns where some variables are known. -/
def pairs (text : String) (env : Environment) : List (String × String) :=
  pairsOf { env } (joinedLines [] .plain (fullLines (unmarked text.toList)))

theorem load_eq_extend (text : String) (env : Environment) :
    load text env = env.extend (pairs text env) := by
  rw [pairs, ← runLines_eq_extend { env }]
  rfl

end DotEnv

/-! ## Variables for keys -/

namespace Environment

theorem behind?_eq_some_iff {front cs rest : List Char} :
    behind? front cs = some rest ↔ cs = front ++ rest := by
  induction front generalizing cs with
  | nil => rw [behind?, Option.some.injEq, List.nil_append]
  | cons x front ih =>
    cases cs with
    | nil => simp [behind?]
    | cons c cs =>
      rw [behind?, List.cons_append, List.cons.injEq]
      split
      · rename_i same
        rw [ih]
        exact ⟨fun rest => ⟨same.symm, rest⟩, fun both => both.2⟩
      · rename_i other
        exact ⟨nofun, fun both => absurd both.1.symm other⟩

/-- A variable stands for a key: its name behind the common start, in lower case and with dots for
two underscores, is what the key is behind its own. -/
def StandsFor (name key : String) : Prop :=
  ∃ rest, name = "SVCGEN__" ++ rest ∧
    key = "svcgen." ++ String.ofList (dotted (Text.lower rest).toList)

theorem keyOf?_eq_some_iff {name key : String} : keyOf? name = some key ↔ StandsFor name key := by
  rw [keyOf?, Option.map_eq_some_iff]
  constructor
  · rintro ⟨rest, behind, rfl⟩
    refine ⟨String.ofList rest, String.toList_inj.1 ?_, rfl⟩
    rw [behind?_eq_some_iff.1 behind, String.toList_append]
    exact congrArg (variableStart.toList ++ ·) String.toList_ofList.symm
  · rintro ⟨rest, rfl, rfl⟩
    refine ⟨rest.toList, behind?_eq_some_iff.2 String.toList_append, ?_⟩
    rw [String.ofList_toList]
    rfl

instance (name key : String) : Decidable (StandsFor name key) :=
  decidable_of_iff _ keyOf?_eq_some_iff

/-- The text of the last variable that stands for a key. -/
def last? (env : Environment) (key : String) : Option String :=
  (env.reverse.find? fun entry => StandsFor entry.1 key).map (·.2)

theorem last?_cons (name value : String) (env : Environment) (key : String) :
    last? ((name, value) :: env) key =
      (last? env key).or (if StandsFor name key then some value else none) := by
  rw [last?, List.reverse_cons, List.find?_append, Option.map_or, ← last?]
  by_cases stands : StandsFor name key
  · simp [stands]
  · simp [stands]

/-- The last variable that stands for a key counts, or else the entry that was there. -/
theorem lookup_overlay (env : Environment) (es : ConfigEntries) (key : String) :
    (env.overlay es).lookup key = ((env.last? key).map .string).or (es.lookup key) := by
  -- The first variable goes behind all others, and so it is one more entry for them to hide.
  induction env generalizing es with
  | nil => rfl
  | cons entry env ih =>
    obtain ⟨name, value⟩ := entry
    rw [overlay, last?_cons, Option.map_or, Option.or_assoc]
    cases stands : keyOf? name with
    | none =>
      have other : ¬ StandsFor name key := by
        rw [← keyOf?_eq_some_iff, stands]
        nofun
      rw [ih, if_neg other]
      rfl
    | some k =>
      rw [ih, List.lookup_cons]
      by_cases here : key = k
      · subst here
        rw [beq_self_eq_true, if_pos (keyOf?_eq_some_iff.1 stands)]
        rfl
      · have other : ¬ StandsFor name key := by
          rw [← keyOf?_eq_some_iff, stands, Option.some.injEq]
          exact fun same => here same.symm
        rw [beq_eq_false_iff_ne.2 here, if_neg other]
        rfl

example : (overlay [("SVCGEN__A_B", "1"), ("HOME", "/"), ("SVCGEN__a_b", "2")]
    [("svcgen.a_b", .null)]).lookup "svcgen.a_b" = some (.string "2") := by
  rfl

end Environment
end CrudForge
