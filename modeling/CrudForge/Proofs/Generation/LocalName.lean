import Mathlib.Data.List.Nodup
import Mathlib.Data.List.Perm.Subperm
import Mathlib.Order.Bounds.Defs
import CrudForge.Generation.Methods
import CrudForge.Proofs.Naming.Plain

/-!
# Names of local variables

A local variable takes the first of its names that no parameter has in snake case. Each parameter
has one name only, so one of the first names is free, and the search ends there
(`localName_spec`), also if it is made name by name and without a bound (`localName_search`). The
names of the window are words in snake case that are no keywords, however many underscores they
end with.
-/

namespace CrudForge.Generation

open Grammar (FreeWord)

variable {base name result : String} {params : List Parameter} {count : Nat}

/-! ## The search -/

theorem isTaken_eq_false_iff :
    isTaken params name = false ↔ ∀ p ∈ params, Naming.snakeCase p.name ≠ name := by
  simp [isTaken]

theorem underscored_injective (base : String) : Function.Injective (underscored base) := by
  intro j k same
  have lengths := congrArg String.length same
  simpa [underscored, ← String.length_toList] using lengths

/-- One of the first names is free. -/
theorem exists_free (base : String) (params : List Parameter) :
    ∃ k < params.length + 1, isTaken params (underscored base k) = false := by
  by_contra none
  -- There is one name more than there are parameters, and the names differ.
  have taken : (List.range (params.length + 1)).map (underscored base) ⊆
      params.map fun p => Naming.snakeCase p.name := by
    intro name mem
    obtain ⟨k, small, rfl⟩ := List.mem_map.1 mem
    by_contra free
    refine none ⟨k, List.mem_range.1 small, isTaken_eq_false_iff.2 fun p mem same => free ?_⟩
    exact List.mem_map.2 ⟨p, mem, same⟩
  have distinct : ((List.range (params.length + 1)).map (underscored base)).Nodup :=
    List.nodup_range.map (underscored_injective base)
  have long := (List.subperm_of_subset distinct taken).length_le
  rw [List.length_map, List.length_map, List.length_range] at long
  omega

/-- The local variable has the first name that is free. -/
theorem localName_spec (base : String) (params : List Parameter) :
    ∃ k < params.length + 1, localName base params = underscored base k ∧
      isTaken params (underscored base k) = false ∧
      ∀ j < k, isTaken params (underscored base j) = true := by
  rw [localName]
  cases found : (List.range (params.length + 1)).find? fun k =>
      !isTaken params (underscored base k) with
  | none =>
    obtain ⟨k, small, free⟩ := exists_free base params
    simpa [free] using List.find?_eq_none.1 found k (List.mem_range.2 small)
  | some k =>
    obtain ⟨free, small, earlier⟩ := List.find?_range_eq_some.1 found
    exact ⟨k, List.mem_range.1 small, rfl, by simpa using free, by simpa using earlier⟩

/-! ## The search, name by name -/

/-- How a name is searched for. A name that a parameter has gets one more underscore, and the first
one that none has is the result. The number tells how many underscores are added. -/
inductive Search (params : List Parameter) : Nat → String → String → Prop
  | free {name : String} : isTaken params name = false → Search params 0 name name
  | taken {count : Nat} {name result : String} : isTaken params name = true →
    Search params count (name.push '_') result → Search params (count + 1) name result

theorem push_underscored (base : String) (k : Nat) :
    (underscored base k).push '_' = underscored base (k + 1) := by
  refine String.toList_inj.1 ?_
  simp only [underscored, String.toList_push, String.toList_append, String.toList_ofList,
    List.replicate_succ', List.append_assoc]

/-- From a name on the way to the first free one, the search comes to that one. -/
theorem search_underscored {k : Nat} (free : isTaken params (underscored base k) = false)
    (taken : ∀ j < k, isTaken params (underscored base j) = true) {j : Nat} (way : j + count = k) :
    Search params count (underscored base j) (underscored base k) := by
  induction count generalizing j with
  | zero =>
    obtain rfl : j = k := way
    exact .free free
  | succ count ih =>
    refine .taken (taken j (by omega)) ?_
    rw [push_underscored]
    exact ih (by omega)

/-- The search goes one way only. -/
theorem Search.unique {count' : Nat} {result' : String} (first : Search params count name result)
    (second : Search params count' name result') : count' = count ∧ result' = result := by
  induction first generalizing count' with
  | free untaken =>
    cases second with
    | free _ => exact ⟨rfl, rfl⟩
    | taken taken _ => cases untaken.symm.trans taken
  | taken taken _ ih =>
    cases second with
    | free untaken => cases untaken.symm.trans taken
    | taken _ more =>
      obtain ⟨rfl, rfl⟩ := ih more
      exact ⟨rfl, rfl⟩

/-- The search for a local variable ends after no more underscores than there are parameters. Its
only result is the base with the least number of them that no parameter, in snake case, has. -/
theorem localName_search (base : String) (params : List Parameter) :
    ∃ k ≤ params.length, localName base params = underscored base k ∧
      IsLeast {n | ∀ p ∈ params, Naming.snakeCase p.name ≠ underscored base n} k ∧
      ∀ count name, Search params count base name ↔
        count = k ∧ name = localName base params := by
  obtain ⟨k, small, named, free, taken⟩ := localName_spec base params
  have start : underscored base 0 = base := String.append_empty
  have ends := search_underscored free taken (Nat.zero_add k)
  rw [start, ← named] at ends
  refine ⟨k, Nat.le_of_lt_succ small, named, ⟨isTaken_eq_false_iff.1 free, ?_⟩, ?_⟩
  · intro n unused
    by_contra less
    have untaken : isTaken params (underscored base n) = false := isTaken_eq_false_iff.2 unused
    cases untaken.symm.trans (taken n (Nat.lt_of_not_le less))
  · intro count name
    constructor
    · exact ends.unique
    · rintro ⟨rfl, rfl⟩
      exact ends

/-! ## Windows -/

theorem letters_window (count : Nat) {c : Char}
    (mem : c ∈ (underscored windowName count).toList) : c ∈ '_' :: windowName.toList := by
  rw [underscored, String.toList_append, String.toList_ofList] at mem
  rcases List.mem_append.1 mem with letter | sign
  · exact List.mem_cons_of_mem _ letter
  · exact (List.eq_of_mem_replicate sign).symm ▸ List.mem_cons_self

theorem snakeCase_window (count : Nat) :
    Naming.snakeCase (underscored windowName count) = underscored windowName count := by
  have lower : ∀ c ∈ '_' :: windowName.toList, Text.isUpper c = false :=
    List.all_iff_forall_prop.1 (by decide +kernel)
  exact Naming.snakeCase_eq_self fun c mem => lower c (letters_window count mem)

/-- A name of the window is a word that is no keyword. -/
theorem freeWord_window (count : Nat) : FreeWord (underscored windowName count) := by
  have letters : ∀ c ∈ '_' :: windowName.toList, Text.isIdentContinue c = true :=
    List.all_iff_forall_prop.1 (by decide)
  have split : (underscored windowName count).toList =
      'w' :: ("indow".toList ++ List.replicate count '_') := by
    rw [underscored, String.toList_append, String.toList_ofList]
    rfl
  have word : Grammar.Word (underscored windowName count).toList := by
    have all (c : Char) (mem : c ∈ (underscored windowName count).toList) :=
      letters c (letters_window count mem)
    rw [split] at all ⊢
    exact .intro (by decide) fun c mem => all c (List.mem_cons_of_mem _ mem)
  have first : (underscored windowName count).toList =
      windowName.toList ++ List.replicate count '_' := split
  exact Naming.freeWord_of_prefix first (by decide) word

end CrudForge.Generation
