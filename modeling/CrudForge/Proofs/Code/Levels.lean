import Mathlib.Data.Set.Card
import CrudForge.Proofs.Code.Blocks

/-!
# How deep a fragment is nested

`enclosing` counts the blocks around a fragment, and `levels` is what a walk over the fragments
makes of its count of open blocks, a fragment that goes on with a block or closes it being taken
for one outside of it. In a derivable body the two are the same (`Derivable.levels_eq`), so a
block has all of its own fragments at one level and everything inside of it deeper
(`Block.At.forall₂_levels`).
-/

namespace CrudForge

variable {body front rest t : List Fragment} {i k : Nat}

/-! ## Blocks around a fragment -/

/-- The block that begins with the `i`-th fragment of a body has the `k`-th inside of it. -/
def Encloses (body : List Fragment) (i k : Nat) : Prop :=
  ∃ b : Block, b.At body i ∧ b.inside[k - i]? = some true

/-- The number of blocks of a body that have its `k`-th fragment inside of them. -/
noncomputable def enclosing (body : List Fragment) (k : Nat) : Nat :=
  {i | Encloses body i k}.ncard

theorem Encloses.lt (encloses : Encloses body i k) : i < k := by
  rcases encloses with ⟨b, -, inside⟩
  by_contra behind
  rw [Nat.sub_eq_zero_of_le (by omega)] at inside
  cases inside

theorem finite_encloses (body : List Fragment) (k : Nat) : {i | Encloses body i k}.Finite :=
  (Set.finite_lt_nat k).subset fun _ encloses => Encloses.lt encloses

theorem encloses_append_iff :
    Encloses (front ++ t) (front.length + i) (front.length + k) ↔ Encloses t i k := by
  unfold Encloses
  simp only [Block.at_append_iff, Nat.add_sub_add_left]

/-- What stands in front adds nothing if none of its blocks reach so far. -/
theorem enclosing_append_of_apart (front : List Fragment)
    (apart : ∀ i < front.length, ¬ Encloses (front ++ t) i (front.length + k)) :
    enclosing (front ++ t) (front.length + k) = enclosing t k := by
  have moved : {i | Encloses (front ++ t) i (front.length + k)} =
      (front.length + ·) '' {i | Encloses t i k} := by
    ext i
    constructor
    · intro encloses
      have behind : front.length ≤ i := Nat.le_of_not_lt fun first => apart i first encloses
      obtain ⟨j, rfl⟩ := Nat.exists_eq_add_of_le behind
      exact ⟨j, encloses_append_iff.1 encloses, rfl⟩
    · rintro ⟨j, encloses, rfl⟩
      exact encloses_append_iff.2 encloses
  unfold enclosing
  rw [moved, Set.ncard_image_of_injective _ (add_right_injective _)]

/-- No block that begins in a derivable body encloses what stands behind it. -/
theorem Derivable.enclosing_append (derivable : Derivable body) (t : List Fragment) (k : Nat) :
    enclosing (body ++ t) (body.length + k) = enclosing t k := by
  apply enclosing_append_of_apart
  rintro i first ⟨b, stands, inside⟩
  have short := (stands.of_append derivable first).le_length
  rw [← b.length_inside] at short
  rw [List.getElem?_eq_none (by omega)] at inside
  cases inside

/-- No block begins with a fragment that does not open one. -/
theorem enclosing_cons {f : Fragment} (other : ∀ code, f ≠ .beginBlock code) (t : List Fragment)
    (k : Nat) : enclosing (f :: t) (k + 1) = enclosing t k := by
  rw [Nat.add_comm k 1]
  apply enclosing_append_of_apart [f]
  rintro i first ⟨b, ⟨-, front, back, same, place⟩, -⟩
  rw [← place] at first
  rw [List.eq_nil_of_length_eq_zero (Nat.lt_one_iff.1 first), Block.fragments_append] at same
  exact other _ (List.cons.inj same).1

theorem enclosing_zero (t : List Fragment) : enclosing t 0 = 0 := by
  unfold enclosing
  rw [Set.ncard_eq_zero (finite_encloses t 0)]
  ext i
  exact iff_of_false (fun encloses => Nat.not_lt_zero i (Encloses.lt encloses)) id

/-- A block adds itself to the blocks around what is inside of it. -/
theorem Block.WellFormed.enclosing_succ {b : Block} (sound : b.WellFormed) {u : List Fragment}
    (begins : b.fragments ++ rest = .beginBlock b.opening :: u) (k : Nat) :
    enclosing (b.fragments ++ rest) (k + 1) =
      enclosing u k + if b.inside[k + 1]? = some true then 1 else 0 := by
  have own : Encloses (b.fragments ++ rest) 0 (k + 1) ↔ b.inside[k + 1]? = some true := by
    constructor
    · rintro ⟨b', ⟨sound', front, back, same, place⟩, inside⟩
      rw [List.eq_nil_of_length_eq_zero place, List.nil_append] at same
      obtain ⟨rfl, -⟩ := eq_of_fragments_append sound sound' same
      exact inside
    · intro inside
      exact ⟨b, ⟨sound, [], rest, rfl, rfl⟩, inside⟩
  have later (i : Nat) : Encloses (b.fragments ++ rest) (i + 1) (k + 1) ↔ Encloses u i k := by
    rw [begins, Nat.add_comm i, Nat.add_comm k]
    exact @encloses_append_iff [.beginBlock b.opening] u i k
  have moved : {i | Encloses (b.fragments ++ rest) i (k + 1)} \ {0} =
      Nat.succ '' {i | Encloses u i k} := by
    ext i
    cases i <;> simp [later]
  have count : ({i | Encloses (b.fragments ++ rest) i (k + 1)} \ {0}).ncard = enclosing u k := by
    rw [moved, Set.ncard_image_of_injective _ Nat.succ_injective]
    rfl
  rw [← count]
  split
  · rename_i inside
    have here : 0 ∈ {i | Encloses (b.fragments ++ rest) i (k + 1)} := own.2 inside
    exact (Set.ncard_sdiff_singleton_add_one here (finite_encloses _ _)).symm
  · rename_i outside
    have absent : 0 ∉ {i | Encloses (b.fragments ++ rest) i (k + 1)} := mt own.1 outside
    rw [Nat.add_zero, Set.sdiff_singleton_eq_self absent]
    rfl

/-! ## Levels -/

/-- The levels of the fragments of a body. -/
def levels (depth : Nat) : List Fragment → List Nat
  | [] => []
  | f :: rest => f.level depth :: levels ((f.openAfter depth).getD depth) rest

section Levels

variable {depth depth' : Nat} {f : Fragment}

theorem levels_cons (goesOn : f.openAfter depth = some depth') :
    levels depth (f :: rest) = f.level depth :: levels depth' rest := by
  rw [levels, goesOn, Option.getD_some]

theorem levels_append (opened : openBehind depth front = some depth') :
    levels depth (front ++ rest) = levels depth front ++ levels depth' rest := by
  induction front generalizing depth with
  | nil =>
    cases opened
    rfl
  | cons f front ih =>
    rcases openBehind_cons_eq_some_iff.1 opened with ⟨next, goesOn, opened⟩
    rw [List.cons_append, levels_cons goesOn, levels_cons goesOn, ih opened, List.cons_append]

theorem length_levels (depth : Nat) (body : List Fragment) :
    (levels depth body).length = body.length := by
  induction body generalizing depth with
  | nil => rfl
  | cons f rest ih => rw [levels, List.length_cons, ih, List.length_cons]

/-- One more block around a body is one more around each of its fragments. -/
theorem levels_succ {last : Nat} (opened : openBehind depth body = some last) :
    levels (depth + 1) body = (levels depth body).map (· + 1) := by
  induction body generalizing depth with
  | nil => rfl
  | cons f rest ih =>
    rcases openBehind_cons_eq_some_iff.1 opened with ⟨next, goesOn, opened⟩
    have deeper : f.openAfter (depth + 1) = some (next + 1) ∧
        f.level (depth + 1) = f.level depth + 1 := by
      cases f <;> cases depth <;> cases goesOn <;> exact ⟨rfl, rfl⟩
    rw [levels_cons goesOn, levels_cons deeper.1, deeper.2, ih opened, List.map_cons]

theorem Derivable.le_of_mem_levels (derivable : Derivable body) {n : Nat}
    (mem : n ∈ levels depth body) : depth ≤ n := by
  induction depth generalizing n with
  | zero => exact Nat.zero_le n
  | succ depth ih =>
    rw [levels_succ (derivable.openBehind depth)] at mem
    obtain ⟨m, below, rfl⟩ := List.mem_map.1 mem
    exact Nat.succ_le_succ (ih below)

theorem Block.levels_fragments {b : Block} (sound : b.WellFormed) (depth : Nat) :
    levels depth b.fragments =
      depth :: (levels (depth + 1) b.inner ++
        levels (depth + 1) (continued b.arms ++ [.endBlock b.semicolon])) := by
  unfold fragments
  rw [levels_cons rfl, levels_append (sound.inner.openBehind _)]
  rfl

theorem Block.levels_continued {arm : CodeBlock × List Fragment}
    {arms : List (CodeBlock × List Fragment)} (derivable : Derivable arm.2) (depth : Nat) :
    levels (depth + 1) (continued (arm :: arms) ++ rest) =
      depth :: (levels (depth + 1) arm.2 ++ levels (depth + 1) (continued arms ++ rest)) := by
  rw [continued_cons, List.cons_append, List.append_assoc, levels_cons rfl,
    levels_append (derivable.openBehind _)]
  rfl

end Levels

/-! ## Levels count blocks -/

/-- The numbers of blocks around the first fragments of a list. -/
noncomputable def enclosings (n : Nat) (t : List Fragment) : List Nat :=
  (List.range n).map (enclosing t)

theorem length_enclosings (n : Nat) (t : List Fragment) : (enclosings n t).length = n := by
  rw [enclosings, List.length_map, List.length_range]

theorem enclosings_cons {f : Fragment} (other : ∀ code, f ≠ .beginBlock code) (n : Nat)
    (t : List Fragment) : enclosings (n + 1) (f :: t) = 0 :: enclosings n t := by
  unfold enclosings
  rw [List.range_succ_eq_map, List.map_cons, List.map_map, enclosing_zero]
  congr 1
  exact List.map_congr_left fun k _ => enclosing_cons other t k

theorem Derivable.enclosings_append (derivable : Derivable body) (n : Nat) (t : List Fragment) :
    enclosings (body.length + n) (body ++ t) =
      enclosings body.length (body ++ t) ++ enclosings n t := by
  unfold enclosings
  rw [List.range_add, List.map_append, List.map_map]
  congr 1
  exact List.map_congr_left fun k _ => derivable.enclosing_append t k

/-- One more if a fragment is inside of a block. -/
def deepen (n : Nat) (inside : Bool) : Nat :=
  if inside then n + 1 else n

theorem zipWith_deepen_true {ns : List Nat} (fs : List Fragment) (same : ns.length = fs.length) :
    List.zipWith deepen ns (fs.map fun _ => true) = ns.map (· + 1) := by
  apply List.ext_getElem
  · simp [same]
  · intro k _ _
    simp [deepen]

theorem Block.WellFormed.enclosings_fragments {b : Block} (sound : b.WellFormed)
    {u : List Fragment} {flags : List Bool}
    (begins : b.fragments ++ rest = .beginBlock b.opening :: u)
    (marked : b.inside = false :: flags) :
    enclosings b.fragments.length (b.fragments ++ rest) =
      0 :: List.zipWith deepen (enclosings flags.length u) flags := by
  unfold enclosings
  rw [← b.length_inside, marked, List.length_cons, List.range_succ_eq_map, List.map_cons,
    List.map_map, enclosing_zero]
  congr 1
  apply List.ext_getElem
  · simp
  · intro k _ _
    simp only [List.getElem_map, List.getElem_range, Function.comp_apply, List.getElem_zipWith,
      sound.enclosing_succ begins, marked, List.getElem?_cons_succ, deepen]
    grind

/-- What the levels of derivable bodies count is handed on to the bodies that continue a block. -/
theorem levels_continued_eq {arms : List (CodeBlock × List Fragment)}
    (each : ∀ arm ∈ arms, Derivable arm.2)
    (counted : ∀ arm ∈ arms, ∀ t, levels 0 arm.2 = enclosings arm.2.length (arm.2 ++ t))
    (semicolon : Bool) (t : List Fragment) :
    levels 1 (Block.continued arms ++ [.endBlock semicolon]) = List.zipWith deepen
      (enclosings ((Block.continued arms).length + 1)
        (Block.continued arms ++ .endBlock semicolon :: t))
      (Block.continuedInside arms ++ [false]) := by
  induction arms with
  | nil =>
    have last : enclosings 1 (.endBlock semicolon :: t) = [0] := enclosings_cons (by simp) 0 t
    exact congrArg (List.zipWith deepen · [false]) last.symm
  | cons arm arms ih =>
    obtain ⟨first, others⟩ := List.forall_mem_cons.1 each
    obtain ⟨count, counted⟩ := List.forall_mem_cons.1 counted
    rw [Block.levels_continued first, Block.continuedInside_cons, Block.continued_cons,
      List.length_cons, List.length_append, List.cons_append, List.append_assoc,
      enclosings_cons (by simp), Nat.add_assoc, first.enclosings_append, List.zipWith_cons_cons,
      List.zipWith_append, zipWith_deepen_true, ih others counted,
      levels_succ (first.openBehind 0), count]
    · rfl
    · exact length_enclosings _ _
    · rw [length_enclosings, List.length_map]

theorem Block.WellFormed.levels_eq {b : Block} (sound : b.WellFormed)
    (inner : ∀ t, levels 0 b.inner = enclosings b.inner.length (b.inner ++ t))
    (arms : ∀ arm ∈ b.arms, ∀ t, levels 0 arm.2 = enclosings arm.2.length (arm.2 ++ t))
    (t : List Fragment) :
    levels 0 b.fragments = enclosings b.fragments.length (b.fragments ++ t) := by
  have marked : b.inside = false ::
    (b.inner.map (fun _ => true) ++ (continuedInside b.arms ++ [false])) := rfl
  rw [sound.enclosings_fragments (b.fragments_append t) marked, Block.levels_fragments sound,
    levels_continued_eq sound.arms arms b.semicolon t, levels_succ (sound.inner.openBehind 0),
    List.length_append, List.length_map, sound.inner.enclosings_append, List.zipWith_append,
    zipWith_deepen_true, inner, List.length_append, length_continuedInside]
  · rfl
  · exact length_enclosings _ _
  · rw [length_enclosings, List.length_map]

/-- Walking over a derivable body counts the blocks around each of its fragments. -/
theorem Derivable.levels_eq (derivable : Derivable body) (t : List Fragment) :
    levels 0 body = enclosings body.length (body ++ t) := by
  induction derivable generalizing t with
  | empty => rfl
  | statement _ ih =>
    rw [levels_cons rfl, List.length_cons, List.cons_append, enclosings_cons (by simp), ih t]
    rfl
  | expr _ ih =>
    rw [levels_cons rfl, List.length_cons, List.cons_append, enclosings_cons (by simp), ih t]
    rfl
  | @block b rest inner each _ ihInner ihEach ih =>
    have sound : b.WellFormed := ⟨inner, each⟩
    rw [levels_append (sound.derivable.openBehind 0), List.length_append, List.append_assoc,
      sound.derivable.enclosings_append, sound.levels_eq ihInner ihEach (rest ++ t), ih t]

/-! ## Around and inside of one block -/

/-- Against the level of the fragment that opens a block, those inside of the block are deeper and
the others of the block are not. -/
def SameOrDeeper (depth : Nat) (inside : Bool) (n : Nat) : Prop :=
  if inside then depth < n else n = depth

theorem forall₂_deeper {depth : Nat} (derivable : Derivable body) :
    List.Forall₂ (SameOrDeeper depth) (body.map fun _ => true) (levels (depth + 1) body) := by
  rw [List.forall₂_map_left_iff, List.forall₂_iff_zip]
  refine ⟨(length_levels _ _).symm, fun {_ n} mem => ?_⟩
  exact derivable.le_of_mem_levels (List.of_mem_zip mem).2

theorem forall₂_continued {arms : List (CodeBlock × List Fragment)} {depth : Nat} {semicolon : Bool}
    (each : ∀ arm ∈ arms, Derivable arm.2) :
    List.Forall₂ (SameOrDeeper depth) (Block.continuedInside arms ++ [false])
      (levels (depth + 1) (Block.continued arms ++ [.endBlock semicolon])) := by
  induction arms with
  | nil => exact .cons rfl .nil
  | cons arm arms ih =>
    obtain ⟨first, others⟩ := List.forall_mem_cons.1 each
    rw [Block.levels_continued first, Block.continuedInside_cons]
    exact .cons rfl (List.rel_append (forall₂_deeper first) (ih others))

theorem Block.WellFormed.forall₂_inside {b : Block} (sound : b.WellFormed) (depth : Nat) :
    List.Forall₂ (SameOrDeeper depth) b.inside (levels depth b.fragments) := by
  rw [levels_fragments sound]
  exact .cons rfl (List.rel_append (forall₂_deeper sound.inner) (forall₂_continued sound.arms))

/-- Wherever a block stands in a derivable body, its levels are those of the block. -/
theorem Block.At.forall₂_levels {b : Block} (stands : b.At body i) (derivable : Derivable body) :
    ∃ depth, List.Forall₂ (SameOrDeeper depth) b.inside
      (((levels 0 body).drop i).take b.fragments.length) := by
  rcases stands with ⟨sound, front, back, rfl, rfl⟩
  rcases openBehind_append_eq_some_iff.1 (derivable.openBehind 0) with ⟨depth, opened, -⟩
  refine ⟨depth, ?_⟩
  rw [levels_append opened, levels_append (sound.derivable.openBehind depth),
    List.drop_left' (length_levels 0 front), List.take_left' (length_levels depth _)]
  exact sound.forall₂_inside depth

end CrudForge
