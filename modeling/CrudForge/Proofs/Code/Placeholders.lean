import CrudForge.Code.Body
import CrudForge.Proofs.Outcome

/-!
# Placeholders and their arguments

`Expansion` says which text a format stands for, piece by piece, without a position or a fault in
sight: `expandFrom_eq_ok_iff` shows that expanding finds exactly that text. Expansions of two
formats stand side by side in the expansion of both (`Expansion.append`), so that a block that is
put together from sound ones is sound (`Sound.append`).

How arguments are written has no say in what can be wrong with a block: `void_expand` holds for
any two writers, and `check` is one of them. All that counts is which placeholders there are and
which kinds of arguments (`sound_iff_placeholders`).
-/

namespace CrudForge.CodeBlock

variable {write : CodeArg → String} {format : String} {position : Nat}

/-! ## What a format stands for -/

/-- The text that a format stands for if its placeholders take some arguments, one after the
other. -/
inductive Expansion (write : CodeArg → String) : List Char → List CodeArg → List Char → Prop
  | nil : Expansion write [] [] []
  | char {c : Char} {cs text : List Char} {args : List CodeArg} :
    c ≠ '$' → Expansion write cs args text → Expansion write (c :: cs) args (c :: text)
  | dollar {cs text : List Char} {args : List CodeArg} :
    Expansion write cs args text → Expansion write ('$' :: '$' :: cs) args ('$' :: text)
  | arg (a : CodeArg) {cs text : List Char} {args : List CodeArg} :
    Expansion write cs args text →
    Expansion write ('$' :: a.marker :: cs) (a :: args) ((write a).toList ++ text)

theorem Expansion.append {cs cs' text text' : List Char} {args args' : List CodeArg}
    (left : Expansion write cs args text) (right : Expansion write cs' args' text') :
    Expansion write (cs ++ cs') (args ++ args') (text ++ text') := by
  induction left with
  | nil => exact right
  | char plain _ ih => exact .char plain ih
  | dollar _ ih => exact .dollar ih
  | arg a _ ih =>
    rw [List.append_assoc]
    exact .arg a ih

theorem Expansion.plain {cs : List Char} (free : '$' ∉ cs) : Expansion write cs [] cs := by
  induction cs with
  | nil => exact .nil
  | cons c cs ih =>
    rw [List.mem_cons, not_or] at free
    exact .char (Ne.symm free.1) (ih free.2)

theorem Expansion.single (write : CodeArg → String) (a : CodeArg) :
    Expansion write ['$', a.marker] [a] (write a).toList := by
  have step := @Expansion.arg write a [] [] [] .nil
  rwa [List.append_nil] at step

theorem marker_ne_dollar (a : CodeArg) : a.marker ≠ '$' := by
  cases a <;> simp [CodeArg.marker]

theorem isMarker (a : CodeArg) :
    (a.marker = 'N' || a.marker = 'S' || a.marker = 'L') = true := by
  cases a <;> rfl

theorem expandFrom_char {c : Char} (plain : c ≠ '$') (cs : List Char) (args : List CodeArg) :
    expandFrom write format position (c :: cs) args =
      (c :: ·) <$> expandFrom write format position cs args := by
  rw [expandFrom]
  · exact fun same => absurd same plain
  · exact fun _ _ same => absurd same plain

theorem expandFrom_dollar (cs : List Char) (args : List CodeArg) :
    expandFrom write format position ('$' :: '$' :: cs) args =
      ('$' :: ·) <$> expandFrom write format position cs args := by
  cases args <;> simp only [expandFrom, if_true]

theorem expandFrom_arg (a : CodeArg) (cs : List Char) (args : List CodeArg) :
    expandFrom write format position ('$' :: a.marker :: cs) (a :: args) =
      ((write a).toList ++ ·) <$> expandFrom write format (position + 1) cs args := by
  simp only [expandFrom, marker_ne_dollar a, isMarker a, if_true, if_false]

theorem Expansion.expandFrom_eq {cs text : List Char} {args : List CodeArg}
    (expansion : Expansion write cs args text) (position : Nat) :
    expandFrom write format position cs args = .ok text := by
  induction expansion generalizing position with
  | nil => rfl
  | char plain _ ih => rw [expandFrom_char plain, ih]; rfl
  | dollar _ ih => rw [expandFrom_dollar, ih]; rfl
  | arg a _ ih => rw [expandFrom_arg, ih]; rfl

theorem Expansion.of_expandFrom {cs text : List Char} {args : List CodeArg}
    (expanded : expandFrom write format position cs args = .ok text) :
    Expansion write cs args text := by
  fun_induction expandFrom write format position cs args generalizing text with
  | case1 =>
    cases expanded
    exact .nil
  | case4 position rest args ih =>
    obtain ⟨tail, more, rfl⟩ := Outcome.map_eq_ok_iff.1 expanded
    exact .dollar (ih more)
  | case6 position rest a args _ _ ih =>
    obtain ⟨tail, more, rfl⟩ := Outcome.map_eq_ok_iff.1 expanded
    exact .arg a (ih more)
  | case9 position c rest args last inner ih =>
    obtain ⟨tail, more, rfl⟩ := Outcome.map_eq_ok_iff.1 expanded
    refine .char (fun same => ?_) (ih more)
    cases rest with
    | nil => exact last same rfl
    | cons marker rest => exact inner marker rest same rfl
  | case2 | case3 | case5 | case7 | case8 => cases expanded

/-- Expanding finds the text that a format stands for, if there is one. -/
theorem expandFrom_eq_ok_iff {cs text : List Char} {args : List CodeArg} :
    expandFrom write format position cs args = .ok text ↔ Expansion write cs args text :=
  ⟨.of_expandFrom, fun expansion => expansion.expandFrom_eq position⟩

/-! ## Soundness does not depend on the writer -/

/-- What is wrong with a block, if anything is, does not depend on how arguments are written. -/
theorem void_expandFrom (write write' : CodeArg → String) (format : String) (position : Nat)
    (cs : List Char) (args : List CodeArg) :
    (fun _ => ()) <$> expandFrom write format position cs args =
      (fun _ => ()) <$> expandFrom write' format position cs args := by
  have step (f g : List Char → List Char) {x y : Except CodeFault (List Char)}
      (same : (fun _ => ()) <$> x = (fun _ => ()) <$> y) :
      (fun _ => ()) <$> f <$> x = (fun _ => ()) <$> g <$> y := by
    cases x <;> cases y <;> first | rfl | exact same
  fun_induction expandFrom write format position cs args with
  | case1 | case2 | case3 => rfl
  | case4 position rest args ih =>
    rw [expandFrom_dollar]
    exact step _ _ ih
  | case6 position rest a args _ _ ih =>
    rw [expandFrom_arg]
    exact step _ _ ih
  | case5 position marker rest notDollar letter =>
    simp only [expandFrom, notDollar, letter, if_true, if_false]
  | case7 position marker rest notDollar letter a args other =>
    simp only [expandFrom, notDollar, letter, other, if_true, if_false]
  | case8 position marker rest args notDollar letter =>
    cases args <;> simp only [expandFrom, notDollar, letter, Bool.false_eq_true, if_false]
  | case9 position c rest args last inner ih =>
    have plain : expandFrom write' format position (c :: rest) args =
        (c :: ·) <$> expandFrom write' format position rest args := by
      rw [expandFrom]
      · exact last
      · exact inner
    rw [plain]
    exact step _ _ ih

theorem void_expand (write : CodeArg → String) (block : CodeBlock) :
    (fun _ => ()) <$> block.expand write = block.check := by
  have same := void_expandFrom write (fun _ => "") block.format 0 block.format.toList block.args
  rw [check, expand, expand]
  cases left : expandFrom write block.format 0 block.format.toList block.args <;>
    cases right : expandFrom (fun _ => "") block.format 0 block.format.toList block.args <;>
    rw [left, right] at same <;> first | rfl | exact same

/-- A block with a fault cannot be written in any way, and the fault is always the same. -/
theorem expand_eq_error_iff {block : CodeBlock} {fault : CodeFault} :
    block.expand write = .error fault ↔ block.check = .error fault := by
  rw [← void_expand write block, Outcome.map_eq_error_iff]

theorem exists_expand_eq_ok_iff {block : CodeBlock} :
    (∃ text, block.expand write = .ok text) ↔ block.check = .ok () := by
  rw [← void_expand write block, Outcome.map_eq_ok_iff]
  simp only [and_true]

/-! ## Sound blocks -/

/-- The placeholders and the arguments of a block fit together. -/
def Sound (block : CodeBlock) : Prop :=
  block.check = .ok ()

theorem sound_iff {block : CodeBlock} :
    block.Sound ↔ ∃ text, Expansion (fun _ => "") block.format.toList block.args text := by
  rw [Sound, ← @exists_expand_eq_ok_iff fun _ => "", expand]
  constructor
  · rintro ⟨text, expanded⟩
    obtain ⟨cs, found, -⟩ := Outcome.map_eq_ok_iff.1 expanded
    exact ⟨cs, expandFrom_eq_ok_iff.1 found⟩
  · rintro ⟨cs, expansion⟩
    exact ⟨String.ofList cs, by rw [expansion.expandFrom_eq]; rfl⟩

/-- The letters of the placeholders of a format; none if a dollar sign stands for nothing. -/
def placeholders? : List Char → Option (List Char)
  | [] => some []
  | ['$'] => none
  | '$' :: marker :: rest =>
    if marker = '$' then placeholders? rest
    else if marker = 'N' || marker = 'S' || marker = 'L' then
      (marker :: ·) <$> placeholders? rest
    else none
  | _ :: rest => placeholders? rest

theorem placeholders?_char {c : Char} (plain : c ≠ '$') (cs : List Char) :
    placeholders? (c :: cs) = placeholders? cs := by
  rw [placeholders?]
  · exact fun same => absurd same plain
  · exact fun _ _ same => absurd same plain

theorem Expansion.placeholders?_eq {cs text : List Char} {args : List CodeArg}
    (expansion : Expansion write cs args text) :
    placeholders? cs = some (args.map CodeArg.marker) := by
  induction expansion with
  | nil => rfl
  | char plain _ ih => rw [placeholders?_char plain, ih]
  | dollar _ ih => rw [placeholders?, if_pos rfl, ih]
  | arg a _ ih =>
    rw [placeholders?, if_neg (marker_ne_dollar a), if_pos (isMarker a), ih]
    rfl

theorem Expansion.of_placeholders? {cs : List Char} {args : List CodeArg}
    (fit : placeholders? cs = some (args.map CodeArg.marker)) :
    ∃ text, Expansion write cs args text := by
  fun_induction placeholders? cs generalizing args with
  | case1 =>
    cases args with
    | nil => exact ⟨[], .nil⟩
    | cons a args => cases fit
  | case2 => cases fit
  | case3 rest ih =>
    obtain ⟨text, expansion⟩ := ih fit
    exact ⟨_, .dollar expansion⟩
  | case4 marker rest notDollar letter ih =>
    obtain ⟨markers, found, same⟩ := Option.map_eq_some_iff.1 fit
    cases args with
    | nil => cases same
    | cons a args =>
      obtain ⟨rfl, rfl⟩ := List.cons.inj same
      obtain ⟨text, expansion⟩ := ih found
      exact ⟨_, .arg a expansion⟩
  | case5 => cases fit
  | case6 c rest last inner ih =>
    obtain ⟨text, expansion⟩ := ih fit
    refine ⟨_, .char (fun same => ?_) expansion⟩
    cases rest with
    | nil => exact last same rfl
    | cons marker rest => exact inner marker rest same rfl

/-- A block is sound iff the placeholders of its format are the letters of its arguments. -/
theorem sound_iff_placeholders {block : CodeBlock} :
    block.Sound ↔ placeholders? block.format.toList = some (block.args.map CodeArg.marker) := by
  rw [sound_iff]
  constructor
  · rintro ⟨text, expansion⟩
    exact expansion.placeholders?_eq
  · exact Expansion.of_placeholders?

theorem sound_of_letters {format : String} {args : List CodeArg} (letters : List Char)
    (found : placeholders? format.toList = some letters)
    (fit : args.map CodeArg.marker = letters) : Sound ⟨format, args⟩ :=
  sound_iff_placeholders.2 (fit ▸ found)

/-- Sound blocks make a sound block, one behind the other. -/
theorem Sound.append {f g : String} {xs ys : List CodeArg}
    (left : Sound ⟨f, xs⟩) (right : Sound ⟨g, ys⟩) : Sound ⟨f ++ g, xs ++ ys⟩ := by
  obtain ⟨text, expansion⟩ := sound_iff.1 left
  obtain ⟨text', expansion'⟩ := sound_iff.1 right
  refine sound_iff.2 ⟨text ++ text', ?_⟩
  rw [String.toList_append]
  exact expansion.append expansion'

/-- Placeholders between commas, each of which takes one argument. -/
theorem sound_list {markers : List String} {args : List CodeArg}
    (fit : List.Forall₂ (fun marker arg => Sound ⟨marker, [arg]⟩) markers args) :
    Sound ⟨", ".intercalate markers, args⟩ := by
  induction fit with
  | nil => rfl
  | cons first rest ih =>
    cases rest with
    | nil => exact first
    | cons second rest =>
      have comma : Sound ⟨", ", []⟩ := rfl
      simp only [String.intercalate_cons_cons]
      exact (first.append comma).append ih

theorem sound_name (name : String) : Sound ⟨"$N", [.name name]⟩ :=
  sound_of_letters ['N'] (by decide) rfl

end CrudForge.CodeBlock
