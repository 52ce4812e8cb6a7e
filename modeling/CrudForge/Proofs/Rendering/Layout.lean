import CrudForge.Proofs.Code.Levels
import CrudForge.Proofs.Rendering.BodyAgreement

/-!
# The layout of bodies

A body that is accepted becomes lines one by one, and the indentation of a line tells how many
blocks enclose its fragment. A block is closed and continued at the indentation at which it was
opened, and everything inside of it is deeper (`bodyLines_layout`).
-/

namespace CrudForge.Rendering

/-- A line holds the text of one fragment, behind four spaces for each level. -/
structure Holds (g : TargetGrammar) (f : Fragment) (line : BodyLine) : Prop where
  text : ∃ code, printedCode g f = .ok code ∧ line.text = lineText f code
  written : line.render =
    String.ofList (List.replicate (4 * (2 + line.depth)) ' ') ++ line.text ++ "\n"

/-- The lines of a body as its blocks ask for them. -/
structure LaidOut (g : TargetGrammar) (body : List Fragment) (lines : List BodyLine) : Prop where
  /-- There is one line for each fragment, in order. -/
  each : List.Forall₂ (Holds g) body lines
  /-- The level of a line is the number of blocks around its fragment. -/
  depth : ∀ k line, lines[k]? = some line → line.depth = enclosing body k
  /-- A block has its own lines at the level of the first, and those inside of it deeper. -/
  block : ∀ b i, Block.At b body i → ∃ depth, List.Forall₂ (SameOrDeeper depth) b.inside
    (((lines.drop i).take b.fragments.length).map (·.depth))
  /-- Whatever opens a block, goes on with one or closes one does so for a block of the body. -/
  bound : ∀ k f, body[k]? = some f → f.isBound → Bounds body k

variable {g : TargetGrammar} {method : String} {depth depth' : Nat} {f : Fragment}
  {body : List Fragment}

theorem join_replicate_indent (n : Nat) :
    String.join (List.replicate n indent) = String.ofList (List.replicate (4 * n) ' ') := by
  induction n with
  | zero => rfl
  | succ n ih =>
    have step : indent = String.ofList (List.replicate 4 ' ') := rfl
    rw [List.replicate_succ, String.join_cons, ih, step, ← String.ofList_append,
      List.replicate_append_replicate, Nat.mul_succ, Nat.add_comm]

theorem render_eq (line : BodyLine) :
    line.render =
      String.ofList (List.replicate (4 * (2 + line.depth)) ' ') ++ line.text ++ "\n" := by
  rw [BodyLine.render, join_replicate_indent]

/-- Fragments that have nothing wrong with them are written one after the other, and so is what
stands behind them. -/
theorem exists_lines (passes : CodePasses body) (opened : openBehind depth body = some depth') :
    ∃ lines, List.Forall₂ (Holds g) body lines ∧ lines.map (·.depth) = levels depth body ∧
      ∀ rest, bodyLinesFrom g method depth (body ++ rest) =
        (lines ++ ·) <$> bodyLinesFrom g method depth' rest := by
  rw [codePasses_iff] at passes
  induction body generalizing depth with
  | nil =>
    cases opened
    exact ⟨[], .nil, rfl, fun rest => (id_map _).symm⟩
  | cons f body ih =>
    obtain ⟨sound, passes⟩ := List.forall_mem_cons.1 passes
    rcases openBehind_cons_eq_some_iff.1 opened with ⟨next, goesOn, opened⟩
    obtain ⟨lines, each, depths, written⟩ := ih passes opened
    obtain ⟨code, printed⟩ := exists_printedCode_iff.2 sound
    refine ⟨⟨f.level depth, lineText f code⟩ :: lines, ?_, ?_, fun rest => ?_⟩
    · exact .cons ⟨⟨code, printed, rfl⟩, render_eq _⟩ each
    · rw [List.map_cons, depths, levels_cons goesOn]
    · rw [List.cons_append, bodyLinesFrom_cons printed goesOn, written]
      cases bodyLinesFrom g method depth' rest <;> rfl

theorem laidOut_of_levels {lines : List BodyLine} (derivable : Derivable body)
    (each : List.Forall₂ (Holds g) body lines) (depths : lines.map (·.depth) = levels 0 body) :
    LaidOut g body lines where
  each := each
  depth k line here := by
    have counted := derivable.levels_eq []
    rw [List.append_nil, ← depths] at counted
    have among : k < body.length := by
      rw [each.length_eq]
      exact (List.getElem?_eq_some_iff.1 here).1
    have place : (lines.map (·.depth))[k]? = (enclosings body.length body)[k]? := by rw [counted]
    rw [List.getElem?_map, here, enclosings, List.getElem?_map, List.getElem?_range among] at place
    exact Option.some.inj place
  block b i stands := by
    have levels := stands.forall₂_levels derivable
    rw [← depths, ← List.map_drop, ← List.map_take] at levels
    exact levels
  bound _ _ here bound := derivable.bounds here bound

/-- A body that is accepted is laid out as its blocks ask for, and these lines are the body of the
method. Behind it, writing is back at the level of the method: whatever follows is laid out as if
it stood alone. -/
theorem bodyLines_layout (g : TargetGrammar) (m : Method) (accepted : checkBody m.body = .ok ()) :
    ∃ lines, bodyLines g m.name m.body = .ok lines ∧ LaidOut g m.body lines ∧
      (∀ rest, bodyLines g m.name (m.body ++ rest) =
        (lines ++ ·) <$> bodyLines g m.name rest) ∧
      ∀ id, renderMethod g id m =
        (methodText m id · lines) <$> paramsFrom g m.name [] m.params := by
  obtain ⟨passes, derivable⟩ := checkBody_eq_ok_iff_derivable.1 accepted
  obtain ⟨lines, each, depths, written⟩ :=
    @exists_lines g m.name _ _ _ passes (derivable.openBehind 0)
  have whole : bodyLines g m.name m.body = .ok lines := by
    have alone := written []
    rw [List.append_nil] at alone
    rw [bodyLines, alone, bodyLinesFrom]
    exact congrArg Except.ok (List.append_nil lines)
  refine ⟨lines, whole, laidOut_of_levels derivable each depths, written, fun id => ?_⟩
  rw [renderMethod, whole]
  cases paramsFrom g m.name [] m.params <;> rfl

/-- A method with a block inside of a block that goes on twice. -/
def branchingMethod : Method where
  name := "pick"
  params := []
  failures := .empty
  body :=
    [.beginBlock ⟨"if a", []⟩, .statement ⟨"one()", []⟩, .nextBlock ⟨"else if b", []⟩,
      .beginBlock ⟨"loop", []⟩, .expr ⟨"two()", []⟩, .endBlock true, .nextBlock ⟨"else", []⟩,
      .endBlock false]

theorem bodyLines_layout_branchingMethod :
    checkBody branchingMethod.body = .ok () ∧
      ∃ lines, bodyLines .standard "pick" branchingMethod.body = .ok lines ∧
        LaidOut .standard branchingMethod.body lines ∧
        lines.map (·.depth) = [0, 1, 0, 1, 2, 1, 0, 0] := by
  obtain ⟨lines, written, laidOut, -⟩ := bodyLines_layout .standard branchingMethod rfl
  refine ⟨rfl, lines, written, laidOut, ?_⟩
  have same : bodyLines .standard "pick" branchingMethod.body = .ok
      [⟨0, "if a \x7b"⟩, ⟨1, "one();"⟩, ⟨0, "\x7d else if b \x7b"⟩, ⟨1, "loop \x7b"⟩, ⟨2, "two()"⟩,
        ⟨1, "\x7d;"⟩, ⟨0, "\x7d else \x7b"⟩, ⟨0, "\x7d"⟩] := by
    decide +kernel
  cases written.symm.trans same
  rfl

end CrudForge.Rendering
