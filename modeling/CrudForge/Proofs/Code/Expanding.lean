import CrudForge.Proofs.Code.Placeholders

/-!
# Texts of code blocks

The text of a block that has been put together is known from its pieces: pieces without a dollar
sign stand for themselves, a placeholder stands for its argument, and what stands side by side in
the format stands side by side in the text (`expand_append`, `expand_list`).
-/

namespace CrudForge.CodeBlock

variable {write : CodeArg → String} {f g t u : String} {xs ys : List CodeArg}

theorem expand_eq_ok_iff {block : CodeBlock} :
    block.expand write = .ok t ↔ Expansion write block.format.toList block.args t.toList := by
  rw [expand, Outcome.map_eq_ok_iff]
  simp only [expandFrom_eq_ok_iff]
  constructor
  · rintro ⟨cs, expansion, rfl⟩
    rwa [String.toList_ofList]
  · intro expansion
    exact ⟨_, expansion, String.ofList_toList⟩

theorem expand_append (left : expand write ⟨f, xs⟩ = .ok t) (right : expand write ⟨g, ys⟩ = .ok u) :
    expand write ⟨f ++ g, xs ++ ys⟩ = .ok (t ++ u) := by
  rw [expand_eq_ok_iff] at left right ⊢
  simp only [String.toList_append]
  exact left.append right

theorem expand_plain (free : '$' ∉ f.toList) : expand write ⟨f, []⟩ = .ok f :=
  expand_eq_ok_iff.2 (.plain free)

/-- A placeholder alone. -/
theorem expand_arg {a : CodeArg} (marked : f.toList = ['$', a.marker]) :
    expand write ⟨f, [a]⟩ = .ok (write a) := by
  rw [expand_eq_ok_iff, marked]
  exact .single write a

theorem expand_name (name : String) :
    expand write ⟨"$N", [.name name]⟩ = .ok (write (.name name)) :=
  expand_arg rfl

/-- Pieces between commas, each of which takes one argument. -/
theorem expand_list {α : Type} {pieces : List α} {marker text : α → String} {arg : α → CodeArg}
    (each : ∀ p ∈ pieces, expand write ⟨marker p, [arg p]⟩ = .ok (text p)) :
    expand write ⟨", ".intercalate (pieces.map marker), pieces.map arg⟩ =
      .ok (", ".intercalate (pieces.map text)) := by
  induction pieces with
  | nil => rfl
  | cons p pieces ih =>
    obtain ⟨first, rest⟩ := List.forall_mem_cons.1 each
    have more := ih rest
    cases pieces with
    | nil => simpa using first
    | cons q pieces =>
      have comma : expand write ⟨", ", []⟩ = .ok ", " := expand_plain (by decide)
      simp only [List.map_cons, String.intercalate_cons_cons] at more ⊢
      exact expand_append (expand_append first comma) more

end CrudForge.CodeBlock
