import CrudForge.Grammar.Recognize

/-!
# Reading step by step

What a repetition reads is told step by step (`iterate_next`, `iterate_end`): the fuel of a
repetition never runs out as long as each step reads something. The rest of this module says what
the tests of the grammar answer in front of a name, that is a word which is no keyword.
-/

namespace CrudForge.Grammar

variable {α σ : Type} {ts rest : List Token}

/-! ## Readers -/

theorem run_ask (t : Test) (ts : List Token) : (ask t).run ts = some (t ts, ts) := rfl

theorem run_take {t : Test} (passed : t ts = true) : (take t).run ts = some ((), skip ts) := by
  simp [take, passed]

theorem run_take_none {t : Test} (failed : t ts = false) : (take t).run ts = none := by
  have read : (take t).run ts =
      (if t ts then set (skip ts) else failure : Read Unit).run ts := rfl
  rw [read, failed]
  rfl

theorem run_tryWord_none {w : String} (other : word w ts = false) :
    (tryWord w).run ts = some (false, ts) := by
  simp [tryWord, run_ask, other]

theorem run_tryMarks_none {s : String} (other : marks s ts = false) :
    (tryMarks s).run ts = some (false, ts) := by
  simp [tryMarks, run_ask, other]

/-- A group is read if its content is. -/
theorem run_inside {d : Delimiter} {p : Read α} {content : List Token} {a : α}
    (read : p.run content = some (a, [])) :
    (inside d p).run (.group d content :: rest) = some (a, rest) := by
  simp [inside, read]

theorem run_plainly {p : Read Shape} {shape : Shape} (read : p.run ts = some (shape, rest)) :
    (plainly p).run ts = some ((), rest) := by
  simp [plainly, read]

theorem run_attempt_none {p : Read α} (failed : p.run ts = none) :
    (attempt p).run ts = some (none, ts) := by
  have failed' : p ts = none := failed
  simp [attempt, StateT.run, failed']

/-! ## Repetition -/

section Repetition

variable {step : σ → Read (Option σ)} {s s' : σ} {fuel : Nat}

theorem iterateWith_succ (step : σ → Read (Option σ)) (fuel : Nat) (s : σ) (ts : List Token) :
    (iterateWith step (fuel + 1) s).run ts = ((step s).run ts).bind fun (next, ts') =>
      match next with
      | some s' => (iterateWith step fuel s').run ts'
      | none => some (s, ts') := by
  rw [iterateWith, StateT.run_bind]
  cases (step s).run ts with
  | none => rfl
  | some found =>
    obtain ⟨next, ts'⟩ := found
    cases next <;> rfl

/-- More fuel does no harm. -/
theorem iterateWith_mono {more : Nat} (enough : fuel ≤ more) {found : σ × List Token}
    (read : (iterateWith step fuel s).run ts = some found) :
    (iterateWith step more s).run ts = some found := by
  induction fuel generalizing more s ts with
  | zero => cases read
  | succ fuel ih =>
    obtain ⟨more, rfl⟩ : ∃ n, more = n + 1 := ⟨more - 1, by omega⟩
    rw [iterateWith_succ] at read ⊢
    obtain ⟨⟨next, ts'⟩, first, then_⟩ := Option.bind_eq_some_iff.1 read
    rw [first, Option.bind_some]
    cases next with
    | none => exact then_
    | some s' => exact ih (Nat.le_of_succ_le_succ enough) then_

theorem run_iterate (step : σ → Read (Option σ)) (s : σ) (ts : List Token) :
    (iterate step s).run ts = (iterateWith step (ts.length + 1) s).run ts := rfl

theorem iterate_end (stop : (step s).run ts = some (none, rest)) :
    (iterate step s).run ts = some (s, rest) := by
  rw [run_iterate, iterateWith_succ, stop]
  rfl

/-- A step that reads something, and the repetition behind it. -/
theorem iterate_next {ts' : List Token} {found : σ × List Token}
    (first : (step s).run ts = some (some s', ts')) (shorter : ts'.length < ts.length)
    (more : (iterate step s').run ts' = some found) : (iterate step s).run ts = some found := by
  rw [run_iterate, iterateWith_succ, first]
  exact iterateWith_mono shorter more

end Repetition

theorem repeatSteps_end {step : Read Bool} (stop : step.run ts = some (false, rest)) :
    (repeatSteps step).run ts = some ((), rest) := by
  refine iterate_end ?_
  simp [stop]

theorem repeatSteps_next {step : Read Bool} {ts' : List Token}
    (first : step.run ts = some (true, ts')) (shorter : ts'.length < ts.length)
    (more : (repeatSteps step).run ts' = some ((), rest)) :
    (repeatSteps step).run ts = some ((), rest) := by
  refine iterate_next ?_ shorter more
  simp [first]

theorem whileNext_end {t : Test} {p : Read Unit} (stop : t ts = false) :
    (whileNext t p).run ts = some ((), ts) := by
  refine repeatSteps_end ?_
  simp [run_ask, stop]

theorem whileNext_next {t : Test} {p : Read Unit} {ts' : List Token} (go : t ts = true)
    (first : p.run ts = some ((), ts')) (shorter : ts'.length < ts.length)
    (more : (whileNext t p).run ts' = some ((), rest)) :
    (whileNext t p).run ts = some ((), rest) := by
  refine repeatSteps_next ?_ shorter more
  simp [run_ask, go, first]

theorem many_end {p : Read Unit} : (many p).run [] = some ((), []) :=
  repeatSteps_end rfl

theorem many_next {p : Read Unit} {ts' : List Token} (first : p.run ts = some ((), ts'))
    (shorter : ts'.length < ts.length) (more : (many p).run ts' = some ((), rest)) :
    (many p).run ts = some ((), rest) := by
  refine repeatSteps_next ?_ shorter more
  have notEnd : atEnd ts = false := by
    cases ts with
    | nil => exact absurd shorter (Nat.not_lt_zero _)
    | cons => rfl
  simp [run_ask, notEnd, first]

/-- Phrases one after the other, up to the end. -/
theorem many_flatten {p : Read Unit} {phrases : List (List Token)}
    (read : ∀ ts ∈ phrases, ts ≠ [] ∧ ∀ more, p.run (ts ++ more) = some ((), more)) :
    (many p).run phrases.flatten = some ((), []) := by
  induction phrases with
  | nil => exact many_end
  | cons ts phrases ih =>
    obtain ⟨some, first⟩ := read ts List.mem_cons_self
    have length := List.length_pos_iff.2 some
    rw [List.flatten_cons]
    refine many_next (first _) ?_ (ih fun us mem => read us (List.mem_cons_of_mem _ mem))
    rw [List.length_append]
    omega

/-! ### Phrases between marks -/

section Listed

variable {sep : String} {stop : Test} {p : Read Unit}

theorem listed_end (done : stop ts = true) : (listed sep stop p).run ts = some ((), ts) := by
  refine repeatSteps_end ?_
  simp [run_ask, done]

theorem listed_last (go : stop ts = false) (first : p.run ts = some ((), rest))
    (done : stop rest = true) : (listed sep stop p).run ts = some ((), rest) := by
  refine repeatSteps_end ?_
  simp [run_ask, go, first, done]

theorem listed_next {ts' ts'' : List Token} (go : stop ts = false)
    (first : p.run ts = some ((), ts')) (on : stop ts' = false)
    (mark : (takeMarks sep).run ts' = some ((), ts'')) (shorter : ts''.length < ts.length)
    (more : (listed sep stop p).run ts'' = some ((), rest)) :
    (listed sep stop p).run ts = some ((), rest) := by
  refine repeatSteps_next ?_ shorter more
  simp [run_ask, go, first, on, mark]

end Listed

/-- A comma in front of something that is no mark. -/
def comma : Token := .mark ',' false

/-- Phrases that are read one after the other, with commas between them. -/
theorem listed_commas {stop : Test} {p : Read Unit} {phrases : List (List Token)}
    (notComma : ∀ ts, stop (comma :: ts) = false) (done : stop rest = true)
    (nonempty : phrases ≠ [])
    (read : ∀ ts ∈ phrases, ∀ more, stop more = true ∨ (∃ us, more = comma :: us) →
      stop (ts ++ more) = false ∧ p.run (ts ++ more) = some ((), more)) :
    (listed "," stop p).run ([comma].intercalate phrases ++ rest) = some ((), rest) := by
  induction phrases with
  | nil => exact absurd rfl nonempty
  | cons ts phrases ih =>
    have head := read ts List.mem_cons_self
    cases phrases with
    | nil =>
      obtain ⟨go, first⟩ := head rest (.inl done)
      simpa using listed_last go first done
    | cons us phrases =>
      have tail := ih (List.cons_ne_nil _ _) fun ts mem => read ts (List.mem_cons_of_mem _ mem)
      obtain ⟨go, first⟩ := head (comma :: ([comma].intercalate (us :: phrases) ++ rest))
        (.inr ⟨_, rfl⟩)
      have split : [comma].intercalate (ts :: us :: phrases) ++ rest =
          ts ++ comma :: ([comma].intercalate (us :: phrases) ++ rest) := by
        simp [List.intercalate_cons_cons]
      rw [split]
      refine listed_next go first (notComma _) rfl ?_ tail
      simp only [List.length_append, List.length_cons]
      omega

end CrudForge.Grammar
