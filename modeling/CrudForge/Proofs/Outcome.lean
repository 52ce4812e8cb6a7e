import Mathlib.Data.List.Forall2

/-!
# Outcomes of computations that can fail

`Except` computations are taken apart at their sequencing: a sequence succeeds iff both halves do,
and fails with the error of the first half that fails. `mapM_eq_error_iff` says the same of a
traversal: its error is that of the first element at which the step fails.
-/

namespace CrudForge.Outcome

variable {ε ε' α β : Type}

@[simp] theorem bind_eq_ok_iff {x : Except ε α} {f : α → Except ε β} {b : β} :
    (x >>= f) = .ok b ↔ ∃ a, x = .ok a ∧ f a = .ok b := by
  cases x <;> simp [bind, Except.bind]

@[simp] theorem bind_eq_error_iff {x : Except ε α} {f : α → Except ε β} {e : ε} :
    (x >>= f) = .error e ↔ x = .error e ∨ ∃ a, x = .ok a ∧ f a = .error e := by
  cases x <;> simp [bind, Except.bind]

@[simp] theorem map_eq_ok_iff {x : Except ε α} {f : α → β} {b : β} :
    f <$> x = .ok b ↔ ∃ a, x = .ok a ∧ f a = b := by
  cases x <;> simp [Functor.map, Except.map]

@[simp] theorem map_eq_error_iff {x : Except ε α} {f : α → β} {e : ε} :
    f <$> x = .error e ↔ x = .error e := by
  cases x <;> simp [Functor.map, Except.map]

@[simp] theorem pure_eq_ok_iff {a b : α} : (pure a : Except ε α) = .ok b ↔ a = b := by
  simp [pure, Except.pure]

@[simp] theorem pure_ne_error {a : α} {e : ε} : (pure a : Except ε α) ≠ .error e := by
  simp [pure, Except.pure]

@[simp] theorem throw_eq_error_iff {e e' : ε} :
    (throw e : Except ε α) = .error e' ↔ e = e' := by
  simp [throw, throwThe, MonadExceptOf.throw]

@[simp] theorem mapError_eq_ok_iff {x : Except ε α} {f : ε → ε'} {a : α} :
    x.mapError f = .ok a ↔ x = .ok a := by
  cases x <;> simp [Except.mapError]

@[simp] theorem mapError_eq_error_iff {x : Except ε α} {f : ε → ε'} {e : ε'} :
    x.mapError f = .error e ↔ ∃ e', x = .error e' ∧ f e' = e := by
  cases x <;> simp [Except.mapError]

theorem ok_ne_error {a : α} {e : ε} : (.ok a : Except ε α) ≠ .error e := by
  intro same
  cases same

theorem not_exists_error_eq_ok {e : ε} : ¬ ∃ a, (.error e : Except ε α) = .ok a := by
  rintro ⟨a, same⟩
  cases same

/-- A computation either succeeds or fails. -/
theorem ok_or_error (x : Except ε α) : (∃ a, x = .ok a) ∨ ∃ e, x = .error e := by
  cases x with
  | ok a => exact .inl ⟨a, rfl⟩
  | error e => exact .inr ⟨e, rfl⟩

/-! ## Traversals -/

/-- A traversal succeeds iff its step does at every element, one result for each. -/
theorem mapM_eq_ok_iff {f : α → Except ε β} {xs : List α} {ys : List β} :
    xs.mapM f = .ok ys ↔ List.Forall₂ (fun x y => f x = .ok y) xs ys := by
  induction xs generalizing ys with
  | nil => rw [List.mapM_nil, pure_eq_ok_iff, List.forall₂_nil_left_iff, eq_comm]
  | cons x xs ih =>
    rw [List.mapM_cons, bind_eq_ok_iff, List.forall₂_cons_left_iff]
    constructor
    · rintro ⟨y, head, rest⟩
      obtain ⟨tail, traversed, last⟩ := bind_eq_ok_iff.1 rest
      exact ⟨y, tail, head, ih.1 traversed, (pure_eq_ok_iff.1 last).symm⟩
    · rintro ⟨y, tail, head, traversed, rfl⟩
      exact ⟨y, head, bind_eq_ok_iff.2 ⟨tail, ih.2 traversed, rfl⟩⟩

/-- Where results are known as soon as there are any, so are those of a traversal. -/
theorem map_eq_of_mapM {f : α → Except ε β} {g : α → β} {xs : List α} {ys : List β}
    (same : ∀ x y, f x = .ok y → g x = y) (traversed : xs.mapM f = .ok ys) : xs.map g = ys := by
  have related := (mapM_eq_ok_iff.1 traversed).imp same
  rw [← List.forall₂_map_left_iff, List.forall₂_eq_eq_eq] at related
  exact related

/-- Every element on the right of two lists that are related one to one has its partner. -/
theorem exists_of_mem_right {R : α → β → Prop} {xs : List α} {ys : List β} {y : β}
    (related : List.Forall₂ R xs ys) (mem : y ∈ ys) : ∃ x ∈ xs, R x y := by
  induction related with
  | nil => cases mem
  | @cons x z xs zs head _ ih =>
    rcases List.mem_cons.1 mem with rfl | mem
    · exact ⟨x, List.mem_cons_self, head⟩
    · obtain ⟨x', mem', found⟩ := ih mem
      exact ⟨x', List.mem_cons_of_mem _ mem', found⟩

/-- Whether a traversal succeeds depends on its step at each element alone. -/
theorem exists_mapM_eq_ok_iff {f : α → Except ε β} {xs : List α} :
    (∃ ys, xs.mapM f = .ok ys) ↔ ∀ x ∈ xs, ∃ y, f x = .ok y := by
  induction xs with
  | nil => simp
  | cons x xs ih =>
    simp only [List.mapM_cons, bind_eq_ok_iff, pure_eq_ok_iff, List.forall_mem_cons, ← ih]
    constructor
    · rintro ⟨_, y, head, tail, traversed, -⟩
      exact ⟨⟨y, head⟩, tail, traversed⟩
    · rintro ⟨⟨y, head⟩, tail, traversed⟩
      exact ⟨_, y, head, tail, traversed, rfl⟩

/-- A traversal fails with the error of the first element at which its step fails. -/
theorem mapM_eq_error_iff {f : α → Except ε β} {xs : List α} {e : ε} :
    xs.mapM f = .error e ↔
      ∃ front x back, xs = front ++ x :: back ∧ (∀ y ∈ front, ∃ b, f y = .ok b) ∧
        f x = .error e := by
  induction xs with
  | nil => simp
  | cons x xs ih =>
    simp only [List.mapM_cons, bind_eq_error_iff, pure_ne_error, and_false, exists_false, or_false]
    constructor
    · rintro (head | ⟨y, head, tail⟩)
      · exact ⟨[], x, xs, rfl, by simp, head⟩
      · obtain ⟨front, z, back, rfl, passed, failed⟩ := ih.1 tail
        exact ⟨x :: front, z, back, rfl, List.forall_mem_cons.2 ⟨⟨y, head⟩, passed⟩, failed⟩
    · rintro ⟨front, z, back, split, passed, failed⟩
      cases front with
      | nil =>
        obtain ⟨rfl, rfl⟩ := List.cons.inj split
        exact .inl failed
      | cons w front =>
        obtain ⟨rfl, rfl⟩ := List.cons.inj split
        obtain ⟨⟨y, head⟩, passed⟩ := List.forall_mem_cons.1 passed
        exact .inr ⟨y, head, ih.2 ⟨front, z, back, rfl, passed, failed⟩⟩

/-! ## Traversals in another order -/

theorem filterMap_eq_of_mapM {f : α → Except ε β} {xs : List α} {ys : List β}
    (traversed : xs.mapM f = .ok ys) : xs.filterMap (fun x => (f x).toOption) = ys := by
  rw [mapM_eq_ok_iff] at traversed
  induction traversed with
  | nil => rfl
  | cons head _ ih =>
    rw [List.filterMap_cons, head, ih]
    rfl

/-- A traversal that succeeds does so in any order, and its results are in that order then. -/
theorem mapM_perm {f : α → Except ε β} {xs xs' : List α} {ys : List β} (perm : xs.Perm xs')
    (traversed : xs.mapM f = .ok ys) : ∃ ys', xs'.mapM f = .ok ys' ∧ ys.Perm ys' := by
  have each := exists_mapM_eq_ok_iff.1 ⟨ys, traversed⟩
  obtain ⟨ys', traversed'⟩ := exists_mapM_eq_ok_iff.2 fun x mem => each x (perm.mem_iff.2 mem)
  refine ⟨ys', traversed', ?_⟩
  rw [← filterMap_eq_of_mapM traversed, ← filterMap_eq_of_mapM traversed']
  exact perm.filterMap _

end CrudForge.Outcome
