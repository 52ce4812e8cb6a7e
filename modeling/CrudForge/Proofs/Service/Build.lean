import CrudForge.Service.Builder
import CrudForge.Proofs.Code.Nesting
import CrudForge.Proofs.Naming.Repeat

/-!
# What comes of a builder

A builder makes a method iff no parameter repeats a name and the body is accepted; the method is
what has been collected, and a repeated name is reported before a fault of the body.
-/

namespace CrudForge.MethodBuilder

variable {b : MethodBuilder}

/-- The method that a builder stands for. -/
def method (b : MethodBuilder) : Method :=
  { name := b.name, params := b.params, failures := b.failures, body := b.body }

theorem build_eq_ok_iff {m : Method} :
    b.build = .ok m ↔
      (b.params.map (·.name)).Nodup ∧ checkBody b.body = .ok () ∧ b.method = m := by
  rw [build, ← Naming.firstRepeat?_eq_none_iff]
  cases Naming.firstRepeat? (b.params.map (·.name)) with
  | some name => simp
  | none =>
    cases checkBody b.body with
    | error fault => simp
    | ok _ => simp [method]

theorem build_eq_error_iff {e : GenerationError} :
    b.build = .error e ↔
      (∃ name, Naming.FirstRepeat (b.params.map (·.name)) name ∧
        e = .duplicateParameter b.name name) ∨
      (b.params.map (·.name)).Nodup ∧
        ∃ fault, checkBody b.body = .error fault ∧ e = .malformedBody b.name fault.message := by
  simp only [← Naming.firstRepeat?_eq_none_iff, ← Naming.firstRepeat?_eq_some_iff, build]
  cases Naming.firstRepeat? (b.params.map (·.name)) with
  | some name => simp [eq_comm]
  | none =>
    cases checkBody b.body with
    | error fault => simp [eq_comm]
    | ok _ => simp

/-- With a body that is accepted, all that can be wrong is a repeated parameter. -/
theorem build_eq_error_iff_of_body (sound : checkBody b.body = .ok ()) {e : GenerationError} :
    b.build = .error e ↔
      ∃ name, Naming.FirstRepeat (b.params.map (·.name)) name ∧
        e = .duplicateParameter b.name name := by
  simp [build_eq_error_iff, sound]

theorem exists_build_eq_ok_iff_of_body (sound : checkBody b.body = .ok ()) :
    (∃ m, b.build = .ok m) ↔ (b.params.map (·.name)).Nodup := by
  simp [build_eq_ok_iff, sound]

/-- The body of a method that has been built is accepted. -/
theorem checkBody_of_build {m : Method} (built : b.build = .ok m) : checkBody m.body = .ok () := by
  obtain ⟨-, accepted, rfl⟩ := build_eq_ok_iff.1 built
  exact accepted

end CrudForge.MethodBuilder
