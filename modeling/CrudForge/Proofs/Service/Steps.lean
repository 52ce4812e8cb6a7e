import Mathlib.Logic.Relation
import CrudForge.Proofs.Service.Build

/-!
# Builders as records of their calls

A builder only collects, and it collects parameters, failures and fragments apart from each other.
So after any sequence of calls it holds the parameters and the fragments in the order in which they
were added and the set of the failures (`run_params`, `run_body`, `contains_run`), and what is built
depends on nothing else (`run_congr`). `build_run` says what is built, whichever way the calls are
mixed.

A call that adds code, from `statement` to `endBlock`, is the step `BuildStep.fragment` of what it
adds.
-/

namespace CrudForge

namespace FailureSet

theorem contains_insert {s : FailureSet} {kind kind' : FailureKind} :
    (s.insert kind).contains kind' = true ↔ s.contains kind' = true ∨ kind = kind' := by
  cases kind
  cases kind'
  exact iff_of_true rfl (.inr rfl)

/-- Sets with the same kinds are one set. -/
theorem eq_of_contains {s t : FailureSet}
    (same : ∀ kind, s.contains kind = true ↔ t.contains kind = true) : s = t := by
  rcases s with ⟨declared⟩
  rcases t with ⟨declared'⟩
  have here : declared = declared' := Bool.eq_iff_iff.2 (same .notFound)
  rw [here]

end FailureSet

/-- What a call of a builder adds to. -/
inductive StepKind
  /-- One or more parameters. -/
  | params
  /-- A way to fail. -/
  | failure
  /-- A fragment of the body. -/
  | body
  deriving DecidableEq, Repr

namespace BuildStep

/-- The kind of a call. -/
def kind : BuildStep → StepKind
  | param _ | params _ => .params
  | failure _ => .failure
  | fragment _ => .body

/-- The parameters that a call adds. -/
def addedParams : BuildStep → List Parameter
  | param p => [p]
  | params ps => ps
  | failure _ | fragment _ => []

/-- The fragments that a call adds. -/
def addedBody : BuildStep → List Fragment
  | fragment f => [f]
  | param _ | params _ | failure _ => []

theorem addedParams_eq_nil {step : BuildStep} (other : step.kind ≠ .params) :
    step.addedParams = [] := by
  cases step with
  | param p => exact absurd rfl other
  | params ps => exact absurd rfl other
  | failure kind => rfl
  | fragment f => rfl

theorem addedBody_eq_nil {step : BuildStep} (other : step.kind ≠ .body) :
    step.addedBody = [] := by
  cases step with
  | param p => rfl
  | params ps => rfl
  | failure kind => rfl
  | fragment f => exact absurd rfl other

/-- Two sequences of calls add the same parameters and the same fragments in the same order, and
the same failures in any order and number. -/
structure SameParts (steps steps' : List BuildStep) : Prop where
  params : steps.flatMap addedParams = steps'.flatMap addedParams
  body : steps.flatMap addedBody = steps'.flatMap addedBody
  failures : ∀ kind, .failure kind ∈ steps ↔ .failure kind ∈ steps'

/-- Two neighbouring calls of different kinds change places, or a failure that has been declared
anyway is declared once more. -/
inductive Rearranged : List BuildStep → List BuildStep → Prop
  | swap (front back : List BuildStep) {a b : BuildStep} : a.kind ≠ b.kind →
    Rearranged (front ++ a :: b :: back) (front ++ b :: a :: back)
  | again (front back : List BuildStep) {kind : FailureKind} : .failure kind ∈ front ++ back →
    Rearranged (front ++ back) (front ++ .failure kind :: back)

theorem SameParts.symm {steps steps' : List BuildStep} (same : SameParts steps steps') :
    SameParts steps' steps :=
  ⟨same.params.symm, same.body.symm, fun kind => (same.failures kind).symm⟩

theorem SameParts.trans {steps steps' steps'' : List BuildStep} (first : SameParts steps steps')
    (second : SameParts steps' steps'') : SameParts steps steps'' :=
  ⟨first.params.trans second.params, first.body.trans second.body,
    fun kind => (first.failures kind).trans (second.failures kind)⟩

theorem SameParts.append_left {steps steps' : List BuildStep} (same : SameParts steps steps')
    (front : List BuildStep) : SameParts (front ++ steps) (front ++ steps') where
  params := by rw [List.flatMap_append, List.flatMap_append, same.params]
  body := by rw [List.flatMap_append, List.flatMap_append, same.body]
  failures kind := by rw [List.mem_append, List.mem_append, same.failures kind]

/-- Of two calls of different kinds, at most one adds to a part. -/
theorem sameParts_swap {a b : BuildStep} (apart : a.kind ≠ b.kind) (back : List BuildStep) :
    SameParts (a :: b :: back) (b :: a :: back) where
  params := by
    simp only [List.flatMap_cons]
    by_cases first : a.kind = .params
    · rw [addedParams_eq_nil fun second => apart (first.trans second.symm)]
      rfl
    · rw [addedParams_eq_nil first]
      rfl
  body := by
    simp only [List.flatMap_cons]
    by_cases first : a.kind = .body
    · rw [addedBody_eq_nil fun second => apart (first.trans second.symm)]
      rfl
    · rw [addedBody_eq_nil first]
      rfl
  failures kind := (List.Perm.swap b a back).mem_iff

theorem sameParts_of_rearranged {steps steps' : List BuildStep}
    (rearranged : Rearranged steps steps') : SameParts steps steps' := by
  cases rearranged with
  | swap front back apart => exact (sameParts_swap apart back).append_left front
  | @again front back kind declared =>
    refine ⟨?_, ?_, fun kind' => ?_⟩
    · simp only [List.flatMap_append, List.flatMap_cons, addedParams, List.nil_append]
    · simp only [List.flatMap_append, List.flatMap_cons, addedBody, List.nil_append]
    · rw [List.perm_middle.mem_iff, List.mem_cons]
      refine (or_iff_right_of_imp fun once => ?_).symm
      rw [once]
      exact declared

theorem sameParts_of_eqvGen {steps steps' : List BuildStep}
    (rearranged : Relation.EqvGen Rearranged steps steps') : SameParts steps steps' := by
  induction rearranged with
  | rel _ _ step => exact sameParts_of_rearranged step
  | refl _ => exact ⟨rfl, rfl, fun _ => Iff.rfl⟩
  | symm _ _ _ ih => exact ih.symm
  | trans _ _ _ _ _ first second => exact first.trans second

end BuildStep

namespace MethodBuilder

open BuildStep

attribute [ext] MethodBuilder

/-! ## What a builder holds -/

section Run

variable {b : MethodBuilder} {steps steps' : List BuildStep}

theorem run_cons (b : MethodBuilder) (step : BuildStep) (steps : List BuildStep) :
    b.run (step :: steps) = (step.apply b).run steps := rfl

theorem run_name (b : MethodBuilder) (steps : List BuildStep) : (b.run steps).name = b.name := by
  induction steps generalizing b with
  | nil => rfl
  | cons step steps ih =>
    rw [run_cons, ih]
    cases step <;> rfl

theorem params_apply (b : MethodBuilder) (step : BuildStep) :
    (step.apply b).params = b.params ++ step.addedParams := by
  cases step with
  | param p => rfl
  | params ps => rfl
  | failure kind => exact (List.append_nil _).symm
  | fragment f => exact (List.append_nil _).symm

theorem body_apply (b : MethodBuilder) (step : BuildStep) :
    (step.apply b).body = b.body ++ step.addedBody := by
  cases step with
  | param p => exact (List.append_nil _).symm
  | params ps => exact (List.append_nil _).symm
  | failure kind => exact (List.append_nil _).symm
  | fragment f => rfl

theorem contains_apply {step : BuildStep} {kind : FailureKind} :
    (step.apply b).failures.contains kind = true ↔
      b.failures.contains kind = true ∨ .failure kind = step := by
  cases step with
  | param p => simp [BuildStep.apply, param]
  | params ps => simp [BuildStep.apply, addParams]
  | failure kind' =>
    rw [BuildStep.failure.injEq, eq_comm]
    exact FailureSet.contains_insert
  | fragment f => simp [BuildStep.apply, fragment]

/-- The parameters are those of all calls, in order. -/
theorem run_params (b : MethodBuilder) (steps : List BuildStep) :
    (b.run steps).params = b.params ++ steps.flatMap addedParams := by
  induction steps generalizing b with
  | nil => exact (List.append_nil _).symm
  | cons step steps ih => rw [run_cons, ih, params_apply, List.append_assoc, List.flatMap_cons]

/-- The body is made of the fragments of all calls, in order. -/
theorem run_body (b : MethodBuilder) (steps : List BuildStep) :
    (b.run steps).body = b.body ++ steps.flatMap addedBody := by
  induction steps generalizing b with
  | nil => exact (List.append_nil _).symm
  | cons step steps ih => rw [run_cons, ih, body_apply, List.append_assoc, List.flatMap_cons]

/-- The failures are those that have been declared. -/
theorem contains_run {kind : FailureKind} :
    (b.run steps).failures.contains kind = true ↔
      b.failures.contains kind = true ∨ .failure kind ∈ steps := by
  induction steps generalizing b with
  | nil => simp [run]
  | cons step steps ih => rw [run_cons, ih, contains_apply, List.mem_cons, or_assoc]

/-- A builder is the same behind calls that add the same. -/
theorem run_congr (same : SameParts steps steps') : b.run steps = b.run steps' := by
  have failures : (b.run steps).failures = (b.run steps').failures := by
    apply FailureSet.eq_of_contains
    intro kind
    rw [contains_run, contains_run, same.failures kind]
  have params : (b.run steps).params = (b.run steps').params := by
    rw [run_params, run_params, same.params]
  have body : (b.run steps).body = (b.run steps').body := by
    rw [run_body, run_body, same.body]
  have name : (b.run steps).name = (b.run steps').name := by
    rw [run_name, run_name]
  exact MethodBuilder.ext name params failures body

end Run

/-! ## What is built -/

/-- A method of a name has the parts that some calls add, and nothing else. -/
structure MadeOf (name : String) (steps : List BuildStep) (m : Method) : Prop where
  name : m.name = name
  visibility : m.visibility = .everyone
  returns : m.returns = .response
  params : m.params = steps.flatMap addedParams
  failures : ∀ kind, m.declares kind = true ↔ .failure kind ∈ steps
  body : m.body = steps.flatMap addedBody

attribute [ext] Method

theorem madeOf_iff {name : String} {steps : List BuildStep} {m : Method} :
    MadeOf name steps m ↔ (({ name } : MethodBuilder).run steps).method = m := by
  have own : MadeOf name steps (({ name } : MethodBuilder).run steps).method :=
    { name := run_name _ _
      visibility := rfl
      returns := rfl
      params := run_params _ _
      failures := fun kind => contains_run.trans (or_iff_right Bool.false_ne_true)
      body := run_body _ _ }
  constructor
  · intro made
    refine Method.ext (own.name.trans made.name.symm) (own.visibility.trans made.visibility.symm)
      (own.returns.trans made.returns.symm) (own.params.trans made.params.symm) ?_
      (own.body.trans made.body.symm)
    apply FailureSet.eq_of_contains
    intro kind
    exact (own.failures kind).trans (made.failures kind).symm
  · rintro rfl
    exact own

/-- What comes of a sequence of calls: the first parameter that repeats a name is reported, else the
fault of the body, else there is the method with what has been added. It stays the same if calls
of different kinds change places or a failure is declared again. -/
theorem build_run (name : String) (steps : List BuildStep) :
    (∀ e, (run { name } steps).build = .error e ↔
      (∃ dup, Naming.FirstRepeat ((steps.flatMap addedParams).map (·.name)) dup ∧
        e = .duplicateParameter name dup) ∨
      ((steps.flatMap addedParams).map (·.name)).Nodup ∧
        ∃ fault, checkBody (steps.flatMap addedBody) = .error fault ∧
          e = .malformedBody name fault.message) ∧
    (∀ m, (run { name } steps).build = .ok m ↔
      ((steps.flatMap addedParams).map (·.name)).Nodup ∧
        checkBody (steps.flatMap addedBody) = .ok () ∧ MadeOf name steps m) ∧
    (∀ steps', SameParts steps steps' →
      (run { name } steps').build = (run { name } steps).build) ∧
    ∀ steps', Relation.EqvGen Rearranged steps steps' →
      (run { name } steps').build = (run { name } steps).build := by
  have params : (run { name } steps).params = steps.flatMap addedParams := run_params _ _
  have body : (run { name } steps).body = steps.flatMap addedBody := run_body _ _
  refine ⟨fun e => ?_, fun m => ?_, fun steps' same => ?_, fun steps' rearranged => ?_⟩
  · rw [build_eq_error_iff, params, body, run_name]
  · rw [build_eq_ok_iff, params, body, madeOf_iff]
  · rw [run_congr same]
  · rw [run_congr (sameParts_of_eqvGen rearranged)]

/-- The calls for a method that looks an entity up, sorted by kind. -/
def sortedSteps : List BuildStep :=
  [.param ⟨"id", .id "i64"⟩, .failure .notFound, .fragment (.beginBlock ⟨"if a", []⟩),
    .fragment (.endBlock true)]

/-- The same calls mixed, and with the failure declared twice. -/
def mixedSteps : List BuildStep :=
  [.failure .notFound, .fragment (.beginBlock ⟨"if a", []⟩), .params [⟨"id", .id "i64"⟩],
    .fragment (.endBlock true), .failure .notFound]

theorem build_run_mixedSteps :
    SameParts sortedSteps mixedSteps ∧
      (run { name := "one" } mixedSteps).build = (run { name := "one" } sortedSteps).build ∧
      Relation.EqvGen Rearranged sortedSteps (sortedSteps ++ [.failure .notFound]) ∧
      (run { name := "one" } (sortedSteps ++ [.failure .notFound])).build =
        (run { name := "one" } sortedSteps).build := by
  have same : SameParts sortedSteps mixedSteps :=
    ⟨rfl, rfl, fun kind => by cases kind; decide⟩
  have declared : BuildStep.failure .notFound ∈ sortedSteps ++ [] := by decide
  have again : Relation.EqvGen Rearranged sortedSteps (sortedSteps ++ [.failure .notFound]) :=
    .rel _ _ (.again sortedSteps [] declared)
  obtain ⟨-, -, parts, rearranged⟩ := build_run "one" sortedSteps
  exact ⟨same, parts _ same, again, rearranged _ again⟩

end MethodBuilder
end CrudForge
