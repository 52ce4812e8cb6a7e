import CrudForge.Proofs.Naming.Repeat
import CrudForge.Proofs.Outcome
import CrudForge.Rendering.Class

/-!
# What becomes of the methods of a class

A class is rendered method by method, each under its identifier. If that succeeds, the identifiers
are distinct and the text of every method is in the file (`renderClass_eq_ok_iff`). If it fails for
a malformed body, the body of one of its methods cannot be printed (`exists_of_malformedBody`).
-/

namespace CrudForge.Rendering

variable {g : TargetGrammar} {name reason : String}

theorem checkType_eq_ok_iff {item ty : String} {u : Unit} :
    checkType g item ty = .ok u ↔ g.isType ty = true := by
  rw [checkType]
  cases g.isType ty <;> simp

theorem checkType_eq_error_iff {item ty : String} {e : RenderError} :
    checkType g item ty = .error e ↔ g.isType ty = false ∧ .invalidType item ty = e := by
  rw [checkType]
  cases g.isType ty <;> simp

/-- The text of a method, given its identifier, its parameters and the lines of its body. -/
def methodText (m : Method) (id params : String) (body : List BodyLine) : String :=
  failureDocs m.failures ++ indent ++ visibilityText m.visibility ++ "async fn " ++ id ++
    "(&self" ++ params ++ ") -> " ++ returnText m.returns ++ " \x7b\n" ++
    String.join (body.map BodyLine.render) ++ indent ++ "\x7d\n"

theorem renderMethod_eq_ok_iff {id text : String} {m : Method} :
    renderMethod g id m = .ok text ↔
      ∃ params body, paramsFrom g m.name [] m.params = .ok params ∧
        bodyLines g m.name m.body = .ok body ∧ methodText m id params body = text := by
  rw [renderMethod]
  constructor
  · intro rendered
    obtain ⟨params, written, rendered⟩ := Outcome.bind_eq_ok_iff.1 rendered
    obtain ⟨body, printed, last⟩ := Outcome.bind_eq_ok_iff.1 rendered
    exact ⟨params, body, written, printed, Outcome.pure_eq_ok_iff.1 last⟩
  · rintro ⟨params, body, written, printed, rfl⟩
    rw [written, printed]
    rfl

/-- The file of a class, given the texts of its methods. -/
def classText (g : TargetGrammar) (c : ServiceClass) (o : RenderOptions)
    (methods : List String) : String :=
  preamble g c o ++ "impl " ++ c.name ++ " \x7b\n" ++ "\n".intercalate methods ++ "\x7d\n"

/-- Without any options, and once its field has an identifier, a file begins with these texts. -/
theorem preamble_plain {c : ServiceClass} {field : String}
    (written : identifier g c.repository.name = field) :
    preamble g c {} =
      header ++ "\nuse svcgen_runtime::prelude::*;\n" ++
        "\n#[derive(Clone)]\npub struct " ++ c.name ++ " \x7b\n" ++
        indent ++ field ++ ": " ++ c.repository.ty.text ++ ",\n\x7d\n\n" ++
        "impl " ++ c.name ++ " \x7b\n" ++
        indent ++ "pub fn new(" ++ field ++ ": " ++ c.repository.ty.text ++ ") -> Self \x7b\n" ++
        indent ++ indent ++ "Self \x7b " ++ field ++ " \x7d\n" ++
        indent ++ "\x7d\n\x7d\n\n" := by
  have none : String.join (List.map (fun path => "use " ++ path ++ ";\n") []) = "" := rfl
  unfold preamble
  rw [written]
  simp only [none, Bool.false_and, Bool.false_eq_true, if_false, String.append_empty]

theorem renderClass_eq (c : ServiceClass) (o : RenderOptions) :
    renderClass g c o = (do
      checkType g (c.name ++ "." ++ c.repository.name) c.repository.ty.text
      let methods ← methodsFrom g c.name [] c.methods
      if g.isFile (classText g c o methods) then .ok (classText g c o methods)
      else .error .invalidSyntax) := rfl

/-! ## Failing for a body -/

theorem paramsFrom_ne_malformedBody {method : String} {seen : List String}
    {params : List Parameter} :
    paramsFrom g method seen params ≠ .error (.malformedBody name reason) := by
  induction params generalizing seen with
  | nil => exact Outcome.ok_ne_error
  | cons p rest ih =>
    intro failed
    simp only [paramsFrom] at failed
    split at failed
    · simp at failed
    · simp only [Outcome.bind_eq_error_iff, checkType_eq_error_iff, Outcome.pure_ne_error,
        and_false, exists_false, or_false] at failed
      rcases failed with ⟨-, other⟩ | ⟨_, -, failed⟩
      · cases other
      · exact ih failed

theorem bodyLines_of_renderMethod {id : String} {m : Method}
    (failed : renderMethod g id m = .error (.malformedBody name reason)) :
    bodyLines g m.name m.body = .error (.malformedBody name reason) := by
  rw [renderMethod] at failed
  rcases Outcome.bind_eq_error_iff.1 failed with params | ⟨_, -, failed⟩
  · exact absurd params paramsFrom_ne_malformedBody
  · rcases Outcome.bind_eq_error_iff.1 failed with body | ⟨_, -, rest⟩
    · exact body
    · exact absurd rest Outcome.pure_ne_error

theorem exists_of_methodsFrom {className : String} {seen : List String} {ms : List Method}
    (failed : methodsFrom g className seen ms = .error (.malformedBody name reason)) :
    ∃ m ∈ ms, bodyLines g m.name m.body = .error (.malformedBody name reason) := by
  induction ms generalizing seen with
  | nil => cases failed
  | cons m rest ih =>
    simp only [methodsFrom] at failed
    split at failed
    · simp at failed
    · rcases Outcome.bind_eq_error_iff.1 failed with first | ⟨_, -, failed⟩
      · exact ⟨m, List.mem_cons_self, bodyLines_of_renderMethod first⟩
      · rcases Outcome.bind_eq_error_iff.1 failed with more | ⟨_, -, rest⟩
        · obtain ⟨m', mem, faulty⟩ := ih more
          exact ⟨m', List.mem_cons_of_mem _ mem, faulty⟩
        · exact absurd rest Outcome.pure_ne_error

/-- A malformed body that a class fails for is the body of one of its methods. -/
theorem exists_of_malformedBody {c : ServiceClass} {o : RenderOptions}
    (failed : renderClass g c o = .error (.malformedBody name reason)) :
    ∃ m ∈ c.methods, bodyLines g m.name m.body = .error (.malformedBody name reason) := by
  rw [renderClass_eq] at failed
  rcases Outcome.bind_eq_error_iff.1 failed with type | ⟨_, -, failed⟩
  · cases (checkType_eq_error_iff.1 type).2
  · rcases Outcome.bind_eq_error_iff.1 failed with methods | ⟨_, -, last⟩
    · exact exists_of_methodsFrom methods
    · split at last <;> cases last

/-! ## Success -/

theorem methodsFrom_cons_eq_ok_iff {className : String} {seen : List String} {m : Method}
    {ms : List Method} {texts : List String} :
    methodsFrom g className seen (m :: ms) = .ok texts ↔
      identifier g m.name ∉ seen ∧ ∃ text more, renderMethod g (identifier g m.name) m = .ok text ∧
        methodsFrom g className (identifier g m.name :: seen) ms = .ok more ∧
        text :: more = texts := by
  simp only [methodsFrom]
  split
  · rename_i taken
    simp [taken]
  · rename_i fresh
    simp [fresh]

/-- The methods of a class that is rendered: their identifiers are new and distinct, and each is
written under its own. -/
theorem methodsFrom_eq_ok_iff {className : String} {seen : List String} {ms : List Method}
    {texts : List String} :
    methodsFrom g className seen ms = .ok texts ↔
      (ms.map fun m => identifier g m.name).Nodup ∧
      (∀ m ∈ ms, identifier g m.name ∉ seen) ∧
      List.Forall₂ (fun m text => renderMethod g (identifier g m.name) m = .ok text) ms texts := by
  induction ms generalizing seen texts with
  | nil => simp [methodsFrom, eq_comm]
  | cons m ms ih =>
    rw [methodsFrom_cons_eq_ok_iff, List.map_cons, List.nodup_cons, List.forall_mem_cons,
      List.forall₂_cons_left_iff]
    constructor
    · rintro ⟨fresh, text, more, first, rest, rfl⟩
      obtain ⟨distinct, unseen, written⟩ := ih.1 rest
      refine ⟨⟨fun mem => ?_, distinct⟩, ⟨fresh, fun m' mem taken => ?_⟩,
        text, more, first, written, rfl⟩
      · obtain ⟨m', mem, same⟩ := List.mem_map.1 mem
        exact unseen m' mem (same ▸ List.mem_cons_self)
      · exact unseen m' mem (List.mem_cons_of_mem _ taken)
    · rintro ⟨⟨new, distinct⟩, ⟨fresh, unseen⟩, text, more, first, written, rfl⟩
      refine ⟨fresh, text, more, first, ih.2 ⟨distinct, fun m' mem taken => ?_, written⟩, rfl⟩
      rcases List.mem_cons.1 taken with same | taken
      · exact new (List.mem_map.2 ⟨m', mem, same⟩)
      · exact unseen m' mem taken

/-- A class that is rendered has distinct identifiers for its methods, and each method stands in
the file under its own. -/
theorem renderClass_eq_ok_iff {c : ServiceClass} {o : RenderOptions} {text : String} :
    renderClass g c o = .ok text ↔
      g.isType c.repository.ty.text = true ∧
      (c.methods.map fun m => identifier g m.name).Nodup ∧
      ∃ texts, List.Forall₂
          (fun m text => renderMethod g (identifier g m.name) m = .ok text) c.methods texts ∧
        classText g c o texts = text ∧ g.isFile text = true := by
  rw [renderClass_eq]
  simp only [Outcome.bind_eq_ok_iff, checkType_eq_ok_iff, methodsFrom_eq_ok_iff,
    List.not_mem_nil, not_false_eq_true, implies_true, true_and]
  constructor
  · rintro ⟨-, type, texts, ⟨distinct, written⟩, last⟩
    by_cases file : g.isFile (classText g c o texts) = true
    · rw [if_pos file, Except.ok.injEq] at last
      exact ⟨type, distinct, texts, written, last, last ▸ file⟩
    · rw [if_neg file] at last
      cases last
  · rintro ⟨type, distinct, texts, written, rfl, file⟩
    exact ⟨(), type, texts, ⟨distinct, written⟩, if_pos file⟩

/-- The file of a class is known where the texts of its methods are. -/
theorem classText_eq_of_renderClass {c : ServiceClass} {o : RenderOptions} {text : String}
    {texts : List String} (rendered : renderClass g c o = .ok text)
    (written : List.Forall₂ (fun m text => renderMethod g (identifier g m.name) m = .ok text)
      c.methods texts) : classText g c o texts = text := by
  obtain ⟨-, -, texts', written', rfl, -⟩ := renderClass_eq_ok_iff.1 rendered
  have unique : Relator.RightUnique fun m text =>
      renderMethod g (identifier g m.name) m = .ok text := fun _ _ _ left right =>
    Except.ok.inj (left.symm.trans right)
  rw [List.right_unique_forall₂' unique written written']

end CrudForge.Rendering
