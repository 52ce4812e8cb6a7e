import CrudForge.Proofs.Rendering.BodyAgreement

/-!
# When rendering fails

A class is walked over from its repository to its last method, and rendering ends at the first
thing that cannot be written (`ClassFault`). Methods in a class and parameters in a method are
walked over in one way, with a list of the identifiers that are taken: `OneByOne` is that walk, and
`FaultAmong` says where it ends. Fragments in a body are walked over with the number of open blocks
instead (`FragmentFault`). If there is no fault, the whole text is left to be read back.
-/

namespace CrudForge.Rendering

/-! ## What can be wrong -/

/-- Items that can be written, each under an identifier of its own. -/
structure Apart {α : Type} (id : α → String) (Sound : α → Prop) (xs : List α) : Prop where
  distinct : (xs.map id).Nodup
  sound : ∀ x ∈ xs, Sound x

/-- The first fault among some items. That an identifier is taken is found before anything that is
wrong with the item itself. -/
inductive FaultAmong {α : Type} (id : α → String) (Sound : α → Prop)
    (Fault : α → RenderError → Prop) (scope : String) (xs : List α) : RenderError → Prop
  | taken {front back : List α} {x : α} :
    xs = front ++ x :: back → Apart id Sound front → id x ∈ front.map id →
    FaultAmong id Sound Fault scope xs (.duplicateIdentifier scope (id x))
  | own {front back : List α} {x : α} {e : RenderError} :
    xs = front ++ x :: back → Apart id Sound front → id x ∉ front.map id → Fault x e →
    FaultAmong id Sound Fault scope xs e

/-- Fragments with sound code, each in its place, lead from one number of open blocks to
another. -/
structure Leads (depth : Nat) (body : List Fragment) (depth' : Nat) : Prop where
  sound : ∀ f ∈ body, f.checkCode = .ok ()
  opened : openBehind depth body = some depth'

/-- Why a fragment cannot be written inside of some blocks. Its code is looked at before its
place. -/
inductive Misfit (f : Fragment) (depth : Nat) : String → Prop
  | code {inner : CodeFault} : f.checkCode = .error (.code inner) → Misfit f depth inner.message
  | unopened : f.checkCode = .ok () → f.openAfter depth = none → Misfit f depth "unopened block"

/-- The first fault of a body around which `depth` blocks are open. -/
inductive FragmentFault (method : String) (depth : Nat) (body : List Fragment) :
    RenderError → Prop
  | first {front back : List Fragment} {f : Fragment} {depth' : Nat} {reason : String} :
    body = front ++ f :: back → Leads depth front depth' → Misfit f depth' reason →
    FragmentFault method depth body (.malformedBody method reason)

/-- The type of a parameter can be written. -/
def Typed (g : TargetGrammar) (p : Parameter) : Prop :=
  g.isType p.ty.text = true

/-- What is wrong with a parameter by itself. -/
inductive TypeFault (g : TargetGrammar) (method : String) (p : Parameter) : RenderError → Prop
  | untyped : g.isType p.ty.text = false →
    TypeFault g method p
      (.invalidType ("parameter '" ++ p.name ++ "' of '" ++ method ++ "'") p.ty.text)

/-- A method that can be written. -/
structure Writable (g : TargetGrammar) (m : Method) : Prop where
  params : Apart (fun p => identifier g p.name) (Typed g) m.params
  body : ∃ depth, Leads 0 m.body depth

/-- The first fault of a method. -/
inductive MethodFault (g : TargetGrammar) (m : Method) : RenderError → Prop
  | params {e : RenderError} :
    FaultAmong (fun p => identifier g p.name) (Typed g) (TypeFault g m.name)
      ("method '" ++ m.name ++ "'") m.params e →
    MethodFault g m e
  | body {e : RenderError} :
    Apart (fun p => identifier g p.name) (Typed g) m.params → FragmentFault m.name 0 m.body e →
    MethodFault g m e

/-- The first fault of a class. Only a class without any other is read back as a whole. -/
inductive ClassFault (g : TargetGrammar) (c : ServiceClass) (o : RenderOptions) :
    RenderError → Prop
  | repository : g.isType c.repository.ty.text = false →
    ClassFault g c o
      (.invalidType (c.name ++ "." ++ c.repository.name) c.repository.ty.text)
  | methods {e : RenderError} : g.isType c.repository.ty.text = true →
    FaultAmong (fun m => identifier g m.name) (Writable g) (MethodFault g) c.name c.methods e →
    ClassFault g c o e
  | file {texts : List String} : g.isType c.repository.ty.text = true →
    Apart (fun m => identifier g m.name) (Writable g) c.methods →
    List.Forall₂ (fun m text => renderMethod g (identifier g m.name) m = .ok text)
      c.methods texts →
    g.isFile (classText g c o texts) = false → ClassFault g c o .invalidSyntax

variable {g : TargetGrammar} {e : RenderError}

/-! ## One after the other -/

section OneByOne

variable {α β γ : Type} {id : α → String} {scope : String} {step : α → Except RenderError γ}
  {run : List String → List α → Except RenderError β} {seen : List String} {x : α} {xs : List α}

/-- Items are written one after the other, with the identifiers that are taken at hand. -/
structure OneByOne (id : α → String) (scope : String) (step : α → Except RenderError γ)
    (run : List String → List α → Except RenderError β) : Prop where
  nil : ∀ seen, ∃ out, run seen [] = .ok out
  taken : ∀ {seen x} xs, id x ∈ seen →
    run seen (x :: xs) = .error (.duplicateIdentifier scope (id x))
  fresh : ∀ {seen x} xs, id x ∉ seen → ∃ join : γ → β → β,
    run seen (x :: xs) = do
      let one ← step x
      join one <$> run (id x :: seen) xs

theorem OneByOne.exists_eq_ok_iff (walk : OneByOne id scope step run) (once : seen.Nodup) :
    (∃ out, run seen xs = .ok out) ↔
      (xs.map id ++ seen).Nodup ∧ ∀ x ∈ xs, ∃ one, step x = .ok one := by
  induction xs generalizing seen with
  | nil => exact iff_of_true (walk.nil seen) ⟨once, fun _ mem => absurd mem List.not_mem_nil⟩
  | cons x xs ih =>
    rw [List.map_cons, List.cons_append, List.nodup_cons, List.forall_mem_cons]
    by_cases known : id x ∈ seen
    · rw [walk.taken xs known]
      exact iff_of_false Outcome.not_exists_error_eq_ok fun passed =>
        passed.1.1 (List.mem_append_right _ known)
    · obtain ⟨join, next⟩ := walk.fresh xs known
      have rest := ih (List.nodup_cons.2 ⟨known, once⟩)
      rw [List.nodup_middle, List.nodup_cons] at rest
      rw [next]
      simp only [Outcome.bind_eq_ok_iff, Outcome.map_eq_ok_iff]
      constructor
      · rintro ⟨_, one, written, out, last, -⟩
        obtain ⟨distinct, each⟩ := rest.1 ⟨out, last⟩
        exact ⟨distinct, ⟨one, written⟩, each⟩
      · rintro ⟨distinct, ⟨one, written⟩, each⟩
        obtain ⟨out, last⟩ := rest.2 ⟨distinct, each⟩
        exact ⟨_, one, written, out, last, rfl⟩

/-- The walk ends at the first item whose identifier is taken or that cannot be written. -/
theorem OneByOne.eq_error_iff (walk : OneByOne id scope step run) (once : seen.Nodup) :
    run seen xs = .error e ↔
      ∃ front x back, xs = front ++ x :: back ∧ (front.map id ++ seen).Nodup ∧
        (∀ y ∈ front, ∃ one, step y = .ok one) ∧
        (id x ∈ front.map id ++ seen ∧ .duplicateIdentifier scope (id x) = e ∨
          id x ∉ front.map id ++ seen ∧ step x = .error e) := by
  induction xs generalizing seen with
  | nil =>
    obtain ⟨out, last⟩ := walk.nil seen
    simp [last]
  | cons x xs ih =>
    by_cases known : id x ∈ seen
    · rw [walk.taken xs known, Except.error.injEq]
      constructor
      · rintro rfl
        exact ⟨[], x, xs, rfl, once, by simp, .inl ⟨known, rfl⟩⟩
      · rintro ⟨front, y, back, split, distinct, -, stop⟩
        cases front with
        | nil =>
          obtain ⟨rfl, -⟩ := List.cons.inj split
          rcases stop with ⟨-, same⟩ | ⟨free, -⟩
          · exact same
          · exact absurd known free
        | cons z front =>
          obtain ⟨rfl, -⟩ := List.cons.inj split
          exact absurd (List.mem_append_right _ known) (List.nodup_cons.1 distinct).1
    · obtain ⟨join, next⟩ := walk.fresh xs known
      rw [next, Outcome.bind_eq_error_iff]
      simp only [Outcome.map_eq_error_iff, ih (List.nodup_cons.2 ⟨known, once⟩),
        List.nodup_middle, List.perm_middle.mem_iff]
      constructor
      · rintro (failed | ⟨one, written, front, y, back, rfl, distinct, passed, stop⟩)
        · exact ⟨[], x, xs, rfl, once, by simp, .inr ⟨known, failed⟩⟩
        · have passed := List.forall_mem_cons.2 ⟨⟨one, written⟩, passed⟩
          exact ⟨x :: front, y, back, rfl, distinct, passed, stop⟩
      · rintro ⟨front, y, back, split, distinct, passed, stop⟩
        cases front with
        | nil =>
          obtain ⟨rfl, -⟩ := List.cons.inj split
          rcases stop with ⟨taken, -⟩ | ⟨-, failed⟩
          · exact absurd taken known
          · exact .inl failed
        | cons z front =>
          obtain ⟨rfl, rfl⟩ := List.cons.inj split
          obtain ⟨⟨one, written⟩, passed⟩ := List.forall_mem_cons.1 passed
          exact .inr ⟨one, written, front, y, back, rfl, distinct, passed, stop⟩

variable {Sound : α → Prop} {Fault : α → RenderError → Prop}

theorem OneByOne.exists_eq_ok_iff_apart (walk : OneByOne id scope step run)
    (sound : ∀ x, (∃ one, step x = .ok one) ↔ Sound x) :
    (∃ out, run [] xs = .ok out) ↔ Apart id Sound xs := by
  rw [walk.exists_eq_ok_iff List.nodup_nil, List.append_nil]
  simp only [sound]
  exact ⟨fun ⟨distinct, each⟩ => ⟨distinct, each⟩, fun apart => ⟨apart.distinct, apart.sound⟩⟩

theorem OneByOne.eq_error_iff_faultAmong (walk : OneByOne id scope step run)
    (sound : ∀ x, (∃ one, step x = .ok one) ↔ Sound x)
    (fault : ∀ x e, step x = .error e ↔ Fault x e) :
    run [] xs = .error e ↔ FaultAmong id Sound Fault scope xs e := by
  rw [walk.eq_error_iff List.nodup_nil]
  simp only [List.append_nil, sound, fault]
  constructor
  · rintro ⟨front, x, back, split, distinct, each, ⟨taken, rfl⟩ | ⟨free, faulty⟩⟩
    · exact .taken split ⟨distinct, each⟩ taken
    · exact .own split ⟨distinct, each⟩ free faulty
  · intro among
    cases among with
    | taken split apart taken =>
      exact ⟨_, _, _, split, apart.distinct, apart.sound, .inl ⟨taken, rfl⟩⟩
    | own split apart free faulty =>
      exact ⟨_, _, _, split, apart.distinct, apart.sound, .inr ⟨free, faulty⟩⟩

end OneByOne

/-! ## Parameters -/

theorem oneByOne_paramsFrom (g : TargetGrammar) (method : String) :
    OneByOne (fun p => identifier g p.name) ("method '" ++ method ++ "'")
      (fun p => checkType g ("parameter '" ++ p.name ++ "' of '" ++ method ++ "'") p.ty.text)
      (paramsFrom g method) where
  nil _ := ⟨"", rfl⟩
  taken rest known := by
    rw [paramsFrom, if_pos known]
    rfl
  fresh {_ p} rest free := by
    refine ⟨fun _ more => ", " ++ identifier g p.name ++ ": " ++ p.ty.text ++ more, ?_⟩
    rw [paramsFrom, if_neg free]
    rfl

variable {m : Method}

theorem exists_checkType_iff {item : String} {p : Parameter} :
    (∃ one, checkType g item p.ty.text = .ok one) ↔ Typed g p := by
  simp only [checkType_eq_ok_iff, exists_const, Typed]

theorem checkType_eq_error_iff_typeFault {method : String} {p : Parameter} :
    checkType g ("parameter '" ++ p.name ++ "' of '" ++ method ++ "'") p.ty.text = .error e ↔
      TypeFault g method p e := by
  rw [checkType_eq_error_iff]
  constructor
  · rintro ⟨untyped, rfl⟩
    exact .untyped untyped
  · rintro ⟨untyped⟩
    exact ⟨untyped, rfl⟩

theorem exists_paramsFrom_iff :
    (∃ text, paramsFrom g m.name [] m.params = .ok text) ↔
      Apart (fun p => identifier g p.name) (Typed g) m.params :=
  (oneByOne_paramsFrom g m.name).exists_eq_ok_iff_apart fun _ => exists_checkType_iff

theorem paramsFrom_eq_error_iff :
    paramsFrom g m.name [] m.params = .error e ↔
      FaultAmong (fun p => identifier g p.name) (Typed g) (TypeFault g m.name)
        ("method '" ++ m.name ++ "'") m.params e :=
  (oneByOne_paramsFrom g m.name).eq_error_iff_faultAmong (fun _ => exists_checkType_iff)
    fun _ _ => checkType_eq_error_iff_typeFault

/-! ## Bodies -/

section Body

variable {method : String} {depth depth' : Nat} {f : Fragment} {body front : List Fragment}

theorem leads_cons_iff {last : Nat} :
    Leads depth (f :: body) last ↔
      f.checkCode = .ok () ∧
        ∃ depth', f.openAfter depth = some depth' ∧ Leads depth' body last := by
  constructor
  · rintro ⟨sound, opened⟩
    obtain ⟨first, sound⟩ := List.forall_mem_cons.1 sound
    cases goesOn : f.openAfter depth with
    | none => simp [openBehind, goesOn] at opened
    | some depth' => exact ⟨first, depth', rfl, sound, openBehind_cons goesOn ▸ opened⟩
  · rintro ⟨first, depth', goesOn, sound, opened⟩
    exact ⟨List.forall_mem_cons.2 ⟨first, sound⟩, (openBehind_cons goesOn).trans opened⟩

theorem exists_bodyLinesFrom_iff :
    (∃ lines, bodyLinesFrom g method depth body = .ok lines) ↔
      ∃ depth', Leads depth body depth' := by
  induction body generalizing depth with
  | nil => exact iff_of_true ⟨[], rfl⟩ ⟨depth, by simp, rfl⟩
  | cons f body ih =>
    simp only [leads_cons_iff]
    rcases Outcome.ok_or_error f.checkCode with ⟨⟨⟩, sound⟩ | ⟨fault, faulty⟩
    · cases goesOn : f.openAfter depth with
      | some depth' =>
        obtain ⟨line, stepped⟩ := @exists_bodyLinesFrom_step g method _ _ _ sound goesOn
        simp [stepped, sound, ih]
      | none => simp [bodyLinesFrom_misplaced sound goesOn]
    · obtain ⟨inner, printed, -⟩ := (@checkCode_eq_error_iff g f _).1 faulty
      simp [bodyLinesFrom_code printed, faulty]

theorem misfit_iff_of_code {inner : CodeFault} (faulty : f.checkCode = .error (.code inner))
    {reason : String} : Misfit f depth reason ↔ inner.message = reason := by
  constructor
  · rintro (faulty' | sound)
    · cases faulty.symm.trans faulty'
      rfl
    · cases faulty.symm.trans sound
  · rintro rfl
    exact .code faulty

theorem misfit_iff_of_misplaced (sound : f.checkCode = .ok ())
    (misplaced : f.openAfter depth = none) {reason : String} :
    Misfit f depth reason ↔ "unopened block" = reason := by
  constructor
  · rintro (faulty | -)
    · cases sound.symm.trans faulty
    · rfl
  · rintro rfl
    exact .unopened sound misplaced

/-- The fault of a body is that of its first fragment, or one behind it if that has none. -/
theorem fragmentFault_cons_iff :
    FragmentFault method depth (f :: body) e ↔
      (∃ reason, Misfit f depth reason ∧ .malformedBody method reason = e) ∨
      f.checkCode = .ok () ∧
        ∃ depth', f.openAfter depth = some depth' ∧ FragmentFault method depth' body e := by
  constructor
  · rintro ⟨split, leads, misfit⟩
    rename_i front back f' depth' reason
    cases front with
    | nil =>
      obtain ⟨rfl, -⟩ := List.cons.inj split
      cases leads.opened
      exact .inl ⟨reason, misfit, rfl⟩
    | cons z front =>
      obtain ⟨rfl, behind⟩ := List.cons.inj split
      obtain ⟨sound, depth', goesOn, leads⟩ := leads_cons_iff.1 leads
      exact .inr ⟨sound, depth', goesOn, .first behind leads misfit⟩
  · rintro (⟨reason, misfit, rfl⟩ | ⟨sound, depth', goesOn, ⟨split, leads, misfit⟩⟩)
    · exact .first (List.nil_append _).symm ⟨by simp, rfl⟩ misfit
    · have leads := leads_cons_iff.2 ⟨sound, depth', goesOn, leads⟩
      exact .first (congrArg (f :: ·) split) leads misfit

theorem bodyLinesFrom_eq_error_iff :
    bodyLinesFrom g method depth body = .error e ↔ FragmentFault method depth body e := by
  induction body generalizing depth with
  | nil =>
    refine iff_of_false Outcome.ok_ne_error ?_
    rintro ⟨split, -, -⟩
    simp at split
  | cons f body ih =>
    rw [fragmentFault_cons_iff]
    rcases Outcome.ok_or_error f.checkCode with ⟨⟨⟩, sound⟩ | ⟨fault, faulty⟩
    · cases goesOn : f.openAfter depth with
      | some depth' =>
        obtain ⟨line, stepped⟩ := @exists_bodyLinesFrom_step g method _ _ _ sound goesOn
        have fits (reason : String) : ¬ Misfit f depth reason := by
          rintro (faulty | ⟨-, none⟩)
          · cases sound.symm.trans faulty
          · cases goesOn.symm.trans none
        simp [stepped, sound, ih, fits]
      | none =>
        simp [bodyLinesFrom_misplaced sound goesOn, misfit_iff_of_misplaced sound goesOn]
    · obtain ⟨inner, printed, rfl⟩ := (@checkCode_eq_error_iff g f _).1 faulty
      simp [bodyLinesFrom_code printed, misfit_iff_of_code faulty, faulty]

end Body

/-! ## Methods -/

theorem exists_renderMethod_iff {id : String} :
    (∃ text, renderMethod g id m = .ok text) ↔ Writable g m := by
  constructor
  · rintro ⟨text, rendered⟩
    obtain ⟨params, body, written, printed, -⟩ := renderMethod_eq_ok_iff.1 rendered
    exact ⟨exists_paramsFrom_iff.1 ⟨params, written⟩, exists_bodyLinesFrom_iff.1 ⟨body, printed⟩⟩
  · rintro ⟨params, body⟩
    obtain ⟨params, written⟩ := exists_paramsFrom_iff.2 params
    obtain ⟨body, printed⟩ := exists_bodyLinesFrom_iff.2 body
    exact ⟨_, renderMethod_eq_ok_iff.2 ⟨params, body, written, printed, rfl⟩⟩

theorem renderMethod_eq_error_iff {id : String} :
    renderMethod g id m = .error e ↔ MethodFault g m e := by
  rw [renderMethod]
  simp only [Outcome.bind_eq_error_iff, Outcome.pure_ne_error, and_false, exists_false, or_false,
    paramsFrom_eq_error_iff, bodyLines, bodyLinesFrom_eq_error_iff]
  constructor
  · rintro (fault | ⟨params, written, fault⟩)
    · exact .params fault
    · exact .body (exists_paramsFrom_iff.1 ⟨params, written⟩) fault
  · intro fault
    cases fault with
    | params fault => exact .inl fault
    | body params fault =>
      obtain ⟨params, written⟩ := exists_paramsFrom_iff.2 params
      exact .inr ⟨params, written, fault⟩

theorem oneByOne_methodsFrom (g : TargetGrammar) (className : String) :
    OneByOne (fun m => identifier g m.name) className
      (fun m => renderMethod g (identifier g m.name) m) (methodsFrom g className) where
  nil _ := ⟨[], rfl⟩
  taken rest known := by
    rw [methodsFrom, if_pos known]
    rfl
  fresh rest free := by
    refine ⟨fun text more => text :: more, ?_⟩
    rw [methodsFrom, if_neg free]
    rfl

/-! ## Classes -/

variable {c : ServiceClass} {o : RenderOptions}

theorem exists_methodsFrom_iff :
    (∃ texts, methodsFrom g c.name [] c.methods = .ok texts) ↔
      Apart (fun m => identifier g m.name) (Writable g) c.methods :=
  (oneByOne_methodsFrom g c.name).exists_eq_ok_iff_apart fun _ => exists_renderMethod_iff

theorem methodsFrom_eq_error_iff :
    methodsFrom g c.name [] c.methods = .error e ↔
      FaultAmong (fun m => identifier g m.name) (Writable g) (MethodFault g) c.name c.methods e :=
  (oneByOne_methodsFrom g c.name).eq_error_iff_faultAmong (fun _ => exists_renderMethod_iff)
    fun _ _ => renderMethod_eq_error_iff

theorem renderClass_eq_error_iff : renderClass g c o = .error e ↔ ClassFault g c o e := by
  rw [renderClass_eq]
  simp only [Outcome.bind_eq_error_iff, checkType_eq_error_iff, checkType_eq_ok_iff, exists_const,
    methodsFrom_eq_error_iff]
  constructor
  · rintro (⟨untyped, rfl⟩ | ⟨typed, fault | ⟨texts, written, last⟩⟩)
    · exact .repository untyped
    · exact .methods typed fault
    · obtain ⟨-, -, each⟩ := methodsFrom_eq_ok_iff.1 written
      split at last
      · cases last
      · rename_i broken
        cases last
        exact .file typed (exists_methodsFrom_iff.1 ⟨texts, written⟩) each
          (eq_false_of_ne_true broken)
  · intro fault
    cases fault with
    | repository untyped => exact .inl ⟨untyped, rfl⟩
    | methods typed fault => exact .inr ⟨typed, .inl fault⟩
    | file typed apart each broken =>
      refine .inr ⟨typed, .inr ⟨_, methodsFrom_eq_ok_iff.2 ⟨apart.distinct, ?_, each⟩, ?_⟩⟩
      · exact fun _ _ => List.not_mem_nil
      · rw [broken]
        rfl

theorem apart_of_renderClass {text : String} (rendered : renderClass g c o = .ok text) :
    Apart (fun m => identifier g m.name) (Writable g) c.methods := by
  obtain ⟨-, distinct, texts, each, -⟩ := renderClass_eq_ok_iff.1 rendered
  refine exists_methodsFrom_iff.1 ⟨texts, methodsFrom_eq_ok_iff.2 ⟨distinct, ?_, each⟩⟩
  exact fun _ _ => List.not_mem_nil

/-- A name that stands twice among the parameters of a method is one identifier. -/
theorem Writable.nodup_names (writable : Writable g m) : (m.params.map (·.name)).Nodup := by
  refine List.Nodup.of_map (identifier g) ?_
  rw [List.map_map]
  exact writable.params.distinct

/-- Rendering a class ends with the first fault that the class has, and with its file iff there is
none. It has one if a parameter of a method has the name of another. -/
theorem renderClass_outcome (g : TargetGrammar) (c : ServiceClass) (o : RenderOptions) :
    (∀ e, renderClass g c o = .error e ↔ ClassFault g c o e) ∧
    ((∃ text, renderClass g c o = .ok text) ↔ ∀ e, ¬ ClassFault g c o e) ∧
    ∀ m ∈ c.methods, ¬ (m.params.map (·.name)).Nodup →
      ∀ text, renderClass g c o ≠ .ok text := by
  refine ⟨fun e => renderClass_eq_error_iff, ?_, fun m mem repeated text rendered => repeated ?_⟩
  · rcases Outcome.ok_or_error (renderClass g c o) with ⟨text, rendered⟩ | ⟨e, failed⟩
    · refine iff_of_true ⟨text, rendered⟩ fun e fault => ?_
      cases rendered.symm.trans (renderClass_eq_error_iff.2 fault)
    · refine iff_of_false ?_ fun none => none e (renderClass_eq_error_iff.1 failed)
      rw [failed]
      exact Outcome.not_exists_error_eq_ok
  · exact ((apart_of_renderClass rendered).sound m mem).nodup_names

/-- A parameter that a method has twice. -/
def repeatedParameter : Parameter := ⟨"x", .declared "i64"⟩

/-- A service with a method that has two parameters of one name. -/
def repeatingService : ServiceClass where
  name := "A"
  repository := ⟨"r", .declared "B", true⟩
  methods :=
    [{ name := "m", params := [repeatedParameter, repeatedParameter], failures := .empty,
       body := [] }]

theorem renderClass_outcome_repeatingService :
    (∃ m ∈ repeatingService.methods, ¬ (m.params.map (·.name)).Nodup ∧
      ∀ text, renderClass .standard repeatingService {} ≠ .ok text) ∧
    renderClass .standard repeatingService {} =
      .error (.duplicateIdentifier "method 'm'" (identifier .standard "x")) := by
  have first : Apart (fun p => identifier .standard p.name) (Typed .standard)
      [repeatedParameter] := by
    refine ⟨List.nodup_singleton _, fun p mem => ?_⟩
    cases List.mem_singleton.1 mem
    unfold Typed
    decide
  have split : [repeatedParameter, repeatedParameter] =
      [repeatedParameter] ++ repeatedParameter :: [] := List.singleton_append.symm
  have taken : FaultAmong (fun p => identifier .standard p.name) (Typed .standard)
      (TypeFault .standard "m") ("method '" ++ "m" ++ "'") [repeatedParameter, repeatedParameter]
      (.duplicateIdentifier ("method '" ++ "m" ++ "'")
        (identifier .standard repeatedParameter.name)) :=
    .taken split first List.mem_cons_self
  have none : Apart (fun m => identifier .standard m.name) (Writable .standard) [] :=
    ⟨List.nodup_nil, fun _ mem => absurd mem List.not_mem_nil⟩
  have scope : "method 'm'" = "method '" ++ "m" ++ "'" := by decide
  refine ⟨⟨_, List.mem_cons_self, by decide, ?_⟩, ?_⟩
  · exact (renderClass_outcome _ _ _).2.2 _ List.mem_cons_self (by decide)
  · rw [scope]
    refine ((renderClass_outcome _ _ _).1 _).2 (.methods (by decide) ?_)
    exact .own (List.nil_append _).symm none List.not_mem_nil (.params taken)

end CrudForge.Rendering
