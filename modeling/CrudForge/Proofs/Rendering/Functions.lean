import Mathlib.Data.List.Nodup
import CrudForge.Proofs.Grammar.Characters
import CrudForge.Proofs.Grammar.Word
import CrudForge.Proofs.Rendering.Class
import CrudForge.Generation.Generator
import CrudForge.Rendering.Target

/-!
# The functions of a service

Two functions of a type are the same to the compiler if they are written with the same identifier,
whether raw or not. Rendering compares the identifiers of the methods as they are written, and the
constructor with none of them. So the functions of a service that is rendered are distinct iff no
method reads as `new` and no two methods read the same though they are written in different ways
(`distinctFunctions_iff`). Words are written in one way only.

How identifiers are brought to a normal form before they are compared is left open.
-/

namespace CrudForge.Rendering

open Grammar (Word rawless keywords)

/-! ## Reading an identifier -/

/-- The identifier that a text is, without `r#`; none if the text is not one identifier. -/
def identName? (s : String) : Option String :=
  match Grammar.tokens? s with
  | some [.ident t] =>
    match t.toList with
    | 'r' :: '#' :: cs => some (String.ofList cs)
    | _ => if keywords.contains t then none else some t
  | _ => none

theorem isIdent_word {s : String} (word : Word s.toList) :
    Grammar.isIdent s = !keywords.contains s := by
  have tokens := Grammar.tokens?_word word
  rw [String.ofList_toList] at tokens
  have taken : Grammar.takeIdent.run [.ident s] =
      if keywords.contains s then none else some ((), []) := by
    have read : Grammar.takeIdent.run [.ident s] =
        (if Grammar.ident [.ident s] then set ([] : List Grammar.Token) else failure :
          Grammar.Read Unit).run [.ident s] := rfl
    rw [read, Grammar.ident]
    cases keywords.contains s <;> rfl
  rw [Grammar.isIdent, Grammar.accepts, tokens]
  dsimp only
  rw [taken]
  cases keywords.contains s <;> rfl

theorem identName?_word {s : String} (word : Word s.toList) (free : keywords.contains s = false) :
    identName? s = some s := by
  have tokens := Grammar.tokens?_word word
  rw [String.ofList_toList] at tokens
  rw [identName?, tokens]
  dsimp only
  split
  · rename_i cs letters
    rw [letters] at word
    obtain ⟨-, more⟩ := word
    exact absurd rfl (Grammar.ne_of_identContinue (more '#' List.mem_cons_self) (by decide))
  · rw [free]
    rfl

theorem identName?_raw {s : String} (word : Word s.toList) (raw : s ∉ rawless) :
    identName? ("r#" ++ s) = some s := by
  have spelled : "r#" ++ s = String.ofList ('r' :: '#' :: s.toList) := by
    rw [← String.toList_inj, String.toList_ofList, String.toList_append]
    rfl
  have tokens := Grammar.tokens?_raw word (by rwa [String.ofList_toList])
  rw [identName?, spelled, tokens]
  dsimp only
  rw [String.toList_ofList]
  exact congrArg some String.ofList_toList

/-- A word is written as itself or in its raw form, and reads as itself. -/
theorem identName?_identifier {name : String} (word : Word (Naming.snakeCase name).toList)
    (raw : Naming.snakeCase name ∉ rawless) :
    identName? (identifier .standard name) = some (Naming.snakeCase name) := by
  have ident : TargetGrammar.standard.isIdent (Naming.snakeCase name) =
      !keywords.contains (Naming.snakeCase name) := isIdent_word word
  rw [identifier, ident]
  cases keyword : keywords.contains (Naming.snakeCase name) with
  | false => exact identName?_word word keyword
  | true => exact identName?_raw word raw

/-! ## The functions of a class -/

/-- The name of the constructor of a service. -/
def constructorName : String := "new"

/-- The identifier that a method is written under. -/
def writtenName (m : Method) : String :=
  identifier .standard m.name

/-- The names of the functions of a service as they are written: the constructor and the
methods. -/
def functionNames (c : ServiceClass) : List String :=
  constructorName :: c.methods.map writtenName

/-- The functions of a class are identifiers, no two of them the same in normal form. -/
structure DistinctFunctions (normal : String → String) (c : ServiceClass) : Prop where
  read : ∀ name ∈ functionNames c, ∃ id, identName? name = some id
  distinct : ((functionNames c).map fun name => (identName? name).map normal).Nodup

/-- A method has a name, which is not that of the constructor. -/
def OwnName (normal : String → String) (m : Method) : Prop :=
  ∃ id, identName? (writtenName m) = some id ∧ normal id ≠ normal constructorName

/-- No two methods read the same that are written in different ways. -/
def ReadApart (normal : String → String) (ms : List Method) : Prop :=
  ∀ m ∈ ms, ∀ m' ∈ ms, writtenName m ≠ writtenName m' →
    (identName? (writtenName m)).map normal ≠ (identName? (writtenName m')).map normal

/-- The name of a method is a word in normal form, other than one without a raw form. -/
structure PlainName (normal : String → String) (m : Method) : Prop where
  word : Word (Naming.snakeCase m.name).toList
  raw : Naming.snakeCase m.name ∉ rawless
  normal : normal (Naming.snakeCase m.name) = Naming.snakeCase m.name

/-- A text declares a method under its identifier. -/
def Declares (m : Method) (text : String) : Prop :=
  ∃ rest, text = failureDocs m.failures ++ indent ++ visibilityText m.visibility ++ "async fn " ++
    writtenName m ++ "(&self" ++ rest

theorem declares_of_renderMethod {m : Method} {text : String}
    (rendered : renderMethod .standard (writtenName m) m = .ok text) : Declares m text := by
  obtain ⟨params, body, -, -, rfl⟩ := renderMethod_eq_ok_iff.1 rendered
  exact ⟨_, by simp only [methodText, String.append_assoc]; rfl⟩

theorem identName?_constructor : identName? constructorName = some constructorName :=
  identName?_word (.of_all (by decide) (by decide)) (by decide)

/-- Once the methods are written with distinct identifiers, their names must also read as such. -/
theorem distinctFunctions_iff_of_nodup (normal : String → String) {c : ServiceClass}
    (distinct : (c.methods.map writtenName).Nodup) :
    DistinctFunctions normal c ↔
      (∀ m ∈ c.methods, OwnName normal m) ∧ ReadApart normal c.methods := by
  constructor
  · rintro ⟨read, apart⟩
    rw [functionNames, List.map_cons, List.nodup_cons] at apart
    refine ⟨fun m mem => ?_, fun m mem m' mem' differ same => differ ?_⟩
    · have written : writtenName m ∈ c.methods.map writtenName := List.mem_map_of_mem mem
      obtain ⟨id, reads⟩ := read _ (List.mem_cons_of_mem _ written)
      refine ⟨id, reads, fun same => apart.1 (List.mem_map.2 ⟨_, written, ?_⟩)⟩
      rw [reads, identName?_constructor, Option.map_some, Option.map_some, same]
    · exact List.inj_on_of_nodup_map apart.2 (List.mem_map_of_mem mem)
        (List.mem_map_of_mem mem') same
  · rintro ⟨own, apart⟩
    constructor
    · intro name mem
      rcases List.mem_cons.1 mem with rfl | mem
      · exact ⟨_, identName?_constructor⟩
      · obtain ⟨m, method, rfl⟩ := List.mem_map.1 mem
        obtain ⟨id, reads, -⟩ := own m method
        exact ⟨id, reads⟩
    · rw [functionNames, List.map_cons, List.nodup_cons]
      constructor
      · intro mem
        obtain ⟨_, written, same⟩ := List.mem_map.1 mem
        obtain ⟨m, mem, rfl⟩ := List.mem_map.1 written
        obtain ⟨id, reads, other⟩ := own m mem
        rw [reads, identName?_constructor] at same
        exact other (Option.some.inj same)
      · refine List.Nodup.map_on (fun x memX y memY same => ?_) distinct
        obtain ⟨m, mem, rfl⟩ := List.mem_map.1 memX
        obtain ⟨m', mem', rfl⟩ := List.mem_map.1 memY
        by_contra differ
        exact apart m mem m' mem' differ same

/-- Where all names are words, only `new` is taken twice. -/
theorem distinctFunctions_iff_of_plain {normal : String → String} {c : ServiceClass}
    (new : normal constructorName = constructorName)
    (distinct : (c.methods.map writtenName).Nodup)
    (plain : ∀ m ∈ c.methods, PlainName normal m) :
    DistinctFunctions normal c ↔ ∀ m ∈ c.methods, Naming.snakeCase m.name ≠ constructorName := by
  have reads (m : Method) (mem : m ∈ c.methods) :
      identName? (writtenName m) = some (Naming.snakeCase m.name) :=
    identName?_identifier (plain m mem).word (plain m mem).raw
  rw [distinctFunctions_iff_of_nodup normal distinct]
  constructor
  · rintro ⟨own, -⟩ m mem same
    obtain ⟨id, found, other⟩ := own m mem
    cases (reads m mem).symm.trans found
    exact other (congrArg normal same)
  · intro free
    refine ⟨fun m mem => ⟨_, reads m mem, ?_⟩, fun m mem m' mem' differ same => differ ?_⟩
    · rw [(plain m mem).normal, new]
      exact free m mem
    · rw [reads m mem, reads m' mem', Option.map_some, Option.map_some, (plain m mem).normal,
        (plain m' mem').normal] at same
      rw [writtenName, writtenName, identifier, identifier, Option.some.inj same]

/-- The methods of a service that is rendered stand in its file, and its functions are distinct
iff no method reads as the constructor and no two methods read the same that are written
differently. Where all names are words, no method may be called `new`, and that is all. -/
theorem distinctFunctions_iff (normal : String → String) {c : ServiceClass} {o : RenderOptions}
    {text : String} (rendered : c.render o = .ok text) :
    (∃ texts, List.Forall₂ Declares c.methods texts ∧ text = classText .standard c o texts) ∧
    (DistinctFunctions normal c ↔
      (∀ m ∈ c.methods, OwnName normal m) ∧ ReadApart normal c.methods) ∧
    (normal constructorName = constructorName → (∀ m ∈ c.methods, PlainName normal m) →
      (DistinctFunctions normal c ↔
        ∀ m ∈ c.methods, Naming.snakeCase m.name ≠ constructorName)) := by
  obtain ⟨-, distinct, texts, written, same, -⟩ := renderClass_eq_ok_iff.1 rendered
  exact ⟨⟨texts, written.imp fun m text => declares_of_renderMethod, same.symm⟩,
    distinctFunctions_iff_of_nodup normal distinct,
    fun new plain => distinctFunctions_iff_of_plain new distinct plain⟩

/-! ## A method called `new` -/

/-- A service with a method called `new`. -/
def newService : ServiceClass where
  name := "A"
  repository := ⟨"r", .declared "B", true⟩
  methods := [{ name := constructorName, params := [], failures := .empty, body := [] }]

/-- The text of the method of that service. -/
def newServiceMethod : String :=
  failureDocs .empty ++ indent ++ visibilityText .everyone ++ "async fn " ++ constructorName ++
    "(&self" ++ "" ++ ") -> " ++ returnText .response ++ " \x7b\n" ++ "" ++ indent ++ "\x7d\n"

theorem render_newService :
    newService.render {} = .ok (classText .standard newService {} [newServiceMethod]) := by
  have field : identifier .standard newService.repository.name = "r" := by decide
  have written : identifier .standard constructorName = constructorName := by decide
  have method : renderMethod .standard (identifier .standard constructorName)
      { name := constructorName, params := [], failures := .empty, body := [] } =
        .ok newServiceMethod := by
    rw [written]
    rfl
  have file : TargetGrammar.standard.isFile
      (classText .standard newService {} [newServiceMethod]) = true := by
    rw [TargetGrammar.standard_isFile, classText, preamble_plain field]
    simp only [newServiceMethod, String.toList_append, String.intercalate_singleton]
    decide +kernel
  have type : TargetGrammar.standard.isType newService.repository.ty.text = true := by
    decide
  have distinct : (newService.methods.map writtenName).Nodup := List.nodup_singleton _
  exact renderClass_eq_ok_iff.2
    ⟨type, distinct, [newServiceMethod], .cons method .nil, rfl, file⟩

/-- That service is rendered with two functions of one name, in any normal form. -/
theorem exists_render_not_distinctFunctions :
    ∃ (c : ServiceClass) (o : RenderOptions) (text : String), c.render o = .ok text ∧
      ∀ normal, ¬ DistinctFunctions normal c := by
  refine ⟨newService, {}, _, render_newService, fun normal functions => ?_⟩
  have written : functionNames newService = [constructorName, constructorName] := by
    have id : identifier .standard constructorName = constructorName := by decide
    show [constructorName, identifier .standard constructorName] = _
    rw [id]
  have distinct := functions.distinct
  rw [written] at distinct
  exact (List.nodup_cons.1 distinct).1 List.mem_cons_self

theorem distinctFunctions_iff_newService :
    newService.render {} = .ok (classText .standard newService {} [newServiceMethod]) ∧
    (∀ m ∈ newService.methods, PlainName id m) ∧
    (DistinctFunctions id newService ↔
      ∀ m ∈ newService.methods, Naming.snakeCase m.name ≠ constructorName) := by
  have snake : Naming.snakeCase constructorName = constructorName := by decide
  have plain : ∀ m ∈ newService.methods, PlainName id m := by
    intro m mem
    cases List.mem_singleton.1 mem
    refine ⟨?_, ?_, rfl⟩
    · rw [snake]
      exact .of_all (by decide) (by decide)
    · rw [snake]
      decide
  exact ⟨render_newService, plain, (distinctFunctions_iff id render_newService).2.2 rfl plain⟩

end CrudForge.Rendering
