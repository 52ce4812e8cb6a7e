import CrudForge.Code.Body

/-!
Service classes: a class holds one repository field and methods, and a method holds everything
that is needed to write it down. A class stands for itself, so nothing has to be looked up again
once it has been assembled.
-/

namespace CrudForge

/-- The type of a parameter or field. -/
inductive TypeRef
  /-- The entity's own values. -/
  | entity (name : String)
  /-- The entity's identifiers. -/
  | id (name : String)
  /-- An integer that may be absent, as `page` and `pageSize` are. -/
  | optionalInt
  /-- A type taken over from the declaration of a field or parameter. -/
  | declared (name : String)
  deriving DecidableEq, Repr

/-- The spelling of a type in generated code. -/
def TypeRef.text : TypeRef → String
  | entity name | id name | declared name => name
  | optionalInt => "Option<u64>"

/-- A parameter of a method. -/
structure Parameter where
  name : String
  ty : TypeRef
  deriving DecidableEq, Repr

/-- The ways in which a method may say that it fails. -/
inductive FailureKind
  /-- No entity has the identifier that was asked for. -/
  | notFound
  deriving DecidableEq, Repr

/-- The name of a failure kind. -/
def FailureKind.text : FailureKind → String
  | notFound => "NotFound"

/-- A set of failure kinds. -/
structure FailureSet where
  notFound : Bool := false
  deriving DecidableEq, Repr

namespace FailureSet

/-- No failures. -/
def empty : FailureSet := {}

/-- A set with one more kind. -/
def insert (s : FailureSet) : FailureKind → FailureSet
  | .notFound => { s with notFound := true }

/-- Whether a kind is in the set. -/
def contains (s : FailureSet) : FailureKind → Bool
  | .notFound => s.notFound

/-- The kinds of a set, in the order in which they are listed. -/
def toList (s : FailureSet) : List FailureKind :=
  if s.notFound then [.notFound] else []

/-- The set of the kinds in a list. -/
def ofList (kinds : List FailureKind) : FailureSet :=
  kinds.foldl insert empty

theorem ofList_toList (s : FailureSet) : ofList s.toList = s := by
  rcases s with ⟨_ | _⟩ <;> rfl

end FailureSet

/-- Who may call a method. -/
inductive Visibility
  /-- Everybody. -/
  | everyone
  deriving DecidableEq, Repr

/-- What a method answers with. -/
inductive ReturnMarker
  /-- A response, or an error of the service. -/
  | response
  deriving DecidableEq, Repr

/-- A method of a service. -/
structure Method where
  name : String
  visibility : Visibility := .everyone
  returns : ReturnMarker := .response
  params : List Parameter
  failures : FailureSet
  body : List Fragment
  deriving DecidableEq, Repr

namespace Method

/-- The names of the parameters, in order. -/
def paramNames (m : Method) : List String :=
  m.params.map (·.name)

/-- Whether a method says that it may fail in some way. -/
def declares (m : Method) (kind : FailureKind) : Bool :=
  m.failures.contains kind

/-- The name and the parameters of a method as they were declared. -/
def signature (m : Method) : String :=
  m.name ++ "(" ++ ", ".intercalate (m.params.map fun p => p.name ++ ": " ++ p.ty.text) ++ ")"

end Method

/-- A field of a service. -/
structure ServiceField where
  name : String
  ty : TypeRef
  /-- Whether the surroundings fill the field in. -/
  injected : Bool
  deriving DecidableEq, Repr

/-- A service class. -/
structure ServiceClass where
  name : String
  repository : ServiceField
  methods : List Method
  deriving DecidableEq, Repr

namespace ServiceClass

/-- The first method of a name. -/
def method? (c : ServiceClass) (name : String) : Option Method :=
  c.methods.find? (·.name = name)

/-- The names of the methods, in order. -/
def methodNames (c : ServiceClass) : List String :=
  c.methods.map (·.name)

end ServiceClass
end CrudForge
