import CrudForge.Grammar.Token

/-!
Reading phrases off a sequence of token trees. A reader takes as many trees as its phrase has, or
fails; what a phrase means is of no interest here, only whether it is one. What may follow a
phrase can depend on what it looks like, and its `Shape` says as much as that needs.

The grammar is recursive in a few kinds of phrases, the ones of `Goal`. Every rule is written over
a reader of goals that it is given, so that the rules need not know of each other.
-/

namespace CrudForge.Grammar

/-- A reader of phrases. -/
abbrev Read := StateT (List Token) Option

/-- How tightly operators bind, from the loosest to the tightest. -/
inductive Precedence
  /-- Looser than any operator. -/
  | lowest
  | assign
  | range
  | or
  | and
  | compare
  | bitOr
  | bitXor
  | bitAnd
  | shift
  | sum
  | product
  | cast
  deriving DecidableEq, Repr

/-- The position of a precedence in the order. -/
def Precedence.rank : Precedence → Nat
  | lowest => 0
  | assign => 1
  | range => 2
  | or => 3
  | and => 4
  | compare => 5
  | bitOr => 6
  | bitXor => 7
  | bitAnd => 8
  | shift => 9
  | sum => 10
  | product => 11
  | cast => 12

/-- What a phrase looks like from the outside. -/
inductive Shape
  /-- Nothing depends on it. -/
  | plain
  /-- A type that is a path of one segment. -/
  | word
  /-- A type that is another path, not one that begins with a type in angle brackets. -/
  | path
  /-- A type that is one bound, without a mark behind it. -/
  | bound
  /-- A bound that is a trait. -/
  | traitBound
  /-- An expression that is a range. -/
  | range
  /-- An expression that compares two others. -/
  | comparison
  /-- An expression that ends with its block and needs no mark behind it. -/
  | block
  /-- A call of a macro, with braces or with other delimiters. -/
  | macroCall (braces : Bool)
  /-- A pattern that is a range without one of its ends. -/
  | openRange
  deriving DecidableEq, Repr

/-- The kinds of phrases in which the grammar is recursive. -/
inductive Goal
  /-- A type, which may be a sum of bounds if `plus`. -/
  | type (plus : Bool)
  /-- A bound of a type, which may say what it captures if `captures`. -/
  | bound (captures : Bool)
  /-- An expression, which may be the value of a structure if `structs`. -/
  | expr (structs : Bool)
  /-- An expression without operators between its parts. -/
  | unary (structs : Bool)
  /-- Operators that bind at least as tightly as `base` and what they are applied to, behind an
  expression of the shape `left`. -/
  | operators (structs : Bool) (base : Precedence) (left : Shape)
  /-- An expression that ends at the first place where a statement could end. -/
  | statementExpr
  /-- A pattern without alternatives. -/
  | pattern
  /-- The statements of a block, up to its end. -/
  | statements
  /-- An item. -/
  | item
  /-- What is imported; at the beginning of a path from the root, if `root` allows it. -/
  | useTree (root : Bool)
  deriving DecidableEq, Repr

/-- A reader of each kind of phrase. -/
abbrev Readers := Goal → Read Shape

/-! ## Looking ahead -/

/-- A question about the trees ahead. -/
abbrev Test := List Token → Bool

/-- The trees behind the next one; an apostrophe and the name behind it count as one. -/
def skip : List Token → List Token
  | .mark '\'' true :: .ident _ :: ts => ts
  | _ :: ts => ts
  | [] => []

/-- The trees behind marks that touch each other. -/
def afterMarks? : List Char → List Token → Option (List Token)
  | [], ts => some ts
  | [c], .mark m _ :: ts => if m = c then some ts else none
  | c :: cs, .mark m joint :: ts => if m = c && joint then afterMarks? cs ts else none
  | _, _ => none

/-- Whether marks that touch each other come next; more marks may follow them. -/
def marks (s : String) : Test := fun ts => (afterMarks? s.toList ts).isSome

/-- Whether a word comes next. -/
def word (w : String) : Test
  | .ident t :: _ => t = w
  | _ => false

/-- The words that are no identifiers. -/
def keywords : List String :=
  ["_", "abstract", "as", "async", "await", "become", "box", "break", "const", "continue",
    "crate", "do", "dyn", "else", "enum", "extern", "false", "final", "fn", "for", "if", "impl",
    "in", "let", "loop", "macro", "match", "mod", "move", "mut", "override", "priv", "pub", "ref",
    "return", "Self", "self", "static", "struct", "super", "trait", "true", "try", "type",
    "typeof", "unsafe", "unsized", "use", "virtual", "where", "while", "yield"]

/-- Whether an identifier comes next. -/
def ident : Test
  | .ident t :: _ => !keywords.contains t
  | _ => false

/-- Whether an identifier or keyword comes next. -/
def anyWord : Test
  | .ident _ :: _ => true
  | _ => false

/-- Whether a lifetime comes next. -/
def lifetime : Test
  | .mark '\'' true :: .ident _ :: _ => true
  | _ => false

/-- Whether a group comes next. -/
def group (d : Delimiter) : Test
  | .group d' _ :: _ => d = d'
  | _ => false

/-- Whether a literal comes next, which may be a number behind a minus. -/
def literal : Test
  | .literal _ _ :: _ => true
  | .ident "true" :: _ | .ident "false" :: _ => true
  | .mark '-' _ :: .literal kind _ :: _ => kind = .int || kind = .float
  | _ => false

/-- Whether a literal text comes next. -/
def literalText : Test
  | .literal .str _ :: _ => true
  | _ => false

/-- Whether nothing is left. -/
def atEnd : Test := List.isEmpty

/-- Either of two questions. -/
def Test.or (s t : Test) : Test := fun ts => s ts || t ts

/-- Both of two questions. -/
def Test.and (s t : Test) : Test := fun ts => s ts && t ts

/-- The first question but not the second. -/
def Test.except (s t : Test) : Test := fun ts => s ts && !t ts

/-- A question about the trees behind the next one. -/
def Test.second (t : Test) : Test := fun ts => t (skip ts)

/-- A question about the trees behind the next two. -/
def Test.third (t : Test) : Test := fun ts => t (skip (skip ts))

/-- One of some words. -/
def words (ws : List String) : Test := fun ts => ws.any fun w => word w ts

/-- One of some marks. -/
def anyMarks (ss : List String) : Test := fun ts => ss.any fun s => marks s ts

/-! ## Reading -/

/-- Asks about the trees ahead. -/
def ask (t : Test) : Read Bool := return t (← get)

/-- Reads marks that touch each other. -/
def takeMarks (s : String) : Read Unit := do
  set (← afterMarks? s.toList (← get))

/-- Reads the next tree if it passes a test; a lifetime is read as one. -/
def take (t : Test) : Read Unit := do
  let ts ← get
  if t ts then set (skip ts) else failure

/-- Reads a word. -/
def takeWord (w : String) : Read Unit := take (word w)

/-- Reads an identifier. -/
def takeIdent : Read Unit := take ident

/-- Reads a lifetime. -/
def takeLifetime : Read Unit := take lifetime

/-- Reads a literal. -/
def takeLiteral : Read Unit := do
  if ← ask (marks "-") then takeMarks "-"
  take literal

/-- Reads marks if they come next, and tells whether they did. -/
def tryMarks (s : String) : Read Bool := do
  if ← ask (marks s) then
    takeMarks s
    return true
  else return false

/-- Reads a word if it comes next, and tells whether it did. -/
def tryWord (w : String) : Read Bool := do
  if ← ask (word w) then
    takeWord w
    return true
  else return false

/-- Reads a group all of which is a phrase. -/
def inside (d : Delimiter) (p : Read α) : Read α := do
  match ← get with
  | .group d' content :: ts =>
    if d = d' then
      let (a, rest) ← p.run content
      if rest.isEmpty then
        set ts
        return a
      else failure
    else failure
  | _ => failure

/-- Reads everything that is left. -/
def takeAll : Read Unit := set ([] : List Token)

/-- Reads a group with delimiters of any kind, and tells whether they are braces. -/
def anyGroup : Read Bool := do
  match ← get with
  | .group d _ :: ts =>
    set ts
    return d = .brace
  | _ => failure

/-- Reads a phrase if it is there; otherwise reads nothing. -/
def attempt (p : Read α) : Read (Option α) := fun ts =>
  match p ts with
  | some (a, rest) => some (some a, rest)
  | none => some (none, ts)

/-- Repeats a step, from one state to the next, until it yields none. The fuel bounds the number of
steps. -/
def iterateWith (step : σ → Read (Option σ)) : Nat → σ → Read σ
  | 0, _ => failure
  | fuel + 1, s => do
    match ← step s with
    | some s => iterateWith step fuel s
    | none => return s

/-- Repeats a step, from one state to the next, until it yields none. Every other step reads
something, so there are no more of them than trees. -/
def iterate (step : σ → Read (Option σ)) (start : σ) : Read σ := do
  iterateWith step ((← get).length + 1) start

/-- Repeats a step that tells whether to go on, and reads something before it does. -/
def repeatSteps (step : Read Bool) : Read Unit :=
  iterate (fun _ => do if ← step then return some () else return none) ()

/-- Reads phrases up to the end. -/
def many (p : Read Unit) : Read Unit :=
  repeatSteps do
    if ← ask atEnd then return false
    p
    return true

/-- Reads phrases while a test holds. -/
def whileNext (t : Test) (p : Read Unit) : Read Unit :=
  repeatSteps do
    if ← ask t then
      p
      return true
    else return false

/-- Reads phrases with marks between them up to the place where a test holds; there may be marks
behind the last phrase. -/
def listed (sep : String) (stop : Test) (p : Read Unit) : Read Unit :=
  repeatSteps do
    if ← ask stop then return false
    p
    if ← ask stop then return false
    takeMarks sep
    return true

/-- Reads phrases with marks between them up to the place where a test holds or where no mark
follows; there may be marks behind the last phrase. -/
def chained (sep : String) (stop : Test) (p : Read Unit) : Read Unit :=
  repeatSteps do
    if ← ask stop then return false
    p
    tryMarks sep

/-- Reads phrases between commas up to the end. -/
def commaList (p : Read Unit) : Read Unit := listed "," atEnd p

/-- Forgets the shape of a phrase. -/
def plainly (p : Read Shape) : Read Unit := do
  let _ ← p

end CrudForge.Grammar
