import CrudForge.Grammar.Pattern
import CrudForge.Text.Blank

/-!
Expressions. Operators are read by precedence; comparisons cannot be chained, and a range is no
operand of what follows it. Where a block comes next, as in the condition of an `if`, a brace
never begins the value of a structure.
-/

namespace CrudForge.Grammar

variable (r : Readers)

/-! ## Operators -/

/-- The operators between two expressions; of two that fit the first one counts. -/
def binaryOperators : List (String × Precedence) :=
  [("+=", .assign), ("-=", .assign), ("*=", .assign), ("/=", .assign), ("%=", .assign),
    ("^=", .assign), ("&=", .assign), ("|=", .assign), ("<<=", .assign), (">>=", .assign),
    ("&&", .and), ("||", .or), ("<<", .shift), (">>", .shift), ("==", .compare),
    ("<=", .compare), ("!=", .compare), (">=", .compare), ("+", .sum), ("-", .sum),
    ("*", .product), ("/", .product), ("%", .product), ("^", .bitXor), ("&", .bitAnd),
    ("|", .bitOr), ("<", .compare), (">", .compare)]

/-- The operator that comes next, with its precedence. -/
def operatorAhead? (ts : List Token) : Option (String × Precedence) :=
  binaryOperators.find? fun (s, _) => marks s ts

/-- Whether an assignment comes next. -/
def assignAhead : Test := (marks "=").except (marks "=>")

/-- The precedence of what comes next. -/
def precedenceAhead (ts : List Token) : Precedence :=
  match operatorAhead? ts with
  | some (_, p) => p
  | none =>
    if assignAhead ts then .assign
    else if marks ".." ts then .range
    else if word "as" ts then .cast
    else .lowest

/-- Whether a field or a method of what came before comes next. -/
def dotAhead : Test := (marks ".").except (marks "..")

/-- The right operand of an operator, with all that binds more tightly; assignments take further
assignments along. -/
def operand (structs : Bool) (p : Precedence) : Read Shape := do
  iterate (fun shape => do
      let ts ← get
      let next := precedenceAhead ts
      if next.rank > p.rank || (next = .assign && p = .assign) then
        let shape ← r (.operators structs next shape)
        if (← get).length = ts.length then return none else return some shape
      else return none)
    (← r (.unary structs))

/-- Whether a range ends at its dots. -/
def rangeStop (structs : Bool) : Test := fun ts =>
  atEnd ts || dotAhead ts || (!structs && group .brace ts) || word "as" ts ||
    anyMarks [",", ";", "?", "=>", "=", "+", "/", "%", "^", ">", "<=", "!=", "-=", "*=", "&=",
      "|=", "<<="] ts

/-- The dots of a range and its end; a range without its end does not hold it. -/
def rangeTail (structs : Bool) : Read Unit := do
  let closed ← rangeDots false
  if closed || !(← ask (rangeStop structs)) then plainly (operand r structs .range)

/-- What is cast cannot be used any further without parentheses. -/
def castEnd : Test := dotAhead.or ((marks "?").or ((group .bracket).or (group .paren)))

/-- The operators behind an expression, from a precedence on. -/
def operators (structs : Bool) (base : Precedence) (left : Shape) : Read Shape :=
  iterate (fun left => do
      let ts ← get
      let allowed (p : Precedence) : Bool := base.rank ≤ p.rank
      if left = .range then return none
      else
        match operatorAhead? ts with
        | some (s, p) =>
          if !allowed p then return none
          else if p = .compare && left = .comparison then failure
          else
            takeMarks s
            plainly (operand r structs p)
            return some (if p = .compare then .comparison else .plain)
        | none =>
          if allowed .assign && assignAhead ts then
            takeMarks "="
            plainly (operand r structs .assign)
            return some .plain
          else if allowed .range && marks ".." ts then
            rangeTail r structs
            return some .range
          else if allowed .cast && word "as" ts then
            takeWord "as"
            plainly (r (.type false))
            if ← ask castEnd then failure
            return some .plain
          else return none)
    left

/-! ## Parts of expressions -/

/-- Arguments in parentheses. -/
def callArguments : Read Unit := inside .paren (commaList (plainly (r (.expr true))))

/-- Two members by number that look like a number with a point; a point at the end is one in
front of a further member. Tells whether there is such a point. -/
def memberNumbers (text : String) : Read Bool := do
  let pieces := Text.splitChars '.' text.toList
  let dot := pieces.getLast? = some []
  let numbers := if dot then pieces.dropLast else pieces
  if numbers.all fun cs => isMemberNumber (String.ofList cs) then return dot else failure

/-- A field or method behind its point. -/
def selection : Read Unit := do
  let more ←
    match ← get with
    | .literal .float text :: rest => do
      set rest
      memberNumbers text
    | _ => pure true
  if more then
    if ← tryWord "await" then return
    let named ← member
    if named then
      let turbofish ← tryMarks "::"
      if turbofish then
        let _ ← genericArguments r
      if turbofish || (← ask (group .paren)) then callArguments r

/-- Calls, members, elements and question marks behind an expression. -/
def trailers (shape : Shape) : Read Shape :=
  iterate (fun shape => do
      if ← ask (group .paren) then
        callArguments r
        return some .plain
      else if shape ≠ .range && (← ask dotAhead) then
        takeMarks "."
        selection r
        return some .plain
      else if ← ask (group .bracket) then
        inside .bracket (plainly (r (.expr true)))
        return some .plain
      else if shape ≠ .range && (← tryMarks "?") then return some .plain
      else return none)
    shape

/-- Whether an expression comes next. -/
def exprAhead : Test := fun ts =>
  (anyWord ts && !word "as" ts) || group .paren ts || group .bracket ts || group .brace ts ||
    literal ts || lifetime ts || anyMarks ["..", "::", "#"] ts ||
    (marks "!" ts && !marks "!=" ts) || (marks "-" ts && !anyMarks ["-=", "->"] ts) ||
    (marks "*" ts && !marks "*=" ts) || (marks "|" ts && !marks "|=" ts) ||
    (marks "&" ts && !marks "&=" ts) || (marks "<" ts && !anyMarks ["<=", "<<="] ts)

/-- An expression if one comes next. -/
def optionalExpr : Read Unit := do
  if ← ask exprAhead then plainly (r (.expr true))

/-- The fields of the value of a structure; dots stand for those of another one. -/
def fieldValues : Read Unit :=
  repeatSteps do
    if ← ask atEnd then return false
    if ← tryMarks ".." then
      if !(← ask atEnd) then plainly (r (.expr true))
      return false
    outerAttributes r
    let named ← member
    if !named || (← ask (marks ":")) then
      takeMarks ":"
      plainly (r (.expr true))
    if ← ask atEnd then return false
    takeMarks ","
    return true

/-- An expression that begins with a path. -/
def pathExpr (structs : Bool) : Read Shape := do
  let p ← qualifiedPath r true
  let simple := (p.map (·.simple)).getD false
  if simple && (← ask ((marks "!").except (marks "!="))) then
    takeMarks "!"
    return .macroCall (← anyGroup)
  else if structs && (← ask (group .brace)) then
    inside .brace (fieldValues r)
    return .plain
  else return .plain

/-- The elements of an array, or one and how often it comes. -/
def arrayElements : Read Unit := do
  if !(← ask atEnd) then
    plainly (r (.expr true))
    if ← tryMarks ";" then plainly (r (.expr true))
    else if !(← ask atEnd) then
      takeMarks ","
      commaList (plainly (r (.expr true)))

/-- A parameter of a closure. -/
def closureParam : Read Unit := do
  outerAttributes r
  plainly (r .pattern)
  if ← tryMarks ":" then plainly (r (.type true))

/-- A closure. If it tells the type of its result, its body is a block. -/
def closure (structs : Bool) : Read Unit := do
  if ← ask (word "for") then boundLifetimes r
  let _ ← tryWord "const"
  let _ ← tryWord "static"
  let _ ← tryWord "async"
  let _ ← tryWord "move"
  takeMarks "|"
  listed "," (marks "|") (closureParam r)
  takeMarks "|"
  if ← tryMarks "->" then
    plainly (r (.type true))
    block r
  else plainly (r (.expr structs))

/-! ## Control flow -/

/-- A chain of conditions with their blocks. -/
def ifExpr : Read Unit :=
  repeatSteps do
    takeWord "if"
    plainly (r (.expr false))
    block r
    if ← tryWord "else" then
      if ← ask (word "if") then return true
      else
        block r
        return false
    else return false

/-- A loop of one of three kinds. -/
def loopExpr : Read Unit := do
  if ← tryWord "while" then plainly (r (.expr false))
  else if ← tryWord "for" then
    plainly (alternatives r)
    takeWord "in"
    plainly (r (.expr false))
  else takeWord "loop"
  attributedBlock r

/-- A case of a match. A comma may be missing behind a block and at the end. -/
def arm : Read Unit := do
  outerAttributes r
  plainly (alternatives r)
  if ← tryWord "if" then plainly (r (.expr true))
  takeMarks "=>"
  let shape ← r .statementExpr
  if shape ≠ .block && !(← ask atEnd) then takeMarks ","
  else
    let _ ← tryMarks ","

/-- A match. -/
def matchExpr : Read Unit := do
  takeWord "match"
  plainly (r (.expr false))
  inside .brace do
    innerAttributes r
    many (arm r)

/-- A loop or block behind its label. -/
def labeled : Read Unit := do
  takeLifetime
  takeMarks ":"
  if ← ask (group .brace) then attributedBlock r else loopExpr r

/-- A pattern that an expression is matched with. -/
def letExpr (structs : Bool) : Read Unit := do
  takeWord "let"
  plainly (alternatives r)
  takeMarks "="
  let left ← r (.unary structs)
  plainly (r (.operators structs .compare left))

/-- A way out of a loop or block, with a value. A label in front of a value must not be taken for
that of a loop. -/
def breakExpr (structs : Bool) : Read Unit := do
  takeWord "break"
  if ← ask lifetime then
    takeLifetime
    if ← ask (marks ":") then failure
  if structs || !(← ask (group .brace)) then optionalExpr r

/-! ## Expressions -/

/-- An expression that begins with a word, other than a path that begins with an identifier. -/
def keywordExpr (structs : Bool) (w : String) : Read Shape := do
  let ts ← get
  let braceNext := group .brace (skip ts)
  match w with
  | "async" =>
    let moved := word "move" (skip ts)
    if braceNext || (moved && group .brace (skip (skip ts))) then
      takeWord "async"
      let _ ← tryWord "move"
      block r
    else if moved || marks "|" (skip ts) then closure r structs
    else failure
    return .plain
  | "try" =>
    if braceNext then
      takeWord "try"
      block r
      return .block
    else if anyMarks ["!", "::"] (skip ts) then pathExpr r structs
    else failure
  | "const" =>
    if braceNext then
      takeWord "const"
      attributedBlock r
      return .block
    else
      closure r structs
      return .plain
  | "move" | "static" =>
    closure r structs
    return .plain
  | "for" =>
    if genericsAhead (skip ts) then
      closure r structs
      return .plain
    else
      loopExpr r
      return .block
  | "while" | "loop" =>
    loopExpr r
    return .block
  | "if" =>
    ifExpr r
    return .block
  | "match" =>
    matchExpr r
    return .block
  | "unsafe" =>
    takeWord "unsafe"
    attributedBlock r
    return .block
  | "break" =>
    breakExpr r structs
    return .plain
  | "continue" =>
    takeWord "continue"
    if ← ask lifetime then takeLifetime
    return .plain
  | "return" | "yield" =>
    takeWord w
    optionalExpr r
    return .plain
  | "become" =>
    takeWord "become"
    plainly (r (.expr true))
    return .plain
  | "let" =>
    letExpr r structs
    return .plain
  | "_" =>
    takeWord "_"
    return .plain
  | "self" | "Self" | "super" | "crate" => pathExpr r structs
  | _ => failure

/-- A call of what the compiler provides. -/
def builtin : Read Unit := do
  takeWord "builtin"
  takeMarks "#"
  takeIdent
  inside .paren takeAll

/-- An expression without operators and without anything behind it. -/
def atom (structs : Bool) : Read Shape := do
  let ts ← get
  if literal ts then
    takeLiteral
    return .plain
  else if word "builtin" ts && marks "#" (skip ts) then
    builtin
    return .plain
  else if ident ts || anyMarks ["::", "<"] ts then pathExpr r structs
  else
    match ts with
    | .ident w :: _ => keywordExpr r structs w
    | .group .paren _ :: _ =>
      inside .paren (commaList (plainly (r (.expr true))))
      return .plain
    | .group .bracket _ :: _ =>
      inside .bracket (arrayElements r)
      return .plain
    | .group .brace _ :: _ =>
      attributedBlock r
      return .block
    | _ =>
      if lifetime ts then
        labeled r
        return .block
      else if marks "|" ts then
        closure r structs
        return .plain
      else if marks ".." ts then
        rangeTail r structs
        return .range
      else failure

/-- An expression without operators between its parts. A range that begins with its dots takes no
attributes. -/
def unary (structs : Bool) : Read Shape := do
  let attributed ← ask (marks "#")
  outerAttributes r
  let ts ← get
  if marks "&" ts then
    takeMarks "&"
    if ← ask ((word "raw").and (words ["mut", "const"]).second) then
      takeWord "raw"
      take anyWord
    else
      let _ ← tryWord "mut"
    plainly (r (.unary structs))
    return .plain
  else if anyMarks ["*", "!", "-"] ts then
    take fun _ => true
    plainly (r (.unary structs))
    return .plain
  else
    let shape ← trailers r (← atom r structs)
    if attributed && shape = .range then failure
    return shape

/-- An expression. -/
def expr (structs : Bool) : Read Shape := do
  operators r structs .lowest (← unary r structs)

/-- Whether an expression comes next that ends with its block. -/
def blockAhead : Test := fun ts =>
  words ["if", "while", "loop", "match", "unsafe"] ts || group .brace ts || lifetime ts ||
    (words ["try", "const"] ts && group .brace (skip ts)) ||
    (word "for" ts && !genericsAhead (skip ts))

/-- An expression that ends at the first place where a statement could end: behind a block, unless
a member of its value is asked for. -/
def statementExpr : Read Shape := do
  outerAttributes r
  if ← ask blockAhead then
    let shape ← atom r true
    if ← ask (dotAhead.or (marks "?")) then
      operators r true .lowest (← trailers r shape)
    else return .block
  else operators r true .lowest (← unary r true)

end CrudForge.Grammar
