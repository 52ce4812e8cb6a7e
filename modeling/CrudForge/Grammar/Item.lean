import CrudForge.Grammar.Expr

/-!
Statements and items. An item is read from its visibility on; what it may be is told by the words
that come next.
-/

namespace CrudForge.Grammar

variable (r : Readers)

/-! ## Statements -/

/-- Whether an item comes next where a statement is expected. -/
def itemAhead : Test := fun ts =>
  let second (t : Test) : Bool := t (skip ts)
  let third (t : Test) : Bool := t (skip (skip ts))
  words ["pub", "extern", "use", "fn", "mod", "type", "struct", "enum", "trait", "impl",
    "macro"] ts ||
  (word "crate" ts && !second (marks "::")) ||
  (word "static" ts && second ((word "mut").or ident)) ||
  (word "const" ts &&
    !(second ((group .brace).or ((words ["static", "move"]).or (marks "|"))) ||
      (second (word "async") && !third (words ["unsafe", "extern", "fn"])))) ||
  (word "unsafe" ts && !second (group .brace)) ||
  (word "async" ts && second (words ["unsafe", "extern", "fn"])) ||
  (word "union" ts && second ident) ||
  (word "auto" ts && second (word "trait")) ||
  (word "default" ts && second (words ["unsafe", "impl"]))

/-- The trees behind the last one that was read. -/
def lastRead (before after : List Token) : List Token :=
  before.drop (before.length - after.length - 1)

/-- A variable with its type and its value. A block for the case that the pattern does not match
may follow a value that does not end with a block. -/
def localStatement : Read Unit := do
  takeWord "let"
  plainly (r .pattern)
  if ← tryMarks ":" then plainly (r (.type true))
  if ← tryMarks "=" then
    let before ← get
    plainly (r (.expr true))
    let braced := group .brace (lastRead before (← get))
    if !braced && (← ask (word "else")) then
      takeWord "else"
      block r
  takeMarks ";"

/-- How the call of a macro begins a statement. -/
inductive MacroStart
  /-- It does not, or it is an expression. -/
  | none
  /-- It has braces and is a statement of its own. -/
  | statement
  /-- It defines something by name. -/
  | item
  deriving DecidableEq

/-- How the call of a macro begins the statement that comes next. -/
def macroStart (ts : List Token) : MacroStart :=
  match simplePath.run ts with
  | some (_, rest) =>
    let behind := skip rest
    let continued := (dotAhead.or (marks "?")) (skip behind)
    if !marks "!" rest then .none
    else if ident behind || word "try" behind then .item
    else if group .brace behind && !continued then .statement
    else .none
  | none => .none

/-- A statement. Tells whether a semicolon is missing unless it is the last one. -/
def statement : Read Bool := do
  outerAttributes r
  let ts ← get
  match macroStart ts with
  | .statement =>
    simplePath
    takeMarks "!"
    let _ ← anyGroup
    let _ ← tryMarks ";"
    return false
  | .item =>
    plainly (r .item)
    return false
  | .none =>
    if word "let" ts then
      localStatement r
      return false
    else if itemAhead ts then
      plainly (r .item)
      return false
    else
      let shape ← r .statementExpr
      let ended ← tryMarks ";"
      return !ended && shape ≠ .block && shape ≠ .macroCall true

/-- The statements of a block, up to its end. -/
def statements : Read Unit :=
  repeatSteps do
    whileNext (marks ";") (takeMarks ";")
    if ← ask atEnd then return false
    let open' ← statement r
    if ← ask atEnd then return false
    else if open' then failure
    else return true

/-! ## Functions -/

/-- Visibility; tells whether it is spelled out. -/
def visibility : Read Bool := do
  if ← tryWord "pub" then
    match ← get with
    | .group .paren content :: _ =>
      if word "in" content then
        inside .paren do
          takeWord "in"
          simplePath
      else if words ["crate", "self", "super"] content && (skip content).isEmpty then
        inside .paren takeAll
    | _ => pure ()
    return true
  else return false

/-- The trees behind a word, if it comes next. -/
def past (w : String) (ts : List Token) : List Token :=
  if word w ts then skip ts else ts

/-- Whether a function comes next, behind its qualifiers; `safe` may be one of them. -/
def functionAhead (safe : Bool) : Test := fun ts =>
  let ts := past "async" (past "const" ts)
  let ts := if safe && word "safe" ts then skip ts else past "unsafe" ts
  let ts :=
    if word "extern" ts then
      let ts := skip ts
      if literalText ts then skip ts else ts
    else ts
  word "fn" ts

/-- The object that a method is called on; tells whether there is one. -/
def receiver : Read Unit := do
  let byRef ← tryMarks "&"
  if byRef then
    if ← ask lifetime then takeLifetime
  let _ ← tryWord "mut"
  takeWord "self"
  if !byRef then
    if ← tryMarks ":" then plainly (r (.type true))

/-- The parameters of a function. Only the first one may be the object that it is called on, and
dots may stand for all further ones. -/
def functionParams : Read Unit := do
  let _ ← iterate (fun first => do
      if ← ask atEnd then return none
      outerAttributes r
      let more ←
        if ← tryMarks "..." then pure false
        else
          match ← attempt (receiver r) with
          | some () => if first then pure true else failure
          | none =>
            if ← ask (ident.and (marks "<").second) then
              plainly (r (.type true))
              pure true
            else
              plainly (r .pattern)
              takeMarks ":"
              if ← tryMarks "..." then pure false
              else
                plainly (r (.type true))
                pure true
      if ← ask atEnd then return none
      takeMarks ","
      return if more then some false else none)
    true

/-- A function up to its body; `safe` may be one of its qualifiers. -/
def signature (safe : Bool) : Read Unit := do
  let _ ← tryWord "const"
  let _ ← tryWord "async"
  if safe && (← ask (word "safe")) then takeWord "safe"
  else
    let _ ← tryWord "unsafe"
  if ← ask (word "extern") then foreignBinding
  takeWord "fn"
  takeIdent
  generics r
  inside .paren (functionParams r)
  returnType r true
  whereClause r

/-- A function with its body, or a semicolon in place of it. -/
def function (safe : Bool) : Read Unit := do
  signature r safe
  if !(← tryMarks ";") then attributedBlock r

/-! ## Members of traits, implementations and foreign modules -/

/-- Bounds with plus signs between them, up to the place where a test holds. -/
def boundList (stop : Test) : Read Unit :=
  listed "+" stop (plainly (r (.bound false)))

/-- A type with a name, bounds and a definition, any of which but the name may be missing. Its
conditions stand in front of the definition or behind it. -/
def typeDefinition (conditionsFirst : Bool) : Read Unit := do
  takeWord "type"
  takeIdent
  generics r
  if ← tryMarks ":" then boundList r ((word "where").or (anyMarks ["=", ";"]))
  if conditionsFirst then whereClause r
  if ← tryMarks "=" then plainly (r (.type true))
  if !conditionsFirst then whereClause r
  takeMarks ";"

/-- A constant with its type; its value may be missing. -/
def constant : Read Unit := do
  takeWord "const"
  take (ident.or (word "_"))
  generics r
  takeMarks ":"
  plainly (r (.type true))
  if ← tryMarks "=" then plainly (r (.expr true))
  whereClause r
  takeMarks ";"

/-- Whether the call of a macro may come next in place of an item. -/
def macroAhead : Test := ident.or ((words ["self", "super", "crate"]).or (marks "::"))

/-- The call of a macro in place of a member. -/
def macroMember : Read Unit := do
  simplePath
  takeMarks "!"
  if !(← anyGroup) then takeMarks ";"

/-- A member of a trait. -/
def traitMember : Read Unit := do
  outerAttributes r
  let visible ← visibility
  let default ← tryWord "default"
  if ← ask (functionAhead false) then function r false
  else if ← ask (word "const") then constant r
  else if ← ask (word "type") then typeDefinition r false
  else if !visible && !default && (← ask macroAhead) then macroMember
  else failure

/-- A member of an implementation. -/
def implMember : Read Unit := do
  outerAttributes r
  let visible ← visibility
  let default ← ask ((word "default").except (marks "!").second)
  if default then takeWord "default"
  if ← ask (functionAhead false) then function r false
  else if ← ask (word "const") then constant r
  else if ← ask (word "type") then typeDefinition r false
  else if !visible && !default && (← ask macroAhead) then macroMember
  else failure

/-- A member of a foreign module. -/
def foreignMember : Read Unit := do
  outerAttributes r
  let visible ← visibility
  let static := (word "static").or ((words ["unsafe", "safe"]).and (word "static").second)
  if ← ask (functionAhead true) then function r true
  else if ← ask static then
    if !(← tryWord "static") then
      take anyWord
      takeWord "static"
    let _ ← tryWord "mut"
    takeIdent
    takeMarks ":"
    plainly (r (.type true))
    if ← tryMarks "=" then plainly (r (.expr true))
    takeMarks ";"
  else if ← ask (word "type") then typeDefinition r true
  else if !visible && (← ask macroAhead) then macroMember
  else failure

/-! ## Data types -/

/-- A field with a name. -/
def namedField : Read Unit := do
  outerAttributes r
  let _ ← visibility
  let unnamed ← tryWord "_"
  if !unnamed then takeIdent
  takeMarks ":"
  if unnamed && (← ask ((word "struct").or ((word "union").and (group .brace).second))) then
    take anyWord
    let _ ← anyGroup
  else plainly (r (.type true))

/-- The fields of a structure by name. -/
def namedFields : Read Unit := inside .brace (commaList (namedField r))

/-- The fields of a structure by position. -/
def positionalFields : Read Unit :=
  inside .paren <| commaList do
    outerAttributes r
    let _ ← visibility
    plainly (r (.type true))

/-- A structure. -/
def structItem : Read Unit := do
  takeWord "struct"
  takeIdent
  generics r
  if ← ask (group .paren) then
    positionalFields r
    whereClause r
    takeMarks ";"
  else
    whereClause r
    if ← ask (group .brace) then namedFields r else takeMarks ";"

/-- A variant of an enumeration. -/
def variant : Read Unit := do
  outerAttributes r
  let _ ← visibility
  takeIdent
  if ← ask (group .brace) then namedFields r
  else if ← ask (group .paren) then positionalFields r
  if ← tryMarks "=" then plainly (r (.expr true))

/-- An enumeration. -/
def enumItem : Read Unit := do
  takeWord "enum"
  takeIdent
  generics r
  whereClause r
  inside .brace (commaList (variant r))

/-- A union. -/
def unionItem : Read Unit := do
  takeWord "union"
  takeIdent
  generics r
  whereClause r
  namedFields r

/-! ## Traits, implementations and modules -/

/-- Attributes and then members between braces. -/
def memberBlock (member : Read Unit) : Read Unit :=
  inside .brace do
    innerAttributes r
    many member

/-- A trait, or a name for several. -/
def traitItem : Read Unit := do
  let special ← ask (words ["unsafe", "auto"])
  let _ ← tryWord "unsafe"
  let _ ← tryWord "auto"
  takeWord "trait"
  takeIdent
  generics r
  if !special && (← tryMarks "=") then
    boundList r ((word "where").or (marks ";"))
    whereClause r
    takeMarks ";"
  else
    if ← tryMarks ":" then boundList r ((word "where").or (group .brace))
    whereClause r
    memberBlock r (traitMember r)

/-- An implementation. -/
def implItem : Read Unit := do
  let _ ← tryWord "default"
  let _ ← tryWord "unsafe"
  takeWord "impl"
  if ← ask genericsAhead then generics r
  if ← ask ((word "const").or ((marks "?").and (word "const").second)) then
    let _ ← tryMarks "?"
    takeWord "const"
  if ← ask ((marks "!").except (group .brace).second) then takeMarks "!"
  plainly (r (.type true))
  if ← tryWord "for" then plainly (r (.type true))
  whereClause r
  memberBlock r (implMember r)

/-- A module, with its items or in a file of its own. -/
def moduleItem : Read Unit := do
  let _ ← tryWord "unsafe"
  takeWord "mod"
  take (ident.or (word "try"))
  if !(← tryMarks ";") then memberBlock r (plainly (r .item))

/-- A foreign module. -/
def foreignModule : Read Unit := do
  let _ ← tryWord "unsafe"
  foreignBinding
  memberBlock r (foreignMember r)

/-! ## Imports -/

/-- A name in the path of an import. -/
def importName : Test := ident.or (words ["self", "super", "crate", "try"])

/-- What is imported: names behind a path, all names, or several of these. -/
def useTree (root : Bool) : Read Unit := do
  if ← ask importName then
    take anyWord
    if ← tryMarks "::" then plainly (r (.useTree false))
    else if ← tryWord "as" then take (ident.or (word "_"))
  else if ← ask (group .brace) then
    inside .brace <| commaList do
      let atRoot ← if root then tryMarks "::" else pure false
      plainly (r (.useTree (root && !atRoot)))
  else takeMarks "*"

/-- An import. -/
def useItem : Read Unit := do
  takeWord "use"
  let rooted ← tryMarks "::"
  useTree r !rooted
  takeMarks ";"

/-- The import of a whole library. -/
def externCrate : Read Unit := do
  takeWord "extern"
  takeWord "crate"
  take (ident.or (word "self"))
  if ← tryWord "as" then take (ident.or (word "_"))
  takeMarks ";"

/-! ## Items -/

/-- A variable of the program; its type or its value may be missing, but not both. -/
def staticItem : Read Unit := do
  takeWord "static"
  let _ ← tryWord "mut"
  takeIdent
  if ← tryMarks "=" then plainly (r (.expr true))
  else
    takeMarks ":"
    plainly (r (.type true))
    if ← tryMarks "=" then plainly (r (.expr true))
  takeMarks ";"

/-- The definition of a macro by its parts. -/
def macroDefinition : Read Unit := do
  takeWord "macro"
  takeIdent
  if ← ask (group .paren) then inside .paren takeAll
  inside .brace takeAll

/-- The call of a macro in place of an item, which may define a name. -/
def macroItem : Read Unit := do
  simplePath
  takeMarks "!"
  if ← ask (ident.or (word "try")) then take anyWord
  if !(← anyGroup) then takeMarks ";"

/-- An item behind its visibility. -/
def itemBody (visible : Bool) : Read Unit := do
  let ts ← get
  let second (t : Test) : Bool := t (skip ts)
  if functionAhead false ts then function r false
  else if word "extern" ts then
    if second (word "crate") then externCrate
    else if visible then failure
    else foreignModule r
  else if word "use" ts then useItem r
  else if word "static" ts then staticItem r
  else if word "const" ts then constant r
  else if word "unsafe" ts then
    if second (word "trait") || (second (word "auto") && word "trait" (skip (skip ts))) then
      traitItem r
    else if second (word "impl") then implItem r
    else if second (word "extern") && !visible then foreignModule r
    else moduleItem r
  else if word "mod" ts then moduleItem r
  else if word "type" ts then typeDefinition r true
  else if word "struct" ts then structItem r
  else if word "enum" ts then enumItem r
  else if word "union" ts && second ident then unionItem r
  else if word "trait" ts || (word "auto" ts && second (word "trait")) then traitItem r
  else if word "impl" ts || (word "default" ts && !second (marks "!")) then implItem r
  else if word "macro" ts then macroDefinition
  else if !visible && macroAhead ts then macroItem
  else failure

/-- An item. -/
def item : Read Unit := do
  outerAttributes r
  itemBody r (← visibility)

/-- The items of a file. -/
def file : Read Unit := do
  innerAttributes r
  many (plainly (r .item))

end CrudForge.Grammar
