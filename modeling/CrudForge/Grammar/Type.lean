import CrudForge.Grammar.Phrase

/-!
Types, and what they are made of: paths with their arguments, bounds, and the parameters of what
is generic.
-/

namespace CrudForge.Grammar

variable (r : Readers)

/-! ## Attributes and blocks -/

/-- A path without arguments. -/
def simplePath : Read Unit := do
  let segment := ident.or (words ["super", "self", "Self", "crate"])
  let _ ← tryMarks "::"
  take segment
  whileNext (marks "::") do
    takeMarks "::"
    take segment

/-- What an attribute says. -/
def attributeBody : Read Unit := do
  if ← ask (word "unsafe") then takeWord "unsafe" else simplePath
  if ← ask ((group .paren).or ((group .bracket).or (group .brace))) then
    let _ ← anyGroup
  else if ← tryMarks "=" then
    if ← ask ((marks "#").and (group .bracket).second) then failure
    plainly (r (.expr true))

/-- The attributes in front of something. -/
def outerAttributes : Read Unit :=
  whileNext (marks "#") do
    takeMarks "#"
    inside .bracket (attributeBody r)

/-- The attributes at the beginning of what they belong to. -/
def innerAttributes : Read Unit :=
  whileNext ((marks "#").and (marks "!").second) do
    takeMarks "#"
    takeMarks "!"
    inside .bracket (attributeBody r)

/-- A block. -/
def block : Read Unit := inside .brace (plainly (r .statements))

/-- A block that may begin with attributes. -/
def attributedBlock : Read Unit :=
  inside .brace do
    innerAttributes r
    plainly (r .statements)

/-! ## Paths -/

/-- The arguments of a segment of a path. -/
inductive Arguments
  | none
  | empty
  | some
  deriving DecidableEq, Repr

/-- What a path looks like from the outside. -/
structure PathShape where
  /-- Whether it starts at the root. -/
  rooted : Bool
  /-- Whether it has one segment only. -/
  single : Bool
  /-- Whether no segment has arguments. -/
  simple : Bool
  /-- The arguments of the last segment. -/
  last : Arguments

/-- A constant as an argument. -/
def constArgument : Read Unit := do
  if ← ask literal then takeLiteral else attributedBlock r

/-- One argument: a lifetime, a constant, a type, or a name with a type, a constant or bounds. -/
def genericArgument : Read Unit := do
  let constant := literal.or (group .brace)
  if ← ask (lifetime.except (marks "+").second) then takeLifetime
  else if ← ask constant then constArgument r
  else if (← r (.type true)) = .word then
    if ← tryMarks "=" then
      if ← ask constant then constArgument r else plainly (r (.type true))
    else if ← tryMarks ":" then
      chained "+" (anyMarks [",", ">"]) (plainly (r (.bound false)))

/-- Arguments in angle brackets. -/
def genericArguments : Read Arguments := do
  takeMarks "<"
  let empty ← ask (marks ">")
  listed "," (marks ">") (genericArgument r)
  takeMarks ">"
  return if empty then .empty else .some

/-- A segment of a path. In an expression its arguments stand behind two colons, since an angle
bracket on its own compares. -/
def segment (inExpr : Bool) : Read Arguments := do
  if ← ask (words ["super", "self", "crate", "try"]) then
    take anyWord
    return .none
  if ← ask (word "Self") then take anyWord else takeIdent
  let bare := (marks "<").except (anyMarks ["<=", "<<="])
  let turbofish := (marks "::").and (marks "<").third
  if (← ask turbofish) || (!inExpr && (← ask bare)) then
    let _ ← tryMarks "::"
    genericArguments r
  else return .none

/-- A path. -/
def path (inExpr : Bool) : Read PathShape := do
  let rooted ← tryMarks "::"
  let first ← segment r inExpr
  iterate (fun p => do
      if ← ask ((marks "::").except (group .paren).third) then
        takeMarks "::"
        let last ← segment r inExpr
        return some
          { p with single := false, simple := p.simple && last = .none, last := last }
      else return none)
    { rooted, single := true, simple := first = .none, last := first }

/-- A path, or one that begins with a type in angle brackets, of which nothing is told. -/
def qualifiedPath (inExpr : Bool) : Read (Option PathShape) := do
  if ← tryMarks "<" then
    plainly (r (.type true))
    if ← tryWord "as" then
      let _ ← path r false
    takeMarks ">"
    takeMarks "::"
    repeatSteps do
      let _ ← segment r inExpr
      tryMarks "::"
    return none
  else return some (← path r inExpr)

/-! ## Parameters -/

/-- A lifetime parameter with its bounds. -/
def lifetimeParam : Read Unit := do
  takeLifetime
  if ← tryMarks ":" then
    chained "+" (atEnd.or (anyMarks [",", ">"])) takeLifetime

/-- A type parameter with its bounds and its default. -/
def typeParam : Read Unit := do
  takeIdent
  if ← tryMarks ":" then
    chained "+" (atEnd.or (anyMarks [",", ">", "="])) (plainly (r (.bound false)))
  if ← tryMarks "=" then plainly (r (.type true))

/-- A constant parameter with its type and its default. -/
def constParam : Read Unit := do
  takeWord "const"
  takeIdent
  takeMarks ":"
  plainly (r (.type true))
  if ← tryMarks "=" then constArgument r

/-- A parameter. -/
def genericParam : Read Unit := do
  outerAttributes r
  if ← ask lifetime then lifetimeParam
  else if ← ask ident then typeParam r
  else if ← ask (word "const") then constParam r
  else takeWord "_"

/-- Parameters in angle brackets, if there are any. -/
def generics : Read Unit := do
  if ← tryMarks "<" then
    listed "," (marks ">") (genericParam r)
    takeMarks ">"

/-- The lifetimes for all of which something holds. -/
def boundLifetimes : Read Unit := do
  takeWord "for"
  takeMarks "<"
  listed "," (marks ">") (genericParam r)
  takeMarks ">"

/-! ## Bounds -/

/-- What is captured, by name. -/
def captures : Read Unit := do
  takeWord "use"
  takeMarks "<"
  listed "," (marks ">") (take (lifetime.or (ident.or (word "Self"))))
  takeMarks ">"

/-- The type behind an arrow, if there is one. -/
def returnType (plus : Bool) : Read Unit := do
  if ← tryMarks "->" then plainly (r (.type plus))

/-- A trait with its modifiers. A trait without arguments may have the types of a function. -/
def traitBound : Read Unit := do
  let all ← ask (word "for")
  if all then boundLifetimes r
  if ← ask (group .bracket) then inside .bracket (takeWord "const")
  else if ← ask (word "const") then takeWord "const"
  if ← tryMarks "?" then
    if !all && (← ask (word "for")) then boundLifetimes r
  let p ← path r false
  if p.last ≠ .some then
    if ← ask ((group .paren).or ((marks "::").and (group .paren).third)) then
      let _ ← tryMarks "::"
      inside .paren (commaList (plainly (r (.type true))))
      returnType r false

/-- A bound: a lifetime, what is captured, or a trait, which may stand in parentheses. -/
def bound (capturing : Bool) : Read Shape := do
  if ← ask lifetime then
    takeLifetime
    return .plain
  else if capturing && (← ask (word "use")) then
    captures
    return .plain
  else
    if ← ask (group .paren) then inside .paren (traitBound r) else traitBound r
    return .traitBound

/-- Whether a bound may come next. -/
def boundAhead : Test :=
  anyWord.or ((anyMarks ["::", "?"]).or (lifetime.or (group .paren)))

/-- Bounds with plus signs between them, or one bound only, among them a trait. -/
def bounds (plus capturing : Bool) : Read Unit := do
  let first ← r (.bound capturing)
  let found ←
    if plus then
      iterate (fun found => do
          if ← tryMarks "+" then
            if ← ask (boundAhead.or (group .bracket)) then
              let next ← r (.bound capturing)
              return some (found || next = .traitBound)
            else return some found
          else return none)
        (first = .traitBound)
    else pure (first = .traitBound)
  if found then return () else failure

/-- More bounds, each behind a plus sign. -/
def moreBounds : Read Unit :=
  whileNext (marks "+") do
    takeMarks "+"
    plainly (r (.bound false))

/-! ## Types -/

/-- The binding of functions to other languages. -/
def foreignBinding : Read Unit := do
  takeWord "extern"
  if ← ask literalText then take literalText

/-- A parameter in the type of a function, which may have a name; the first may be the receiver. -/
def functionTypeParam (first : Bool) : Read Unit := do
  outerAttributes r
  let receiver := (word "mut").and (word "self").second
  let named := (marks ":").second.except (marks "::").second
  if first && (← ask receiver) then
    takeWord "mut"
    takeWord "self"
    if ← ask ((marks ":").except (marks "::")) then
      takeMarks ":"
      plainly (r (.type true))
  else
    let name := ident.or ((word "_").or fun ts => first && word "self" ts)
    if ← ask (name.and named) then
      take anyWord
      takeMarks ":"
    plainly (r (.type true))

/-- The parameters in the type of a function; dots may end them. -/
def functionTypeParams : Read Unit := do
  let name := ident.or (word "_")
  let dots := (marks "...").or (name.and ((marks ":").second.and (marks "...").third))
  let _ ← iterate (fun first => do
      if ← ask atEnd then return none
      outerAttributes r
      if ← ask dots then
        if ← ask name then
          take anyWord
          takeMarks ":"
        takeMarks "..."
        let _ ← tryMarks ","
        return none
      functionTypeParam r first
      if ← ask atEnd then return none
      takeMarks ","
      return some false)
    true

/-- The type of a function. -/
def functionType : Read Unit := do
  let _ ← tryWord "unsafe"
  if ← ask (word "extern") then foreignBinding
  takeWord "fn"
  inside .paren (functionTypeParams r)
  returnType r false

/-- What stands in parentheses in place of a type. -/
inductive Parenthesized
  /-- A type that stands for itself, or several. -/
  | closed
  /-- A bound, so that more may follow. -/
  | bound
  /-- A single type of some shape. -/
  | single (shape : Shape)

/-- The content of parentheses in place of a type. -/
def parenthesizedBody : Read Parenthesized := do
  if ← ask atEnd then return .closed
  if ← ask lifetime then
    bounds r true false
    return .closed
  if ← ask (marks "?") then
    traitBound r
    return .bound
  let first ← r (.type true)
  if ← tryMarks "," then
    commaList (plainly (r (.type true)))
    return .closed
  return .single first

/-- A type in parentheses, a tuple, or a sum of bounds whose first stands in parentheses. -/
def parenthesizedType (plus : Bool) : Read Shape := do
  match ← inside .paren (parenthesizedBody r) with
  | .closed => return .plain
  | .bound =>
    if ← ask (marks "+") then
      moreBounds r
      return .plain
    else return .bound
  | .single shape =>
    if plus && (shape = .word || shape = .path || shape = .bound) then moreBounds r
    return .plain

/-- The bounds behind the first one of a sum, the last of which may be missing. -/
def restOfSum : Read Unit :=
  repeatSteps do
    if ← tryMarks "+" then
      if ← ask boundAhead then
        plainly (r (.bound false))
        return true
      else return false
    else return false

/-- A type that begins with a path: the path, a call of a macro, or a sum of bounds. -/
def pathType (plus all : Bool) : Read Shape := do
  match ← qualifiedPath r false with
  | none => return .plain
  | some p =>
    if p.simple && (← ask ((marks "!").except (marks "!="))) then
      takeMarks "!"
      let _ ← anyGroup
      return .plain
    else if plus && (← ask (marks "+")) then
      restOfSum r
      return .plain
    else if all then return .bound
    else return if p.single && !p.rooted then .word else .path

/-- A type in brackets: a slice, or an array with its length. -/
def bracketedType : Read Unit :=
  inside .bracket do
    plainly (r (.type true))
    if ← tryMarks ";" then plainly (r (.expr true))

/-- A type. -/
def type (plus : Bool) : Read Shape := do
  let root := ident.or (words ["super", "self", "Self", "crate"])
  let function := words ["fn", "unsafe", "extern"]
  let all ← ask (word "for")
  if all then
    boundLifetimes r
    if !(← ask (root.or function)) then failure
  if ← ask (group .paren) then parenthesizedType r plus
  else if ← ask function then
    functionType r
    return .plain
  else if ← ask (root.or (anyMarks ["::", "<"])) then pathType r plus all
  else
    if ← tryWord "dyn" then
      let _ ← tryMarks "*"
      bounds r plus false
    else if ← ask (group .bracket) then bracketedType r
    else if ← tryMarks "*" then
      take (words ["const", "mut"])
      plainly (r (.type false))
    else if ← tryMarks "&" then
      if ← ask lifetime then takeLifetime
      let _ ← tryWord "mut"
      plainly (r (.type false))
    else if ← tryMarks "!" then return .plain
    else if ← tryWord "impl" then bounds r plus true
    else if ← tryWord "_" then return .plain
    else if ← ask lifetime then bounds r true false
    else failure
    return .plain

/-! ## Conditions on parameters -/

/-- Whether angle brackets that come next hold parameters rather than the beginning of a path. -/
def genericsAhead : Test :=
  let start := (marks ">").or ((marks "#").or (word "const"))
  let name := (lifetime.or ident).and (anyMarks [":", ",", ">", "="]).second
  (marks "<").and (start.or name).second

/-- Conditions on parameters, if there are any. -/
def whereClause : Read Unit := do
  if ← tryWord "where" then
    if ← ask genericsAhead then failure
    let stop := atEnd.or ((group .brace).or ((anyMarks [",", ";", "="]).or
      ((marks ":").except (marks "::"))))
    chained "," stop do
      if ← ask (lifetime.and (marks ":").second) then
        takeLifetime
        takeMarks ":"
        chained "+" (atEnd.or ((group .brace).or (anyMarks [",", ";", ":", "="]))) takeLifetime
      else
        if ← ask (word "for") then boundLifetimes r
        plainly (r (.type true))
        takeMarks ":"
        chained "+" stop (plainly (r (.bound false)))

end CrudForge.Grammar
