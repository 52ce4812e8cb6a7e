import CrudForge.Decimal.Read
import CrudForge.Grammar.Type
import CrudForge.Grammar.Literal

/-!
Patterns, and the members of structures, which patterns and expressions name alike.
-/

namespace CrudForge.Grammar

variable (r : Readers)

/-- Whether the path of an expression comes next. -/
def pathAhead : Test :=
  ident.or ((anyMarks ["::", "<"]).or (words ["self", "Self", "super", "crate"]))

/-- A pattern with alternatives, which may begin with a bar. -/
def alternatives : Read Shape := do
  let bar := (marks "|").except (anyMarks ["||", "|="])
  let leading ← tryMarks "|"
  let first ← r .pattern
  if leading || (← ask bar) then
    whileNext bar do
      takeMarks "|"
      plainly (r .pattern)
    return .plain
  else return first

/-- The dots between the ends of a range, which may be three; tells whether the upper end belongs
to the range. -/
def rangeDots (three : Bool) : Read Bool := do
  if ← tryMarks "..=" then return true
  else if ← ask (marks "...") then
    if three then
      takeMarks "..."
      return true
    else failure
  else
    takeMarks ".."
    return false

/-- An end of a range, or nothing; tells whether there is one. -/
def rangeEnd : Read Bool := do
  let none := atEnd.or ((anyMarks ["|", "=", ",", ";"]).or
    (((marks ":").except (marks "::")).or (word "if")))
  if ← ask none then return false
  if ← ask literal then takeLiteral
  else if ← ask pathAhead then
    let _ ← qualifiedPath r true
  else
    takeWord "const"
    attributedBlock r
  return true

/-- The dots of a range and its upper end, which must be there if it belongs to the range; tells
whether it is there. -/
def restOfRange (three : Bool) : Read Bool := do
  let closed ← rangeDots three
  let found ← rangeEnd r
  if closed && !found then failure
  return found

/-- The number of a literal without a suffix. -/
def numberOf? (text : String) : Option Nat :=
  match text.toList.filter (· != '_') with
  | '0' :: 'x' :: ds => Decimal.natInBase? 16 ds
  | '0' :: 'o' :: ds => Decimal.natInBase? 8 ds
  | '0' :: 'b' :: ds => Decimal.natInBase? 2 ds
  | ds => Decimal.natInBase? 10 ds

/-- Whether a literal can be the number of a member. -/
def isMemberNumber (text : String) : Bool :=
  ((numberOf? text).map fun n => decide (n < Nat.pow 2 32)).getD false

/-- A member by name or number; tells whether it is a name. -/
def member : Read Bool := do
  match ← get with
  | .literal .int text :: rest =>
    if isMemberNumber text then
      set rest
      return false
    else failure
  | _ =>
    takeIdent
    return true

/-- A field of a structure with its pattern; a name on its own is both. -/
def fieldPattern : Read Unit := do
  let boxed ← tryWord "box"
  let byRef ← tryWord "ref"
  let mutable ← tryWord "mut"
  if boxed || byRef || mutable then takeIdent
  else
    let named ← member
    if !named || (← ask (marks ":")) then
      takeMarks ":"
      plainly (alternatives r)

/-- The fields of a structure; dots stand for all others. -/
def fieldPatterns : Read Unit :=
  repeatSteps do
    if ← ask atEnd then return false
    outerAttributes r
    if ← tryMarks ".." then return false
    fieldPattern r
    if ← ask atEnd then return false
    takeMarks ","
    return true

/-- A pattern that begins with a path. -/
def pathPattern : Read Shape := do
  let p ← qualifiedPath r true
  let simple := (p.map (·.simple)).getD false
  if simple && (← ask ((marks "!").except (marks "!="))) then
    takeMarks "!"
    let _ ← anyGroup
    return .plain
  else if ← ask (group .brace) then
    inside .brace (fieldPatterns r)
    return .plain
  else if ← ask (group .paren) then
    inside .paren (commaList (plainly (alternatives r)))
    return .plain
  else if ← ask (marks "..") then
    return if ← restOfRange r true then .plain else .openRange
  else return .plain

/-- A literal or another constant, or a range that begins with one. -/
def constantPattern : Read Shape := do
  if ← rangeEnd r then
    if ← ask (marks "..") then
      return if ← restOfRange r true then .plain else .openRange
    else return .plain
  else failure

/-- A name, which may be bound to a pattern. -/
def namePattern : Read Unit := do
  let _ ← tryWord "ref"
  let _ ← tryWord "mut"
  take (ident.or (word "self"))
  if ← tryMarks "@" then plainly (r .pattern)

/-- An element of a slice, which must not be a range that lacks an end. -/
def slicePattern : Read Unit := do
  if (← alternatives r) = .openRange then failure

/-- A pattern without alternatives. -/
def pattern : Read Shape := do
  let tail := (anyMarks ["::", "!", ".."]).or ((group .brace).or (group .paren))
  let path := (ident.and tail.second).or
    (((word "self").and (marks "::").second).or
      ((anyMarks ["::", "<"]).or (words ["Self", "super", "crate"])))
  if ← ask path then pathPattern r
  else if ← tryWord "_" then return .plain
  else if ← tryWord "box" then
    plainly (r .pattern)
    return .plain
  else if ← ask ((marks "-").or (literal.or (word "const"))) then constantPattern r
  else if ← ask (ident.or (words ["ref", "mut", "self"])) then
    namePattern r
    return .plain
  else if ← tryMarks "&" then
    let _ ← tryWord "mut"
    plainly (r .pattern)
    return .plain
  else if ← ask (group .paren) then
    inside .paren (commaList (plainly (alternatives r)))
    return .plain
  else if ← ask (group .bracket) then
    inside .bracket (commaList (slicePattern r))
    return .plain
  else if ← ask (marks "..") then
    return if ← restOfRange r false then .openRange else .plain
  else failure

end CrudForge.Grammar
