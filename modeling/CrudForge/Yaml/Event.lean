import CrudForge.Yaml.Token

/-!
From tokens to events: the nodes of a document in the order in which they begin and end, with
their anchors and tags. Nodes that are left out are empty plain scalars. `ν` is the type of what
anchors are known by.
-/

namespace CrudForge.Yaml

/-- The anchor and the tag of a node. -/
structure NodeMarks (ν : Type) where
  anchor : Option ν := none
  tag : Option String := none
  deriving DecidableEq, Repr

/-- An event. -/
inductive Event (ν : Type)
  | alias (anchor : ν)
  | scalar (marks : NodeMarks ν) (style : ScalarStyle) (text : String)
  | sequence (marks : NodeMarks ν)
  | mapping (marks : NodeMarks ν)
  /-- The end of the collection that began last. -/
  | close
  deriving DecidableEq, Repr

/-- The events of nodes whose anchors are known by name. -/
abbrev Events := List (Event String)

/-- The node that is left out. -/
def Event.empty : Event String := .scalar {} .plain ""

/-- A reader of events off tokens; errors have no text. -/
abbrev Parse := StateT (List Token) Option

namespace Parse

/-- The next token. -/
def peek : Parse (Option Token) := do
  return (← get).head?

/-- Goes on behind the next token. -/
def skip : Parse Unit :=
  modify List.tail

/-- Goes on behind the next token if it is the one, and tells whether it was. -/
def accept (t : Token) : Parse Bool := do
  if (← peek) = some t then
    skip
    return true
  else return false

/-- Goes on behind the next token, which must be the one. -/
def expect (t : Token) : Parse Unit := do
  if !(← accept t) then failure

/-- Whether the next token is one of some. -/
def sees (ts : List Token) : Parse Bool := do
  return (← peek).any (ts.contains ·)

end Parse

open Parse

/-! ## Tags -/

/-- What handles of tags stand for. -/
abbrev Handles := List (String × String)

/-- The handles that need no directive. -/
def standardHandles : Handles :=
  [("!", "!"), ("!!", "tag:yaml.org,2002:")]

/-- The tag that a handle and what follows it make up. -/
def resolveTag? (handles : Handles) (handle suffix : String) : Option String :=
  if handle.isEmpty then some suffix else (handles.lookup handle).map (· ++ suffix)

/-! ## Nodes -/

/-- Where a node is. -/
structure Place where
  /-- A block collection may begin here. -/
  block : Bool
  /-- A block sequence may begin here without further indentation. -/
  indentless : Bool := false

/-- A reader of nodes for each place. -/
abbrev Nodes := Place → Parse Events

/-- The anchor and the tag in front of a node, in either order. -/
def nodeMarks (handles : Handles) : Parse (NodeMarks String) := do
  let anchor : Parse (Option String) := do
    match ← peek with
    | some (.anchor name) =>
      skip
      return some name
    | _ => return none
  let first ← anchor
  let tag ←
    match ← peek with
    | some (.tag handle suffix) =>
      skip
      match resolveTag? handles handle suffix with
      | some tag => pure (some tag)
      | none => failure
    | _ => pure none
  let second ← if first.isNone && tag.isSome then anchor else pure none
  return { anchor := first.or second, tag }

/-- The node of a place, unless one of some tokens shows that it is left out. -/
def nodeUnless (nodes : Nodes) (place : Place) (ends : List Token) : Parse Events := do
  if ← sees ends then return [Event.empty] else nodes place

/-- The entries that a reader finds one after the other, up to where it finds none. The fuel
bounds their number. -/
def entries (entry : Bool → Parse (Option Events)) :
    Nat → (first : Bool) → Parse Events
  | 0, _ => failure
  | fuel + 1, first => do
    match ← entry first with
    | none => return [.close]
    | some events => return events ++ (← entries entry fuel false)

/-- The entries up to the end of a collection, which begins with an event. Every entry takes a
token at least. -/
def collection (start : Event String) (entry : Bool → Parse (Option Events)) :
    Parse Events := do
  return start :: (← entries entry ((← get).length + 1) true)

/-- The next entry of a block sequence. -/
def blockSequenceEntry (nodes : Nodes) (_ : Bool) : Parse (Option Events) := do
  if ← accept .blockEntry then
    return some (← nodeUnless nodes { block := true } [.blockEntry, .blockEnd])
  else
    expect .blockEnd
    return none

/-- The next entry of a block sequence without indentation, which has no end of its own. -/
def indentlessEntry (nodes : Nodes) (_ : Bool) : Parse (Option Events) := do
  if ← accept .blockEntry then
    return some (← nodeUnless nodes { block := true } [.blockEntry, .key, .value, .blockEnd])
  else return none

/-- The next key and value of a block mapping. -/
def blockMappingEntry (nodes : Nodes) (_ : Bool) : Parse (Option Events) := do
  let part := nodeUnless nodes { block := true, indentless := true } [.key, .value, .blockEnd]
  if ← accept .key then
    let key ← part
    let value ← if ← accept .value then part else pure [Event.empty]
    return some (key ++ value)
  else
    expect .blockEnd
    return none

/-- The value of an entry in a flow collection. -/
def flowValue (nodes : Nodes) (ends : List Token) : Parse Events := do
  if ← accept .value then nodeUnless nodes { block := false } ends else return [Event.empty]

/-- The next entry of a flow sequence. An entry with a key is a mapping. -/
def flowSequenceEntry (nodes : Nodes) (first : Bool) : Parse (Option Events) := do
  let ends := [.flowEntry, .flowSequenceEnd]
  if !first && !(← sees [.flowSequenceEnd]) then expect .flowEntry
  if ← accept .flowSequenceEnd then return none
  if ← accept .key then
    let key ←
      if ← sees (.value :: ends) then
        skip
        pure [Event.empty]
      else nodes { block := false }
    let value ← flowValue nodes ends
    return some (.mapping {} :: key ++ value ++ [.close])
  else return some (← nodes { block := false })

/-- The next entry of a flow mapping. An entry without the mark of a key has no value. -/
def flowMappingEntry (nodes : Nodes) (first : Bool) : Parse (Option Events) := do
  let ends := [.flowEntry, .flowMappingEnd]
  if !first && !(← sees [.flowMappingEnd]) then expect .flowEntry
  if ← accept .flowMappingEnd then return none
  if ← accept .key then
    let key ← nodeUnless nodes { block := false } (.value :: ends)
    let value ← flowValue nodes ends
    return some (key ++ value)
  else
    let key ← nodes { block := false }
    return some (key ++ [Event.empty])

/-- A node of which only the anchor or the tag is there. -/
def leftOut (marks : NodeMarks String) : Parse Events :=
  if marks = {} then failure else return [.scalar marks .plain ""]

/-- What follows the anchor and the tag of a node. The tag that consists of its mark only has no
meaning for a scalar. -/
def content (nodes : Nodes) (place : Place) (marks : NodeMarks String) : Parse Events := do
  match ← peek with
  | some (.scalar style text) =>
    skip
    let tag := if marks.tag = some "!" then none else marks.tag
    return [.scalar { marks with tag } style text]
  | some .flowSequenceStart =>
    skip
    collection (.sequence marks) (flowSequenceEntry nodes)
  | some .flowMappingStart =>
    skip
    collection (.mapping marks) (flowMappingEntry nodes)
  | some .blockSequenceStart =>
    if place.block then
      skip
      collection (.sequence marks) (blockSequenceEntry nodes)
    else leftOut marks
  | some .blockMappingStart =>
    if place.block then
      skip
      collection (.mapping marks) (blockMappingEntry nodes)
    else leftOut marks
  | _ => leftOut marks

/-- The events of a node; the fuel bounds its depth. -/
def node (handles : Handles) : Nat → Nodes
  | 0, _ => failure
  | fuel + 1, place => do
    match ← peek with
    | some (.alias name) =>
      skip
      return [.alias name]
    | _ =>
      let marks ← nodeMarks handles
      if place.indentless && (← sees [.blockEntry]) then
        collection (.sequence marks) (indentlessEntry (node handles fuel))
      else
        content (node handles fuel) place marks

/-! ## Documents -/

/-- The handles that the directives in front of a document define. The version of the language is
told at most once, and it is 1.1 or 1.2. -/
def directives : Nat → (versions : Nat) → Handles → Parse Handles
  | 0, _, _ => failure
  | fuel + 1, versions, handles => do
    match ← peek with
    | some (.version major minor) =>
      if versions ≠ 0 || major ≠ 1 || (minor ≠ 1 && minor ≠ 2) then failure
      skip
      directives fuel (versions + 1) handles
    | some (.handle name lead) =>
      if (handles.lookup name).isSome then failure
      skip
      directives fuel versions (handles ++ [(name, lead)])
    | _ => return handles

/-- The events of the only document. -/
def document : Parse Events := do
  let size := (← get).length
  let defined ← directives (size + 1) 0 []
  let marked ← accept .documentStart
  if !marked && size ≠ (← get).length then failure
  let handles := defined ++ standardHandles
  let content := node handles (size + 1) { block := true }
  let empty := (← peek).isNone || (← peek).any fun
    | .version .. | .handle .. | .documentStart | .documentEnd => true
    | _ => false
  let events ← if marked && empty then pure [Event.empty] else content
  modify (·.dropWhile (· = .documentEnd))
  if !(← get).isEmpty then failure
  return events

/-- The events of the tokens of a text. Without tokens there is no document. -/
def Event.ofTokens? (ts : List Token) : Option Events :=
  if ts.isEmpty then some [] else (document.run ts).map (·.1)

end CrudForge.Yaml
