import CrudForge.Yaml.Event

/-!
From events to nodes. An alias stands for the node that has its anchor, and a node is read again
for each of its aliases, so their number is limited, as is the depth of nodes.
-/

namespace CrudForge.Yaml

/-- A node. -/
inductive Node
  /-- What a text without a document holds. -/
  | void
  | scalar (tag : Option String) (style : ScalarStyle) (text : String)
  | sequence (tag : Option String) (items : List Node)
  | mapping (tag : Option String) (entries : List (Node × Node))
  deriving Inhabited

/-! ## Anchors -/

/-- Anchors by name, with their numbers. -/
abbrev Anchors := List (String × Nat)

/-- The anchors with one more, whose number is the number of names before it. A name that comes
again is only moved to the new number, so two names can have the same one. -/
def Anchors.add (anchors : Anchors) (name : String) : Anchors :=
  (name, anchors.length) :: anchors.filter (·.1 ≠ name)

/-- The anchor of the node that begins with an event. -/
def Event.anchor? : Event ν → Option ν
  | .scalar marks _ _ | .sequence marks | .mapping marks => marks.anchor
  | .alias _ | .close => none

/-- The marks of a node with the number of its anchor in place of the name. -/
def NodeMarks.number (anchors : Anchors) (marks : NodeMarks String) : NodeMarks Nat :=
  { marks with anchor := marks.anchor.bind (List.lookup · anchors) }

/-- An event with numbers in place of the names of anchors. The anchors are those known behind
it, so that the node of an anchor may refer to itself. -/
def Event.number? (anchors : Anchors) : Event String → Option (Event Nat)
  | .alias name => (anchors.lookup name).map .alias
  | .scalar marks style text =>
    some (.scalar (marks.number anchors) style text)
  | .sequence marks => some (.sequence (marks.number anchors))
  | .mapping marks => some (.mapping (marks.number anchors))
  | .close => some .close

/-- Events with numbers in place of the names of anchors, if every alias has an anchor in front
of it. -/
def numbered? : Anchors → Events → Option (List (Event Nat))
  | _, [] => some []
  | anchors, e :: es => do
    let anchors :=
      match e.anchor? with
      | some name => anchors.add name
      | none => anchors
    let e ← e.number? anchors
    let es ← numbered? anchors es
    return e :: es

/-- The events from the node of an anchor on. Of nodes with the same number it is the last. -/
def anchored? (events : List (Event Nat)) (n : Nat) : Option (List (Event Nat)) :=
  match events with
  | [] => none
  | e :: es => (anchored? es n).or (if e.anchor? = some n then some (e :: es) else none)

/-! ## Composition -/

/-- What is ahead while nodes are composed. -/
structure Composer where
  ahead : List (Event Nat)
  /-- How many aliases may still be followed. -/
  aliases : Nat

/-- A reader of nodes off events; errors have no text. -/
abbrev Compose := StateT Composer Option

/-- The next event. -/
def nextEvent : Compose (Event Nat) := do
  match (← get).ahead with
  | [] => failure
  | e :: ahead =>
    modify fun s => { s with ahead }
    return e

/-- What a reader finds up to the end of a collection; the fuel bounds the number. -/
def untilClose (read : Compose α) : Nat → Compose (List α)
  | 0 => failure
  | fuel + 1 => do
    if (← get).ahead.head? = some .close then
      let _ ← nextEvent
      return []
    else
      let a ← read
      let more ← untilClose read fuel
      return a :: more

/-- The node that comes next and is no alias; `inner` reads the nodes in it, unless they would be
too deep. -/
def ownNode (inner : Option (Compose Node)) : Compose Node := do
  match ← nextEvent, inner with
  | .scalar marks style text, _ => return .scalar marks.tag style text
  | .sequence marks, some inner =>
    return .sequence marks.tag (← untilClose inner ((← get).ahead.length + 1))
  | .mapping marks, some inner =>
    let entry : Compose (Node × Node) := do return (← inner, ← inner)
    return .mapping marks.tag (← untilClose entry ((← get).ahead.length + 1))
  | _, _ => failure

/-- The node that comes next, which may be an alias of one of the nodes of all `events`. -/
def composeNode (events : List (Event Nat)) (inner : Option (Compose Node)) : Compose Node := do
  let s ← get
  match s.ahead with
  | .alias n :: rest =>
    let some ahead := anchored? events n | failure
    if s.aliases = 0 then failure
    set { s with ahead, aliases := s.aliases - 1 }
    let node ← ownNode inner
    modify fun s => { s with ahead := rest }
    return node
  | _ => ownNode inner

/-- The node that comes next, in which collections are at most `depth` deep. -/
def nodeWithin (events : List (Event Nat)) : (depth : Nat) → Compose Node
  | 0 => composeNode events none
  | depth + 1 => composeNode events (some (nodeWithin events depth))

/-- The greatest depth of collections. -/
def maxDepth : Nat := 128

/-- How many aliases may be followed for each event. -/
def aliasesPerEvent : Nat := 100

/-- The node that events describe. -/
def Node.ofEvents? (events : Events) : Option Node := do
  if events.isEmpty then return .void
  let events ← numbered? [] events
  let (node, _) ← (nodeWithin events maxDepth).run
    { ahead := events, aliases := aliasesPerEvent * events.length }
  return node

end CrudForge.Yaml
