import CrudForge.Code.Body
import CrudForge.Json.Decode

/-!
Code blocks and fragments as JSON. An argument keeps its kind and its value apart; a fragment
keeps its code beside the tag that says what kind of fragment it is.
-/

namespace CrudForge

open Json

/-- An argument as JSON. -/
def CodeArg.toJson : CodeArg → Json
  | name v => .obj [("kind", .str "name"), ("value", .str v)]
  | str v => .obj [("kind", .str "str"), ("value", .str v)]
  | literal v => .obj [("kind", .str "literal"), ("value", .str v)]

/-- The argument of a JSON value. -/
def CodeArg.ofJson? (j : Json) : Option CodeArg := do
  let (kind, content) ← asTaggedContent? "kind" "value" j
  let value := required? asString? content
  match kind with
  | "name" => value.map name
  | "str" => value.map str
  | "literal" => value.map literal
  | _ => none

namespace CodeBlock

/-- The members of a code block. -/
def members (b : CodeBlock) : List (String × Json) :=
  [("format", .str b.format), ("args", .arr (b.args.map CodeArg.toJson))]

/-- A code block as JSON. -/
def toJson (b : CodeBlock) : Json := .obj b.members

/-- The code block of a JSON value. -/
def ofJson? (j : Json) : Option CodeBlock := do
  let [format, args] ← asRecord? ["format", "args"] j | none
  let format ← required? asString? format
  let args ← defaulted? (asList? CodeArg.ofJson?) [] args
  return { format, args }

end CodeBlock

namespace Fragment

/-- A fragment as JSON. -/
def toJson : Fragment → Json
  | statement code => .obj (("fragment", .str "statement") :: code.members)
  | expr code => .obj (("fragment", .str "expr") :: code.members)
  | beginBlock code => .obj (("fragment", .str "begin_block") :: code.members)
  | nextBlock code => .obj (("fragment", .str "next_block") :: code.members)
  | endBlock semicolon => .obj [("fragment", .str "end_block"), ("semicolon", .bool semicolon)]

/-- The fragment of a JSON value. -/
def ofJson? (j : Json) : Option Fragment := do
  let (kind, rest) ← asTagged? "fragment" j
  match kind with
  | "statement" => statement <$> CodeBlock.ofJson? rest
  | "expr" => expr <$> CodeBlock.ofJson? rest
  | "begin_block" => beginBlock <$> CodeBlock.ofJson? rest
  | "next_block" => nextBlock <$> CodeBlock.ofJson? rest
  | "end_block" =>
    let [semicolon] ← asRecord? ["semicolon"] rest | none
    endBlock <$> required? asBool? semicolon
  | _ => none

end Fragment
end CrudForge
