/-!
The tokens of YAML. Besides what is written down there are tokens for what indentation and the
colon behind a key imply: where block collections begin and end, and where keys are.
-/

namespace CrudForge.Yaml

/-- The way in which a scalar is written. -/
inductive ScalarStyle
  | plain
  /-- In single or double quotes. -/
  | quoted
  /-- A block whose lines are kept. -/
  | literal
  /-- A block whose lines are joined. -/
  | folded
  deriving DecidableEq, Repr

/-- A token. -/
inductive Token
  /-- The directive that tells the version of the language. -/
  | version (major minor : Nat)
  /-- The directive that says what a handle of tags stands for. -/
  | handle (name lead : String)
  | documentStart
  | documentEnd
  | blockSequenceStart
  | blockMappingStart
  | blockEnd
  | flowSequenceStart
  | flowSequenceEnd
  | flowMappingStart
  | flowMappingEnd
  | blockEntry
  | flowEntry
  | key
  | value
  | alias (name : String)
  | anchor (name : String)
  /-- A tag: a handle, empty for a tag that is written out, and what follows it. -/
  | tag (handle suffix : String)
  | scalar (style : ScalarStyle) (text : String)
  deriving DecidableEq, Repr

end CrudForge.Yaml
