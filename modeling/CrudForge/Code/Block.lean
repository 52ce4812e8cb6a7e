import CrudForge.Text.Quoted

/-!
Pieces of code as format strings over an ordered list of arguments. A `$` in the format begins a
placeholder, whose letter says which kind of argument it takes:

* `$N` a name, written in the case of the output;
* `$S` a text, written as a quoted text;
* `$L` code that is written as it stands;
* `$$` is a dollar sign and takes no argument.

How an argument is written is left to whoever expands the block; whether the placeholders and the
arguments fit together is not, so `check` can tell it without writing anything.
-/

namespace CrudForge

/-- An argument of a code block. -/
inductive CodeArg
  | name (value : String)
  | str (value : String)
  | literal (value : String)
  deriving DecidableEq, Repr

/-- A format string with its arguments. -/
structure CodeBlock where
  format : String
  args : List CodeArg := []
  deriving DecidableEq, Repr

namespace CodeArg

/-- The letter of the placeholder that takes this kind of argument. -/
def marker : CodeArg → Char
  | name _ => 'N'
  | str _ => 'S'
  | literal _ => 'L'

/-- How an argument is shown in messages: its kind around the quoted value. -/
def describe : CodeArg → String
  | name v => "Name(" ++ Text.Quoted.encode v ++ ")"
  | str v => "Str(" ++ Text.Quoted.encode v ++ ")"
  | literal v => "Literal(" ++ Text.Quoted.encode v ++ ")"

end CodeArg

/-- What can be wrong with a code block; positions count placeholders from one. -/
inductive CodeFault
  /-- The format ends in the middle of a placeholder. -/
  | danglingDollar (format : String)
  /-- A dollar sign in front of a character that is no placeholder letter. -/
  | unknownPlaceholder (marker : Char) (format : String)
  /-- There are fewer arguments than placeholders. -/
  | missingArgument (position : Nat) (format : String)
  /-- A placeholder meets an argument of another kind. -/
  | wrongArgument (position : Nat) (marker : Char) (arg : CodeArg)
  /-- There are more arguments than placeholders. -/
  | unusedArguments (count : Nat) (format : String)
  deriving DecidableEq, Repr

/-- The text of a fault. -/
def CodeFault.message : CodeFault → String
  | danglingDollar format => "dangling '$' at the end of \"" ++ format ++ "\""
  | unknownPlaceholder marker format =>
    "unknown placeholder '$" ++ marker.toString ++ "' in \"" ++ format ++ "\""
  | missingArgument position format =>
    "placeholder #" ++ position.repr ++ " in \"" ++ format ++ "\" has no argument"
  | wrongArgument position marker arg =>
    "placeholder #" ++ position.repr ++ " '$" ++ marker.toString ++ "' does not accept "
      ++ arg.describe
  | unusedArguments count format => count.repr ++ " unused argument(s) for \"" ++ format ++ "\""

namespace CodeBlock

/-- Expands what is left of `format`, of which `position` placeholders have been filled, with what
is left of the arguments. Text that comes from an argument is not looked at again. -/
def expandFrom (write : CodeArg → String) (format : String) (position : Nat) :
    List Char → List CodeArg → Except CodeFault (List Char)
  | [], [] => .ok []
  | [], arg :: args => .error (.unusedArguments (arg :: args).length format)
  | ['$'], _ => .error (.danglingDollar format)
  | '$' :: marker :: rest, args =>
    if marker = '$' then
      ('$' :: ·) <$> expandFrom write format position rest args
    else if marker = 'N' || marker = 'S' || marker = 'L' then
      match args with
      | [] => .error (.missingArgument (position + 1) format)
      | arg :: args =>
        if arg.marker = marker then
          ((write arg).toList ++ ·) <$> expandFrom write format (position + 1) rest args
        else
          .error (.wrongArgument (position + 1) marker arg)
    else
      .error (.unknownPlaceholder marker format)
  | c :: rest, args => (c :: ·) <$> expandFrom write format position rest args

/-- The text of a block, with each argument written by `write`; the leftmost fault if it has
any. -/
def expand (write : CodeArg → String) (block : CodeBlock) : Except CodeFault String :=
  String.ofList <$> expandFrom write block.format 0 block.format.toList block.args

/-- Whether the placeholders and the arguments fit together. -/
def check (block : CodeBlock) : Except CodeFault Unit :=
  (fun _ => ()) <$> block.expand fun _ => ""

end CodeBlock
end CrudForge
