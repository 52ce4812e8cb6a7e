import CrudForge.Text.Blank

/-!
Texts with a style for terminals that have one. The style ends behind the text; where the text
itself ends a style, its own begins again.
-/

namespace CrudForge.Text

/-- A style. -/
inductive Style
  | bold
  | dimmed
  | red
  | green
  | cyan
  deriving DecidableEq, Repr

namespace Style

/-- What begins a style. -/
def start : Style → List Char
  | bold => "\x1b[1m".toList
  | dimmed => "\x1b[2m".toList
  | red => "\x1b[31m".toList
  | green => "\x1b[32m".toList
  | cyan => "\x1b[36m".toList

/-- What ends every style. -/
def reset : List Char := "\x1b[0m".toList

/-- A text in which a style begins again wherever one ends. -/
def restart (style : Style) : List Char → List Char
  | [] => []
  | '\x1b' :: '[' :: '0' :: 'm' :: cs => reset ++ style.start ++ restart style cs
  | c :: cs => c :: restart style cs

/-- A text in a style, filled up to a width, or as it is if styles are not shown. -/
def paint (style : Style) (shown : Bool) (s : String) (width : Nat := 0) : String :=
  if shown then
    String.ofList style.start ++ padRight width (String.ofList (style.restart s.toList)) ++
      String.ofList reset
  else padRight width s

end Style
end CrudForge.Text
