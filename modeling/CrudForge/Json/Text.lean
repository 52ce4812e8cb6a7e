import CrudForge.Json.Basic
import CrudForge.Decimal.Layout
import CrudForge.Decimal.Read
import CrudForge.Text.Digit

/-!
JSON as text: `Json.render` writes a value on one line and `Json.read?` reads one. Nothing else in
the library uses them: they are for those who hand over the values of services as texts.

A number without a fraction and without an exponent is whole if it fits into 64 bits, with or
without a sign, and `-0` is not whole. Any other number is read in two steps, each of which
rounds: its digits as a whole number, as far as they fit into 64 bits, and then the power of ten.
-/

namespace CrudForge.Json

/-! ## Writing -/

/-- A number as four hexadecimal digits. -/
def hex4 (n : Nat) : List Char :=
  let ds := Nat.toDigits 16 n
  List.replicate (4 - ds.length) '0' ++ ds

/-- How a character is written between quotes. -/
def escapeChar (c : Char) : List Char :=
  if c = '"' then ['\\', '"']
  else if c = '\\' then ['\\', '\\']
  else if c = '\n' then ['\\', 'n']
  else if c = '\r' then ['\\', 'r']
  else if c = '\t' then ['\\', 't']
  else if c.toNat < 32 then '\\' :: 'u' :: hex4 c.toNat
  else [c]

/-- A text between quotes. -/
def renderString (s : String) : String :=
  String.ofList ('"' :: s.toList.flatMap escapeChar ++ ['"'])

/-- Floating-point numbers as they are written in JSON, which has no other numbers. -/
def floatLayout : Decimal.Layout :=
  { Decimal.Layout.scientific with nan := "null", infinity := "null", negativeInfinity := "null" }

/-- The text of a value. -/
def render : Json → String
  | null => "null"
  | bool b => if b then "true" else "false"
  | int i => i.repr
  | float x => floatLayout.write x
  | str s => renderString s
  | arr items => "[" ++ ",".intercalate (items.attach.map fun ⟨j, _⟩ => j.render) ++ "]"
  | obj members =>
    "\x7b" ++ ",".intercalate
      (members.attach.map fun ⟨m, _⟩ => renderString m.1 ++ ":" ++ m.2.render) ++ "\x7d"
termination_by j => sizeOf j
decreasing_by
  all_goals simp_wf
  · have := List.sizeOf_lt_of_mem ‹_ ∈ items›
    omega
  · have := List.sizeOf_lt_of_mem ‹_ ∈ members›
    rcases m with ⟨n, j⟩
    simp only [Prod.mk.sizeOf_spec] at this ⊢
    omega

/-! ## Reading -/

/-- The text without blanks in front. -/
def skipBlanks (cs : List Char) : List Char :=
  cs.dropWhile fun c => c = ' ' || c = '\n' || c = '\r' || c = '\t'

/-- The number of four hexadecimal digits. -/
def hexUnit? (a b c d : Char) : Option Nat := do
  let a ← Text.digitValue? 16 a
  let b ← Text.digitValue? 16 b
  let c ← Text.digitValue? 16 c
  let d ← Text.digitValue? 16 d
  return ((a * 16 + b) * 16 + c) * 16 + d

/-- The character of an escape letter. -/
def unescape? (c : Char) : Option Char :=
  match c with
  | '"' => some '"'
  | '\\' => some '\\'
  | '/' => some '/'
  | 'b' => some '\x08'
  | 'f' => some '\x0c'
  | 'n' => some '\n'
  | 'r' => some '\r'
  | 't' => some '\t'
  | _ => none

/-- The text up to the closing quote, and what follows the quote. A character above `\uffff` may
be written as two halves; a half on its own is refused. -/
def readString? : List Char → Option (List Char × List Char)
  | '"' :: rest => some ([], rest)
  | '\\' :: 'u' :: a :: b :: c :: d :: '\\' :: 'u' :: e :: f :: g :: h :: rest => do
    let n ← hexUnit? a b c d
    if 0xD800 ≤ n && n < 0xDC00 then
      let m ← hexUnit? e f g h
      if 0xDC00 ≤ m && m < 0xE000 then
        let (t, rest) ← readString? rest
        some (Char.ofNat (0x10000 + (n - 0xD800) * 0x400 + (m - 0xDC00)) :: t, rest)
      else none
    else if 0xDC00 ≤ n && n < 0xE000 then none
    else
      let (t, rest) ← readString? ('\\' :: 'u' :: e :: f :: g :: h :: rest)
      some (Char.ofNat n :: t, rest)
  | '\\' :: 'u' :: a :: b :: c :: d :: rest => do
    let n ← hexUnit? a b c d
    if 0xD800 ≤ n && n < 0xE000 then none
    else
      let (t, rest) ← readString? rest
      some (Char.ofNat n :: t, rest)
  | '\\' :: e :: rest => do
    let c ← unescape? e
    let (t, rest) ← readString? rest
    some (c :: t, rest)
  | c :: rest =>
    if c.toNat < 32 then none
    else (readString? rest).map fun (t, rest) => (c :: t, rest)
  | [] => none

/-- Digits taken into a number as long as it fits into 64 bits: the number, and how many digits
were taken. -/
def gather (n : Nat) : List Nat → Nat × Nat
  | [] => (n, 0)
  | d :: ds =>
    if 10 * n + d < Nat.pow 2 64 then
      let (m, count) := gather (10 * n + d) ds
      (m, count + 1)
    else (n, 0)

/-- A whole number times a power of ten; numbers that are too large are refused. -/
def scaled? (significand : Nat) (exponent : Int) : Option Float :=
  let x := Decimal.toFloat false significand 0
  let power (k : Nat) := Decimal.toFloat false 1 k
  if significand = 0 then some 0
  else if exponent < -308 then
    if exponent < -1000 then some 0 else some (x / power 308 / power (-exponent - 308).toNat)
  else if exponent < 0 then some (x / power (-exponent).toNat)
  else if exponent ≤ 308 then
    let y := x * power exponent.toNat
    if y.isInf then none else some y
  else none

/-- The number of a sign, its digits on both sides of the point, and an exponent. -/
def floatOf? (negative : Bool) (whole fraction : List Nat) (exponent : Int) : Option Float :=
  let (n, taken) := gather 0 whole
  let (n, places) := gather n fraction
  let exponent := exponent + (whole.length - taken : Nat) - places
  (fun x => if negative then -x else x) <$> scaled? n exponent

/-- Reads digits, at least one. -/
def digits? (cs : List Char) : Option (List Nat × List Char) :=
  match Decimal.takeDigits cs with
  | ([], _) => none
  | r => some r

/-- Reads the part of a number from its point on. -/
def fraction? : List Char → Option (List Nat × List Char)
  | '.' :: cs => digits? cs
  | cs => some ([], cs)

/-- Reads the exponent of a number, if there is one. -/
def exponent? (cs : List Char) : Option (Option Int × List Char) :=
  let signed : List Char → Option (Option Int × List Char)
    | '-' :: cs => (digits? cs).map fun (ds, r) => (some (-(Decimal.natOfDigits 10 ds : Int)), r)
    | '+' :: cs => (digits? cs).map fun (ds, r) => (some (Decimal.natOfDigits 10 ds : Int), r)
    | cs => (digits? cs).map fun (ds, r) => (some (Decimal.natOfDigits 10 ds : Int), r)
  match cs with
  | 'e' :: cs | 'E' :: cs => signed cs
  | cs => some (none, cs)

/-- The value of a whole number. -/
def wholeNumber? (negative : Bool) (ds : List Nat) : Option Json :=
  let n := Decimal.natOfDigits 10 ds
  let i : Int := if negative then -n else n
  if negative && n = 0 then some (.float (-0.0))
  else if Decimal.inInt64 i || Decimal.inNat64 i then some (.int i)
  else .float <$> floatOf? negative ds [] 0

/-- Reads a number. -/
def readNumber? (cs : List Char) : Option (Json × List Char) := do
  let (negative, cs) :=
    match cs with
    | '-' :: cs => (true, cs)
    | cs => (false, cs)
  let (whole, cs) ← digits? cs
  if whole.length > 1 && whole.head? = some 0 then none
  else
    let (places, cs) ← fraction? cs
    let (power, cs) ← exponent? cs
    if places.isEmpty && power.isNone then
      let j ← wholeNumber? negative whole
      some (j, cs)
    else
      let x ← floatOf? negative whole places (power.getD 0)
      some (.float x, cs)

/-- The text behind a word at its front. -/
def expect? : List Char → List Char → Option (List Char)
  | [], cs => some cs
  | w :: word, c :: cs => if w = c then expect? word cs else none
  | _ :: _, [] => none

mutual

/-- Reads a value behind blanks; the fuel bounds the depth and the number of its parts. -/
def readValue? : Nat → List Char → Option (Json × List Char)
  | 0, _ => none
  | fuel + 1, cs =>
    match skipBlanks cs with
    | '"' :: cs => (readString? cs).map fun (t, cs) => (.str (String.ofList t), cs)
    | '[' :: cs =>
      match skipBlanks cs with
      | ']' :: cs => some (.arr [], cs)
      | cs => (readItems? fuel cs).map fun (items, cs) => (.arr items, cs)
    | '{' :: cs =>
      match skipBlanks cs with
      | '}' :: cs => some (.obj [], cs)
      | cs => (readMembers? fuel [] cs).map fun (members, cs) => (.obj members, cs)
    | 'n' :: cs => (expect? ['u', 'l', 'l'] cs).map fun cs => (.null, cs)
    | 't' :: cs => (expect? ['r', 'u', 'e'] cs).map fun cs => (.bool true, cs)
    | 'f' :: cs => (expect? ['a', 'l', 's', 'e'] cs).map fun cs => (.bool false, cs)
    | cs => readNumber? cs

/-- Reads values between commas up to the closing bracket. -/
def readItems? : Nat → List Char → Option (List Json × List Char)
  | 0, _ => none
  | fuel + 1, cs => do
    let (item, cs) ← readValue? fuel cs
    match skipBlanks cs with
    | ',' :: cs =>
      let (items, cs) ← readItems? fuel cs
      some (item :: items, cs)
    | ']' :: cs => some ([item], cs)
    | _ => none

/-- Reads members between commas up to the closing brace, behind those that were read before. -/
def readMembers? : Nat → List (String × Json) → List Char →
    Option (List (String × Json) × List Char)
  | 0, _, _ => none
  | fuel + 1, members, cs =>
    match skipBlanks cs with
    | '"' :: cs => do
      let (name, cs) ← readString? cs
      match skipBlanks cs with
      | ':' :: cs =>
        let (value, cs) ← readValue? fuel cs
        let members := setMember (String.ofList name) value members
        match skipBlanks cs with
        | ',' :: cs => readMembers? fuel members cs
        | '}' :: cs => some (members, cs)
        | _ => none
      | _ => none
    | _ => none

end

/-- The value of a text. -/
def read? (s : String) : Option Json := do
  let cs := s.toList
  let (j, rest) ← readValue? (2 * cs.length + 2) cs
  if (skipBlanks rest).isEmpty then some j else none

end CrudForge.Json
