import CrudForge.Grammar.Token
import CrudForge.Text.Class
import CrudForge.Text.Digit

/-!
Literals and identifiers at the front of a text. Each function answers with what follows the
literal, and with nothing if the text does not begin with one. A name that follows a literal at
once belongs to it.
-/

namespace CrudForge.Grammar

/-- The text behind an identifier without `r#`. -/
def plainIdent? : List Char → Option (List Char)
  | c :: cs => if Text.isIdentStart c then some (cs.dropWhile Text.isIdentContinue) else none
  | [] => none

/-- The text behind the suffix of a literal, if there is one. -/
def afterSuffix (cs : List Char) : List Char :=
  (plainIdent? cs).getD cs

/-- The text behind a word. -/
def expect? : List Char → List Char → Option (List Char)
  | [], cs => some cs
  | w :: word, c :: cs => if w = c then expect? word cs else none
  | _ :: _, [] => none

/-- Whether a text begins with a word. -/
def startsWith (word : String) (cs : List Char) : Bool :=
  (expect? word.toList cs).isSome

/-! ## Escapes -/

/-- What a text between quotes is made of. -/
inductive QuoteKind
  /-- Characters. -/
  | text
  /-- Bytes, which are written as ASCII characters or escaped. -/
  | bytes
  /-- Characters other than NUL. -/
  | terminated
  deriving DecidableEq, Repr

/-- Whether a character is a hexadecimal digit. -/
def isHex (c : Char) : Bool :=
  (Text.digitValue? 16 c).isSome

/-- The text behind the two digits of `\x`. -/
def afterHexEscape? (kind : QuoteKind) : List Char → Option (List Char)
  | a :: b :: cs =>
    let digits := isHex a && isHex b
    let allowed :=
      match kind with
      | .text => '0' ≤ a && a ≤ '7'
      | .bytes => true
      | .terminated => a != '0' || b != '0'
    if digits && allowed then some cs else none
  | _ => none

/-- The digits of `\u{…}` after `count` digits that make up `value`: the number, and the text
behind the brace. Underscores may stand between the digits. -/
def unicodeDigits? : Nat → Nat → List Char → Option (Nat × List Char)
  | _, _, [] => none
  | count, value, c :: cs =>
    match Text.digitValue? 16 c with
    | some d => if count = 6 then none else unicodeDigits? (count + 1) (16 * value + d) cs
    | none =>
      if c = '_' && count > 0 then unicodeDigits? count value cs
      else if c = '}' && count > 0 then some (value, cs)
      else none

/-- The text behind the rest of `\u`. -/
def afterUnicodeEscape? (kind : QuoteKind) : List Char → Option (List Char)
  | '{' :: cs => do
    let (n, rest) ← unicodeDigits? 0 0 cs
    if n.isValidChar && !(kind = .terminated && n = 0) then some rest else none
  | _ => none

/-- The text behind the blanks that a backslash at the end of a line takes with it; a carriage
return counts only in front of a line feed. -/
def afterLineEnd? : Bool → List Char → Option (List Char)
  | true, '\n' :: cs => afterLineEnd? false cs
  | true, _ => none
  | false, [] => none
  | false, c :: cs =>
    if c = ' ' || c = '\t' || c = '\n' then afterLineEnd? false cs
    else if c = '\r' then afterLineEnd? true cs
    else some (c :: cs)

/-- The text behind what follows a backslash in a character. -/
def afterCharEscape? (kind : QuoteKind) : List Char → Option (List Char)
  | 'x' :: cs => afterHexEscape? kind cs
  | 'u' :: cs => if kind = .bytes then none else afterUnicodeEscape? kind cs
  | '0' :: cs => if kind = .terminated then none else some cs
  | c :: cs => if ['n', 'r', 't', '\\', '\'', '"'].contains c then some cs else none
  | [] => none

/-- The text behind what follows a backslash in a quoted text. -/
def afterEscape? (kind : QuoteKind) : List Char → Option (List Char)
  | '\n' :: cs => afterLineEnd? false cs
  | '\r' :: cs => afterLineEnd? true cs
  | cs => afterCharEscape? kind cs

/-- Whether a character can stand for itself. -/
def isPlain (kind : QuoteKind) (c : Char) : Bool :=
  match kind with
  | .text => true
  | .bytes => c.toNat < 128
  | .terminated => c != '\x00'

/-! ## Quoted texts -/

/-- The text behind the closing quote of a text with escapes. The fuel bounds its length. -/
def afterQuoted? (kind : QuoteKind) : Nat → List Char → Option (List Char)
  | 0, _ => none
  | fuel + 1, cs =>
    match cs with
    | '"' :: cs => some (afterSuffix cs)
    | '\r' :: '\n' :: cs => afterQuoted? kind fuel cs
    | '\r' :: _ => none
    | '\\' :: cs => (afterEscape? kind cs).bind (afterQuoted? kind fuel)
    | c :: cs => if isPlain kind c then afterQuoted? kind fuel cs else none
    | [] => none

/-- The text behind the closing quote of a text without escapes, which `hashes` follow. -/
def afterRaw? (kind : QuoteKind) (hashes : List Char) : List Char → Option (List Char)
  | [] => none
  | '\r' :: '\n' :: cs => afterRaw? kind hashes cs
  | '\r' :: _ => none
  | c :: cs =>
    match if c = '"' then expect? hashes cs else none with
    | some rest => some (afterSuffix rest)
    | none => if isPlain kind c then afterRaw? kind hashes cs else none

/-- The text behind a raw text, from the signs between its `r` and its quote on. -/
def afterRawStart? (kind : QuoteKind) (cs : List Char) : Option (List Char) :=
  let hashes := cs.takeWhile (· = '#')
  match cs.drop hashes.length with
  | '"' :: rest => if hashes.length ≤ 255 then afterRaw? kind hashes rest else none
  | _ => none

/-- The text behind a quoted text in either form. -/
def quoted? (kind : QuoteKind) : List Char → Option (List Char)
  | '"' :: cs => afterQuoted? kind (cs.length + 1) cs
  | 'r' :: cs => afterRawStart? kind cs
  | _ => none

/-- The text behind a character or byte, from behind its first quote on. -/
def charBody? (kind : QuoteKind) (cs : List Char) : Option (List Char) := do
  let rest ←
    match cs with
    | '\\' :: cs => afterCharEscape? kind cs
    | c :: cs => if isPlain kind c then some cs else none
    | [] => none
  match rest with
  | '\'' :: rest => some (afterSuffix rest)
  | _ => none

/-! ## Numbers -/

/-- Whether a character is a decimal digit. -/
def isDigit (c : Char) : Bool := '0' ≤ c && c ≤ '9'

/-- A number ends where no identifier could go on. -/
def wordEnd? : List Char → Option (List Char)
  | [] => some []
  | c :: cs => if Text.isIdentContinue c then none else some (c :: cs)

/-- The text behind the digits of an exponent; `sign` tells whether a sign may still come. There
must be a digit, and no second sign in front of it. -/
def exponent? (sign digits : Bool) : List Char → Option (List Char)
  | [] => if digits then some [] else none
  | c :: cs =>
    if isDigit c then exponent? sign true cs
    else if c = '_' then exponent? sign digits cs
    else if c = '+' || c = '-' then
      if digits then some (c :: cs)
      else if sign then exponent? false digits cs
      else none
    else if digits then some (c :: cs)
    else none

/-- The text behind the digits of a number with a point or an exponent. A point in front of a
second one or of a name does not belong to the number; an exponent without digits belongs to it
as a suffix, if there is a point. -/
def floatDigits? (dot : Bool) : List Char → Option (List Char)
  | [] => if dot then some [] else none
  | c :: cs =>
    if isDigit c || c = '_' then floatDigits? dot cs
    else if c = '.' && !dot then
      match cs with
      | d :: _ => if d = '.' || Text.isIdentStart d then none else floatDigits? true cs
      | [] => floatDigits? true cs
    else if c = 'e' || c = 'E' then
      match exponent? true false cs with
      | some rest => some rest
      | none => if dot then some (c :: cs) else none
    else if dot then some (c :: cs)
    else none

/-- The text behind a floating-point number. -/
def float? : List Char → Option (List Char)
  | c :: cs => if isDigit c then (floatDigits? false cs).bind (wordEnd? ∘ afterSuffix) else none
  | [] => none

/-- The text behind the digits of a whole number; `found` tells whether there was one. -/
def intDigits? (base : Nat) (found : Bool) : List Char → Option (List Char)
  | [] => if found then some [] else none
  | c :: cs =>
    if isDigit c then if c.toNat - '0'.toNat < base then intDigits? base true cs else none
    else if isHex c && base = 16 then intDigits? base true cs
    else if c = '_' then if !found && base = 10 then none else intDigits? base found cs
    else if found then some (c :: cs)
    else none

/-- The text behind a whole number. -/
def int? (cs : List Char) : Option (List Char) :=
  let digits :=
    match cs with
    | '0' :: 'x' :: cs => intDigits? 16 false cs
    | '0' :: 'o' :: cs => intDigits? 8 false cs
    | '0' :: 'b' :: cs => intDigits? 2 false cs
    | cs => intDigits? 10 false cs
  digits.bind (wordEnd? ∘ afterSuffix)

/-! ## Literals -/

/-- The kind of the literal at the front of a text, and what follows it. -/
def literal? (cs : List Char) : Option (LiteralKind × List Char) :=
  let as (kind : LiteralKind) (rest : Option (List Char)) : Option (LiteralKind × List Char) :=
    rest.map fun rest => (kind, rest)
  let prefixed (kind : LiteralKind) (letter : String) (quotes : QuoteKind) :=
    as kind ((expect? letter.toList cs).bind (quoted? quotes))
  prefixed .str "" .text
    <|> prefixed .byteStr "b" .bytes
    <|> prefixed .cStr "c" .terminated
    <|> as .byte ((expect? ['b', '\''] cs).bind (charBody? .bytes))
    <|> as .char ((expect? ['\''] cs).bind (charBody? .text))
    <|> as .float (float? cs)
    <|> as .int (int? cs)

end CrudForge.Grammar
