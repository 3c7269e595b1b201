import ThreatTree.Yaml.Node.Basic
import ThreatTree.Yaml.Timestamp

/-!
# The kinds of plain scalars

A scalar without quotation marks and without a tag is understood by its spelling: some words are
truth values or nothing at all, numerals are numbers, dates are dates, and all else is text. Whole
numbers may be written in four bases, and in groups to the base of sixty; a number with a fraction
has a point, and a sign in its exponent.
-/

namespace ThreatTree.Yaml.Typing

/-! ### Words -/

/-- The words for truth values, in the three ways to write their capitals. -/
def boolWords : List String :=
  ["yes", "Yes", "YES", "no", "No", "NO", "true", "True", "TRUE", "false", "False", "FALSE",
    "on", "On", "ON", "off", "Off", "OFF"]

/-- The words for nothing. -/
def nullWords : List String := ["~", "null", "Null", "NULL", ""]

/-! ### Numerals -/

/-- A digit or an underscore. -/
def isDigitOrGap (c : Char) : Bool := c.isDigit || c = '_'

/-- A text without its sign. -/
def unsigned : List Char → List Char
  | '+' :: cs | '-' :: cs => cs
  | cs => cs

/-- A non-empty text of characters with a property. -/
def allOf (p : Char → Bool) (cs : List Char) : Bool := !cs.isEmpty && cs.all p

/-- The rest behind groups to the base of sixty, each a colon and one or two digits; `none` if there
is none of them. -/
def afterSixties? : List Char → Option (List Char)
  | ':' :: a :: b :: cs =>
    if a.isDigit && b.isDigit then
      if a ≤ '5' then some ((afterSixties? cs).getD cs) else none
    else if a.isDigit then some ((afterSixties? (b :: cs)).getD (b :: cs))
    else none
  | [':', a] => if a.isDigit then some [] else none
  | _ => none

/-- A whole number without its sign. -/
def isWhole (cs : List Char) : Bool :=
  match cs with
  | '0' :: 'b' :: rest => allOf (fun c => c = '0' || c = '1' || c = '_') rest
  | '0' :: 'x' :: rest => allOf (fun c => (Decimal.digitOf? 16 c).isSome || c = '_') rest
  | ['0'] => true
  | '0' :: rest => allOf (fun c => (Decimal.digitOf? 8 c).isSome || c = '_') rest
  | c :: rest =>
    c.isDigit &&
      (rest.all isDigitOrGap || afterSixties? (rest.dropWhile isDigitOrGap) = some [])
  | [] => false

/-- A signed exponent, or nothing. -/
def isExponent : List Char → Bool
  | [] => true
  | e :: sign :: ds => (e = 'e' || e = 'E') && (sign = '+' || sign = '-') && allOf Char.isDigit ds
  | _ => false

/-- Digits and underscores behind a point, with an optional exponent. -/
def isFraction (cs : List Char) : Bool := isExponent (cs.dropWhile isDigitOrGap)

/-- A number with a fraction. Only the words for infinity may have a sign and no digit before the
point. -/
def isFractional (cs : List Char) : Bool :=
  let body := unsigned cs
  match body with
  | '.' :: rest =>
    let word := String.ofList rest
    word = "inf" || word = "Inf" || word = "INF" ||
      (body.length = cs.length &&
        (word = "nan" || word = "NaN" || word = "NAN" ||
          (rest.head?.any Char.isDigit && isFraction rest)))
  | c :: rest =>
    c.isDigit &&
      match rest.dropWhile isDigitOrGap with
      | '.' :: fraction => isFraction fraction
      | groups =>
        match afterSixties? groups with
        | some ('.' :: fraction) => fraction.all isDigitOrGap
        | _ => false
  | [] => false

/-! ### All kinds -/

/-- A text without one newline at its end. -/
def dropNewline (cs : List Char) : List Char :=
  if cs.getLast? = some '\n' then cs.dropLast else cs

/-- The kind of a plain scalar. -/
def tagOf (text : String) : Tag :=
  let cs := dropNewline text.toList
  let word := String.ofList cs
  if text = "" then .null
  else if cs.isEmpty then .str
  else if boolWords.contains word then .bool
  else if isFractional cs then .float
  else if isWhole (unsigned cs) then .int
  else if word = "<<" then .merge
  else if nullWords.contains word then .null
  else if (Timestamp.ofChars? cs).any (·.isPlain) then .timestamp
  else if word = "=" then .value
  else if word = "!" || word = "&" || word = "*" then .other (Tag.base ++ "yaml")
  else .str

end ThreatTree.Yaml.Typing
