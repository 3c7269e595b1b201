/-!
# Identifiers

Names and attribute values of DOT. A word that is not a keyword, or a numeral, stands bare; all else
is put in double quotes, with a backslash before each double quote that an even number of
backslashes precedes. After an odd number the quote is part of an escape already.
-/

namespace ThreatTree.Dot

/-- The words that have a meaning of their own in any letter case. -/
def keywords : List String := ["node", "edge", "graph", "digraph", "subgraph", "strict"]

/-- A letter of ASCII or the underscore. -/
def isWordStart (c : Char) : Bool := c.isAlpha || c = '_'

/-- A letter or digit of ASCII or the underscore. -/
def isWordPart (c : Char) : Bool := isWordStart c || c.isDigit

/-- A word of letters, digits and underscores that starts with no digit. -/
def isWordChars : List Char → Bool
  | [] => false
  | c :: cs => isWordStart c && cs.all isWordPart

/-- Digits with an optional point, at least one digit in all, and no point before nothing. -/
def isUnsigned (cs : List Char) : Bool :=
  let whole := cs.takeWhile Char.isDigit
  match cs.dropWhile Char.isDigit with
  | [] => !whole.isEmpty
  | '.' :: rest => rest.all Char.isDigit && !(whole.isEmpty && rest.isEmpty)
  | _ => false

/-- A numeral with an optional minus sign. -/
def isNumeralChars : List Char → Bool
  | '-' :: cs => isUnsigned cs
  | cs => isUnsigned cs

/-- Whether a text can stand as an identifier without quotes. -/
def isBare (s : String) : Bool :=
  (isWordChars s.toList || isNumeralChars s.toList) && !keywords.contains s.toLower

/-- A text between double quotes, without the quotes. `odd` says whether an odd number of
backslashes comes just before. -/
def escapeQuotes : Bool → List Char → List Char
  | _, [] => []
  | odd, c :: cs =>
    if c = '\\' then c :: escapeQuotes (!odd) cs
    else if c = '"' && !odd then '\\' :: c :: escapeQuotes false cs
    else c :: escapeQuotes false cs

/-- A text as an identifier. -/
def quote (s : String) : String :=
  if isBare s then s else String.ofList ('"' :: escapeQuotes false s.toList ++ ['"'])

end ThreatTree.Dot
