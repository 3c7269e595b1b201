import ThreatTree.Text.Lines
import ThreatTree.Text.Quoted

/-!
# Documents inside SVG pictures

A document travels in a comment just before the last closing tag of the picture, or at the end if
there is none. A comment may hold neither two hyphens in a row nor control characters, so these
are escaped with a backslash: a hyphen after a hyphen by the hyphen itself, a control character by
`x` and two hexadecimal digits.
-/

namespace ThreatTree.Embed.Svg

/-- What opens a comment with a document. -/
def opening : List Char := "<!-- deciduous-source\n".toList

/-- What closes it. -/
def closing : List Char := "\n-->".toList

/-- The tag that the comment is put before. -/
def rootEnd : List Char := "</svg>".toList

/-- The characters that a comment cannot hold or that reading it would change. -/
def isControl (c : Char) : Bool := c.toNat < 0x20 && c ≠ '\t' && c ≠ '\n'

/-- A text as the inside of a comment. `hyphen` says whether a hyphen comes just before. -/
def escapeFrom : Bool → List Char → List Char
  | _, [] => []
  | hyphen, c :: cs =>
    let rest := escapeFrom (c = '-') cs
    if c = '\\' then '\\' :: '\\' :: rest
    else if isControl c then '\\' :: 'x' :: Text.hexDigits 2 c.toNat ++ rest
    else if c = '-' && hyphen then '\\' :: '-' :: rest
    else c :: rest

/-- A text as the inside of a comment. -/
def escapeChars (cs : List Char) : List Char := escapeFrom false cs

/-- The value of a lowercase hexadecimal digit. -/
def lowerHex? (c : Char) : Option Nat :=
  if c.isDigit then some (c.toNat - '0'.toNat)
  else if 'a' ≤ c && c ≤ 'f' then some (c.toNat - 'a'.toNat + 10)
  else none

/-- The character that two hexadecimal digits name. -/
def hexPair? (a b : Char) : Option Char := do
  return Char.ofNat ((← lowerHex? a) * 16 + (← lowerHex? b))

/-- The inside of a comment as a text. A backslash stands for the character after it, unless it
opens the number of a control character; at the very end it stands for itself. -/
def unescapeChars : List Char → List Char
  | [] => []
  | '\\' :: 'x' :: a :: b :: cs =>
    match hexPair? a b with
    | some c => c :: unescapeChars cs
    | none => 'x' :: unescapeChars (a :: b :: cs)
  | '\\' :: c :: cs => c :: unescapeChars cs
  | c :: cs => c :: unescapeChars cs

/-- The comment that holds a document. -/
def comment (source : List Char) : List Char := opening ++ escapeChars source ++ closing ++ ['\n']

/-- A picture with the document inside its root element. -/
def embedChars (svg source : List Char) : List Char :=
  match Text.splitLast rootEnd svg with
  | some (before, after) => before ++ comment source ++ rootEnd ++ after
  | none => svg ++ comment source

/-- The document in the last comment that holds one. -/
def extractChars? (svg : List Char) : Option (List Char) := do
  -- No document holds this mark itself: two hyphens in a row are escaped in it.
  let (_, rest) ← Text.splitLast opening svg
  let (inside, _) ← Text.splitFirst closing rest
  return unescapeChars inside

/-- A picture with the document inside its root element. -/
def embed (svg source : String) : String := String.ofList (embedChars svg.toList source.toList)

/-- The document in the last comment that holds one. -/
def extract? (svg : String) : Option String := (extractChars? svg.toList).map String.ofList

end ThreatTree.Embed.Svg
