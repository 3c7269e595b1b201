/-!
# Escape strings

The layout program reads labels and names as escape strings: a backslash and the character after
it are one unit. `text` writes a text so that it is shown literally: each backslash is doubled,
and each line end becomes a backslash and the letter `n`.
-/

namespace ThreatTree.Dot

/-- A text as an escape string. A carriage return, a newline and the two together are one line end
each. -/
def escapeChars : List Char → List Char
  | [] => []
  | '\\' :: cs => '\\' :: '\\' :: escapeChars cs
  | '\r' :: '\n' :: cs => '\\' :: 'n' :: escapeChars cs
  | '\r' :: cs => '\\' :: 'n' :: escapeChars cs
  | '\n' :: cs => '\\' :: 'n' :: escapeChars cs
  | c :: cs => c :: escapeChars cs

/-- A text as an escape string that shows it literally. -/
def text (s : String) : String := String.ofList (escapeChars s.toList)

end ThreatTree.Dot
