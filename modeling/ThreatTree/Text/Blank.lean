import ThreatTree.Text.Ranges

/-!
# Blank characters

The characters that count as white space: trimming removes them from both ends, and a text made of
them alone is blank. A zero-width space and a byte order mark are not among them.
-/

namespace ThreatTree.Text

/-- The white space of all scripts, with the four separators U+001C to U+001F. -/
def blankRanges : Ranges :=
  [(0x9, 0xd), (0x1c, 0x20), (0x85, 0x85), (0xa0, 0xa0), (0x1680, 0x1680), (0x2000, 0x200a),
    (0x2028, 0x2029), (0x202f, 0x202f), (0x205f, 0x205f), (0x3000, 0x3000)]

/-- White space of any script. -/
def isBlank (c : Char) : Bool := blankRanges.has c

/-- White space of any script without the four separators. -/
def isSpace (c : Char) : Bool := isBlank c && !(0x1c ≤ c.toNat && c.toNat ≤ 0x1f)

/-- A text without blank characters at its ends. -/
def trimChars (cs : List Char) : List Char :=
  ((cs.dropWhile isBlank).reverse.dropWhile isBlank).reverse

/-- A text without blank characters at its ends. -/
def trim (s : String) : String := String.ofList (trimChars s.toList)

/-- A text that trimming empties. -/
def isBlankText (s : String) : Bool := s.toList.all isBlank

end ThreatTree.Text
