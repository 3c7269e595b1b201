/-!
# Capital letters in ASCII

Names that are compared in capital letters are plain ASCII words. Two small letters beyond ASCII
have their capitals there too, so a word can be such a name though it is spelled with them.
-/

namespace ThreatTree.Text

/-- The capital of a letter if it is in ASCII; any other character is left as it is. -/
def upperChar (c : Char) : Char :=
  if c = 'ı' then 'I' else if c = 'ſ' then 'S' else c.toUpper

/-- A text with capitals for all letters whose capitals are in ASCII. -/
def upper (s : String) : String := s.map upperChar

end ThreatTree.Text
