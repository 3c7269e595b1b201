import ThreatTree.Text.Lines

/-!
# Documents inside DOT text

A document travels in front of a graph as a block of comment lines: an opening line, one line for
each line of the document behind a marker of its own, a closing line. The marker differs from the
start of the two other lines, so no line of a document can be taken for one of them.
-/

namespace ThreatTree.Embed.Dot

/-- The line that opens a block. -/
def opening : List Char := "// deciduous-source-begin".toList

/-- The line that closes a block. -/
def closing : List Char := "// deciduous-source-end".toList

/-- What stands before each line of the document. -/
def marker : List Char := "//| ".toList

/-- The lines of the block of a document. -/
def block (source : List Char) : List (List Char) :=
  opening :: (Text.lines source).map (marker ++ ·) ++ [closing]

/-- A DOT text with the document in front of it. -/
def embedChars (dot source : List Char) : List Char :=
  Text.unlines (block source) ++ '\n' :: dot

/-- A line of a block without its marker. -/
def unmark? (l : List Char) : Option (List Char) :=
  if marker.isPrefixOf l then some (l.drop marker.length) else none

/-- What stands between the first opening line and the first closing line after it. -/
def body? (ls : List (List Char)) : Option (List (List Char)) :=
  match ls.dropWhile (· ≠ opening) with
  | [] => none
  | _ :: rest => if rest.contains closing then some (rest.takeWhile (· ≠ closing)) else none

/-- The document in the first block of a text. -/
def extractChars? (dot : List Char) : Option (List Char) := do
  let body ← body? (Text.lines dot)
  let document ← body.mapM unmark?
  return Text.unlines document

/-- A DOT text with the document in front of it. -/
def embed (dot source : String) : String := String.ofList (embedChars dot.toList source.toList)

/-- The document in the first block of a text. -/
def extract? (dot : String) : Option String := (extractChars? dot.toList).map String.ofList

end ThreatTree.Embed.Dot
