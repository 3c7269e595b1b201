import ThreatTree.Text.Blank
import ThreatTree.Text.Word

/-!
# Resolution

A picture of points needs a resolution. It is set by a statement right behind the brace that opens
the graph: the first `digraph`, alone or behind `strict`, that only blanks separate from the start
of its line or of an earlier one. A text without such an opening is left alone.
-/

namespace ThreatTree.Layout

/-- The rest of a text behind a word that must stand at its start and end there. -/
def afterWord? (word cs : List Char) : Option (List Char) :=
  if word.isPrefixOf cs && Text.endsWord (cs.drop word.length) then some (cs.drop word.length)
  else none

/-- The rest of a text behind `strict` and the blanks after it, or the text itself. -/
def afterStrict (cs : List Char) : List Char :=
  let word := "strict".toList
  let rest := cs.drop word.length
  if word.isPrefixOf cs && rest.head?.any Text.isBlank then rest.dropWhile Text.isBlank else cs

/-- The rest of a text behind the opening of a graph that begins with `cs`. -/
def afterOpening? (cs : List Char) : Option (List Char) := do
  let rest ← afterWord? "digraph".toList (afterStrict (cs.dropWhile Text.isBlank))
  match rest.dropWhile (· ≠ '\x7b') with
  | [] => none
  | _ :: rest => some rest

/-- The rest of a text behind its first opening of a graph. `start` says whether a line starts
here. -/
def findOpening? (start : Bool) : List Char → Option (List Char)
  | [] => none
  | c :: cs =>
    match if start then afterOpening? (c :: cs) else none with
    | some rest => some rest
    | none => findOpening? (c = '\n') cs

/-- The statement of a resolution. An integer above the longest numerals cannot be written out at all;
settings with such a resolution are refused, so none comes here. -/
def resolution (dpi : Int) : List Char := s!"\n  dpi=\"{dpi}\";".toList

/-- A DOT text with the statement of a resolution behind the opening of its graph. -/
def withDpi (dot : String) (dpi : Int) : String :=
  let cs := dot.toList
  match findOpening? true cs with
  | some rest => String.ofList (cs.take (cs.length - rest.length) ++ resolution dpi ++ rest)
  | none => dot

end ThreatTree.Layout
