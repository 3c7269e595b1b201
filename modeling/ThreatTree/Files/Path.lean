import ThreatTree.Text.Lines

/-!
# Paths

A path is written as parts between slashes. Empty parts and single dots say nothing and are dropped;
double dots stay, since what they lead to depends on the files. One slash at the start means the
root, exactly two are a root of their own, and more count as one.
-/

namespace ThreatTree

/-- A path: what it says before its parts, and the parts. -/
structure Path where
  root : String
  parts : List String
  deriving DecidableEq, Repr

namespace Path

/-- What a text says before the parts of its path. -/
def rootOf : List Char → String
  | '/' :: '/' :: '/' :: _ => "/"
  | '/' :: '/' :: _ => "//"
  | '/' :: _ => "/"
  | _ => ""

/-- Whether a part says where to go. -/
def isStep (part : String) : Bool := part ≠ "" && part ≠ "."

/-- The path that a text means. -/
def ofString (s : String) : Path :=
  ⟨rootOf s.toList, ((Text.splitAt '/' s.toList).map String.ofList).filter isStep⟩

/-- A path as text. A path that goes nowhere is a dot. -/
def toString (p : Path) : String :=
  if p.root = "" && p.parts.isEmpty then "." else p.root ++ String.intercalate "/" p.parts

instance : ToString Path := ⟨toString⟩

/-- The last part of a path. -/
def name (p : Path) : String := p.parts.getLast?.getD ""

/-- The path without its last part. -/
def parent (p : Path) : Path := { p with parts := p.parts.dropLast }

/-- The last dot of a name and what follows it, if something stands on either side. -/
def suffixChars (name : List Char) : List Char :=
  match Text.splitLast ['.'] name with
  | some (before, after) => if before.isEmpty || after.isEmpty then [] else '.' :: after
  | none => []

/-- The suffix of the last part. -/
def suffix (p : Path) : String := String.ofList (suffixChars p.name.toList)

/-- The path with another suffix. -/
def withSuffix (p : Path) (s : String) : Path :=
  let cs := p.name.toList
  let stem := cs.take (cs.length - (suffixChars cs).length)
  { p with parts := p.parts.dropLast ++ [String.ofList stem ++ s] }

end Path
end ThreatTree
