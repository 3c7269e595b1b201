/-!
# Tokens

The words of the notation. Block collections have no brackets of their own: the reader of tokens
puts a start in front of the first entry and an end behind the last one, as indentation says.
-/

namespace ThreatTree.Yaml

/-- What a line in front of a document says. -/
inductive Directive where
  /-- The version of the notation. -/
  | version (major minor : Nat)
  /-- A handle for tags and what it stands for. -/
  | tag (handle replacement : String)
  | reserved
  deriving DecidableEq, Repr

/-- A word of the notation. -/
inductive Token where
  | streamEnd
  | directive (d : Directive)
  | documentStart
  | documentEnd
  | blockSequenceStart
  | blockMappingStart
  | blockEnd
  | flowSequenceStart
  | flowSequenceEnd
  | flowMappingStart
  | flowMappingEnd
  | blockEntry
  | flowEntry
  | key
  | value
  | alias (name : String)
  | anchor (name : String)
  | tag (handle : Option String) (suffix : String)
  | scalar (plain : Bool) (text : String)
  deriving DecidableEq, Repr

end ThreatTree.Yaml
