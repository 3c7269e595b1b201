/-!
# Failures of reading

Why a text has no value. Most failures are one: the text is not well formed. The others come from
scalars whose tag, written or understood, promises a kind of value that their text is not.
-/

namespace ThreatTree.Yaml

/-- Why a text has no value. -/
inductive Failure where
  /-- The text is not well formed, or a tag is unknown or on the wrong kind of node. -/
  | malformed
  /-- An escape names a number above all characters. -/
  | noCharacter
  /-- An escape names a number of more than thirty-one bits. -/
  | hugeEscape
  /-- A truth value is none of the words for one. -/
  | notBool
  /-- A number is no numeral, or the numeral is too long. -/
  | notNumber
  /-- A number has no characters but signs and underscores. -/
  | emptyNumber
  /-- A number of too many groups to the base of sixty. -/
  | hugeNumber
  /-- A node is nested too deep. -/
  | tooDeep
  /-- A date or time is not in the calendar. -/
  | notDate
  /-- A timestamp is not written as one. -/
  | notTimestamp
  deriving DecidableEq, Repr, Inhabited

end ThreatTree.Yaml
