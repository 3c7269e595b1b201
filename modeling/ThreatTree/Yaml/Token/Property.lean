import ThreatTree.Decimal.Reading
import ThreatTree.Text.Utf8
import ThreatTree.Yaml.Cursor
import ThreatTree.Yaml.Token.Basic

/-!
# Anchors, tags and directives

The words that say something about a node or a document and are no content: names behind `&` and
`*`, tags behind `!`, and the lines behind `%`.
-/

namespace ThreatTree.Yaml.Property

open Scan

/-! ### Anchors -/

/-- What may follow the name of an anchor or an alias. -/
def endsName (c : Char) : Bool :=
  isGap c || c = '?' || c = ':' || c = ',' || c = ']' || c = '\x7d' || c = '%' || c = '@' ||
    c = '\x60'

/-- The name of an anchor or an alias, from its mark on. -/
def name : Scan String := do
  skip 1
  let name ← takeRun isNameChar
  if name.isEmpty then malformed
  expectEndOr endsName
  return String.ofList name

/-! ### Tags -/

/-- The characters of a tag, the percent sign of an escape apart. -/
def isTagChar (c : Char) : Bool := c.isAlphanum || "-;/?:@&=+$,_.!~*'()[]".toList.contains c

/-- The bytes of a run of escapes, each a percent sign and two hexadecimal digits. -/
def escapedBytes : Nat → Scan Bytes
  | 0 => return []
  | fuel + 1 => do
    if !(← nextIs (· = '%')) then return []
    skip 1
    let digits := (← get).rest.take 2
    match digits.length, Decimal.natOfDigits? 16 digits with
    | 2, some n => skip 2; return n.toUInt8 :: (← escapedBytes fuel)
    | _, _ => malformed

/-- The rest of a tag. -/
def tagChars : Nat → Scan (List Char)
  | 0 => return []
  | fuel + 1 => do
    let run ← takeRun isTagChar
    if (← nextIs (· = '%')) then
      match Text.Utf8.decodeChars? (← escapedBytes (← remaining)) with
      | some cs => return run ++ cs ++ (← tagChars fuel)
      | none => malformed
    else return run

/-- The part of a tag behind its handle. -/
def tagSuffix : Scan String := do
  let cs ← tagChars (← remaining)
  if cs.isEmpty then malformed
  return String.ofList cs

/-- A handle: an exclamation mark, or a name between two of them. -/
def handle : Scan String := do
  match (← get).rest with
  | '!' :: cs =>
    let name := cs.takeWhile isNameChar
    match cs.dropWhile isNameChar with
    | '!' :: _ =>
      skip (name.length + 2)
      return String.ofList ('!' :: name ++ ['!'])
    | _ =>
      -- a lone mark must be followed by a space
      if cs.head? = some ' ' then skip 1; return "!" else malformed
  | _ => malformed

/-- Whether another exclamation mark comes before the next blank. -/
def hasHandle (cs : List Char) : Bool :=
  (cs.takeWhile fun c => !(c = ' ' || isBreak c)).contains '!'

/-- A tag: a handle and a suffix, or a suffix alone. -/
def tag : Scan (Option String × String) := do
  let cs := (← get).rest.drop 1
  let found ←
    if cs.head? = some '<' then do
      skip 2
      let suffix ← tagSuffix
      if !(← nextIs (· = '>')) then malformed
      skip 1
      pure (none, suffix)
    else if cs.head?.all isGap then do
      skip 1
      pure (none, "!")
    else if hasHandle cs then do
      let h ← handle
      pure (some h, ← tagSuffix)
    else do
      skip 1
      pure (some "!", ← tagSuffix)
  expectEndOr fun c => c = ' ' || isBreak c
  return found

/-! ### Directives -/

/-- Refuses the text unless a space, a line end or nothing comes next. -/
def expectSpaceOrBreak : Scan Unit := expectEndOr fun c => c = ' ' || isBreak c

/-- A number of a version. -/
def versionNumber : Scan Nat := do
  let digits ← takeRun Char.isDigit
  if Decimal.longestNumeral < digits.length then throw .notNumber
  match Decimal.natOfDigits? 10 digits with
  | some n => return n
  | none => malformed

/-- The two numbers of a version. -/
def version : Scan Directive := do
  skipRun (· = ' ')
  let major ← versionNumber
  if !(← nextIs (· = '.')) then malformed
  skip 1
  let minor ← versionNumber
  expectSpaceOrBreak
  return .version major minor

/-- A handle and what it stands for. -/
def tagDirective : Scan Directive := do
  skipRun (· = ' ')
  let h ← handle
  if !(← nextIs (· = ' ')) then malformed
  skipRun (· = ' ')
  let replacement ← tagSuffix
  expectSpaceOrBreak
  return .tag h replacement

/-- A directive with its line. -/
def directive : Scan Directive := do
  skip 1
  let name ← takeRun isNameChar
  if name.isEmpty then malformed
  expectSpaceOrBreak
  let d ← match String.ofList name with
    | "YAML" => version
    | "TAG" => tagDirective
    | _ => do
      skipRun (!isBreak ·)
      pure .reserved
  restOfLine
  return d

end ThreatTree.Yaml.Property
