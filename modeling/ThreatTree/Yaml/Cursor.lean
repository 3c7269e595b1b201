import ThreatTree.Yaml.Failure

/-!
# Cursors

A place in a text: what is left of it, and how far, in which line and at which column the place is.
`Scan` is a reader that moves a cursor and may fail; the readers of tokens are put together from the
few steps of this module.
-/

namespace ThreatTree.Yaml

/-! ### Characters -/

/-- The characters that end a line. -/
def isBreak (c : Char) : Bool :=
  c = '\n' || c = '\r' || c = '\x85' || c = '\u2028' || c = '\u2029'

/-- A space or a tab. -/
def isSpace (c : Char) : Bool := c = ' ' || c = '\t'

/-- A space, a tab or the end of a line. -/
def isGap (c : Char) : Bool := isSpace c || isBreak c

/-- The mark that may stand in front of a text. -/
def byteOrderMark : Char := '\uFEFF'

/-- The characters that a text may hold. -/
def isAllowed (c : Char) : Bool :=
  let n := c.toNat
  c = '\t' || c = '\n' || c = '\r' || (0x20 ≤ n && n ≤ 0x7e) || n = 0x85 ||
    (0xa0 ≤ n && n ≤ 0xd7ff) || (0xe000 ≤ n && n ≤ 0xfffd) || 0x10000 ≤ n

/-- A letter or digit of ASCII, a hyphen or an underscore. -/
def isNameChar (c : Char) : Bool := c.isAlphanum || c = '-' || c = '_'

/-! ### Cursors -/

/-- A place in a text. -/
structure Cursor where
  text : List Char
  /-- What is left of the text. -/
  rest : List Char
  index : Nat
  line : Nat
  column : Nat

namespace Cursor

/-- The place before a text. -/
def start (cs : List Char) : Cursor := ⟨cs, cs, 0, 0, 0⟩

/-- The place one character further. A carriage return before a newline does not end the line, and
a byte order mark takes no column. -/
def step (p : Cursor) : Cursor :=
  match p.rest with
  | [] => p
  | c :: rest =>
    let next := { p with rest := rest, index := p.index + 1 }
    if isBreak c && !(c = '\r' && rest.head? = some '\n') then
      { next with line := p.line + 1, column := 0 }
    else if c = byteOrderMark then next
    else { next with column := p.column + 1 }

/-- The place `n` characters further. -/
def advance (p : Cursor) : Nat → Cursor
  | 0 => p
  | n + 1 => p.step.advance n

end Cursor

/-! ### Readers -/

/-- A reader that moves a cursor and may fail. -/
abbrev Scan (α : Type) := StateT Cursor (Except Failure) α

namespace Scan

/-- Refuses the text. -/
def malformed {α : Type} : Scan α := throw Failure.malformed

/-- The character `k` places further. -/
def peekAt (k : Nat) : Scan (Option Char) := do return (← get).rest[k]?

/-- The next character. -/
def peek : Scan (Option Char) := do return (← get).rest.head?

def column : Scan Nat := do return (← get).column

/-- Moves on by `n` characters. -/
def skip (n : Nat) : Scan Unit := modify (·.advance n)

/-- Takes the longest run of characters with a property. -/
def takeRun (p : Char → Bool) : Scan (List Char) := do
  let run := (← get).rest.takeWhile p
  skip run.length
  return run

/-- Passes over the longest run of characters with a property. -/
def skipRun (p : Char → Bool) : Scan Unit := do
  let _ ← takeRun p

/-- How many characters are left: enough fuel for a loop that takes one or more each time. -/
def remaining : Scan Nat := do return (← get).rest.length

/-- Whether the next character has a property. -/
def nextIs (p : Char → Bool) : Scan Bool := do return (← peek).any p

/-- Whether the character `k` places further has a property, or there is none. -/
def endOr (p : Char → Bool) (k : Nat) : Scan Bool := do return (← peekAt k).all p

/-- Refuses the text unless the next character has a property or there is none. -/
def expectEndOr (p : Char → Bool) : Scan Unit := do
  if !(← endOr p 0) then malformed

/-- Takes a line end. It counts as a newline, but the two Unicode separators stay themselves. -/
def lineBreak : Scan (List Char) := do
  match (← get).rest with
  | '\r' :: '\n' :: _ => skip 2; return ['\n']
  | c :: _ =>
    if c = '\u2028' || c = '\u2029' then skip 1; return [c]
    else if isBreak c then skip 1; return ['\n']
    else return []
  | [] => return []

/-- Whether three hyphens or three dots stand here as a word of their own. -/
def atDocumentMark : Scan Bool := do
  let mark := (← get).rest.take 3
  return (mark = ['-', '-', '-'] || mark = ['.', '.', '.']) && (← endOr isGap 3)

/-- Passes over spaces and a comment up to the end of the line. -/
def skipComment : Scan Unit := do
  skipRun (· = ' ')
  if (← nextIs (· = '#')) then skipRun (!isBreak ·)

/-- Passes over the rest of a line that may hold nothing but a comment. -/
def restOfLine : Scan Unit := do
  skipComment
  expectEndOr isBreak
  let _ ← lineBreak

end Scan
end ThreatTree.Yaml
