import ThreatTree.Decimal.Reading
import ThreatTree.Yaml.Cursor
import ThreatTree.Yaml.Surrogate

/-!
# Scalars

The three ways to write a scalar: plain, between quotation marks, and as a block of indented lines.
Each reader takes the scalar from its first character on and gives its text, line ends folded as the
way of writing says.
-/

namespace ThreatTree.Yaml.Scalar

open Scan

/-! ### Plain scalars -/

/-- The brackets and the comma of flow collections. -/
def isFlowMark (c : Char) : Bool :=
  c = ',' || c = '[' || c = ']' || c = '\x7b' || c = '\x7d'

/-- Whether a plain scalar ends before `c`, where `next` comes after it. -/
def endsPlain (flow : Bool) (c : Char) (next : Option Char) : Bool :=
  isGap c || (c = ':' && next.all fun d => isGap d || (flow && isFlowMark d)) ||
    (flow && (isFlowMark c || c = '?'))

/-- The longest run of characters that a plain scalar can take without a blank. -/
def plainRun (flow : Bool) : List Char → List Char
  | [] => []
  | c :: cs => if endsPlain flow c cs.head? then [] else c :: plainRun flow cs

/-- Blanks and empty lines after the first line end within a plain scalar; `none` where a document
mark ends it. -/
def plainBreaks : Nat → Scan (Option (List Char))
  | 0 => return some []
  | fuel + 1 => do
    skipRun (· = ' ')
    if (← nextIs isBreak) then
      let b ← lineBreak
      if (← atDocumentMark) then return none
      return (← plainBreaks fuel).map (b ++ ·)
    else return some []

/-- What stands for the blanks after a run of a plain scalar, and whether a line ends there. It is
empty where the scalar ends. -/
def plainGap : Scan (List Char × Bool) := do
  let spaces ← takeRun (· = ' ')
  if !(← nextIs isBreak) then return (spaces, false)
  let b ← lineBreak
  if (← atDocumentMark) then return ([], true)
  match (← plainBreaks (← remaining)) with
  | none => return ([], true)
  | some breaks =>
    -- One line end alone is folded to a space; before empty lines it goes away.
    let first := if b ≠ ['\n'] then b else if breaks.isEmpty then [' '] else []
    return (first ++ breaks, true)

/-- The rest of a plain scalar after `gap`, and whether a line ends behind it. -/
def plainFrom (flow : Bool) (indent : Int) : Nat → List Char → Bool → Scan (List Char × Bool)
  | 0, _, broken => return ([], broken)
  | fuel + 1, gap, broken => do
    let run := plainRun flow (← get).rest
    if run.isEmpty || run.head? = some '#' then return ([], broken)
    skip run.length
    let (next, broken) ← plainGap
    -- The gap belongs to the scalar only if it goes on behind it.
    if next.isEmpty || (← nextIs (· = '#')) || (!flow && (← column) < indent) then
      return (gap ++ run, broken)
    let (more, broken) ← plainFrom flow indent fuel next broken
    return (gap ++ run ++ more, broken)

/-- A plain scalar whose further lines are indented to `indent`, and whether a line ends behind
it. -/
def plain (flow : Bool) (indent : Int) : Scan (List Char × Bool) := do
  plainFrom flow indent (← remaining) [] false

/-! ### Quoted scalars -/

/-- The character that a letter after a backslash stands for. -/
def shortEscape? : Char → Option Char
  | '0' => some '\x00'
  | 'a' => some '\x07'
  | 'b' => some '\x08'
  | 't' | '\t' => some '\t'
  | 'n' => some '\n'
  | 'v' => some '\x0b'
  | 'f' => some '\x0c'
  | 'r' => some '\r'
  | 'e' => some '\x1b'
  | ' ' => some ' '
  | '"' => some '"'
  | '\\' => some '\\'
  | '/' => some '/'
  | 'N' => some '\x85'
  | '_' => some '\xa0'
  | 'L' => some '\u2028'
  | 'P' => some '\u2029'
  | _ => none

/-- How many hexadecimal digits come after a letter that opens a number. -/
def numberEscape? : Char → Option Nat
  | 'x' => some 2
  | 'u' => some 4
  | 'U' => some 8
  | _ => none

/-- The character with a number, in a text. Half a surrogate pair is read as its stand-in for the
text. -/
def characterOf (text : List Char) (code : Nat) : Except Failure Char :=
  if 0x7fffffff < code then throw .hugeEscape
  else if 0x10ffff < code then throw .noCharacter
  else if Surrogate.isHalf code then return Surrogate.standIn text code
  else return Char.ofNat code

/-- The character whose number stands in the next `n` hexadecimal digits. -/
def numberedChar (n : Nat) : Scan Char := do
  let p ← get
  let digits := p.rest.take n
  match Decimal.natOfDigits? 16 digits with
  | some code =>
    if digits.length < n then malformed
    let c ← characterOf p.text code
    skip n
    return c
  | none => malformed

/-- The line ends after the first one within a quoted scalar. -/
def quotedBreaks : Nat → Scan (List Char)
  | 0 => return []
  | fuel + 1 => do
    if (← atDocumentMark) then malformed
    skipRun isSpace
    if (← nextIs isBreak) then return (← lineBreak) ++ (← quotedBreaks fuel) else return []

/-- What an escape stands for, from behind its backslash. -/
def escape : Scan (List Char) := do
  match (← peek) with
  | none => malformed
  | some c =>
    match shortEscape? c, numberEscape? c with
    | some d, _ => skip 1; return [d]
    | none, some n => skip 1; return [← numberedChar n]
    | none, none =>
      if isBreak c then
        let _ ← lineBreak
        quotedBreaks (← remaining)
      else malformed

/-- The characters that a quoted scalar takes as they are in either kind of marks. -/
def isQuotedPlain (c : Char) : Bool := !(isGap c || c = '"' || c = '\'' || c = '\\')

/-- A run of a quoted scalar without blanks. -/
def quotedRun (double : Bool) : Nat → Scan (List Char)
  | 0 => return []
  | fuel + 1 => do
    let run ← takeRun isQuotedPlain
    match double, (← get).rest with
    | true, '\\' :: _ => skip 1; return run ++ (← escape) ++ (← quotedRun double fuel)
    | true, '\'' :: _ => skip 1; return run ++ '\'' :: (← quotedRun double fuel)
    | false, '\'' :: '\'' :: _ => skip 2; return run ++ '\'' :: (← quotedRun double fuel)
    | false, '"' :: _ => skip 1; return run ++ '"' :: (← quotedRun double fuel)
    | false, '\\' :: _ => skip 1; return run ++ '\\' :: (← quotedRun double fuel)
    | _, _ => return run

/-- What stands for the blanks within a quoted scalar. -/
def quotedGap : Scan (List Char) := do
  let spaces ← takeRun isSpace
  match (← peek) with
  | none => malformed
  | some c =>
    if isBreak c then
      let b ← lineBreak
      let breaks ← quotedBreaks (← remaining)
      return (if b ≠ ['\n'] then b else if breaks.isEmpty then [' '] else []) ++ breaks
    else return spaces

/-- The rest of a quoted scalar up to its closing mark. -/
def quotedFrom (double : Bool) : Nat → Scan (List Char)
  | 0 => malformed
  | fuel + 1 => do
    if (← nextIs (· = if double then '"' else '\'')) then return []
    let gap ← quotedGap
    let run ← quotedRun double (← remaining)
    return gap ++ run ++ (← quotedFrom double fuel)

/-- A scalar between quotation marks. -/
def quoted (double : Bool) : Scan (List Char) := do
  skip 1
  let n ← remaining
  let text := (← quotedRun double n) ++ (← quotedFrom double (n + 1))
  skip 1
  return text

/-! ### Block scalars -/

/-- What becomes of the line ends behind a block scalar. -/
inductive Chomping where
  | strip
  | clip
  | keep
  deriving DecidableEq

/-- The chomping that an indicator names. -/
def chompingOf? : Char → Option Chomping
  | '+' => some .keep
  | '-' => some .strip
  | _ => none

/-- An optional chomping indicator. -/
def chompingIndicator : Scan (Option Chomping) := do
  match (← peek).bind chompingOf? with
  | some c => skip 1; return some c
  | none => return none

/-- An optional digit that says how far a block is indented. -/
def indentIndicator : Scan (Option Nat) := do
  match (← peek) with
  | some c =>
    if c.isDigit then
      if c = '0' then malformed
      skip 1
      return some (c.toNat - '0'.toNat)
    else return none
  | none => return none

/-- The indicators behind the mark of a block scalar, in either order. -/
def blockHeader : Scan (Chomping × Option Nat) := do
  let before ← chompingIndicator
  let indent ← indentIndicator
  let after ← if before.isNone && indent.isSome then chompingIndicator else pure none
  expectEndOr fun c => c = ' ' || isBreak c
  return ((before.or after).getD .clip, indent)

/-- Passes over spaces up to a column. -/
def skipToColumn (indent : Int) : Scan Unit := do
  let p ← get
  let spaces := (p.rest.takeWhile (· = ' ')).length
  skip (min spaces (indent - p.column).toNat)

/-- Empty lines of a block that is indented to `indent`. -/
def blockBreaks (indent : Int) : Nat → Scan (List Char)
  | 0 => return []
  | fuel + 1 => do
    skipToColumn indent
    if (← nextIs isBreak) then return (← lineBreak) ++ (← blockBreaks indent fuel) else return []

/-- Empty lines at the start of a block, and the furthest column that one of them or the first line
is indented to. -/
def blockIndent : Nat → Nat → Scan (List Char × Nat)
  | 0, furthest => return ([], furthest)
  | fuel + 1, furthest => do
    let spaces ← takeRun (· = ' ')
    let furthest ← if spaces.isEmpty then pure furthest else pure (max furthest (← column))
    if (← nextIs isBreak) then
      let b ← lineBreak
      let (breaks, furthest) ← blockIndent fuel furthest
      return (b ++ breaks, furthest)
    else return ([], furthest)

/-- The lines of a block after the empty lines `breaks`: its text, its last line end and the empty
lines behind it. -/
def blockLines (folded : Bool) (indent : Int) :
    Nat → List Char → Scan (List Char × List Char × List Char)
  | 0, breaks => return ([], [], breaks)
  | fuel + 1, breaks => do
    if (← column) ≠ indent || (← peek).isNone then return ([], [], breaks)
    -- Lines that start with more blanks keep the line ends around them.
    let flush := !(← nextIs isSpace)
    let line ← takeRun (!isBreak ·)
    let b ← lineBreak
    let after ← blockBreaks indent (← remaining)
    if (← column) = indent && (← peek).isSome then
      let joined := folded && b = ['\n'] && flush && !(← nextIs isSpace)
      let between := if joined then if after.isEmpty then [' '] else [] else b
      let (text, last, behind) ← blockLines folded indent fuel after
      return (breaks ++ line ++ between ++ text, last, behind)
    else return (breaks ++ line, b, after)

/-- A block scalar inside a collection that is indented to `parent`. -/
def block (folded : Bool) (parent : Int) : Scan (List Char) := do
  skip 1
  let (chomping, increment) ← blockHeader
  restOfLine
  let least := max (parent + 1) 1
  let n ← remaining
  let (breaks, indent) ← match increment with
    | some k =>
      let indent := least + k - 1
      pure (← blockBreaks indent n, indent)
    | none =>
      let (breaks, furthest) ← blockIndent (n + 1) 0
      pure (breaks, max least furthest)
  let (text, last, behind) ← blockLines folded indent (n + 1) breaks
  let last := if chomping = .strip then [] else last
  let behind := if chomping = .keep then behind else []
  return text ++ last ++ behind

end ThreatTree.Yaml.Scalar
