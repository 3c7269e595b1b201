import ThreatTree.Text.Base64
import ThreatTree.Value.Basic
import ThreatTree.Yaml.Failure
import ThreatTree.Yaml.Typing

/-!
# The values of scalars

A scalar whose kind is known becomes a value of that kind, or is refused. The rules are wider than
those by which a scalar without a tag is understood: a tag may ask for a number in digits of any
script or with blanks around it.
-/

namespace ThreatTree.Yaml.ScalarValue

/-- The part of a text between separators. -/
def splitOn (sep : Char) : List Char → List (List Char)
  | [] => [[]]
  | c :: cs =>
    match splitOn sep cs with
    | [] => [[c]]
    | part :: parts => if c = sep then [] :: part :: parts else (c :: part) :: parts

/-- A truth value. -/
def bool (text : String) : Except Failure Value :=
  let word := text.toLower
  if word = "yes" || word = "true" || word = "on" then .ok (.bool true)
  else if word = "no" || word = "false" || word = "off" then .ok (.bool false)
  else .error .notBool

/-- A text without underscores and its sign. -/
def signed? (cs : List Char) : Except Failure (Bool × List Char) :=
  match cs.filter (· ≠ '_') with
  | [] => .error .emptyNumber
  | '-' :: rest => .ok (true, rest)
  | '+' :: rest => .ok (false, rest)
  | rest => .ok (false, rest)

/-- A whole number in a base. -/
def inBase (base : Nat) (cs : List Char) : Except Failure Int :=
  match Decimal.readInt? base cs with
  | some n => .ok n
  | none => .error .notNumber

/-- A whole number without its sign. -/
def magnitude (cs : List Char) : Except Failure Int :=
  match cs with
  | [] => .error .emptyNumber
  | ['0'] => .ok 0
  | '0' :: 'b' :: rest => inBase 2 rest
  | '0' :: 'x' :: rest => inBase 16 rest
  | '0' :: _ => inBase 8 cs
  | _ =>
    if cs.contains ':' then do
      let parts ← (splitOn ':' cs).mapM (inBase 10)
      return parts.foldl (fun n d => n * 60 + d) 0
    else inBase 10 cs

/-- A whole number. -/
def int (text : String) : Except Failure Value := do
  let (negative, cs) ← signed? text.toList
  let n ← magnitude cs
  return .ofInt (if negative then -n else n)

/-- A number with a fraction, as a numeral of any kind. -/
def numeral (cs : List Char) : Except Failure Float :=
  match Decimal.readFloat? cs with
  | some x => .ok x
  | none => .error .notNumber

/-- The number that groups to the base of sixty stand for, the last group first. -/
def sixties (groups : List Float) : Float :=
  (groups.foldl (fun (x, place) d => (x + d * Float.ofScientific place false 0, place * 60))
    ((0 : Float), 1)).1

/-- Whether the first of some groups to the base of sixty has a place above all floats. -/
def isBeyondFloats (groups : List Float) : Bool := Nat.pow 2 1024 ≤ Nat.pow 60 (groups.length - 1)

/-- A number with a fraction. -/
def float (text : String) : Except Failure Value := do
  let (negative, cs) ← signed? (text.toLower).toList
  let signed (x : Float) : Float := if negative then -1 * x else x
  match String.ofList cs with
  | ".inf" => return .float (signed (1 / 0))
  | ".nan" => return .float (0 / 0)
  | _ =>
    if cs.contains ':' then
      let parts ← (splitOn ':' cs).mapM numeral
      if isBeyondFloats parts then throw .hugeNumber
      return .float (signed (sixties parts.reverse))
    else return .float (signed (← numeral cs))

/-- Bytes in base 64. -/
def binary (text : String) : Except Failure Value :=
  if text.toList.all (·.toNat < 0x80) then
    match Text.Base64.decode? text.toList with
    | some bs => .ok (.bytes bs)
    | none => .error .malformed
  else .error .malformed

/-- A day or a moment. -/
def timestamp (text : String) : Except Failure Value :=
  match Timestamp.ofChars? (Typing.dropNewline text.toList) with
  | none => .error .notTimestamp
  | some t =>
    match t.date?, t.clock with
    | some d, none => .ok (.date d)
    | some d, some c =>
      match c.moment? d with
      | some m => .ok (.moment m)
      | none => .error .notDate
    | none, _ => .error .notDate

end ThreatTree.Yaml.ScalarValue

namespace ThreatTree.Yaml

/-- The value of a scalar of a kind; `none` if the kind is not one of scalars. -/
def Tag.scalarValue? (tag : Tag) (text : String) : Option (Except Failure Value) :=
  match tag with
  | .null => some (.ok .null)
  | .bool => some (ScalarValue.bool text)
  | .int => some (ScalarValue.int text)
  | .float => some (ScalarValue.float text)
  | .binary => some (ScalarValue.binary text)
  | .timestamp => some (ScalarValue.timestamp text)
  | .str => some (.ok (.text text))
  | _ => none

end ThreatTree.Yaml
