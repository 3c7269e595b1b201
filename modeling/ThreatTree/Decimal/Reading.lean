import ThreatTree.Text.Blank
import ThreatTree.Text.Digit

/-!
# Reading numbers

Numerals as people write them: a sign, digits of any script with single underscores between them,
a point and an exponent for a number with a fraction, a base mark for a whole number. The strict
readers `floatOfChars?` and `natOfDigits?` know ASCII alone; `readFloat?` and `readInt?` trim, map
digits of other scripts and drop underscores before they ask the strict ones.
-/

namespace ThreatTree.Decimal

/-! ### Digits -/

/-- The value of a digit in a base of up to sixteen. -/
def digitOf? (base : Nat) (c : Char) : Option Nat :=
  let v :=
    if c.isDigit then some (c.toNat - '0'.toNat)
    else if 'a' ≤ c && c ≤ 'f' then some (c.toNat - 'a'.toNat + 10)
    else if 'A' ≤ c && c ≤ 'F' then some (c.toNat - 'A'.toNat + 10)
    else none
  v.filter (· < base)

/-- The value of a non-empty run of digits. -/
def natOfDigits? (base : Nat) (cs : List Char) : Option Nat :=
  if cs.isEmpty then none
  else (cs.mapM (digitOf? base)).map (·.foldl (fun n d => n * base + d) 0)

/-- A leading sign and the rest. -/
def splitSign : List Char → Bool × List Char
  | '-' :: cs => (true, cs)
  | '+' :: cs => (false, cs)
  | cs => (false, cs)

/-- Digits of other scripts as ASCII digits. -/
def asciiDigits (cs : List Char) : List Char :=
  cs.map fun c =>
    match Text.digitValue? c with
    | some d => Char.ofNat ('0'.toNat + d)
    | none => c

/-- A text without the underscores that stand between two digits; `none` if an underscore stands
elsewhere. `ok` says whether an underscore may come next. -/
def dropUnderscores? (isDigit : Char → Bool) : Bool → List Char → Option (List Char)
  | _, [] => some []
  | ok, '_' :: c :: cs =>
    if ok && isDigit c then (dropUnderscores? isDigit true cs).map (c :: ·) else none
  | _, c :: cs =>
    if c = '_' then none else (dropUnderscores? isDigit (isDigit c) cs).map (c :: ·)

/-! ### Whole numbers -/

/-- The longest numeral that is not written in a base that is a power of two. -/
def longestNumeral : Nat := 4300

/-- Whether a number is too large for any numeral in base ten. -/
def isBeyondNumerals (n : Nat) : Bool := Nat.pow 10 longestNumeral ≤ n

/-- The letter after a zero that marks a base. -/
def baseMark? (base : Nat) : Option Char :=
  if base = 2 then some 'b' else if base = 8 then some 'o' else if base = 16 then some 'x' else none

/-- A numeral without its base mark. One underscore may follow the mark. -/
def dropBaseMark (base : Nat) (cs : List Char) : List Char :=
  match cs, baseMark? base with
  | '0' :: c :: rest, some mark =>
    if c.toLower = mark then (match rest with | '_' :: d :: more => d :: more | _ => rest) else cs
  | _, _ => cs

/-- Reads a whole number in the given base. -/
def readInt? (base : Nat) (cs : List Char) : Option Int :=
  let (negative, body) := splitSign (asciiDigits (Text.trimChars cs))
  let digits := dropUnderscores? (fun c => (digitOf? base c).isSome) false (dropBaseMark base body)
  match digits with
  | none => none
  | some ds =>
    if (baseMark? base).isNone && longestNumeral < ds.length then none
    else (natOfDigits? base ds).map fun n => if negative then -(n : Int) else (n : Int)

/-! ### Numbers with a fraction -/

/-- The float nearest to `m · 10^e`. Far outside the range of floats the answer is fixed without
computing the power. -/
def floatOfDecimal (m : Nat) (e : Int) : Float :=
  let places := ((Nat.toDigits 10 m).length : Int) + e
  if m = 0 then 0
  else if 320 < places then 1 / 0
  else if places < -340 then 0
  else Float.ofScientific m (e < 0) e.natAbs

/-- The exponent part of a numeral, `0` if there is none. -/
def exponentOf? : List Char → Option Int
  | [] => some 0
  | c :: cs =>
    if c = 'e' || c = 'E' then
      let (negative, ds) := splitSign cs
      (natOfDigits? 10 ds).map fun n => if negative then -(n : Int) else (n : Int)
    else none

/-- Reads a numeral with optional fraction and exponent, or one of the words for infinity and
not-a-number. -/
def floatOfChars? (cs : List Char) : Option Float :=
  let (negative, body) := splitSign cs
  let signed (x : Float) : Float := if negative then -x else x
  let word := String.ofList (body.map Char.toLower)
  if word = "inf" || word = "infinity" then some (signed (1 / 0))
  else if word = "nan" then some (0 / 0)
  else
    let whole := body.takeWhile Char.isDigit
    let rest := body.dropWhile Char.isDigit
    let (fraction, rest) :=
      match rest with
      | '.' :: r => (r.takeWhile Char.isDigit, r.dropWhile Char.isDigit)
      | _ => ([], rest)
    match natOfDigits? 10 (whole ++ fraction), exponentOf? rest with
    | some m, some e => some (signed (floatOfDecimal m (e - fraction.length)))
    | _, _ => none

/-- Reads a number with blanks around it, digits of any script and underscores between digits. -/
def readFloat? (cs : List Char) : Option Float :=
  (dropUnderscores? Char.isDigit false (asciiDigits (Text.trimChars cs))).bind floatOfChars?

end ThreatTree.Decimal
