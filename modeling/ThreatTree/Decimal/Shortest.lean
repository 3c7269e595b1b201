/-!
# The shortest decimal of a binary number

A binary number `m · 2^q` stands for the interval of reals that round to it. Of the decimals
`d · 10^e` in that interval `shortest` takes one with the fewest digits, and of those the nearest to
the number. On each grid of decimals it is enough to test the two neighbours of the number: if any
point of the grid lies in the interval, one of them does.

All arithmetic is exact: a number is a fraction with the common denominator of the number and the
ends of its interval.
-/

namespace ThreatTree.Decimal

/-- A positive number `m / den` with the interval from `low / den` to `high / den` of reals that
round to it; `closed` says whether the ends belong to it. -/
structure Interval where
  low : Nat
  mid : Nat
  high : Nat
  den : Nat
  closed : Bool

/-- The interval of `m · 2^q`. The gap below a power of two is half as wide as the one above,
unless the power is the least of its spacing (`even` steps at the bottom). -/
def Interval.ofBinary (m : Nat) (q : Int) (narrowBelow : Bool) : Interval :=
  let up := (q - 2).toNat
  let den := Nat.pow 2 (2 - q).toNat
  let scale := Nat.pow 2 up
  { low := (4 * m - if narrowBelow then 1 else 2) * scale
    mid := 4 * m * scale
    high := (4 * m + 2) * scale
    den := den
    closed := m % 2 = 0 }

/-- Whether `num / den'` lies in the interval. -/
def Interval.has (i : Interval) (num den' : Nat) : Bool :=
  if i.closed then i.low * den' ≤ num * i.den && num * i.den ≤ i.high * den'
  else i.low * den' < num * i.den && num * i.den < i.high * den'

/-- A decimal `digits · 10^exponent`. -/
structure Digits where
  digits : Nat
  exponent : Int
  deriving Repr, DecidableEq

/-- The numerator and denominator of a decimal. -/
def Digits.fraction (d : Digits) : Nat × Nat :=
  (d.digits * Nat.pow 10 d.exponent.toNat, Nat.pow 10 (-d.exponent).toNat)

/-- The least `k` such that `num / den` is below `10^k`, for a positive fraction. -/
def magnitude (num den : Nat) : Int :=
  if den ≤ num then (Nat.toDigits 10 (num / den)).length
  else
    -- one over the fraction lies between neighbouring powers of ten
    let n := (Nat.toDigits 10 (den / num)).length
    if num * Nat.pow 10 (n - 1) = den then 2 - (n : Int) else 1 - (n : Int)

/-- The neighbour of the number on the grid `10^e` that lies in the interval, the nearer one if both
do; of two equally near the even one. -/
def Interval.onGrid (i : Interval) (e : Int) : Option Digits :=
  let num := i.mid * Nat.pow 10 (-e).toNat
  let den := i.den * Nat.pow 10 e.toNat
  let d := num / den
  let below := Digits.mk d e
  let above := Digits.mk (d + 1) e
  let hit (x : Digits) : Bool := let (a, b) := x.fraction; i.has a b
  match hit below, hit above with
  | false, false => none
  | true, false => some below
  | false, true => some above
  | true, true =>
    -- Which half of the gap the number is in.
    let twice := 2 * (num % den)
    if twice < den || (twice = den && d % 2 = 0) then some below else some above

/-- The first grid with a hit, of `n` digits or more. -/
def Interval.search (i : Interval) (k : Int) : Nat → Nat → Option Digits
  | 0, _ => none
  | fuel + 1, n =>
    match i.onGrid (k - n) with
    | some d => some d
    | none => i.search k fuel (n + 1)

/-- The digits without zeros at the end. -/
def Digits.strip (d : Digits) : Nat → Digits
  | 0 => d
  | fuel + 1 =>
    if d.digits % 10 = 0 && d.digits ≠ 0 then Digits.strip ⟨d.digits / 10, d.exponent + 1⟩ fuel
    else d

/-- The shortest decimal that rounds to `m · 2^q`, the nearest of the shortest. Seventeen digits are
always enough. -/
def shortest (m : Nat) (q : Int) (narrowBelow : Bool) : Digits :=
  let i := Interval.ofBinary m q narrowBelow
  match i.search (magnitude i.mid i.den) 17 1 with
  | some d => d.strip 20
  | none => ⟨0, 0⟩

/-! ### Floating-point numbers -/

/-- What the bits of a floating-point number say. -/
inductive Parts where
  | nan
  | infinite (negative : Bool)
  | zero (negative : Bool)
  /-- The number `m · 2^q` with `m` positive. -/
  | finite (negative : Bool) (m : Nat) (q : Int) (narrowBelow : Bool)

/-- The sign, significand and exponent of a number. -/
def Parts.of (x : Float) : Parts :=
  let bits := x.toBits.toNat
  let negative : Bool := Nat.pow 2 63 ≤ bits
  let biased : Nat := bits / Nat.pow 2 52 % Nat.pow 2 11
  let fraction : Nat := bits % Nat.pow 2 52
  if biased = 2047 then if fraction = 0 then .infinite negative else .nan
  else if biased = 0 then
    if fraction = 0 then .zero negative else .finite negative fraction (-1074) false
  else .finite negative (fraction + Nat.pow 2 52) ((biased : Int) - 1075) (fraction = 0 && biased ≠ 1)

/-- How a decimal is written: exponents from `least` to `most` positionally, all others with an
exponent of two digits or more. -/
structure Style where
  least : Int
  most : Int

/-- Numbers are written positionally from a ten-thousandth up to sixteen places. -/
def Style.plain : Style := ⟨-4, 15⟩

/-- A decimal as text, with a point and at least one digit after it where it is positional. -/
def Digits.render (s : Style) (d : Digits) : List Char :=
  let ds := Nat.toDigits 10 d.digits
  let point : Int := ds.length + d.exponent
  let e := point - 1
  if s.least ≤ e && e ≤ s.most then
    if point ≤ 0 then '0' :: '.' :: List.replicate (-point).toNat '0' ++ ds
    else
      let whole := ds.take point.toNat
      let zeros := List.replicate (point.toNat - ds.length) '0'
      let rest := ds.drop point.toNat
      whole ++ zeros ++ '.' :: (if rest.isEmpty then ['0'] else rest)
  else
    let mark := if e < 0 then '-' else '+'
    let es := Nat.toDigits 10 e.natAbs
    -- An exponent has two digits at least.
    let es := if es.length < 2 then '0' :: es else es
    let mantissa :=
      match ds with
      | [] => []
      | [c] => [c]
      | c :: cs => c :: '.' :: cs
    mantissa ++ 'e' :: mark :: es

/-- A number as the shortest text that reads back as the same number. -/
def floatChars (x : Float) : List Char :=
  let signed (negative : Bool) (cs : List Char) : List Char := if negative then '-' :: cs else cs
  match Parts.of x with
  | .nan => ['n', 'a', 'n']
  | .infinite negative => signed negative ['i', 'n', 'f']
  | .zero negative => signed negative ['0', '.', '0']
  | .finite negative m q narrow => signed negative ((shortest m q narrow).render .plain)

/-- A number as the shortest text that reads back as the same number. -/
def floatText (x : Float) : String := String.ofList (floatChars x)

end ThreatTree.Decimal
