/-!
# UTF-8

Bytes of a text and back. `units` reads bytes as a sequence of characters and gaps, a gap for each
maximal ill-formed part: the longest start of a character that the next byte cannot continue, or a
single byte that starts none. A strict reader refuses every gap, a lenient one shows U+FFFD for
it.
-/

namespace ThreatTree

/-- A string of bytes. -/
abbrev Bytes := List UInt8

namespace Text.Utf8

/-- The bytes of one character. -/
def encodeChar (c : Char) : Bytes :=
  let n := c.toNat
  if n < 0x80 then [n.toUInt8]
  else if n < 0x800 then [(0xc0 + n / 0x40).toUInt8, (0x80 + n % 0x40).toUInt8]
  else if n < 0x10000 then
    [(0xe0 + n / 0x1000).toUInt8, (0x80 + n / 0x40 % 0x40).toUInt8, (0x80 + n % 0x40).toUInt8]
  else
    [(0xf0 + n / 0x40000).toUInt8, (0x80 + n / 0x1000 % 0x40).toUInt8,
      (0x80 + n / 0x40 % 0x40).toUInt8, (0x80 + n % 0x40).toUInt8]

/-- The bytes of a text. -/
def encodeChars (cs : List Char) : Bytes := cs.flatMap encodeChar

/-- The bytes of a text. -/
def encode (s : String) : Bytes := encodeChars s.toList

/-- What the first byte of a longer character says: the interval of the second byte, how many
bytes follow that one, and the leading bits of the code point. -/
structure Lead where
  low : UInt8
  high : UInt8
  more : Nat
  bits : Nat

/-- The byte that opens a character of two, three or four bytes. The intervals leave out
overlong forms, surrogates and what lies above U+10FFFF. -/
def Lead.of? (b : UInt8) : Option Lead :=
  if b < 0xc2 then none
  else if b < 0xe0 then some ⟨0x80, 0xbf, 0, b.toNat - 0xc0⟩
  else if b < 0xf0 then
    let low := if b = 0xe0 then 0xa0 else 0x80
    let high := if b = 0xed then 0x9f else 0xbf
    some ⟨low, high, 1, b.toNat - 0xe0⟩
  else if b < 0xf5 then
    let low := if b = 0xf0 then 0x90 else 0x80
    let high := if b = 0xf4 then 0x8f else 0xbf
    some ⟨low, high, 2, b.toNat - 0xf0⟩
  else none

/-- Reads `n` further bytes of a character whose bits so far are `bits`. -/
def tails : Nat → Nat → Bytes → Option Char × Bytes
  | 0, bits, bs => (some (Char.ofNat bits), bs)
  | _ + 1, _, [] => (none, [])
  | n + 1, bits, b :: bs =>
    if 0x80 ≤ b ∧ b ≤ 0xbf then tails n (bits * 0x40 + (b.toNat - 0x80)) bs else (none, b :: bs)

/-- The character that starts with byte `b`, or a gap, and the bytes after it. -/
def unit (b : UInt8) (bs : Bytes) : Option Char × Bytes :=
  if b < 0x80 then (some (Char.ofNat b.toNat), bs)
  else
    match Lead.of? b, bs with
    | some l, c :: rest =>
      if l.low ≤ c ∧ c ≤ l.high then tails l.more (l.bits * 0x40 + (c.toNat - 0x80)) rest
      else (none, bs)
    | _, _ => (none, bs)

theorem length_tails_le (n bits : Nat) (bs : Bytes) : (tails n bits bs).2.length ≤ bs.length := by
  fun_induction tails n bits bs with
  | case1 => simp
  | case2 => simp
  | case3 n bits b bs _ ih => simp only [List.length_cons]; omega
  | case4 => simp

theorem length_unit_le (b : UInt8) (bs : Bytes) : (unit b bs).2.length ≤ bs.length := by
  unfold unit
  split
  · simp
  · split
    · next l c rest _ =>
      split
      · have := length_tails_le l.more (l.bits * 0x40 + (c.toNat - 0x80)) rest
        simp only [List.length_cons]
        omega
      · simp
    · simp

/-- The characters of a string of bytes, with `none` for each gap. -/
def units : Bytes → List (Option Char)
  | [] => []
  | b :: bs => (unit b bs).1 :: units (unit b bs).2
termination_by bs => bs.length
decreasing_by
  have := length_unit_le b bs
  simp only [List.length_cons]
  omega

/-- Strict reading: every gap is refused. -/
def decodeChars? (bs : Bytes) : Option (List Char) := (units bs).mapM id

/-- Strict reading: every gap is refused. -/
def decode? (bs : Bytes) : Option String := (decodeChars? bs).map String.ofList

/-- Lenient reading: a gap becomes U+FFFD. -/
def decodeLossy (bs : Bytes) : String :=
  String.ofList ((units bs).map (·.getD '\uFFFD'))

/-! ### The first gap -/

/-- What is wrong with the bytes of a gap. -/
inductive Flaw where
  | start
  | continuation
  | cutOff
  deriving DecidableEq, Repr

/-- The first gap of a string of bytes: where it starts, its bytes, and what is wrong. -/
structure Gap where
  position : Nat
  bytes : Bytes
  flaw : Flaw
  deriving DecidableEq, Repr

/-- What is wrong with a gap that starts with `b`, where `rest` comes behind the gap. -/
def Flaw.of (b : UInt8) (rest : Bytes) : Flaw :=
  if (Lead.of? b).isNone then .start
  else if rest.isEmpty then .cutOff
  else .continuation

/-- The first gap of a string of bytes that stands at a position. -/
def gapFrom? (position : Nat) : Bytes → Option Gap
  | [] => none
  | b :: bs =>
    let rest := (unit b bs).2
    let size := bs.length + 1 - rest.length
    if (unit b bs).1.isNone then some ⟨position, (b :: bs).take size, Flaw.of b rest⟩
    else gapFrom? (position + size) rest
termination_by bs => bs.length
decreasing_by
  have := length_unit_le b bs
  simp only [List.length_cons]
  omega

/-- The first gap of a string of bytes. -/
def gap? (bs : Bytes) : Option Gap := gapFrom? 0 bs

/-- The wording of what is wrong. -/
def Flaw.message : Flaw → String
  | start => "invalid start byte"
  | continuation => "invalid continuation byte"
  | cutOff => "unexpected end of data"

/-- The wording of a gap: a single byte is shown, several are counted. -/
def Gap.message (g : Gap) : String :=
  let place := match g.bytes with
    | [b] =>
      let digits := Nat.toDigits 16 b.toNat
      s!"byte 0x{String.ofList digits} in position {g.position}"
    | bs => s!"bytes in position {g.position}-{g.position + bs.length - 1}"
  s!"'utf-8' codec can't decode {place}: {g.flaw.message}"

end Text.Utf8
end ThreatTree
