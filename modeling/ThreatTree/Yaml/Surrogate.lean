import ThreatTree.Decimal.Reading

/-!
# Halves of surrogate pairs

An escape may name half of a surrogate pair. Reading such a text goes well, and so does all that
compares, joins or escapes what was read, but half a pair has no bytes: a text with one in it cannot
be encoded.

No `Char` is half a pair, so another character stands for it. All stand-ins of a text are from one
block of characters that the text does not mention (`block?`), so they differ from each other and
from everything that the text says, and what is made of the text has half a pair in it exactly if it
has a character of the block (`isWhole`). Two limits: a message shows a stand-in as the character
that it is, and in a text that mentions all 512 blocks U+FFFD stands for every half.
-/

namespace ThreatTree.Yaml

namespace Surrogate

/-- The number of the first half. -/
def first : Nat := 0xd800

/-- How many halves there are. -/
def count : Nat := 0x800

/-- Whether a number is that of half a pair. -/
def isHalf (code : Nat) : Bool := first ≤ code && code < first + count

/-- The numbers that the escapes of a text name. Other digits behind the same letters may be among
them, and escapes of two digits, which name neither halves nor characters of a block, are not. -/
def named : List Char → List Nat
  | [] => []
  | c :: cs =>
    let digits := if c = 'u' then cs.take 4 else if c = 'U' then cs.take 8 else []
    (Decimal.natOfDigits? 16 digits).toList ++ named cs

/-- Whether no number is in the block that begins at `start`. -/
def isFree (start : Nat) (codes : List Nat) : Bool :=
  codes.all fun code => code < start || start + count ≤ code

/-- The last of the first `n` blocks that has none of some numbers in it. -/
def freeBlock? (codes : List Nat) : Nat → Option Nat
  | 0 => none
  | n + 1 =>
    let start := 0x10000 + count * n
    if isFree start codes then some start else freeBlock? codes n

/-- The block of the stand-ins for a text: one with no character that is in the text or named in it. -/
def block? (text : List Char) : Option Nat := freeBlock? (text.map Char.toNat ++ named text) 512

/-- What stands for half a pair in a text. -/
def standIn (text : List Char) (code : Nat) : Char :=
  match block? text with
  | some start => Char.ofNat (start + (code - first))
  | none => '\uFFFD'

end Surrogate

/-- Whether what is made of a document's text has no half of a pair in it. So it is where the text
names none. -/
def isWhole (source made : String) : Bool :=
  !(Surrogate.named source.toList).any Surrogate.isHalf ||
    match Surrogate.block? source.toList with
    | some start => Surrogate.isFree start (made.toList.map Char.toNat)
    | none => true

end ThreatTree.Yaml
