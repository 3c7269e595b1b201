import ThreatTree.Text.Utf8

/-!
# Base 64

Bytes in groups of four characters. Reading is lenient: characters that are none of the sixty-four
are passed over, and what follows the padding of an unfinished group is not read. A group that is
unfinished at the end is refused.
-/

namespace ThreatTree.Text.Base64

/-- The six bits that a character stands for. -/
def bits? (c : Char) : Option Nat :=
  if 'A' ≤ c && c ≤ 'Z' then some (c.toNat - 'A'.toNat)
  else if 'a' ≤ c && c ≤ 'z' then some (c.toNat - 'a'.toNat + 26)
  else if c.isDigit then some (c.toNat - '0'.toNat + 52)
  else if c = '+' then some 62
  else if c = '/' then some 63
  else none

/-- A group that is not finished yet. -/
structure Group where
  /-- How many characters it has, three at most. -/
  size : Nat
  /-- The bits that no byte holds yet. -/
  bits : Nat
  /-- How many padding characters have come since. -/
  padding : Nat

/-- The bytes that one more character of a group completes, and the group after it. -/
def Group.add (g : Group) (v : Nat) : Bytes × Group :=
  match g.size with
  | 0 => ([], ⟨1, v, 0⟩)
  | 1 => ([(g.bits * 4 + v / 16).toUInt8], ⟨2, v % 16, 0⟩)
  | 2 => ([(g.bits * 16 + v / 4).toUInt8], ⟨3, v % 4, 0⟩)
  | _ => ([(g.bits * 64 + v).toUInt8], ⟨0, 0, 0⟩)

/-- The bytes of a text after the group `g` has begun. -/
def decodeFrom (g : Group) : List Char → Option Bytes
  | [] => if g.size = 0 then some [] else none
  | c :: cs =>
    if c = '=' then
      if 2 ≤ g.size then
        if 4 ≤ g.size + g.padding + 1 then some []
        else decodeFrom { g with padding := g.padding + 1 } cs
      else decodeFrom g cs
    else
      match bits? c with
      | some v => (decodeFrom (g.add v).2 cs).map ((g.add v).1 ++ ·)
      | none => decodeFrom g cs

/-- The bytes of a text. -/
def decode? (cs : List Char) : Option Bytes := decodeFrom ⟨0, 0, 0⟩ cs

end ThreatTree.Text.Base64
