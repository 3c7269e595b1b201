import ThreatTree.Text.Printable
import ThreatTree.Text.Utf8

/-!
# Quoted text

Messages show texts and bytes between quotation marks, with every character that is not printable
written by its number. The mark is the single one, unless the text holds single marks and no
double one.
-/

namespace ThreatTree.Text

/-- The lowercase hexadecimal digits of `n`, at least `width` of them. -/
def hexDigits (width n : Nat) : List Char :=
  let ds := Nat.toDigits 16 n
  List.replicate (width - ds.length) '0' ++ ds

/-- The quotation mark that needs no escape if one of the two does not. -/
def quotationMark (cs : List Char) : Char :=
  if cs.contains '\'' && !cs.contains '"' then '"' else '\''

/-- The escape that both texts and bytes use for a character, if it has one. -/
def shortEscape? (mark c : Char) : Option (List Char) :=
  if c = mark || c = '\\' then some ['\\', c]
  else if c = '\n' then some ['\\', 'n']
  else if c = '\r' then some ['\\', 'r']
  else if c = '\t' then some ['\\', 't']
  else none

/-- A character between quotation marks. -/
def quoteChar (mark c : Char) : List Char :=
  match shortEscape? mark c with
  | some e => e
  | none =>
    if isPrintable c then [c]
    else if c.toNat < 0x100 then '\\' :: 'x' :: hexDigits 2 c.toNat
    else if c.toNat < 0x10000 then '\\' :: 'u' :: hexDigits 4 c.toNat
    else '\\' :: 'U' :: hexDigits 8 c.toNat

/-- A text between quotation marks. -/
def quoteChars (cs : List Char) : List Char :=
  let mark := quotationMark cs
  mark :: cs.flatMap (quoteChar mark) ++ [mark]

/-- A text between quotation marks. -/
def quote (s : String) : String := String.ofList (quoteChars s.toList)

/-- A byte between quotation marks: printable ASCII stands for itself. -/
def quoteByte (mark : Char) (b : UInt8) : List Char :=
  let c := Char.ofNat b.toNat
  match shortEscape? mark c with
  | some e => e
  | none => if 0x20 ≤ b && b < 0x7f then [c] else '\\' :: 'x' :: hexDigits 2 b.toNat

/-- Bytes between quotation marks, after the letter that tells them from a text. -/
def quoteBytes (bs : Bytes) : String :=
  let mark := quotationMark (bs.map fun b => Char.ofNat b.toNat)
  String.ofList ('b' :: mark :: bs.flatMap (quoteByte mark) ++ [mark])

end ThreatTree.Text
