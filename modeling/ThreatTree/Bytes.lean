import ThreatTree.Text.Utf8

/-!
# Numbers in bytes

Unsigned numbers of four bytes, the most significant byte first.

Main statements: `beNat_be32`, a number below `2^32` is read back from its four bytes, and
`be32_beNat`, four bytes are those of the number that they stand for.
-/

namespace ThreatTree

/-- The four bytes of a number, reduced modulo `2^32`. -/
def be32 (n : Nat) : Bytes :=
  [(n / 0x1000000).toUInt8, (n / 0x10000).toUInt8, (n / 0x100).toUInt8, n.toUInt8]

/-- The number that bytes stand for. -/
def beNat (bs : Bytes) : Nat := bs.foldl (fun n b => n * 256 + b.toNat) 0

@[simp] theorem length_be32 (n : Nat) : (be32 n).length = 4 := rfl

theorem beNat_be32 {n : Nat} (h : n < 0x100000000) : beNat (be32 n) = n := by
  simp only [be32, beNat, List.foldl_cons, List.foldl_nil, Nat.toUInt8, UInt8.toNat_ofNat']
  omega

theorem beNat_lt {bs : Bytes} (h : bs.length = 4) : beNat bs < 0x100000000 := by
  match bs, h with
  | [a, b, c, d], _ =>
    have ha := a.toNat_lt
    have hb := b.toNat_lt
    have hc := c.toNat_lt
    have hd := d.toNat_lt
    simp only [beNat, List.foldl_cons, List.foldl_nil]
    omega

theorem be32_beNat {bs : Bytes} (h : bs.length = 4) : be32 (beNat bs) = bs := by
  match bs, h with
  | [a, b, c, d], _ =>
    have ha := a.toNat_lt
    have hb := b.toNat_lt
    have hc := c.toNat_lt
    have hd := d.toNat_lt
    simp only [be32, beNat, List.foldl_cons, List.foldl_nil, List.cons.injEq, and_true,
      ← UInt8.toNat_inj, Nat.toUInt8, UInt8.toNat_ofNat']
    omega

end ThreatTree
