/-!
# Character classes by code point

A character class is a list of code point intervals. The tables of the other modules of this
folder are values of `Ranges`; `Ranges.has` is the one question they answer.
-/

namespace ThreatTree.Text

/-- A set of characters as intervals of code points, both ends included. -/
abbrev Ranges := List (Nat × Nat)

/-- Whether a character lies in one of the intervals. -/
def Ranges.has (r : Ranges) (c : Char) : Bool :=
  r.any fun (lo, hi) => lo ≤ c.toNat && c.toNat ≤ hi

theorem Ranges.has_iff {r : Ranges} {c : Char} :
    r.has c = true ↔ ∃ i ∈ r, i.1 ≤ c.toNat ∧ c.toNat ≤ i.2 := by
  simp [Ranges.has]

end ThreatTree.Text
