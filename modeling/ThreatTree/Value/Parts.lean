import ThreatTree.Value.Basic

/-!
# The parts of a collection

A part of a collection may lead back to the collection, and from there to itself. `Value.items` and
`Value.entries` are the parts as values of their own: where a part leads back, the collection stands
with a way back to the part in the part's place. So each part shows all that can be reached from it,
and still ends.

Main statement: the parts of a collection that never leads back are what stands in it
(`items_eq_self`, `entries_eq_self`).
-/

namespace ThreatTree.Value

/-- Whether a value is a mapping. -/
def isMap : Value → Bool
  | map _ => true
  | enclosing _ m => m
  | _ => false

mutual

/-- A value in which each way out of it, to the collection that it is a part of, is replaced by that
collection as it looks from a depth. The value itself is at the depth `d`. -/
def unfold (whole : Nat → Value) (d : Nat) : Value → Value
  | enclosing up m => if up = d then whole d else enclosing up m
  | list vs => list (unfoldAll whole (d + 1) vs)
  | pair a b => pair (unfold whole (d + 1) a) (unfold whole (d + 1) b)
  | map es => map (unfoldEntries whole (d + 1) es)
  | v => v

/-- The members of a list at the depth `d`, each unfolded. -/
def unfoldAll (whole : Nat → Value) (d : Nat) : List Value → List Value
  | [] => []
  | v :: vs => unfold whole d v :: unfoldAll whole d vs

/-- The entries of a mapping at the depth `d`, the value of each unfolded. -/
def unfoldEntries (whole : Nat → Value) (d : Nat) : List (Value × Value) → List (Value × Value)
  | [] => []
  | (k, v) :: es => (k, unfold whole d v) :: unfoldEntries whole d es

end

/-- The members of a list as values of their own. -/
def items (vs : List Value) : List Value :=
  -- The member's own place holds the way back to it, since the member cannot hold itself.
  vs.mapIdx fun i v => unfold (fun d => list (vs.set i (enclosing d v.isMap))) 0 v

/-- The entries of a mapping with values of their own. -/
def entries (es : List (Value × Value)) : List (Value × Value) :=
  es.mapIdx fun i (k, v) => (k, unfold (fun d => map (es.set i (k, enclosing d v.isMap))) 0 v)

/-! ### Values that never lead back -/

mutual

/-- Whether nothing in a value leads back. -/
def isTree : Value → Bool
  | enclosing _ _ => false
  | list vs => areTrees vs
  | pair a b => isTree a && isTree b
  | map es => areEntryTrees es
  | _ => true

/-- Whether nothing in some values leads back. -/
def areTrees : List Value → Bool
  | [] => true
  | v :: vs => isTree v && areTrees vs

/-- Whether nothing in the values of some entries leads back. -/
def areEntryTrees : List (Value × Value) → Bool
  | [] => true
  | (_, v) :: es => isTree v && areEntryTrees es

end

mutual

theorem unfold_eq_self (whole : Nat → Value) (d : Nat) :
    ∀ v : Value, v.isTree = true → unfold whole d v = v
  | enclosing _ _, h => by simp [isTree] at h
  | list vs, h => by
    rw [unfold, unfoldAll_eq_self whole (d + 1) vs (by simpa [isTree] using h)]
  | pair a b, h => by
    have h : a.isTree = true ∧ b.isTree = true := by simpa [isTree] using h
    rw [unfold, unfold_eq_self whole (d + 1) a h.1, unfold_eq_self whole (d + 1) b h.2]
  | map es, h => by
    rw [unfold, unfoldEntries_eq_self whole (d + 1) es (by simpa [isTree] using h)]
  | null, _ | bool _, _ | int _, _ | hugeInt _, _ | float _, _ | text _, _ | bytes _, _
  | date _, _ | moment _, _ | set _, _ => by simp [unfold]

theorem unfoldAll_eq_self (whole : Nat → Value) (d : Nat) :
    ∀ vs : List Value, areTrees vs = true → unfoldAll whole d vs = vs
  | [], _ => rfl
  | v :: vs, h => by
    have h : v.isTree = true ∧ areTrees vs = true := by simpa [areTrees] using h
    rw [unfoldAll, unfold_eq_self whole d v h.1, unfoldAll_eq_self whole d vs h.2]

theorem unfoldEntries_eq_self (whole : Nat → Value) (d : Nat) :
    ∀ es : List (Value × Value), areEntryTrees es = true → unfoldEntries whole d es = es
  | [], _ => rfl
  | (k, v) :: es, h => by
    have h : v.isTree = true ∧ areEntryTrees es = true := by simpa [areEntryTrees] using h
    rw [unfoldEntries, unfold_eq_self whole d v h.1, unfoldEntries_eq_self whole d es h.2]

end

theorem areTrees_iff {vs : List Value} : areTrees vs = true ↔ ∀ v ∈ vs, v.isTree = true := by
  induction vs with
  | nil => simp [areTrees]
  | cons v vs ih => simp [areTrees, ih]

theorem areEntryTrees_iff {es : List (Value × Value)} :
    areEntryTrees es = true ↔ ∀ e ∈ es, e.2.isTree = true := by
  induction es with
  | nil => simp [areEntryTrees]
  | cons e es ih => simp [areEntryTrees, ih]

/-- The members of a list that never leads back are what stands in it. -/
theorem items_eq_self {vs : List Value} (h : areTrees vs = true) : items vs = vs := by
  unfold items
  apply List.ext_getElem (by simp)
  intro i h1 h2
  rw [List.getElem_mapIdx]
  exact unfold_eq_self _ 0 _ (areTrees_iff.1 h _ (List.getElem_mem h2))

/-- The entries of a mapping that never leads back are what stands in it. -/
theorem entries_eq_self {es : List (Value × Value)} (h : areEntryTrees es = true) :
    entries es = es := by
  unfold entries
  apply List.ext_getElem (by simp)
  intro i h1 h2
  rw [List.getElem_mapIdx]
  exact Prod.ext rfl (unfold_eq_self _ 0 _ (areEntryTrees_iff.1 h _ (List.getElem_mem h2)))

end ThreatTree.Value
