import Mathlib.Data.List.Basic
import ThreatTree.Text.Lines

/-!
# Where a pattern occurs

The cuts of a text at a pattern, told by occurrences (`<:+:`). A cut is there exactly if the pattern
occurs, and it is where it was made if no other occurrence comes first: none that begins earlier for
the first one, none that begins later for the last one.

Texts are put together from parts, so an occurrence lies in a part or across a border
(`infix_append`). Most borders cannot be crossed, because of a character on one side of them.

Main statements: `splitFirst_append` and `splitLast_append`, and `splitLast_eq_some_iff` for where
the last cut is.
-/

namespace ThreatTree.Text

variable {α : Type} {p x y a b : List α}

/-! ### Up to one element -/

section Cut

variable [DecidableEq α] {c : α}

theorem decide_ne_of_notMem (h : c ∉ x) : ∀ d ∈ x, decide (d ≠ c) = true := by
  intro d hd
  apply decide_eq_true
  rintro rfl
  exact h hd

theorem takeWhile_append_cons (h : c ∉ x) (y : List α) :
    (x ++ c :: y).takeWhile (· ≠ c) = x := by
  rw [List.takeWhile_append_of_pos (decide_ne_of_notMem h), List.takeWhile_cons_of_neg (by simp),
    List.append_nil]

theorem dropWhile_append_cons (h : c ∉ x) (y : List α) :
    (x ++ c :: y).dropWhile (· ≠ c) = c :: y := by
  rw [List.dropWhile_append_of_pos (decide_ne_of_notMem h), List.dropWhile_cons_of_neg (by simp)]

theorem dropWhile_of_notMem (h : c ∉ x) : x.dropWhile (· ≠ c) = [] := by
  rw [← List.append_nil x, List.dropWhile_append_of_pos (decide_ne_of_notMem h)]
  rfl

end Cut

/-! ### Occurrences across a border -/

/-- An occurrence in two texts in a row lies in one of them, or some of it in each. -/
theorem infix_append (h : p <:+: x ++ y) :
    p <:+: x ∨ p <:+: y ∨ ∃ u v, p = u ++ v ∧ u <:+ x ∧ v <+: y ∧ u ≠ [] ∧ v ≠ [] := by
  obtain ⟨s, t, h⟩ := h
  rcases List.append_eq_append_iff.mp h with ⟨x', rfl, -⟩ | ⟨v, hv, rfl⟩
  · exact .inl ⟨s, x', rfl⟩
  rcases List.append_eq_append_iff.mp hv with ⟨u, rfl, rfl⟩ | ⟨s', rfl, rfl⟩
  · by_cases hu : u = []
    · exact .inr (.inl ⟨[], t, by simp [hu]⟩)
    by_cases hv : v = []
    · exact .inl ⟨s, [], by simp [hv]⟩
    exact .inr (.inr ⟨u, v, rfl, ⟨s, rfl⟩, ⟨t, rfl⟩, hu, hv⟩)
  · exact .inr (.inl ⟨s', t, rfl⟩)

/-- A character that occurs in a pattern at most at its start is a border. -/
theorem infix_append_cons {c : α} (hc : c ∉ p.tail) (h : p <:+: x ++ c :: y) :
    p <:+: x ∨ p <:+: c :: y := by
  rcases infix_append h with h | h | ⟨u, v, rfl, -, hv, hu, hne⟩
  · exact .inl h
  · exact .inr h
  · exfalso
    apply hc
    obtain ⟨d, v, rfl⟩ := List.exists_cons_of_ne_nil hne
    obtain ⟨rfl, -⟩ := List.cons_prefix_cons.mp hv
    rw [List.tail_append_of_ne_nil hu]
    simp

/-- A character that does not occur in a pattern keeps apart what stands on its two sides. -/
theorem infix_separated {c : α} (hc : c ∉ p) (h : p <:+: x ++ c :: y) : p <:+: x ∨ p <:+: y := by
  rcases infix_append_cons (fun h => hc (List.mem_of_mem_tail h)) h with h | h
  · exact .inl h
  rcases List.infix_cons_iff.mp h with h | h
  · cases p with
    | nil => exact .inr (List.nil_infix)
    | cons d p =>
      obtain ⟨rfl, -⟩ := List.cons_prefix_cons.mp h
      simp at hc
  · exact .inr h

/-- A pattern does not begin among characters that it does not begin with. -/
theorem infix_of_head_notMem {c : α} (hc : c ∉ x) (h : c :: p <:+: x ++ y) : c :: p <:+: y := by
  rcases infix_append h with h | h | ⟨u, v, hp, hu, -, hne, -⟩
  · exact absurd (h.subset List.mem_cons_self) hc
  · exact h
  · obtain ⟨d, u, rfl⟩ := List.exists_cons_of_ne_nil hne
    obtain ⟨rfl, -⟩ := List.cons.inj hp
    exact absurd (hu.subset List.mem_cons_self) hc

/-- A pattern does not end among characters that it does not end with. -/
theorem infix_of_last_notMem {c : α} (hc : c ∉ y) (h : p ++ [c] <:+: x ++ y) : p ++ [c] <:+: x := by
  have hrev : (p ++ [c]).reverse <:+: (x ++ y).reverse := List.reverse_infix.mpr h
  rw [List.reverse_concat, List.reverse_append] at hrev
  have := infix_of_head_notMem (by simpa using hc) hrev
  rwa [← List.reverse_concat, List.reverse_infix] at this

/-- A border before a character that a pattern ends with at most. -/
theorem infix_append_concat {c : α} (hc : c ∉ p.dropLast) (h : p <:+: x ++ c :: y) :
    p <:+: x ++ [c] ∨ p <:+: y := by
  have hrev : p.reverse <:+: y.reverse ++ c :: x.reverse := by
    have := List.reverse_infix.mpr h
    simpa using this
  have hc' : c ∉ p.reverse.tail := by
    rw [List.tail_reverse, List.mem_reverse]
    exact hc
  rcases infix_append_cons hc' hrev with h | h
  · exact .inr (List.reverse_infix.mp h)
  · refine .inl (List.reverse_infix.mp ?_)
    simpa using h

/-- A pattern without the mark occurs in parts that are put together if it occurs in a part. -/
theorem infix_joinWith_iff {mark : Char} {p : List Char} (hmark : mark ∉ p) (hp : p ≠ [])
    (ps : List (List Char)) : p <:+: joinWith mark ps ↔ ∃ q ∈ ps, p <:+: q := by
  induction ps with
  | nil => simpa [joinWith] using hp
  | cons q ps ih =>
    by_cases hps : ps = []
    · simp [hps, joinWith]
    rw [joinWith_cons mark hps, List.exists_mem_cons_iff, ← ih]
    constructor
    · exact infix_separated hmark
    · rintro (h | h)
      · exact h.trans (List.prefix_append _ _).isInfix
      · exact h.trans ⟨q ++ [mark], [], by simp⟩

/-! ### Cuts and occurrences -/

variable [BEq α] [LawfulBEq α]

theorem splitFirst_eq_none_iff {s : List α} : splitFirst p s = none ↔ ¬ p <:+: s := by
  induction s with
  | nil => simp [splitFirst]
  | cons c s ih =>
    rw [splitFirst, List.infix_cons_iff, ← List.isPrefixOf_iff_prefix]
    split <;> simp [*]

theorem splitLast_eq_none_iff {s : List α} : splitLast p s = none ↔ ¬ p <:+: s := by
  induction s with
  | nil => simp [splitLast]
  | cons c s ih =>
    rw [splitLast, List.infix_cons_iff, ← List.isPrefixOf_iff_prefix]
    split
    · next h => simp_all
    · next h => split <;> simp_all

theorem occurs_iff {s : List α} : occurs p s = true ↔ p <:+: s := by
  rw [occurs, Option.isSome_iff_ne_none, ne_eq, splitFirst_eq_none_iff, not_not]

/-- The first occurrence is found where no earlier one begins. -/
theorem splitFirst_append (h : ¬ p <:+: a ++ p.dropLast) :
    splitFirst p (a ++ p ++ b) = some (a, b) := by
  induction a with
  | nil =>
    cases p with
    | nil => exact absurd List.nil_infix h
    | cons c p =>
      have hp : (c :: p).isPrefixOf (c :: p ++ b) = true :=
        List.isPrefixOf_iff_prefix.mpr (List.prefix_append _ _)
      rw [List.nil_append, List.cons_append, splitFirst, ← List.cons_append, if_pos hp,
        List.drop_left]
  | cons c a ih =>
    have hp : ¬ p.isPrefixOf (c :: (a ++ p ++ b)) = true := by
      rw [List.isPrefixOf_iff_prefix]
      intro hp
      have hpart : c :: (a ++ p.dropLast) <+: c :: (a ++ p ++ b) := by
        rw [List.append_assoc, List.cons_prefix_cons]
        exact ⟨rfl, (List.prefix_append_right_inj a).mpr
          ((List.dropLast_prefix p).trans (List.prefix_append p b))⟩
      have hlength : p.length ≤ (c :: (a ++ p.dropLast)).length := by
        simp only [List.length_cons, List.length_append, List.length_dropLast]
        omega
      exact h (List.prefix_of_prefix_length_le hp hpart hlength).isInfix
    have ha : ¬ p <:+: a ++ p.dropLast := fun ha => h (ha.trans (List.suffix_cons c _).isInfix)
    rw [List.cons_append, List.cons_append, splitFirst, if_neg hp, ih ha, Option.map_some]

/-- The last occurrence is found where no later one begins. -/
theorem splitLast_append (h : ¬ p <:+: p.tail ++ b) : splitLast p (a ++ p ++ b) = some (a, b) := by
  induction a with
  | nil =>
    cases p with
    | nil => exact absurd List.nil_infix h
    | cons c p =>
      have hp : (c :: p).isPrefixOf (c :: p ++ b) = true :=
        List.isPrefixOf_iff_prefix.mpr (List.prefix_append _ _)
      have hlater : splitLast (c :: p) (p ++ b) = none := splitLast_eq_none_iff.mpr h
      rw [List.nil_append, List.cons_append, splitLast, hlater, ← List.cons_append]
      simp only [if_pos hp, List.drop_left]
  | cons c a ih => rw [List.cons_append, List.cons_append, splitLast, ih]

theorem not_infix_of_splitLast {s : List α} (hp : p ≠ []) (h : splitLast p s = some (a, b)) :
    ¬ p <:+: p.tail ++ b := by
  induction s generalizing a with
  | nil =>
    rw [splitLast, if_neg] at h
    · cases h
    · simpa using hp
  | cons c s ih =>
    rw [splitLast] at h
    split at h
    · next a' b' hlater =>
      cases h
      exact ih hlater
    · next hlater =>
      split at h
      · next hstart =>
        cases h
        obtain ⟨d, p, rfl⟩ := List.exists_cons_of_ne_nil hp
        obtain ⟨rest, hrest⟩ := List.isPrefixOf_iff_prefix.mp hstart
        obtain ⟨rfl, rfl⟩ := List.cons.inj hrest
        rw [← hrest, List.drop_left, List.tail_cons]
        exact splitLast_eq_none_iff.mp hlater
      · cases h

/-- The last cut of a text is where the pattern stands and none begins later. -/
theorem splitLast_eq_some_iff {s : List α} (hp : p ≠ []) :
    splitLast p s = some (a, b) ↔ s = a ++ p ++ b ∧ ¬ p <:+: p.tail ++ b := by
  constructor
  · intro h
    exact ⟨splitLast_eq h, not_infix_of_splitLast hp h⟩
  · rintro ⟨rfl, h⟩
    exact splitLast_append h

end ThreatTree.Text
