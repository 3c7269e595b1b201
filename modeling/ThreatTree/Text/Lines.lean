/-!
# Lines and occurrences

A text is cut at a mark (`splitAt`), for instance into lines (`lines`), and put together again
(`joinWith`, `unlines`). It is also cut at the first or the last occurrence of a pattern
(`splitFirst`, `splitLast`).

Main statements: `joinWith_splitAt` (cutting at marks loses nothing), and `splitLast_eq` (the two parts
of a cut, with the pattern between them, are the whole).
-/

namespace ThreatTree.Text

/-! ### Parts between marks -/

/-- The parts of a text between marks. There is one more part than marks, so the empty text is one
empty part. -/
def splitAt (mark : Char) : List Char → List (List Char)
  | [] => [[]]
  | c :: cs =>
    if c = mark then [] :: splitAt mark cs
    else
      match splitAt mark cs with
      | [] => [[c]]
      | p :: ps => (c :: p) :: ps

/-- Parts put together with one mark between neighbours. -/
def joinWith (mark : Char) : List (List Char) → List Char
  | [] => []
  | [p] => p
  | p :: ps => p ++ mark :: joinWith mark ps

theorem splitAt_ne_nil (mark : Char) (cs : List Char) : splitAt mark cs ≠ [] := by
  cases cs with
  | nil => simp [splitAt]
  | cons c cs =>
    rw [splitAt]
    split
    · simp
    · split <;> simp

theorem joinWith_cons (mark : Char) {p : List Char} {ps : List (List Char)} (h : ps ≠ []) :
    joinWith mark (p :: ps) = p ++ mark :: joinWith mark ps := by
  cases ps with
  | nil => exact absurd rfl h
  | cons q qs => rfl

/-- Cutting at marks loses nothing. -/
theorem joinWith_splitAt (mark : Char) (cs : List Char) :
    joinWith mark (splitAt mark cs) = cs := by
  induction cs with
  | nil => rfl
  | cons c cs ih =>
    rw [splitAt]
    split
    · next h => rw [joinWith_cons mark (splitAt_ne_nil mark cs), ih, h]; rfl
    · split
      · next h => exact absurd h (splitAt_ne_nil mark cs)
      · next p ps h =>
        rw [h] at ih
        cases ps with
        | nil => simp only [joinWith] at ih ⊢; rw [ih]
        | cons q qs => rw [joinWith_cons mark (by simp)] at ih ⊢; rw [← ih]; rfl

theorem mem_joinWith {mark c : Char} {p : List Char} {ps : List (List Char)} (hp : p ∈ ps)
    (hc : c ∈ p) : c ∈ joinWith mark ps := by
  induction ps with
  | nil => cases hp
  | cons q ps ih =>
    by_cases hlast : ps = []
    · subst hlast
      rw [List.mem_singleton] at hp
      exact hp ▸ hc
    · rw [joinWith_cons mark hlast, List.mem_append, List.mem_cons]
      obtain rfl | hp := List.mem_cons.mp hp
      · exact .inl hc
      · exact .inr (.inr (ih hp))

/-- A part has characters of the whole. -/
theorem mem_of_mem_splitAt {mark c : Char} {cs p : List Char} (hp : p ∈ splitAt mark cs)
    (hc : c ∈ p) : c ∈ cs :=
  joinWith_splitAt mark cs ▸ mem_joinWith hp hc

/-- No part holds a mark. -/
theorem mark_not_mem_of_mem_splitAt {mark : Char} {cs p : List Char} (h : p ∈ splitAt mark cs) :
    mark ∉ p := by
  induction cs generalizing p with
  | nil =>
    simp only [splitAt, List.mem_singleton] at h
    simp [h]
  | cons c cs ih =>
    rw [splitAt] at h
    split at h
    · obtain rfl | h := List.mem_cons.1 h
      · simp
      · exact ih h
    · next hc =>
      split at h
      · next hs => exact absurd hs (splitAt_ne_nil mark cs)
      · next q qs hs =>
        rw [hs] at ih
        obtain rfl | h := List.mem_cons.1 h
        · simp only [List.mem_cons, not_or]
          exact ⟨Ne.symm hc, ih (by simp)⟩
        · exact ih (by simp [h])

/-- The first mark ends the first part. -/
theorem splitAt_append {mark : Char} {p : List Char} (hp : mark ∉ p) (cs : List Char) :
    splitAt mark (p ++ mark :: cs) = p :: splitAt mark cs := by
  induction p with
  | nil => rw [List.nil_append, splitAt, if_pos rfl]
  | cons c p ih =>
    obtain ⟨hc, hp⟩ : c ≠ mark ∧ mark ∉ p := by
      simp only [List.mem_cons, not_or] at hp
      exact ⟨Ne.symm hp.1, hp.2⟩
    rw [List.cons_append, splitAt, if_neg hc, ih hp]

/-- Without a mark there is one part. -/
theorem splitAt_eq_self {mark : Char} {p : List Char} (hp : mark ∉ p) : splitAt mark p = [p] := by
  induction p with
  | nil => rfl
  | cons c p ih =>
    obtain ⟨hc, hp⟩ : c ≠ mark ∧ mark ∉ p := by
      simp only [List.mem_cons, not_or] at hp
      exact ⟨Ne.symm hp.1, hp.2⟩
    rw [splitAt, if_neg hc, ih hp]

/-! ### Lines -/

/-- The lines of a text, each without its newline. -/
def lines (cs : List Char) : List (List Char) := splitAt '\n' cs

/-- Lines put together with one newline between neighbours. -/
def unlines (ls : List (List Char)) : List Char := joinWith '\n' ls

/-- Cutting into lines loses nothing. -/
theorem unlines_lines (cs : List Char) : unlines (lines cs) = cs := joinWith_splitAt '\n' cs

/-- Lines that each end in a newline, in front of a text, are lines of the whole. -/
theorem lines_flatMap_append {ls : List (List Char)} (h : ∀ l ∈ ls, '\n' ∉ l) (cs : List Char) :
    lines (ls.flatMap (· ++ ['\n']) ++ cs) = ls ++ lines cs := by
  induction ls with
  | nil => rfl
  | cons l ls ih =>
    have hl : '\n' ∉ l := h l (by simp)
    have hls : ∀ l' ∈ ls, '\n' ∉ l' := fun l' hl' => h l' (by simp [hl'])
    rw [List.flatMap_cons, List.append_assoc, List.append_assoc, List.singleton_append, lines,
      splitAt_append hl, ← lines, ih hls, List.cons_append]

/-- After the newline of the last line stands an empty one. -/
theorem lines_flatMap {ls : List (List Char)} (h : ∀ l ∈ ls, '\n' ∉ l) :
    lines (ls.flatMap (· ++ ['\n'])) = ls ++ [[]] := by
  rw [← List.append_nil (ls.flatMap _), lines_flatMap_append h]
  rfl

/-- Lines without newlines are the lines of what they are put together to. -/
theorem lines_unlines {ls : List (List Char)} (hne : ls ≠ []) (h : ∀ l ∈ ls, '\n' ∉ l) :
    lines (unlines ls) = ls := by
  induction ls with
  | nil => exact absurd rfl hne
  | cons l ls ih =>
    have hl : '\n' ∉ l := h l (by simp)
    have hls : ∀ l' ∈ ls, '\n' ∉ l' := fun l' hl' => h l' (by simp [hl'])
    by_cases hlast : ls = []
    · subst hlast
      exact splitAt_eq_self hl
    · rw [unlines, joinWith_cons '\n' hlast, lines, splitAt_append hl]
      exact congrArg (l :: ·) (ih hlast hls)

/-- Lines put together with a newline after the last are lines that each end in one. -/
theorem unlines_append {ls : List (List Char)} (hne : ls ≠ []) (cs : List Char) :
    unlines ls ++ '\n' :: cs = ls.flatMap (· ++ ['\n']) ++ cs := by
  induction ls with
  | nil => exact absurd rfl hne
  | cons l ls ih =>
    by_cases hls : ls = []
    · subst hls
      simp [unlines, joinWith]
    · rw [unlines, joinWith_cons '\n' hls, List.append_assoc, List.cons_append, ← unlines, ih hls]
      simp

/-- A text whose line ends are all the newline character: a carriage return, alone or before a
newline, is a line end too. -/
def normalizeNewlines : List Char → List Char
  | [] => []
  | '\r' :: '\n' :: cs => '\n' :: normalizeNewlines cs
  | c :: cs => (if c = '\r' then '\n' else c) :: normalizeNewlines cs

/-! ### Occurrences -/

variable {α : Type} [BEq α]

/-- What stands before and after the first occurrence of `p`. -/
def splitFirst (p : List α) : List α → Option (List α × List α)
  | [] => if p.isPrefixOf [] then some ([], []) else none
  | c :: s =>
    if p.isPrefixOf (c :: s) then some ([], (c :: s).drop p.length)
    else (splitFirst p s).map fun (before, after) => (c :: before, after)

/-- What stands before and after the last occurrence of `p`. -/
def splitLast (p : List α) : List α → Option (List α × List α)
  | [] => if p.isPrefixOf [] then some ([], []) else none
  | c :: s =>
    match splitLast p s with
    | some (before, after) => some (c :: before, after)
    | none => if p.isPrefixOf (c :: s) then some ([], (c :: s).drop p.length) else none

/-- Whether `p` occurs in a text. -/
def occurs (p s : List α) : Bool := (splitFirst p s).isSome

theorem append_drop_of_isPrefixOf [LawfulBEq α] {p s : List α} (h : p.isPrefixOf s = true) :
    p ++ s.drop p.length = s := by
  obtain ⟨t, rfl⟩ := List.isPrefixOf_iff_prefix.1 h
  simp

theorem splitLast_eq [LawfulBEq α] {p s a b : List α} (h : splitLast p s = some (a, b)) :
    s = a ++ p ++ b := by
  induction s generalizing a with
  | nil =>
    simp only [splitLast] at h
    split at h
    · next hp =>
      cases h
      simpa using (append_drop_of_isPrefixOf hp).symm
    · exact absurd h (by simp)
  | cons c s ih =>
    rw [splitLast] at h
    split at h
    · next a' b' h' =>
      cases h
      rw [ih h']
      simp
    · split at h
      · next hp =>
        cases h
        simpa using (append_drop_of_isPrefixOf hp).symm
      · exact absurd h (by simp)

end ThreatTree.Text
