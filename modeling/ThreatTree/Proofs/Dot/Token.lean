import Mathlib.Tactic.FinCases
import ThreatTree.Dot.Ident

/-!
# Tokens of DOT

What a layout program reads in a DOT text. `lex` cuts a text into tokens by the rules of the
language and of nothing else, so that what is written can be compared with what is read:

* a word or a numeral stands bare and is an identifier, unless the word is a keyword in any letter
  case;
* between double quotes stands an identifier: `\"` is a double quote, any other backslash is kept
  together with the character after it;
* between angle brackets that balance stands markup;
* blanks and line ends separate tokens and are none.

Every token takes something of the text away (`length_token?`), so reading ends.

Main statements: `lex_token`, which cuts the first token off, and from it `lex_word`, `lex_mark` and
`lex_keyword`.
-/

namespace ThreatTree.Dot

/-- A word that has a meaning of its own. -/
inductive Keyword where
  | node
  | edge
  | graph
  | digraph
  | subgraph
  | strict
  deriving DecidableEq, Repr

namespace Keyword

def all : List Keyword := [node, edge, graph, digraph, subgraph, strict]

def name : Keyword → String
  | node => "node"
  | edge => "edge"
  | graph => "graph"
  | digraph => "digraph"
  | subgraph => "subgraph"
  | strict => "strict"

/-- The keyword that a word is, in any letter case. -/
def ofWord? (cs : List Char) : Option Keyword :=
  all.find? fun k => k.name.toList = cs.map Char.toLower

end Keyword

/-- What a DOT text is made of. -/
inductive Token where
  | keyword (k : Keyword)
  | id (s : String)
  | markup (s : String)
  /-- One of the characters that stand for themselves. -/
  | mark (c : Char)
  | arrow
  deriving DecidableEq, Repr

/-! ### The lexical rules -/

/-- A character that separates tokens. -/
def isGap (c : Char) : Bool := [' ', '\t', '\n', '\r'].contains c

/-- The characters that are tokens of their own. -/
def marks : List Char := ['\x7b', '\x7d', '[', ']', '=', ';', ',']

/-- A letter of any script or the underscore. -/
def isNameStart (c : Char) : Bool := c.isAlpha || c = '_' || 0x80 ≤ c.toNat

def isNamePart (c : Char) : Bool := isNameStart c || c.isDigit

/-- The text up to the closing double quote, and what follows that one. -/
def readQuoted : List Char → Option (List Char × List Char)
  | [] => none
  | '"' :: rest => some ([], rest)
  | '\\' :: '"' :: rest => (readQuoted rest).map fun (s, r) => ('"' :: s, r)
  | '\\' :: c :: rest => (readQuoted rest).map fun (s, r) => ('\\' :: c :: s, r)
  | c :: rest => (readQuoted rest).map fun (s, r) => (c :: s, r)

/-- The text up to the bracket that closes the markup, `depth` brackets inside it. -/
def readMarkup : Nat → List Char → Option (List Char × List Char)
  | _, [] => none
  | 0, '>' :: rest => some ([], rest)
  | depth + 1, '>' :: rest => (readMarkup depth rest).map fun (s, r) => ('>' :: s, r)
  | depth, '<' :: rest => (readMarkup (depth + 1) rest).map fun (s, r) => ('<' :: s, r)
  | depth, c :: rest => (readMarkup depth rest).map fun (s, r) => (c :: s, r)

/-- Digits, a point, digits: the point may be missing, and one of the two runs of digits. -/
def readNumeral (cs : List Char) : Option (List Char × List Char) :=
  let whole := cs.takeWhile Char.isDigit
  match cs.dropWhile Char.isDigit with
  | '.' :: rest =>
    let fraction := rest.takeWhile Char.isDigit
    if whole.isEmpty && fraction.isEmpty then none
    else some (whole ++ '.' :: fraction, rest.dropWhile Char.isDigit)
  | rest => if whole.isEmpty then none else some (whole, rest)

/-- The token that a word is. -/
def Token.ofWord (cs : List Char) : Token :=
  match Keyword.ofWord? cs with
  | some k => .keyword k
  | none => .id (String.ofList cs)

/-- The token at the front of a text that starts with `c`, and what follows it. -/
def token? (c : Char) (cs : List Char) : Option (Token × List Char) :=
  if c = '"' then (readQuoted cs).map fun (s, r) => (.id (String.ofList s), r)
  else if c = '<' then (readMarkup 0 cs).map fun (s, r) => (.markup (String.ofList s), r)
  else if marks.contains c then some (.mark c, cs)
  else if isNameStart c then
    some (.ofWord (c :: cs.takeWhile isNamePart), cs.dropWhile isNamePart)
  else if c = '-' then
    match cs with
    | '>' :: rest => some (.arrow, rest)
    | cs => (readNumeral cs).map fun (s, r) => (.id (String.ofList ('-' :: s)), r)
  else (readNumeral (c :: cs)).map fun (s, r) => (.id (String.ofList s), r)

/-! ### Reading moves forward -/

theorem length_readQuoted {cs s rest : List Char} (h : readQuoted cs = some (s, rest)) :
    rest.length < cs.length := by
  fun_induction readQuoted cs generalizing s with
  | case1 => simp at h
  | case2 tail =>
    obtain ⟨-, rfl⟩ := by simpa using h
    simp
  | case3 tail ih | case4 c tail _ ih =>
    obtain ⟨⟨s', r'⟩, hq, he⟩ := Option.map_eq_some_iff.mp h
    cases he
    have := ih hq
    simp only [List.length_cons]
    omega
  | case5 c tail _ _ _ ih =>
    obtain ⟨⟨s', r'⟩, hq, he⟩ := Option.map_eq_some_iff.mp h
    cases he
    have := ih hq
    simp only [List.length_cons]
    omega

theorem length_readMarkup {depth : Nat} {cs s rest : List Char}
    (h : readMarkup depth cs = some (s, rest)) : rest.length < cs.length := by
  fun_induction readMarkup depth cs generalizing s with
  | case1 => simp at h
  | case2 tail =>
    obtain ⟨-, rfl⟩ := by simpa using h
    simp
  | case3 depth tail ih | case4 depth tail ih | case5 depth c tail _ _ _ ih =>
    obtain ⟨⟨s', r'⟩, hq, he⟩ := Option.map_eq_some_iff.mp h
    cases he
    have := ih hq
    simp only [List.length_cons]
    omega

/-- A numeral is a part of the text that is not empty, and nothing is lost around it. -/
theorem readNumeral_eq_some {cs s rest : List Char} (h : readNumeral cs = some (s, rest)) :
    s ≠ [] ∧ s ++ rest = cs := by
  have hcs : cs.takeWhile Char.isDigit ++ cs.dropWhile Char.isDigit = cs :=
    List.takeWhile_append_dropWhile
  unfold readNumeral at h
  dsimp only at h
  split at h
  · next tail htail =>
    split at h
    · cases h
    · cases h
      rw [htail] at hcs
      refine ⟨by simp, ?_⟩
      rw [List.append_assoc, List.cons_append, List.takeWhile_append_dropWhile, hcs]
  · split at h
    · cases h
    · next hne =>
      cases h
      exact ⟨by simpa using hne, hcs⟩

theorem length_token? {c : Char} {cs rest : List Char} {t : Token}
    (h : token? c cs = some (t, rest)) : rest.length < (c :: cs).length := by
  have numeral {cs s rest : List Char} (h : readNumeral cs = some (s, rest)) :
      rest.length < cs.length := by
    obtain ⟨hs, rfl⟩ := readNumeral_eq_some h
    have := List.length_pos_iff.mpr hs
    simp only [List.length_append]
    omega
  unfold token? at h
  split at h
  · obtain ⟨⟨s, r⟩, hq, he⟩ := Option.map_eq_some_iff.mp h
    cases he
    exact Nat.lt_succ_of_lt (length_readQuoted hq)
  split at h
  · obtain ⟨⟨s, r⟩, hq, he⟩ := Option.map_eq_some_iff.mp h
    cases he
    exact Nat.lt_succ_of_lt (length_readMarkup hq)
  split at h
  · cases h
    simp
  split at h
  · cases h
    exact Nat.lt_succ_of_le (List.dropWhile_suffix isNamePart).length_le
  split at h
  · split at h
    · cases h
      simp only [List.length_cons]
      omega
    · obtain ⟨⟨s, r⟩, hq, he⟩ := Option.map_eq_some_iff.mp h
      cases he
      exact Nat.lt_succ_of_lt (numeral hq)
  · obtain ⟨⟨s, r⟩, hq, he⟩ := Option.map_eq_some_iff.mp h
    cases he
    exact numeral hq

/-- The tokens of a text, if it has tokens only. -/
def lex : List Char → Option (List Token)
  | [] => some []
  | c :: cs =>
    if isGap c then lex cs
    else
      match _h : token? c cs with
      | none => none
      | some (t, rest) => (lex rest).map (t :: ·)
termination_by cs => cs.length
decreasing_by
  · simp
  · exact length_token? _h

theorem lex_nil : lex [] = some [] := by rw [lex]

theorem lex_gap {c : Char} {cs : List Char} (hc : isGap c = true) : lex (c :: cs) = lex cs := by
  rw [lex, if_pos hc]

theorem lex_token {c : Char} {cs rest : List Char} {t : Token} (hc : isGap c = false)
    (h : token? c cs = some (t, rest)) : lex (c :: cs) = (lex rest).map (t :: ·) := by
  rw [lex, if_neg (by simp [hc])]
  split
  · next h' => rw [h] at h'; cases h'
  · next t' rest' h' => rw [h] at h'; cases h'; rfl

theorem lex_mark {c : Char} (hc : c ∈ marks) (cs : List Char) :
    lex (c :: cs) = (lex cs).map (.mark c :: ·) := by
  have hgap : isGap c = false := by fin_cases hc <;> rfl
  have hquote : c ≠ '"' ∧ c ≠ '<' := by fin_cases hc <;> decide
  exact lex_token hgap (by simp [token?, hquote, hc])

theorem lex_arrow (cs : List Char) : lex ('-' :: '>' :: cs) = (lex cs).map (.arrow :: ·) :=
  lex_token rfl rfl

/-! ### Runs of characters -/

/-- A run of characters ends where the first other character stands. -/
theorem span_append {p : Char → Bool} {cs rest : List Char} (hcs : ∀ c ∈ cs, p c = true)
    (hr : ∀ c ∈ rest.head?, p c = false) :
    (cs ++ rest).takeWhile p = cs ∧ (cs ++ rest).dropWhile p = rest := by
  rw [List.takeWhile_append_of_pos hcs, List.dropWhile_append_of_pos hcs]
  cases rest with
  | nil => simp
  | cons c rest =>
    have hc : p c = false := hr c rfl
    simp [hc]

theorem lex_word {c : Char} {cs rest : List Char} (hc : isNameStart c = true)
    (hcs : ∀ x ∈ cs, isNamePart x = true) (hr : ∀ x ∈ rest.head?, isNamePart x = false) :
    lex (c :: cs ++ rest) = (lex rest).map (.ofWord (c :: cs) :: ·) := by
  have hquote : c ≠ '"' ∧ c ≠ '<' := by constructor <;> rintro rfl <;> exact absurd hc (by decide)
  have hmark : c ∉ marks := by
    intro h
    fin_cases h <;> exact absurd hc (by decide)
  have hgap : isGap c = false := by
    by_contra h
    simp only [isGap, List.contains_eq_mem, decide_eq_true_eq, Bool.not_eq_false] at h
    fin_cases h <;> exact absurd hc (by decide)
  -- the word ends where it was written to end, since no other letter follows
  obtain ⟨htake, hdrop⟩ := span_append hcs hr
  apply lex_token hgap
  simp [token?, hquote, hmark, hc, htake, hdrop]

/-- A keyword that stands alone is read as itself. -/
theorem lex_keyword (k : Keyword) {rest : List Char}
    (hr : ∀ c ∈ rest.head?, isNamePart c = false) :
    lex (k.name.toList ++ rest) = (lex rest).map (.keyword k :: ·) := by
  cases k <;> exact lex_word (by decide) (List.all_eq_true.mp (by decide)) hr

end ThreatTree.Dot
