import Mathlib.Data.List.Infix
import Mathlib.Data.List.TakeWhile
import ThreatTree.Text.Terminal

/-!
# Which texts a plain stream changes

A plain stream leaves terminal commands out, and a text is printed as it is exactly if no command
occurs in it. What looks like the start of a command and is not ended by a final character is no
command and stays.

Main statement: `plain_eq_self_iff`.
-/

namespace ThreatTree.Text

variable {cs rest : List Char}

/-! ### Commands -/

/-- A terminal command: an escape character, an opening bracket, parameters, intermediate characters
and one final character. -/
def IsCommand (command : List Char) : Prop :=
  ∃ ps is f, command = '\x1b' :: '[' :: (ps ++ (is ++ [f])) ∧ (∀ c ∈ ps, isParameter c = true) ∧
    (∀ c ∈ is, isIntermediate c = true) ∧ isFinal f = true

/-- A terminal command occurs in a text. -/
def HasCommand (cs : List Char) : Prop := ∃ command, IsCommand command ∧ command <:+: cs

theorem not_isParameter_of_isIntermediate {c : Char} (h : isIntermediate c = true) :
    isParameter c = false := by
  simp only [isIntermediate, isParameter, Bool.and_eq_true, decide_eq_true_eq,
    Bool.and_eq_false_imp, decide_eq_false_iff_not] at h ⊢
  intro hlow
  exact absurd (Char.le_trans hlow h.2) (by decide)

theorem not_isParameter_of_isFinal {c : Char} (h : isFinal c = true) : isParameter c = false := by
  simp only [isFinal, isParameter, Bool.and_eq_true, decide_eq_true_eq,
    Bool.and_eq_false_imp, decide_eq_false_iff_not] at h ⊢
  intro _ hhigh
  exact absurd (Char.le_trans h.1 hhigh) (by decide)

theorem not_isIntermediate_of_isFinal {c : Char} (h : isFinal c = true) :
    isIntermediate c = false := by
  simp only [isFinal, isIntermediate, Bool.and_eq_true, decide_eq_true_eq,
    Bool.and_eq_false_imp, decide_eq_false_iff_not] at h ⊢
  intro _ hhigh
  exact absurd (Char.le_trans h.1 hhigh) (by decide)

/-! ### Leaving out one command -/

/-- Each class of characters stops where the next one begins, so the end of a command is found. -/
theorem afterParameters_append {ps is : List Char} {f : Char} (rest : List Char)
    (hps : ∀ c ∈ ps, isParameter c = true) (his : ∀ c ∈ is, isIntermediate c = true)
    (hf : isFinal f = true) : afterParameters (ps ++ (is ++ f :: rest)) = f :: rest := by
  have hstop : (is ++ f :: rest).dropWhile isParameter = is ++ f :: rest := by
    cases is with
    | nil => simp [not_isParameter_of_isFinal hf]
    | cons c is => simp [not_isParameter_of_isIntermediate (his c List.mem_cons_self)]
  rw [afterParameters, List.dropWhile_append_of_pos hps, hstop, List.dropWhile_append_of_pos his,
    List.dropWhile_cons_of_neg (by simp [not_isIntermediate_of_isFinal hf])]

/-- What is found to be a command is one, and every command is found. -/
theorem afterCommand?_eq_some_iff :
    afterCommand? cs = some rest ↔ ∃ command, IsCommand command ∧ cs = command ++ rest := by
  constructor
  · intro h
    unfold afterCommand? at h
    split at h
    · next cs =>
      split at h
      · next f after hafter =>
        split at h
        · next hf =>
          cases h
          refine ⟨_, ⟨cs.takeWhile isParameter,
            (cs.dropWhile isParameter).takeWhile isIntermediate, f, rfl, ?_, ?_, hf⟩, ?_⟩
          · exact fun c hc => List.mem_takeWhile_imp hc
          · exact fun c hc => List.mem_takeWhile_imp hc
          · have hcut : (cs.dropWhile isParameter).takeWhile isIntermediate ++ f :: rest =
                cs.dropWhile isParameter := by
              rw [← hafter, afterParameters, List.takeWhile_append_dropWhile]
            simp only [List.cons_append, List.append_assoc, List.nil_append, hcut,
              List.takeWhile_append_dropWhile]
        · cases h
      · cases h
    · cases h
  · rintro ⟨_, ⟨ps, is, f, rfl, hps, his, hf⟩, rfl⟩
    have hafter := afterParameters_append rest hps his hf
    simp only [List.cons_append, List.append_assoc, List.nil_append, afterCommand?, hafter, hf,
      if_true]

/-! ### Leaving out all of them -/

theorem plainChars_cons_of_some {c : Char} (h : afterCommand? (c :: cs) = some rest) :
    plainChars (c :: cs) = plainChars rest := by
  rw [plainChars]
  split
  · next heq =>
    rw [h] at heq
    cases heq
    rfl
  · next heq =>
    rw [h] at heq
    cases heq

theorem plainChars_cons_of_none {c : Char} (h : afterCommand? (c :: cs) = none) :
    plainChars (c :: cs) = c :: plainChars cs := by
  rw [plainChars]
  split
  · next heq =>
    rw [h] at heq
    cases heq
  · rfl

theorem length_plainChars_le (cs : List Char) : (plainChars cs).length ≤ cs.length := by
  induction cs using plainChars.induct with
  | case1 => simp [plainChars]
  | case2 c cs rest h ih =>
    rw [plainChars_cons_of_some h]
    exact le_trans ih (length_afterCommand? h).le
  | case3 c cs h ih =>
    rw [plainChars_cons_of_none h, List.length_cons, List.length_cons]
    exact Nat.succ_le_succ ih

/-- A text is printed as it is exactly if no command occurs in it. -/
theorem plainChars_eq_self_iff : plainChars cs = cs ↔ ¬ HasCommand cs := by
  induction cs with
  | nil =>
    simp only [plainChars, true_iff]
    rintro ⟨_, ⟨ps, is, f, rfl, -⟩, hinfix⟩
    simp at hinfix
  | cons c cs ih =>
    cases h : afterCommand? (c :: cs) with
    | some rest =>
      -- A text without its first command is too short to be the whole one.
      obtain ⟨command, hcommand, heq⟩ := afterCommand?_eq_some_iff.mp h
      have hlt : (plainChars rest).length < (c :: cs).length :=
        lt_of_le_of_lt (length_plainChars_le rest) (length_afterCommand? h)
      rw [plainChars_cons_of_some h]
      constructor
      · intro hself
        rw [hself] at hlt
        exact absurd hlt (lt_irrefl _)
      · intro hnone
        exact absurd ⟨command, hcommand, heq ▸ (List.prefix_append command rest).isInfix⟩ hnone
    | none =>
      have hcons : HasCommand (c :: cs) ↔ HasCommand cs := by
        constructor
        · rintro ⟨command, hcommand, hinfix⟩
          rcases List.infix_cons_iff.mp hinfix with ⟨rest, hrest⟩ | hinfix
          · rw [afterCommand?_eq_some_iff.mpr ⟨command, hcommand, hrest.symm⟩] at h
            cases h
          · exact ⟨command, hcommand, hinfix⟩
        · rintro ⟨command, hcommand, hinfix⟩
          exact ⟨command, hcommand, List.infix_cons hinfix⟩
      rw [plainChars_cons_of_none h, hcons, ← ih]
      exact ⟨fun heq => (List.cons.inj heq).2, fun heq => by rw [heq]⟩

/-- **What a plain stream shows is the text exactly if no terminal command occurs in it.** -/
theorem plain_eq_self_iff (s : String) : plain s = s ↔ ¬ HasCommand s.toList := by
  rw [← plainChars_eq_self_iff, plain]
  constructor
  · intro h
    have hchars := congrArg String.toList h
    rwa [String.toList_ofList] at hchars
  · intro h
    rw [h, String.ofList_toList]

end ThreatTree.Text
