import ThreatTree.Proofs.Document.Grammar
import ThreatTree.Proofs.Sequence

/-!
# Ids and texts

`idOfValue` refuses what is blank when it is written out. A number never is: whatever its size, a
digit, a letter or a point stands in its text (`isBlankText_display`).

Main statements: `idOfValue_eq_ok_iff` and `textOfValue_eq_ok_iff`, an id or a text is read exactly
from what the grammar allows and can be written out.
-/

namespace ThreatTree

open Grammar

/-! ### Numbers are not blank -/

theorem isBlankText_eq_false {s : String} {c : Char} (hc : c ∈ s.toList)
    (h : Text.isBlank c = false) : Text.isBlankText s = false := by
  rw [Text.isBlankText, List.all_eq_false]
  exact ⟨c, hc, by simp [h]⟩

theorem isBlank_of_isDigit {c : Char} (h : c.isDigit = true) : Text.isBlank c = false := by
  have hc : 48 ≤ c.toNat ∧ c.toNat ≤ 57 := by
    simp only [Char.isDigit, Bool.and_eq_true, decide_eq_true_eq] at h
    exact h
  rw [Text.isBlank, Bool.eq_false_iff, ne_eq, Text.Ranges.has_iff]
  rintro ⟨i, hi, hlow, hhigh⟩
  -- each range of blanks ends below the digits or begins above them
  simp only [Text.blankRanges, List.mem_cons, List.not_mem_nil, or_false] at hi
  rcases hi with rfl | rfl | rfl | rfl | rfl | rfl | rfl | rfl | rfl | rfl <;> omega

/-- A numeral has a digit in it. -/
theorem exists_digit (n : Nat) : ∃ c ∈ Nat.toDigits 10 n, Text.isBlank c = false := by
  obtain ⟨c, hc⟩ := List.exists_mem_of_ne_nil _ (Nat.toDigits_ne_nil (n := n) (b := 10))
  exact ⟨c, hc, isBlank_of_isDigit (Nat.isDigit_of_mem_toDigits (by omega) (by omega) hc)⟩

theorem isBlankText_toString (n : Int) : Text.isBlankText (toString n) = false := by
  rw [Int.toString_eq_repr, Int.repr_eq_if]
  split
  · obtain ⟨c, hc, h⟩ := exists_digit n.toNat
    exact isBlankText_eq_false (by rwa [Nat.toList_repr]) h
  · obtain ⟨c, hc, h⟩ := exists_digit (-n).toNat
    refine isBlankText_eq_false (c := c) ?_ h
    rw [String.toList_append, List.mem_append, Nat.toList_repr]
    exact .inr hc

/-- A decimal is written with a point or with an exponent. -/
theorem exists_mark (s : Decimal.Style) (d : Decimal.Digits) :
    ∃ c ∈ d.render s, Text.isBlank c = false := by
  unfold Decimal.Digits.render
  dsimp only
  split
  · split
    · exact ⟨'.', by simp, by decide⟩
    · exact ⟨'.', by simp, by decide⟩
  · exact ⟨'e', by simp, by decide⟩

theorem isBlankText_floatText (x : Float) : Text.isBlankText (Decimal.floatText x) = false := by
  have signed (negative : Bool) {cs : List Char} (h : ∃ c ∈ cs, Text.isBlank c = false) :
      ∃ c ∈ (if negative then '-' :: cs else cs), Text.isBlank c = false := by
    obtain ⟨c, hc, h⟩ := h
    refine ⟨c, ?_, h⟩
    cases negative
    · exact hc
    · exact List.mem_cons_of_mem _ hc
  have h : ∃ c ∈ Decimal.floatChars x, Text.isBlank c = false := by
    unfold Decimal.floatChars
    cases Decimal.Parts.of x with
    | nan => exact ⟨'n', by simp, by decide⟩
    | infinite negative => exact signed negative ⟨'i', by simp, by decide⟩
    | zero negative => exact signed negative ⟨'.', by simp, by decide⟩
    | finite negative m q narrow => exact signed negative (exists_mark _ _)
  obtain ⟨c, hc, h⟩ := h
  exact isBlankText_eq_false (by rwa [Decimal.floatText, String.toList_ofList]) h

/-- **An id is not blank.** -/
theorem isBlankText_display {v : Value} (h : IsId v) : Text.isBlankText v.display = false := by
  cases h with
  | text h => exact h
  | int n => exact isBlankText_toString n
  | hugeInt n => exact isBlankText_toString n
  | float x => exact isBlankText_floatText x

/-! ### Reading ids and texts -/

theorem idOfValue_eq_ok_iff {owner : Option String} {v : Value} {id : String} :
    idOfValue owner v = .ok id ↔ IsId v ∧ v.isWritable = true ∧ v.display = id := by
  have written {v : Value} (hw : v.isWritable = true) (hid : IsId v ↔ ¬ Text.isBlankText v.display)
      (h : idOfValue owner v =
        if Text.isBlankText v.display then .error (.blankId owner) else .ok v.display) :
      idOfValue owner v = .ok id ↔ IsId v ∧ v.isWritable = true ∧ v.display = id := by
    rw [h, hid]
    split <;> simp [*]
  cases v with
  | text s =>
    refine written rfl ⟨fun h => ?_, fun h => .text (eq_false_of_ne_true h)⟩ rfl
    simp [isBlankText_display h]
  | int n => exact written rfl (by simp [isBlankText_display, IsId.int]) rfl
  | float x => exact written rfl (by simp [isBlankText_display, IsId.float]) rfl
  | hugeInt n =>
    constructor
    · rintro ⟨⟩
    · rintro ⟨-, hw, -⟩
      cases hw
  | _ =>
    constructor
    · rintro ⟨⟩
    · rintro ⟨⟨⟩, -, -⟩

theorem textOfValue_eq_ok_iff {role : TextRole} {owner : String} {v : Value} {s : String} :
    textOfValue role owner v = .ok s ↔ IsText v ∧ v.isWritable = true ∧ v.display = s := by
  cases v with
  | list _ | map _ | enclosing _ _ => simp [textOfValue, IsText]
  | _ =>
    simp only [textOfValue, IsText, true_and]
    split <;> simp [*]

end ThreatTree
