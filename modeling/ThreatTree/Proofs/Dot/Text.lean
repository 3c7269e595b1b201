import ThreatTree.Dot.Text
import ThreatTree.Text.Lines

/-!
# Escape strings read back

An escape string is read from the left: two backslashes are one, and a backslash with the letter
`n` is a line end (`unescape`). What is written for a text is read as the text with newlines alone
as line ends (`unescape_escapeChars`), so two texts are written alike exactly if they differ in the
kind of their line ends at most (`text_eq_text_iff`).

A text is written in one pass. Four replacements one after the other come to the same
(`escapeChars_eq_replaceAll`). Their order matters: the last one puts in backslashes that the first
one would double.

Main statement: `text_is_literal`.
-/

namespace ThreatTree.Dot

open Text

/-! ### What an escape string shows -/

/-- The text that an escape string shows: two backslashes are one, and a backslash with the letter
`n` is a line end. Nothing else may follow a backslash. -/
def unescape : List Char → Option (List Char)
  | [] => some []
  | '\\' :: '\\' :: cs => (unescape cs).map ('\\' :: ·)
  | '\\' :: 'n' :: cs => (unescape cs).map ('\n' :: ·)
  | '\\' :: _ => none
  | c :: cs => (unescape cs).map (c :: ·)

theorem unescape_cons {c : Char} (hc : c ≠ '\\') (cs : List Char) :
    unescape (c :: cs) = (unescape cs).map (c :: ·) := by
  rw [unescape]
  · rintro cs rfl
    exact absurd rfl hc
  · rintro cs rfl
    exact absurd rfl hc
  · rintro rfl
    exact absurd rfl hc

theorem normalizeNewlines_cons {c : Char} (hc : c ≠ '\r') (cs : List Char) :
    normalizeNewlines (c :: cs) = c :: normalizeNewlines cs := by
  rw [normalizeNewlines, if_neg hc]
  rintro cs rfl
  exact absurd rfl hc

/-- A carriage return without a newline behind it is a line end of its own. -/
theorem normalizeNewlines_return {cs : List Char} (hcs : ∀ rest, cs = '\n' :: rest → False) :
    normalizeNewlines ('\r' :: cs) = '\n' :: normalizeNewlines cs := by
  rw [normalizeNewlines, if_pos rfl]
  intro rest _ heq
  exact hcs rest heq

/-- A written text is read as itself with newlines alone as line ends. -/
theorem unescape_escapeChars (cs : List Char) :
    unescape (escapeChars cs) = some (normalizeNewlines cs) := by
  fun_induction escapeChars cs with
  | case1 => rfl
  | case2 cs ih => simp [unescape, ih, normalizeNewlines_cons]
  | case3 cs ih => simp [unescape, ih, normalizeNewlines]
  | case4 cs hnewline ih => simp [unescape, ih, normalizeNewlines_return hnewline]
  | case5 cs ih => simp [unescape, ih, normalizeNewlines_cons]
  | case6 c cs hslash _ hreturn _ ih =>
    rw [unescape_cons hslash, ih, normalizeNewlines_cons hreturn, Option.map_some]

/-- Line ends of all kinds are written alike. -/
theorem escapeChars_normalizeNewlines (cs : List Char) :
    escapeChars (normalizeNewlines cs) = escapeChars cs := by
  fun_induction escapeChars cs with
  | case1 => rfl
  | case2 cs ih => simp [normalizeNewlines_cons, escapeChars, ih]
  | case3 cs ih => simp [normalizeNewlines, escapeChars, ih]
  | case4 cs hnewline ih => simp [normalizeNewlines_return hnewline, escapeChars, ih]
  | case5 cs ih => simp [normalizeNewlines_cons, escapeChars, ih]
  | case6 c cs hslash _ hreturn hnewline ih =>
    rw [normalizeNewlines_cons hreturn, escapeChars, ih]
    · exact hslash
    · intro rest hc _
      exact hreturn hc
    · exact hreturn
    · exact hnewline

/-- Texts are written alike if they differ in the kind of their line ends at most. -/
theorem text_eq_text_iff {v w : String} :
    text v = text w ↔ normalizeNewlines v.toList = normalizeNewlines w.toList := by
  rw [text, text, String.ofList_inj]
  constructor
  · intro h
    have hread := unescape_escapeChars v.toList
    rw [h, unescape_escapeChars] at hread
    exact (Option.some.inj hread).symm
  · intro h
    rw [← escapeChars_normalizeNewlines v.toList, h, escapeChars_normalizeNewlines]

/-- An escape string is one line, whatever it shows. -/
theorem lineEnd_notMem_escapeChars {c : Char} (hc : c = '\n' ∨ c = '\r') (cs : List Char) :
    c ∉ escapeChars cs := by
  have hslash : c ≠ '\\' := by rcases hc with rfl | rfl <;> decide
  have hletter : c ≠ 'n' := by rcases hc with rfl | rfl <;> decide
  fun_induction escapeChars cs with
  | case1 => simp
  | case2 cs ih => simpa [hslash] using ih
  | case3 cs ih | case4 cs _ ih | case5 cs ih => simpa [hslash, hletter] using ih
  | case6 d cs _ _ hreturn hnewline ih =>
    rw [List.mem_cons, not_or]
    refine ⟨?_, ih⟩
    rintro rfl
    rcases hc with rfl | rfl
    · exact hnewline rfl
    · exact hreturn rfl

/-! ### Replacements one after the other -/

/-- A text with `new` in the place of each `old`, which is not empty, from the left. What is put in
is not looked at again. -/
def replaceAll (old new : List Char) : List Char → List Char
  | [] => []
  | c :: cs =>
    if old.isPrefixOf (c :: cs) then new ++ replaceAll old new (cs.drop (old.length - 1))
    else c :: replaceAll old new cs
termination_by cs => cs.length

/-- A single character is replaced wherever it stands. -/
theorem replaceAll_char (a : Char) (new cs : List Char) :
    replaceAll [a] new cs = cs.flatMap fun c => if c = a then new else [c] := by
  induction cs with
  | nil => rw [replaceAll, List.flatMap_nil]
  | cons c cs ih =>
    rw [replaceAll, List.flatMap_cons]
    by_cases hc : c = a
    · simp [hc, ih]
    · simp [hc, Ne.symm hc, ih]

/-- What is left of a text without returns before newlines. -/
theorem replaceAll_pair_cons {c : Char} {cs : List Char}
    (h : c ≠ '\r' ∨ ∀ rest, cs = '\n' :: rest → False) :
    replaceAll ['\r', '\n'] ['\n'] (c :: cs) = c :: replaceAll ['\r', '\n'] ['\n'] cs := by
  rw [replaceAll, if_neg]
  rw [List.isPrefixOf_iff_prefix]
  rintro ⟨rest, heq⟩
  obtain ⟨rfl, rfl⟩ := List.cons.inj heq
  rcases h with h | h
  · exact h rfl
  · exact h rest rfl

/-- Returns before newlines go first, and the other returns become newlines. -/
theorem normalizeNewlines_eq_replaceAll (cs : List Char) :
    normalizeNewlines cs = replaceAll ['\r'] ['\n'] (replaceAll ['\r', '\n'] ['\n'] cs) := by
  rw [replaceAll_char]
  fun_induction normalizeNewlines cs with
  | case1 => simp [replaceAll]
  | case2 cs ih =>
    have hpair : replaceAll ['\r', '\n'] ['\n'] ('\r' :: '\n' :: cs) =
        '\n' :: replaceAll ['\r', '\n'] ['\n'] cs := by
      rw [replaceAll, if_pos (by simp)]
      simp
    rw [hpair, ih]
    simp
  | case3 c cs hpair ih =>
    rw [replaceAll_pair_cons, ih, List.flatMap_cons]
    · split <;> rfl
    · by_cases hc : c = '\r'
      · exact .inr fun rest => hpair rest hc
      · exact .inl hc

/-- Doubled backslashes come between a return and a newline no more than single ones. -/
theorem not_newline_of_replaceAll_backslash {cs : List Char}
    (h : ∀ rest, cs = '\n' :: rest → False) (rest : List Char) :
    replaceAll ['\\'] ['\\', '\\'] cs = '\n' :: rest → False := by
  intro heq
  rw [replaceAll_char] at heq
  cases cs with
  | nil => cases heq
  | cons c cs =>
    by_cases hc : c = '\\'
    · simp [hc] at heq
    · simp only [List.flatMap_cons, if_neg hc, List.singleton_append] at heq
      exact h cs (congrArg (· :: cs) (List.cons.inj heq).1)

/-- **One pass does what four replacements do**: backslashes are doubled, returns before newlines
go, the other returns become newlines, and newlines become a backslash and the letter `n`. -/
theorem escapeChars_eq_replaceAll (cs : List Char) :
    escapeChars cs = replaceAll ['\n'] ['\\', 'n'] (replaceAll ['\r'] ['\n']
      (replaceAll ['\r', '\n'] ['\n'] (replaceAll ['\\'] ['\\', '\\'] cs))) := by
  rw [← normalizeNewlines_eq_replaceAll, replaceAll_char]
  fun_induction escapeChars cs with
  | case1 => simp [replaceAll, normalizeNewlines]
  | case2 cs ih => simp [ih, replaceAll_char, normalizeNewlines_cons]
  | case3 cs ih => simp [ih, replaceAll_char, normalizeNewlines]
  | case4 cs hnewline ih =>
    have hrest := not_newline_of_replaceAll_backslash hnewline
    rw [replaceAll_char] at ih hrest ⊢
    simp [ih, normalizeNewlines_return hrest]
  | case5 cs ih => simp [ih, replaceAll_char, normalizeNewlines_cons]
  | case6 c cs hslash _ hreturn hnewline ih =>
    have hslash : c ≠ '\\' := hslash
    have hreturn : c ≠ '\r' := hreturn
    have hnewline : c ≠ '\n' := hnewline
    simp [ih, replaceAll_char, hslash, normalizeNewlines_cons hreturn, hnewline]

/-! ### Written and read -/

/-- **A written text shows itself**, up to the kind of its line ends. It is read to its end, two
texts are written alike exactly if they are the same with newlines alone as line ends, and no line
ends in what is written. The last two parts say in terms of replacements what is written and what
newlines alone as line ends are. -/
theorem text_is_literal (v : String) :
    unescape (text v).toList = some (normalizeNewlines v.toList) ∧
      (∀ w, text v = text w ↔ normalizeNewlines v.toList = normalizeNewlines w.toList) ∧
      '\r' ∉ (text v).toList ∧ '\n' ∉ (text v).toList ∧
      (text v).toList = replaceAll ['\n'] ['\\', 'n'] (replaceAll ['\r'] ['\n']
        (replaceAll ['\r', '\n'] ['\n'] (replaceAll ['\\'] ['\\', '\\'] v.toList))) ∧
      normalizeNewlines v.toList =
        replaceAll ['\r'] ['\n'] (replaceAll ['\r', '\n'] ['\n'] v.toList) := by
  refine ⟨?_, fun w => text_eq_text_iff, ?_⟩
  · rw [text, String.toList_ofList]
    exact unescape_escapeChars v.toList
  · rw [text, String.toList_ofList]
    exact ⟨lineEnd_notMem_escapeChars (.inr rfl) _, lineEnd_notMem_escapeChars (.inl rfl) _,
      escapeChars_eq_replaceAll _, normalizeNewlines_eq_replaceAll _⟩

end ThreatTree.Dot
