import ThreatTree.Proofs.Dot.Text
import ThreatTree.Proofs.Dot.Token

/-!
# Identifiers read back

`quote` writes an identifier and `lex` reads it. What is read is what was written as long as the
text's backslashes go in pairs with the character after them and none of them stands before a double
quote: `isPaired`. Every text that `text` writes is of that kind, since `text` doubles backslashes
and puts a single one before the letter `n` only.

Main statements: `lex_quote` and `isPaired_text`.
-/

namespace ThreatTree.Dot

/-! ### Backslashes in pairs -/

/-- Whether each backslash, read from the left, has a partner that is no double quote. -/
def isPaired : List Char → Bool
  | [] => true
  | ['\\'] => false
  | '\\' :: c :: cs => c ≠ '"' && isPaired cs
  | _ :: cs => isPaired cs

theorem isPaired_cons {c : Char} (hc : c ≠ '\\') (cs : List Char) :
    isPaired (c :: cs) = isPaired cs := by
  rw [isPaired]
  · rintro rfl
    exact absurd rfl hc
  · rintro d ds rfl
    exact absurd rfl hc

theorem isPaired_text (s : String) : isPaired (text s).toList = true := by
  rw [text, String.toList_ofList]
  generalize s.toList = cs
  fun_induction escapeChars cs with
  | case1 => rfl
  | case2 cs ih => simpa [isPaired] using ih
  | case3 cs ih | case4 cs _ ih | case5 cs ih => simpa [isPaired] using ih
  | case6 c cs hslash _ _ ih => rwa [isPaired_cons hslash]

/-- The closing double quote of a written identifier is the first one that is read as such. -/
theorem readQuoted_escapeQuotes {cs : List Char} (h : isPaired cs = true) (rest : List Char) :
    readQuoted (escapeQuotes false cs ++ '"' :: rest) = some (cs, rest) := by
  fun_induction isPaired cs with
  | case1 => simp [escapeQuotes, readQuoted]
  | case2 => cases h
  | case3 c cs ih =>
    -- the partner is written as it is: after a single backslash no double quote can come
    obtain ⟨hc, hcs⟩ : c ≠ '"' ∧ isPaired cs = true := by simpa using h
    have hwritten : escapeQuotes false ('\\' :: c :: cs) = '\\' :: c :: escapeQuotes false cs := by
      by_cases hslash : c = '\\' <;> simp [escapeQuotes, hslash, hc]
    rw [hwritten, List.cons_append, List.cons_append, readQuoted, ih hcs]
    · rfl
    · exact hc
  | case4 c cs hend hpair ih =>
    -- no backslash: a double quote gets one when it is written and loses it when it is read
    have hslash : c ≠ '\\' := by
      rintro rfl
      cases cs with
      | nil => exact hend rfl rfl
      | cons d ds => exact hpair d ds rfl rfl
    by_cases hquote : c = '"'
    · subst hquote
      have hwritten : escapeQuotes false ('"' :: cs) = '\\' :: '"' :: escapeQuotes false cs := by
        simp [escapeQuotes]
      rw [hwritten, List.cons_append, List.cons_append, readQuoted, ih h]
      rfl
    · have hwritten : escapeQuotes false (c :: cs) = c :: escapeQuotes false cs := by
        simp [escapeQuotes, hslash, hquote]
      rw [hwritten, List.cons_append, readQuoted, ih h]
      · rfl
      · exact hquote
      · intro _ h'
        exact absurd h' hslash
      · intro _ _ h'
        exact absurd h' hslash

/-! ### Numerals -/

/-- What may follow an identifier: anything that cannot be a part of it. -/
def Stops (rest : List Char) : Prop := ∀ c ∈ rest.head?, isNamePart c = false ∧ c ≠ '.'

theorem Stops.cons {c : Char} (hc : isNamePart c = false ∧ c ≠ '.') (cs : List Char) :
    Stops (c :: cs) := by
  intro d hd
  cases hd
  exact hc

theorem Stops.notNamePart {rest : List Char} (h : Stops rest) :
    ∀ c ∈ rest.head?, isNamePart c = false :=
  fun c hc => (h c hc).1

theorem Stops.notDigit {rest : List Char} (h : Stops rest) :
    ∀ c ∈ rest.head?, c.isDigit = false := by
  intro c hc
  have := (h c hc).1
  simp only [isNamePart, Bool.or_eq_false_iff] at this
  exact this.2

/-- A numeral is read to its end. -/
theorem readNumeral_append {cs rest : List Char} (h : isUnsigned cs = true) (hr : Stops rest) :
    readNumeral (cs ++ rest) = some (cs, rest) := by
  have hwhole : ∀ c ∈ cs.takeWhile Char.isDigit, c.isDigit = true :=
    fun c hc => List.all_eq_true.mp List.all_takeWhile c hc
  have hcs : cs.takeWhile Char.isDigit ++ cs.dropWhile Char.isDigit = cs :=
    List.takeWhile_append_dropWhile
  unfold isUnsigned at h
  dsimp only at h
  split at h
  · -- digits alone: the numeral ends where `rest` begins, and that is no point
    next hdrop =>
    rw [hdrop, List.append_nil] at hcs
    rw [hcs] at hwhole h
    obtain ⟨htake, hdrop'⟩ := span_append hwhole hr.notDigit
    unfold readNumeral
    simp only [htake, hdrop']
    split
    · next tail =>
      exact absurd rfl (hr '.' rfl).2
    · rw [if_neg (by simpa using h)]
  · -- a point: the digits after it end where `rest` begins
    next fraction hdrop =>
    obtain ⟨hfraction, hsome⟩ :
        (∀ c ∈ fraction, c.isDigit = true) ∧
          ¬ ((cs.takeWhile Char.isDigit).isEmpty && fraction.isEmpty) = true := by
      rw [Bool.and_eq_true, List.all_eq_true] at h
      exact ⟨h.1, by simpa only [Bool.not_eq_true', Bool.not_eq_true] using h.2⟩
    rw [hdrop] at hcs
    have happ : cs ++ rest = cs.takeWhile Char.isDigit ++ '.' :: (fraction ++ rest) := by
      conv_lhs => rw [← hcs]
      simp
    have hpoint : ∀ c ∈ ('.' :: (fraction ++ rest)).head?, c.isDigit = false := by simp
    obtain ⟨htake, hdrop'⟩ := span_append hwhole hpoint
    obtain ⟨htake', hdrop''⟩ := span_append hfraction hr.notDigit
    unfold readNumeral
    simp only [happ, htake, hdrop', htake', hdrop'']
    rw [if_neg hsome, hcs]
  · cases h

theorem isUnsigned_head {cs : List Char} (h : isUnsigned cs = true) :
    ∃ c rest, cs = c :: rest ∧ (c.isDigit = true ∨ c = '.') := by
  unfold isUnsigned at h
  cases cs with
  | nil => simp at h
  | cons c rest =>
    refine ⟨c, rest, rfl, ?_⟩
    by_contra hc
    obtain ⟨hdigit, hpoint⟩ := not_or.mp hc
    simp only [List.dropWhile_cons, hdigit, Bool.false_eq_true, if_false] at h
    split at h
    · next heq => cases heq
    · next heq =>
      cases heq
      exact hpoint rfl
    · cases h

theorem isNameStart_of_isDigit {c : Char} (hc : c.isDigit = true) : isNameStart c = false := by
  have hline : c ≠ '_' := by
    rintro rfl
    exact absurd hc (by decide)
  have hdigit : c.toNat ≤ 57 := by
    simp only [Char.isDigit, Bool.and_eq_true, decide_eq_true_eq] at hc
    exact hc.2
  have hupper : ¬ (c.val ≥ 'A'.val ∧ c.val ≤ 'Z'.val) := by
    rintro ⟨h, -⟩
    have : 65 ≤ c.toNat := UInt32.le_iff_toNat_le.mp h
    omega
  have hlower : ¬ c.val ≥ 'a'.val := by
    intro h
    have : 97 ≤ c.toNat := UInt32.le_iff_toNat_le.mp h
    omega
  have halpha : c.isAlpha = false := by
    show (decide (c.val ≥ 'A'.val ∧ c.val ≤ 'Z'.val) ||
      (decide (c.val ≥ 'a'.val) && decide (c.val ≤ 'z'.val))) = false
    rw [decide_eq_false hupper, decide_eq_false hlower]
    rfl
  have hascii : ¬ 0x80 ≤ c.toNat := by omega
  simp [isNameStart, halpha, hline, hascii]

/-- Nothing but a numeral starts with a digit or a point. -/
theorem starts_numeral {c : Char} (hc : c.isDigit = true ∨ c = '.') :
    isGap c = false ∧ c ≠ '"' ∧ c ≠ '<' ∧ c ∉ marks ∧ isNameStart c = false ∧ c ≠ '-' := by
  rcases hc with hc | rfl
  · refine ⟨?_, ?_, ?_, ?_, isNameStart_of_isDigit hc, ?_⟩
    · by_contra h
      simp only [isGap, List.contains_eq_mem, decide_eq_true_eq, Bool.not_eq_false] at h
      fin_cases h <;> exact absurd hc (by decide)
    · rintro rfl
      exact absurd hc (by decide)
    · rintro rfl
      exact absurd hc (by decide)
    · intro h
      fin_cases h <;> exact absurd hc (by decide)
    · rintro rfl
      exact absurd hc (by decide)
  · decide

/-! ### Written and read -/

theorem lex_numeral {cs rest : List Char} (h : isNumeralChars cs = true) (hr : Stops rest) :
    lex (cs ++ rest) = (lex rest).map (.id (String.ofList cs) :: ·) := by
  unfold isNumeralChars at h
  split at h
  · -- a sign: what follows it starts with a digit or a point, so the sign starts no arrow
    next cs =>
    have hread := readNumeral_append h hr
    obtain ⟨c, tail, rfl, hc⟩ := isUnsigned_head h
    have harrow : c ≠ '>' := by
      rintro rfl
      exact absurd hc (by decide)
    rw [List.cons_append] at hread
    rw [List.cons_append, List.cons_append]
    apply lex_token rfl
    rw [token?, if_neg (by decide), if_neg (by decide), if_neg (by decide), if_neg (by decide),
      if_pos rfl, hread]
    · rfl
    · rintro r heq
      cases heq
      exact absurd rfl harrow
  · have hread := readNumeral_append h hr
    obtain ⟨c, tail, rfl, hc⟩ := isUnsigned_head h
    obtain ⟨hgap, hquote, hangle, hmark, hname, hsign⟩ := starts_numeral hc
    apply lex_token hgap
    rw [List.cons_append] at hread
    simp [token?, hquote, hangle, hmark, hname, hsign, hread]

theorem isNameStart_of_isWordStart {c : Char} (h : isWordStart c = true) :
    isNameStart c = true := by
  simp only [isWordStart, Bool.or_eq_true] at h
  simp only [isNameStart, Bool.or_eq_true]
  exact Or.inl h

theorem isNamePart_of_isWordPart {c : Char} (h : isWordPart c = true) : isNamePart c = true := by
  simp only [isWordPart, Bool.or_eq_true] at h
  simp only [isNamePart, Bool.or_eq_true]
  exact h.imp_left isNameStart_of_isWordStart

theorem toList_toLower (s : String) : s.toLower.toList = s.toList.map Char.toLower := by
  show (s.map Char.toLower).toList = _
  rw [String.toList_map]

/-- A word that is no keyword is written as it is. -/
theorem quote_of_word {s : String} (hword : isWordChars s.toList = true)
    (hkeyword : ∀ k ∈ keywords, k.toList ≠ s.toList.map Char.toLower) : quote s = s := by
  have hbare : isBare s = true := by
    rw [isBare, hword, Bool.true_or, Bool.true_and, Bool.not_eq_true', List.contains_eq_mem,
      decide_eq_false_iff_not]
    intro hmem
    exact hkeyword _ hmem (toList_toLower s)
  rw [quote, if_pos hbare]

theorem ofWord?_eq_none {s : String} (h : s.toLower ∉ keywords) :
    Keyword.ofWord? s.toList = none := by
  rw [Keyword.ofWord?, List.find?_eq_none]
  intro k hk hword
  have hlower : k.name = s.toLower := by
    rw [← String.toList_inj, toList_toLower]
    exact of_decide_eq_true hword
  apply h
  rw [← hlower]
  fin_cases hk <;> decide

/-- **A written identifier is read back**, whatever follows it. -/
theorem lex_quote {s : String} (hs : isPaired s.toList = true) {rest : List Char}
    (hr : Stops rest) :
    lex ((quote s).toList ++ rest) = (lex rest).map (.id s :: ·) := by
  unfold quote
  split
  · next hbare =>
    obtain ⟨hshape, hkeyword⟩ : (isWordChars s.toList = true ∨ isNumeralChars s.toList = true) ∧
        s.toLower ∉ keywords := by simpa [isBare] using hbare
    rcases hshape with hword | hnumeral
    · have hid : Token.ofWord s.toList = .id s := by
        simp [Token.ofWord, ofWord?_eq_none hkeyword]
      cases hcs : s.toList with
      | nil => simp [hcs, isWordChars] at hword
      | cons c cs =>
        obtain ⟨hstart, hpart⟩ : isWordStart c = true ∧ cs.all isWordPart = true := by
          simpa [hcs, isWordChars] using hword
        rw [← hid, hcs]
        exact lex_word (isNameStart_of_isWordStart hstart)
          (fun x hx => isNamePart_of_isWordPart (List.all_eq_true.mp hpart x hx)) hr.notNamePart
    · rw [lex_numeral hnumeral hr, String.ofList_toList]
  · have hread := readQuoted_escapeQuotes hs rest
    rw [String.toList_ofList, List.cons_append, List.cons_append, List.append_assoc]
    apply lex_token rfl
    simp [token?, hread]

theorem readQuoted_append {cs : List Char} (h : ∀ c ∈ cs, c ≠ '"' ∧ c ≠ '\\')
    (rest : List Char) : readQuoted (cs ++ '"' :: rest) = some (cs, rest) := by
  induction cs with
  | nil => rfl
  | cons c cs ih =>
    obtain ⟨⟨hquote, hslash⟩, hcs⟩ := List.forall_mem_cons.mp h
    rw [List.cons_append, readQuoted, ih hcs]
    · rfl
    · exact hquote
    · exact fun _ hc _ => hslash hc
    · exact fun _ _ hc _ => hslash hc

/-- A text with no quote and no backslash in it stands in quotes as it is, also if it could stand
without them. -/
theorem lex_quoted {s : String} (h : ∀ c ∈ s.toList, c ≠ '"' ∧ c ≠ '\\') (rest : List Char) :
    lex ('"' :: (s.toList ++ '"' :: rest)) = (lex rest).map (.id s :: ·) := by
  have hread := readQuoted_append h rest
  apply lex_token rfl
  simp [token?, hread]

end ThreatTree.Dot
