import Mathlib.Tactic.IntervalCases
import ThreatTree.Embed.Artifact
import ThreatTree.Proofs.Text.Occurrence

/-!
# Documents come back from SVG pictures

The comment that a document travels in has no two hyphens in a row before its end
(`not_hyphens_escapeChars`), so nothing in it can be taken for its beginning or its end, and the
document is read back from what stands between the two (`unescapeChars_escapeFrom`). It does not
matter what the picture is made of, or what it is put into, as long as no other comment of that kind
begins further behind.

Nor does it matter if there are documents in the picture already. A comment may hold a closing tag,
and then the next comment is put into that one; but nothing begins behind the place of a comment
that did not begin there before (`not_opening_afterRoot_embedChars`).

Main statements: `extractChars?_embedChars` and `extract?_foldl_embed`.
-/

namespace ThreatTree.Embed.Svg

open Text

/-- Two hyphens in a row. -/
def hyphens : List Char := ['-', '-']

/-! ### Escaped control characters -/

/-- The number of a control character is two digits, and they name the character. -/
theorem exists_hexDigits {c : Char} (h : isControl c = true) :
    ∃ a b, hexDigits 2 c.toNat = [a, b] ∧ hexPair? a b = some c ∧ '-' ∉ [a, b] := by
  have hlt : c.toNat < 0x20 := by
    simp only [isControl, Bool.and_eq_true, decide_eq_true_eq] at h
    exact h.1.1
  have hc : Char.ofNat c.toNat = c := Char.ofNat_toNat c
  generalize c.toNat = n at hlt hc
  subst hc
  interval_cases n <;> exact ⟨_, _, rfl, rfl, by decide⟩

/-! ### The inside of a comment -/

/-- One character of a text and the rest of it. -/
theorem escapeFrom_cons (hyphen : Bool) (c : Char) (cs : List Char) :
    escapeFrom hyphen (c :: cs) =
      if c = '\\' then '\\' :: '\\' :: escapeFrom (c = '-') cs
      else if isControl c then '\\' :: 'x' :: hexDigits 2 c.toNat ++ escapeFrom (c = '-') cs
      else if c = '-' && hyphen then '\\' :: '-' :: escapeFrom (c = '-') cs
      else c :: escapeFrom (c = '-') cs := by
  rw [escapeFrom]

/-- Two hyphens in a row are on one side of any other character. -/
theorem hyphens_separated {c : Char} (hc : c ≠ '-') {x y : List Char}
    (h : hyphens <:+: x ++ c :: y) : hyphens <:+: x ∨ hyphens <:+: y :=
  infix_separated (by simp [hyphens, hc]) h

/-- There are no two hyphens in a row, also with the one that may come before. -/
theorem not_hyphens_cons_escapeFrom (hyphen : Bool) (cs : List Char) :
    ¬ hyphens <:+: (if hyphen then '-' else ' ') :: escapeFrom hyphen cs := by
  induction cs generalizing hyphen with
  | nil => cases hyphen <;> decide
  | cons c cs ih =>
    have hrest : ¬ hyphens <:+: escapeFrom (c = '-') cs :=
      fun h => ih _ (h.trans (List.suffix_cons _ _).isInfix)
    have hone (d : Char) : ¬ hyphens <:+: [d] := fun h => absurd h.length_le (by simp [hyphens])
    intro h
    generalize hd : (if hyphen then '-' else ' ') = d at h
    rw [escapeFrom_cons] at h
    split at h
    · -- a backslash
      rcases hyphens_separated (x := [_]) (by decide) h with h | h
      · exact hone _ h
      · exact hrest (infix_of_head_notMem (x := ['\\']) (by decide) h)
    split at h
    · -- a control character
      next hcontrol =>
      obtain ⟨a, b, hdigits, -, hab⟩ := exists_hexDigits hcontrol
      rw [hdigits] at h
      rcases hyphens_separated (x := [_]) (by decide) h with h | h
      · exact hone _ h
      · refine hrest (infix_of_head_notMem (x := ['x', a, b]) ?_ h)
        simpa using hab
    split at h
    · -- a hyphen after a hyphen
      next hhyphen =>
      obtain ⟨rfl, -⟩ : c = '-' ∧ hyphen = true := by simpa using hhyphen
      rcases hyphens_separated (x := [_]) (by decide) h with h | h
      · exact hone _ h
      · exact ih true h
    · next hfirst =>
      rcases List.infix_cons_iff.mp h with h | h
      · obtain ⟨hhyphen, h⟩ := List.cons_prefix_cons.mp h
        obtain ⟨rfl, -⟩ := List.cons_prefix_cons.mp h
        cases hyphen
        · exact absurd (hhyphen.trans hd.symm) (by decide)
        · exact hfirst rfl
      · by_cases hc : c = '-'
        · subst hc
          exact ih true h
        · exact hrest (infix_of_head_notMem (x := [c]) (by simpa using Ne.symm hc) h)

/-- **There are no two hyphens in a row inside a comment.** -/
theorem not_hyphens_escapeChars (cs : List Char) : ¬ hyphens <:+: escapeChars cs :=
  fun h => not_hyphens_cons_escapeFrom false cs (h.trans (List.suffix_cons _ _).isInfix)

/-! ### Read back -/

theorem unescapeChars_cons {c : Char} (hc : c ≠ '\\') (cs : List Char) :
    unescapeChars (c :: cs) = c :: unescapeChars cs := by
  rw [unescapeChars]
  · rintro a b cs rfl
    exact absurd rfl hc
  · rintro d cs rfl
    exact absurd rfl hc

theorem unescapeChars_backslash {c : Char} (hc : c ≠ 'x') (cs : List Char) :
    unescapeChars ('\\' :: c :: cs) = c :: unescapeChars cs := by
  rw [unescapeChars]
  rintro a b cs rfl
  exact absurd rfl hc

/-- The inside of a comment is read as the text that it was made of. -/
theorem unescapeChars_escapeFrom (hyphen : Bool) (cs : List Char) :
    unescapeChars (escapeFrom hyphen cs) = cs := by
  induction cs generalizing hyphen with
  | nil => rfl
  | cons c cs ih =>
    rw [escapeFrom_cons]
    split
    · next hc => rw [unescapeChars_backslash (by decide), ih, hc]
    next hc =>
    split
    · next hcontrol =>
      obtain ⟨a, b, hdigits, hpair, -⟩ := exists_hexDigits hcontrol
      rw [hdigits]
      simp only [List.cons_append, List.nil_append, unescapeChars, hpair, ih]
    split
    · next hhyphen =>
      obtain ⟨rfl, -⟩ : c = '-' ∧ hyphen = true := by simpa using hhyphen
      rw [unescapeChars_backslash (by decide), ih]
    · rw [unescapeChars_cons hc, ih]

/-! ### Comments inside a text -/

/-- The end of a comment is the first one after its beginning. -/
theorem splitFirst_closing (source rest : List Char) :
    splitFirst closing (escapeChars source ++ closing ++ rest) = some (escapeChars source, rest) := by
  apply splitFirst_append
  intro h
  have hlast : closing = ['\n', '-', '-'] ++ ['>'] := rfl
  rw [hlast] at h
  have hinside := infix_of_last_notMem (by decide) h
  exact not_hyphens_escapeChars source (.trans ⟨['\n'], ['>'], rfl⟩ hinside)

/-- No comment begins inside of a comment. -/
theorem not_opening_comment {source after : List Char} (h : ¬ opening <:+: after) :
    ¬ opening <:+: opening.tail ++ (escapeChars source ++ closing ++ '\n' :: after) := by
  intro hlater
  have hparts : opening.tail ++ (escapeChars source ++ closing ++ '\n' :: after) =
      opening.tail ++ (escapeChars source ++ ['\n'] ++ hyphens) ++ '>' :: '\n' :: after := by
    simp [closing, hyphens]
  rw [hparts] at hlater
  rcases infix_separated (by decide) hlater with hlater | hlater
  · have hinside : opening <:+: escapeChars source ++ ['\n'] ++ hyphens :=
      infix_of_head_notMem (by decide) hlater
    have hlast : opening = "<!-- deciduous-source".toList ++ ['\n'] := by decide
    rw [hlast] at hinside
    have hline := infix_of_last_notMem (by decide) hinside
    have hpair : hyphens <:+: escapeChars source ++ '\n' :: [] :=
      .trans ⟨['<', '!'], " deciduous-source\n".toList, by decide⟩ hline
    rcases hyphens_separated (by decide) hpair with hline | hline
    · exact not_hyphens_escapeChars source hline
    · exact absurd hline (by decide)
  · exact h (infix_of_head_notMem (x := ['\n']) (by decide) hlater)

/-- The document of the last comment of a text. -/
theorem extractChars?_comment (before source : List Char) {after : List Char}
    (h : ¬ opening <:+: after) :
    extractChars? (before ++ comment source ++ after) = some source := by
  have hparts : before ++ comment source ++ after =
      before ++ opening ++ (escapeChars source ++ closing ++ '\n' :: after) := by
    simp [comment]
  rw [extractChars?, hparts, splitLast_append (not_opening_comment h)]
  simp only [Option.bind_eq_bind, Option.bind_some, splitFirst_closing]
  exact congrArg some (unescapeChars_escapeFrom false source)

/-! ### Comments inside a picture -/

/-- What stands behind the root element of a picture. -/
def afterRoot (svg : List Char) : List Char :=
  match splitLast rootEnd svg with
  | some (_, after) => after
  | none => []

/-- **A document comes back from a picture**, whatever the picture is put into, if no comment begins
behind the root element. -/
theorem extractChars?_embedChars (before source : List Char) {svg after : List Char}
    (h : ¬ opening <:+: afterRoot svg ++ after) :
    extractChars? (before ++ embedChars svg source ++ after) = some source := by
  unfold embedChars
  unfold afterRoot at h
  split
  · next inside behind hsplit =>
    rw [hsplit] at h
    have hbehind : ¬ opening <:+: rootEnd ++ behind ++ after := by
      intro hlater
      have hparts : rootEnd ++ behind ++ after = "</svg".toList ++ '>' :: (behind ++ after) := rfl
      rw [hparts] at hlater
      rcases infix_separated (by decide) hlater with hlater | hlater
      · exact absurd hlater (by decide)
      · exact h hlater
    have := extractChars?_comment (before ++ inside) source hbehind
    simpa only [List.append_assoc] using this
  · next hsplit =>
    rw [hsplit, List.nil_append] at h
    have := extractChars?_comment (before ++ svg) source h
    simpa only [List.append_assoc] using this

/-- The comment leaves the tags of a picture whole. -/
theorem svgTag_infix_embedChars (source : List Char) {svg : List Char} (h : svgTag <:+: svg) :
    svgTag <:+: embedChars svg source := by
  unfold embedChars
  split
  · next inside behind hsplit =>
    have hroot : rootEnd ++ behind = '<' :: ("/svg>".toList ++ behind) := rfl
    rw [splitLast_eq hsplit, List.append_assoc, hroot] at h
    rcases infix_append_cons (by decide) h with h | h
    · exact h.trans ⟨[], comment source ++ rootEnd ++ behind, by simp⟩
    · rw [← hroot] at h
      exact h.trans ⟨inside ++ comment source, [], by simp⟩
  · exact h.trans (List.prefix_append _ _).isInfix

/-! ### Several documents -/

theorem afterRoot_append (before : List Char) {behind : List Char} (h : ¬ rootEnd <:+: behind) :
    afterRoot (before ++ rootEnd ++ behind) = behind := by
  have hlast : ¬ rootEnd <:+: rootEnd.tail ++ behind :=
    fun hlater => h (infix_of_head_notMem (by decide) hlater)
  rw [afterRoot, splitLast_append hlast]

/-- Where a comment is put into a picture: right before the last closing tag, or at the end if there
is no such tag. -/
inductive IsPlace (before : List Char) : List Char → Prop
  | root {behind : List Char} (h : ¬ rootEnd <:+: behind) : IsPlace before (rootEnd ++ behind)
  | bottom (h : ¬ rootEnd <:+: before) : IsPlace before []

/-- What stands before and after the place of a comment in a picture. -/
def place (svg : List Char) : List Char × List Char :=
  match splitLast rootEnd svg with
  | some (before, after) => (before, rootEnd ++ after)
  | none => (svg, [])

theorem place_eq (svg : List Char) : svg = (place svg).1 ++ (place svg).2 := by
  unfold place
  split
  · next before after hsplit =>
    rw [splitLast_eq hsplit, List.append_assoc]
  · rw [List.append_nil]

theorem embedChars_eq (svg source : List Char) :
    embedChars svg source = (place svg).1 ++ comment source ++ (place svg).2 := by
  unfold embedChars place
  cases splitLast rootEnd svg with
  | none => simp
  | some cut => simp

theorem isPlace_place (svg : List Char) : IsPlace (place svg).1 (place svg).2 := by
  unfold place
  split
  · next before behind hsplit =>
    obtain ⟨-, hlast⟩ := (splitLast_eq_some_iff (by decide)).mp hsplit
    have hbehind : ¬ rootEnd <:+: behind :=
      fun hlater => hlast (hlater.trans (List.suffix_append _ _).isInfix)
    exact .root hbehind
  · next hsplit => exact .bottom (splitLast_eq_none_iff.mp hsplit)

/-- Nothing is changed but that a comment is put into its place. -/
theorem exists_place (svg source : List Char) :
    ∃ before after, IsPlace before after ∧ svg = before ++ after ∧
      embedChars svg source = before ++ comment source ++ after :=
  ⟨_, _, isPlace_place svg, place_eq svg, embedChars_eq svg source⟩

/-- No comment begins in what is left of a comment. -/
theorem not_opening_of_comment_eq {source start behind : List Char} (hstart : start ≠ [])
    (h : comment source = start ++ behind) : ¬ opening <:+: behind := by
  obtain ⟨c, start, rfl⟩ := List.exists_cons_of_ne_nil hstart
  have hparts : comment source =
      '<' :: (opening.tail ++ (escapeChars source ++ closing ++ ['\n'])) := by
    have hopening : opening = '<' :: opening.tail := by decide
    rw [comment, ← List.cons_append, ← hopening]
    simp only [List.append_assoc]
  rw [hparts, List.cons_append] at h
  have htail := (List.cons.inj h).2
  intro hlater
  refine @not_opening_comment source [] (by decide) ?_
  rw [htail]
  exact hlater.trans (List.suffix_append _ _).isInfix

/-- A comment leaves nothing to begin behind the root element that did not begin there. -/
theorem not_opening_afterRoot_embedChars {svg : List Char} (source : List Char)
    (h : ¬ opening <:+: afterRoot svg) : ¬ opening <:+: afterRoot (embedChars svg source) := by
  obtain ⟨before, after, hplace, rfl, hembed⟩ := exists_place svg source
  rw [hembed]
  cases hplace with
  | root hbehind =>
    rw [← List.append_assoc, afterRoot_append _ hbehind] at h ⊢
    exact h
  | bottom hnone =>
    rw [List.append_nil, afterRoot]
    split
    · next inside behind hsplit =>
      -- The tag stands in the comment, so what is behind it is the rest of the comment.
      rcases List.append_eq_append_iff.mp (splitLast_eq hsplit) with
        ⟨start, hstart, hcomment⟩ | ⟨rest, hrest, -⟩
      · refine not_opening_of_comment_eq ?_ hcomment
        rintro rfl
        refine hnone ⟨inside, [], ?_⟩
        rw [hstart, List.append_nil, List.append_nil]
      · exact absurd ⟨inside, rest, hrest.symm⟩ hnone
    · decide

theorem not_opening_afterRoot_foldl {svg : String} (h : ¬ opening <:+: afterRoot svg.toList)
    (sources : List String) : ¬ opening <:+: afterRoot (sources.foldl embed svg).toList := by
  induction sources generalizing svg with
  | nil => exact h
  | cons source sources ih =>
    rw [List.foldl_cons]
    apply ih
    rw [embed, String.toList_ofList]
    exact not_opening_afterRoot_embedChars source.toList h

/-- The last document comes back, whatever was put into the picture before. -/
theorem extract?_embed {svg : String} (h : ¬ opening <:+: afterRoot svg.toList) (source : String) :
    extract? (embed svg source) = some source := by
  have hchars : extractChars? ([] ++ embedChars svg.toList source.toList ++ []) =
      some source.toList :=
    extractChars?_embedChars [] source.toList (by rwa [List.append_nil])
  rw [List.nil_append, List.append_nil] at hchars
  rw [extract?, embed, String.toList_ofList, hchars, Option.map_some, String.ofList_toList]

/-- **Of documents that are put into a picture one after the other the last one comes back**, and
each is only put into its place: without its comment the text is what it was before. -/
theorem extract?_foldl_embed {svg : String} (h : ¬ opening <:+: afterRoot svg.toList)
    {sources : List String} (hsources : sources ≠ []) :
    extract? (sources.foldl embed svg) = some (sources.getLast hsources) ∧
      ∀ text source : String, ∃ before after, IsPlace before after ∧
        text.toList = before ++ after ∧
        (embed text source).toList = before ++ comment source.toList ++ after := by
  constructor
  · obtain ⟨earlier, last, rfl⟩ := (List.eq_nil_or_concat' sources).resolve_left hsources
    have hearlier := not_opening_afterRoot_foldl h earlier
    rw [List.foldl_concat, List.getLast_append_singleton, extract?_embed hearlier]
  · intro text source
    rw [embed, String.toList_ofList]
    exact exists_place text.toList source.toList

/-- The second comment is put into the first one, before the tag in it. -/
theorem extract?_foldl_embed_markup :
    ¬ opening <:+: afterRoot "<svg>".toList ∧
      extract? (["a</svg>-->\n", "--\\x41\x01\n-->"].foldl embed "<svg>") =
        some "--\\x41\x01\n-->" :=
  ⟨by decide, (extract?_foldl_embed (by decide) (by decide)).1⟩

end ThreatTree.Embed.Svg
