import ThreatTree.Embed.Dot
import ThreatTree.Proofs.Text.Occurrence

/-!
# Documents come back from DOT texts

The block in front of a DOT text is the first one of the whole, and it ends where it was written to
end: every line of the document stands behind a marker that neither the opening nor the closing line
has. What the text itself holds does not matter, also if there are blocks in it. The other way round,
what is read from a text is what some document would have written at the first opening line in it, but
for one kind of block: a document has at least one line, and a block may have none.

Main statements: `extract?_embed`, a document comes back, `extract?_written_iff`, only a document does
unless the first block has no line, and `exists_comments_embed`, all that was added for a document is
comments.
-/

namespace ThreatTree.Embed.Dot

open Text

theorem marker_append_ne_closing (l : List Char) : marker ++ l ≠ closing := by
  intro h
  have hstart : (marker ++ l).take 3 = closing.take 3 := congrArg (·.take 3) h
  rw [List.take_append_of_le_length (by decide)] at hstart
  exact absurd hstart (by decide)

@[simp] theorem unmark?_marker_append (l : List Char) : unmark? (marker ++ l) = some l := by
  rw [unmark?, if_pos (List.isPrefixOf_iff_prefix.mpr (List.prefix_append _ _)), List.drop_left]

theorem newline_notMem_block {source l : List Char} (h : l ∈ block source) : '\n' ∉ l := by
  simp only [block, List.cons_append, List.mem_cons, List.mem_append, List.mem_map,
    List.not_mem_nil, or_false] at h
  rcases h with rfl | ⟨part, hpart, rfl⟩ | rfl
  · decide
  · rw [List.mem_append, not_or]
    exact ⟨by decide, mark_not_mem_of_mem_splitAt hpart⟩
  · decide

/-- A document in front of a text is a block of lines that each end in a newline. -/
theorem embedChars_eq (dot source : List Char) :
    embedChars dot source = (block source).flatMap (· ++ ['\n']) ++ dot :=
  unlines_append (by simp [block]) dot

theorem toList_embed (dot source : String) :
    (embed dot source).toList = (block source.toList).flatMap (· ++ ['\n']) ++ dot.toList := by
  rw [embed, String.toList_ofList, embedChars_eq]

theorem embed_left_inj {dot dot' source : String} (h : embed dot source = embed dot' source) :
    dot = dot' := by
  have hchars := congrArg String.toList h
  rw [toList_embed, toList_embed] at hchars
  exact String.toList_inj.mp (List.append_cancel_left hchars)

/-- The characters of a text with a document in front of it are its own, the document's, and some of the
first plane. -/
theorem mem_embed {dot source : String} {c : Char} (hc : c ∈ (embed dot source).toList) :
    c ∈ source.toList ∨ c ∈ dot.toList ∨ c.toNat < 0x10000 := by
  have hplane {cs : List Char} (h : cs.all (·.toNat < 0x10000) = true) :
      ∀ c ∈ cs, c.toNat < 0x10000 := by simpa using h
  have hopening : ∀ c ∈ opening, c.toNat < 0x10000 := hplane (by decide)
  have hclosing : ∀ c ∈ closing, c.toNat < 0x10000 := hplane (by decide)
  have hmarker : ∀ c ∈ marker, c.toNat < 0x10000 := hplane (by decide)
  rw [toList_embed, List.mem_append] at hc
  obtain hc | hc := hc
  · obtain ⟨l, hl, hc⟩ := List.mem_flatMap.mp hc
    rw [List.mem_append, List.mem_singleton] at hc
    obtain hc | rfl := hc
    · simp only [block, List.cons_append, List.mem_cons, List.mem_append, List.mem_map,
        List.not_mem_nil, or_false] at hl
      rcases hl with rfl | ⟨part, hpart, rfl⟩ | rfl
      · exact .inr (.inr (hopening c hc))
      · obtain hc | hc := List.mem_append.mp hc
        · exact .inr (.inr (hmarker c hc))
        · exact .inl (mem_of_mem_splitAt hpart hc)
      · exact .inr (.inr (hclosing c hc))
    · exact .inr (.inr (by decide))
  · exact .inr (.inl hc)

/-- The lines of a text with a document in front of it. -/
theorem lines_embedChars (dot source : List Char) :
    lines (embedChars dot source) = block source ++ lines dot := by
  rw [embedChars_eq, lines_flatMap_append fun _ => newline_notMem_block]

/-! ### The first block -/

/-- A block is what stands between the first opening line and the first closing line behind it. -/
theorem body?_eq_some_iff {ls body : List (List Char)} :
    body? ls = some body ↔
      ∃ before after, ls = before ++ opening :: (body ++ closing :: after) ∧ opening ∉ before ∧
        closing ∉ body := by
  constructor
  · intro h
    by_cases hopening : opening ∈ ls
    · obtain ⟨before, rest, rfl, hbefore⟩ := List.eq_append_cons_of_mem hopening
      rw [body?, dropWhile_append_cons hbefore] at h
      by_cases hclosing : closing ∈ rest
      · obtain ⟨found, after, rfl, hfound⟩ := List.eq_append_cons_of_mem hclosing
        dsimp only at h
        rw [if_pos (by simp), takeWhile_append_cons hfound] at h
        cases h
        exact ⟨before, after, rfl, hbefore, hfound⟩
      · dsimp only at h
        rw [if_neg (by simpa using hclosing)] at h
        cases h
    · rw [body?, dropWhile_of_notMem hopening] at h
      cases h
  · rintro ⟨before, after, rfl, hbefore, hbody⟩
    rw [body?, dropWhile_append_cons hbefore]
    dsimp only
    rw [if_pos (by simp), takeWhile_append_cons hbody]

theorem closing_notMem_marked (ls : List (List Char)) : closing ∉ ls.map (marker ++ ·) := by
  rw [List.mem_map]
  rintro ⟨l, -, h⟩
  exact marker_append_ne_closing l h

/-- The first block of a text is read as the lines that it was made of. -/
theorem body?_block (source : List Char) (rest : List (List Char)) :
    body? (block source ++ rest) = some ((lines source).map (marker ++ ·)) :=
  body?_eq_some_iff.mpr ⟨[], rest, by simp [block], by simp, closing_notMem_marked _⟩

theorem mapM_unmark?_marked (ls : List (List Char)) :
    (ls.map (marker ++ ·)).mapM unmark? = some ls := by
  induction ls with
  | nil => rfl
  | cons l ls ih => rw [List.map_cons, List.mapM_cons, ih, unmark?_marker_append]; rfl

/-- **A document comes back from the front of a DOT text.** -/
theorem extract?_embed (dot source : String) : extract? (embed dot source) = some source := by
  have hchars : extractChars? (embedChars dot.toList source.toList) = some source.toList := by
    simp only [extractChars?, lines_embedChars, body?_block, mapM_unmark?_marked, unlines_lines,
      Option.bind_eq_bind, Option.bind_some]
    rfl
  rw [extract?, embed, String.toList_ofList, hchars, Option.map_some, String.ofList_toList]

/-! ### What is read from any text -/

theorem unmark?_eq_some_iff {l part : List Char} : unmark? l = some part ↔ l = marker ++ part := by
  constructor
  · intro h
    unfold unmark? at h
    split at h
    · cases h
      exact (append_drop_of_isPrefixOf ‹_›).symm
    · cases h
  · rintro rfl
    exact unmark?_marker_append part

theorem mapM_unmark?_eq_some_iff {body parts : List (List Char)} :
    body.mapM unmark? = some parts ↔ body = parts.map (marker ++ ·) := by
  constructor
  · intro h
    induction body generalizing parts with
    | nil =>
      cases h
      rfl
    | cons l body ih =>
      rw [List.mapM_cons] at h
      obtain ⟨part, hpart, h⟩ := Option.bind_eq_some_iff.mp h
      obtain ⟨parts, hparts, h⟩ := Option.bind_eq_some_iff.mp h
      cases h
      rw [unmark?_eq_some_iff.mp hpart, ih hparts, List.map_cons]
  · rintro rfl
    exact mapM_unmark?_marked parts

/-- The first block of a text is that of a document: from the first opening line on, the lines of the
text are the lines of the block. -/
def HasFirstBlock (t source : String) : Prop :=
  ∃ before after, lines t.toList = before ++ block source.toList ++ after ∧ opening ∉ before

/-- The first opening line of a text has a closing line right behind it. No document has such a block:
the empty one has one line in it, which is empty behind its marker. -/
def HasEmptyBlock (t : String) : Prop :=
  ∃ before after, lines t.toList = before ++ opening :: closing :: after ∧ opening ∉ before

theorem extractChars?_eq_some_iff {dot source : List Char} :
    extractChars? dot = some source ↔
      ∃ before parts after,
        lines dot = before ++ opening :: (parts.map (marker ++ ·) ++ closing :: after) ∧
        opening ∉ before ∧ unlines parts = source := by
  simp only [extractChars?, Option.bind_eq_bind, Option.bind_eq_some_iff, body?_eq_some_iff,
    mapM_unmark?_eq_some_iff, pure, Option.some.injEq]
  constructor
  · rintro ⟨_, ⟨before, after, hlines, hbefore, -⟩, parts, rfl, rfl⟩
    exact ⟨before, parts, after, hlines, hbefore, rfl⟩
  · rintro ⟨before, parts, after, hlines, hbefore, rfl⟩
    exact ⟨_, ⟨before, after, hlines, hbefore, closing_notMem_marked parts⟩, parts, rfl, rfl⟩

/-- Behind the markers of a block stand the lines of the document that they are put together to, if
there are any. -/
theorem eq_lines_of_marked {dot : List Char} {before parts after : List (List Char)}
    (hlines : lines dot = before ++ opening :: (parts.map (marker ++ ·) ++ closing :: after))
    (hparts : parts ≠ []) : parts = lines (unlines parts) := by
  refine (lines_unlines hparts fun part hpart hnewline => ?_).symm
  have hmem : marker ++ part ∈ lines dot := by
    rw [hlines]
    simp [hpart]
  exact mark_not_mem_of_mem_splitAt hmem (List.mem_append_right _ hnewline)

theorem extract?_eq_some_iff {t s : String} :
    extract? t = some s ↔ HasFirstBlock t s ∨ HasEmptyBlock t ∧ s = "" := by
  have hchars : extract? t = some s ↔ extractChars? t.toList = some s.toList := by
    rw [extract?, Option.map_eq_some_iff]
    constructor
    · rintro ⟨cs, hcs, rfl⟩
      rwa [String.toList_ofList]
    · intro h
      exact ⟨_, h, String.ofList_toList⟩
  rw [hchars, extractChars?_eq_some_iff]
  constructor
  · rintro ⟨before, parts, after, hlines, hbefore, hs⟩
    by_cases hparts : parts = []
    · subst hparts
      exact .inr ⟨⟨before, after, hlines, hbefore⟩, String.toList_inj.mp hs.symm⟩
    · refine .inl ⟨before, after, ?_, hbefore⟩
      rw [hlines, block, ← hs, ← eq_lines_of_marked hlines hparts]
      simp
  · rintro (⟨before, after, hlines, hbefore⟩ | ⟨⟨before, after, hlines, hbefore⟩, rfl⟩)
    · refine ⟨before, lines s.toList, after, ?_, hbefore, unlines_lines _⟩
      rw [hlines, block]
      simp
    · exact ⟨before, [], after, hlines, hbefore, rfl⟩

/-- The line behind the first opening line tells the two kinds of block apart. -/
theorem not_hasFirstBlock_of_hasEmptyBlock {t : String} (h : HasEmptyBlock t) (s : String) :
    ¬ HasFirstBlock t s := by
  rintro ⟨before, after, hlines, hbefore⟩
  obtain ⟨before', after', hlines', hbefore'⟩ := h
  have hdrop : (lines t.toList).dropWhile (· ≠ opening) = opening :: closing :: after' := by
    rw [hlines', dropWhile_append_cons hbefore']
  rw [hlines, block, List.append_assoc, List.cons_append, List.cons_append,
    dropWhile_append_cons hbefore] at hdrop
  have hbehind := (List.cons.inj hdrop).2
  obtain ⟨part, parts, hparts⟩ := List.exists_cons_of_ne_nil (splitAt_ne_nil '\n' s.toList)
  rw [lines, hparts, List.map_cons, List.cons_append, List.cons_append] at hbehind
  exact marker_append_ne_closing part (List.cons.inj hbehind).1

/-- **What comes out of a DOT text is the document whose block is the first one in it**, and without
such a block nothing does; but a block without lines is taken for the empty document, which has another
block. -/
theorem extract?_written_iff (t : String) :
    (∀ s, extract? t = some s ↔ HasFirstBlock t s ∨ HasEmptyBlock t ∧ s = "") ∧
      ((∀ s, extract? t = some s ↔ HasFirstBlock t s) ↔ ¬ HasEmptyBlock t) := by
  refine ⟨fun s => extract?_eq_some_iff, fun h hempty => ?_, fun hfull s => ?_⟩
  · have hread : extract? t = some "" := extract?_eq_some_iff.mpr (.inr ⟨hempty, rfl⟩)
    exact not_hasFirstBlock_of_hasEmptyBlock hempty "" ((h "").mp hread)
  · rw [extract?_eq_some_iff, or_iff_left]
    exact fun h => hfull h.1

/-- Two lines that no document is embedded in. -/
def emptyBlock : String := "// deciduous-source-begin\n// deciduous-source-end\n"

/-- Out of a block without lines comes a document that nobody wrote. -/
theorem extract?_emptyBlock :
    extract? emptyBlock = some "" ∧ ∀ s, ¬ HasFirstBlock emptyBlock s := by
  have hempty : HasEmptyBlock emptyBlock := ⟨[], [[]], by decide +kernel, by simp⟩
  exact ⟨extract?_eq_some_iff.mpr (.inr ⟨hempty, rfl⟩), not_hasFirstBlock_of_hasEmptyBlock hempty⟩

/-! ### Comments -/

/-- A line that graph readers skip. -/
def IsComment (l : List Char) : Prop := "//".toList <+: l ∧ '\n' ∉ l

theorem isComment_of_mem_block {source l : List Char} (h : l ∈ block source) : IsComment l := by
  refine ⟨?_, newline_notMem_block h⟩
  simp only [block, List.cons_append, List.mem_cons, List.mem_append, List.mem_map,
    List.not_mem_nil, or_false] at h
  rcases h with rfl | ⟨part, -, rfl⟩ | rfl
  · decide
  · have hmarker : "//".toList <+: marker := by decide
    exact hmarker.trans (List.prefix_append _ _)
  · decide

/-- **A document travels in comments.** Whatever the document, it becomes lines that graph readers
skip; a text with these lines in front of it ends with the text as it was, and the document comes back
from the whole, also if the text has documents in front of it already. -/
theorem exists_comments_embed (source : String) :
    ∃ comments : List (List Char), (∀ l ∈ comments, IsComment l) ∧
      ∀ dot : String,
        embed dot source = String.ofList (comments.flatMap (· ++ ['\n'])) ++ dot ∧
          extract? (embed dot source) = some source := by
  refine ⟨block source.toList, fun _ => isComment_of_mem_block, fun dot => ⟨?_, ?_⟩⟩
  · rw [embed, embedChars_eq, String.ofList_append, String.ofList_toList]
  · exact extract?_embed dot source

end ThreatTree.Embed.Dot
