import Mathlib.Data.List.Infix
import ThreatTree.Embed.Artifact
import ThreatTree.Proofs.Embed.Dot
import ThreatTree.Proofs.Embed.Png
import ThreatTree.Proofs.Embed.Svg

/-!
# Documents come back from artifacts of unknown kind

What an artifact is has to be told from its bytes before a document is looked for. A text is never
taken for a PNG picture, since no character starts with the first byte of one. A text with the root
tag of a picture anywhere is taken for a picture, and this is right for pictures and for pages
around them. It is wrong for a DOT text that holds the tag by chance, in a label or in a line of the
document.

Main statements: `extract_append` (pictures of points), `extract_encode_embedChars` (other pictures
and pages around them) and `extract_encode_embed_iff` (DOT texts).
-/

namespace ThreatTree.Embed

open Text

/-- What is found where a document may be. -/
def Png.Found.ofOption : Option String → Png.Found
  | some source => .document source
  | none => .nothing

/-! ### Texts -/

/-- No text starts like a PNG picture. -/
theorem not_signature_isPrefixOf_encode (text : String) :
    Png.signature.isPrefixOf (Utf8.encode text) = false := by
  rw [Bool.eq_false_iff]
  intro h
  obtain ⟨rest, hrest⟩ := List.isPrefixOf_iff_prefix.mp h
  refine Utf8.head?_encode_ne (b := 0x89) (fun bs => ?_) text ?_
  · rfl
  · rw [← hrest]
    rfl

/-- What is found in a text: the document of a picture if the tag of one occurs, else that of a DOT
text. -/
theorem extract_encode (text : String) :
    extract (Utf8.encode text) =
      Png.Found.ofOption
        (if occurs svgTag text.toList then Svg.extract? text else Dot.extract? text) := by
  rw [extract, not_signature_isPrefixOf_encode, if_neg (by decide), Utf8.decodeLossy_encode]
  dsimp only
  generalize (if occurs svgTag text.toList then Svg.extract? text else Dot.extract? text) = found
  cases found <;> rfl

/-! ### Pictures of points -/

/-- A document comes back from behind a picture of points. -/
theorem extract_append {image : Bytes} (h : Png.IsImage image) (rest : Bytes) {source : String}
    (hsource : (Utf8.encode source).length < 0x100000000) :
    extract (Png.append (image ++ rest) (Utf8.encode source)) = .document source := by
  have hsignature : Png.signature.isPrefixOf (Png.append (image ++ rest) (Utf8.encode source)) := by
    rw [List.isPrefixOf_iff_prefix, Png.append_eq h]
    exact h.signature_prefix.trans (List.prefix_append _ _)
  rw [extract, if_pos hsignature, Png.extract_append h rest hsource]

/-! ### Pictures and pages around them -/

/-- A document comes back from a picture with any text around it, if no comment begins behind the
root element. -/
theorem extract_encode_embedChars (before after : List Char) {svg : List Char} (source : String)
    (hsvg : svgTag <:+: svg) (h : ¬ Svg.opening <:+: Svg.afterRoot svg ++ after) :
    extract (Utf8.encode (String.ofList (before ++ Svg.embedChars svg source.toList ++ after))) =
      .document source := by
  have htag : svgTag <:+: before ++ Svg.embedChars svg source.toList ++ after :=
    (Svg.svgTag_infix_embedChars source.toList hsvg).trans ⟨before, after, rfl⟩
  rw [extract_encode, String.toList_ofList, if_pos (occurs_iff.mpr htag), Svg.extract?,
    String.toList_ofList, Svg.extractChars?_embedChars before source.toList h, Option.map_some,
    String.ofList_toList]
  rfl

/-! ### DOT texts -/

/-- The tag of a picture occurs in a block if it occurs in the document. -/
theorem svgTag_infix_block (source : List Char) :
    (∃ l ∈ Dot.block source, svgTag <:+: l) ↔ svgTag <:+: source := by
  have hopening : ¬ svgTag <:+: Dot.opening := fun h =>
    absurd (h.subset (List.mem_cons_self (a := '<'))) (by decide)
  have hclosing : ¬ svgTag <:+: Dot.closing := fun h =>
    absurd (h.subset (List.mem_cons_self (a := '<'))) (by decide)
  have hmarked (l : List Char) : svgTag <:+: Dot.marker ++ l ↔ svgTag <:+: l :=
    ⟨infix_of_head_notMem (by decide), fun h => h.trans (List.suffix_append _ _).isInfix⟩
  have hlines : (∃ l ∈ lines source, svgTag <:+: l) ↔ svgTag <:+: source := by
    rw [lines, ← @infix_joinWith_iff '\n' svgTag (by decide) (by decide), joinWith_splitAt]
  rw [← hlines]
  simp [Dot.block, hopening, hclosing, hmarked]

/-- The tag of a picture occurs in a DOT text with a document in front of it if it occurs in one of
the two. -/
theorem svgTag_infix_dot (dot source : List Char) :
    svgTag <:+: Dot.embedChars dot source ↔ svgTag <:+: dot ∨ svgTag <:+: source := by
  have hblock : svgTag <:+: unlines (Dot.block source) ↔ svgTag <:+: source := by
    rw [unlines, infix_joinWith_iff (by decide) (by decide), svgTag_infix_block]
  rw [Dot.embedChars, or_comm, ← hblock]
  constructor
  · exact infix_separated (by decide)
  · rintro (h | h)
    · exact h.trans (List.prefix_append _ _).isInfix
    · exact h.trans ⟨unlines (Dot.block source) ++ ['\n'], [], by simp⟩

/-- What is found in a DOT text with a document in front of it. -/
theorem extract_encode_embed (dot source : String) :
    extract (Utf8.encode (Dot.embed dot source)) =
      if svgTag <:+: dot.toList ∨ svgTag <:+: source.toList then
        .ofOption (Svg.extract? (Dot.embed dot source))
      else .document source := by
  have htag : occurs svgTag (Dot.embed dot source).toList = true ↔
      svgTag <:+: dot.toList ∨ svgTag <:+: source.toList := by
    rw [occurs_iff, Dot.embed, String.toList_ofList, svgTag_infix_dot]
  rw [extract_encode, Dot.extract?_embed]
  simp only [htag]
  split <;> rfl

theorem Png.Found.ofOption_eq_document {found : Option String} {source : String} :
    Png.Found.ofOption found = .document source ↔ found = some source := by
  cases found <;> simp [Png.Found.ofOption]

/-- **When a document comes back from a DOT text:** the tag of a picture occurs neither in the text
nor in the document, or a comment such as pictures have happens to hold the same document. -/
theorem extract_encode_embed_iff (dot source : String) :
    extract (Utf8.encode (Dot.embed dot source)) = .document source ↔
      (¬ svgTag <:+: dot.toList ∧ ¬ svgTag <:+: source.toList) ∨
        Svg.extract? (Dot.embed dot source) = some source := by
  rw [extract_encode_embed]
  split
  · next htag =>
    rw [Png.Found.ofOption_eq_document, or_iff_right]
    exact fun h => htag.elim h.1 h.2
  · next htag => simp [not_or.mp htag]

/-- A label with the tag of a picture hides the document. -/
theorem extract_encode_embed_label :
    extract (Utf8.encode (Dot.embed "digraph \x7b\n\ta [label=\"<svg\"]\n\x7d\n" "facts: [a: <svg]"))
      = .nothing := by
  decide +kernel

end ThreatTree.Embed
