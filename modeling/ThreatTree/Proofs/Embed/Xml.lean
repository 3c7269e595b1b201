import ThreatTree.Proofs.Embed.Svg

/-!
# Pictures with documents are XML

An SVG picture is an XML document, and it has to stay one when a document is put into it. The grammar
of XML says what a comment is: no two hyphens in a row in it, no hyphen at its end, and only characters
that a document may hold. A comment may stand wherever an element may, and such a place is the one
before an end tag.

The grammar leaves open what no comment touches (`Xml.Reader`): what the tags are, which references
and instructions there are, and what may come in front of the root element.

Main statement: `wellFormed_embed_iff`, the comment of a document is a comment of the grammar, and the
picture with it an XML document, exactly if the document holds none of two characters, U+FFFE and
U+FFFF.
-/

namespace ThreatTree

open Text

namespace Xml

/-! ### Documents -/

/-- The characters of documents. -/
def isChar (c : Char) : Bool :=
  c = '\t' || c = '\n' || c = '\r' || (0x20 ≤ c.toNat && c.toNat ≤ 0xd7ff) ||
    (0xe000 ≤ c.toNat && c.toNat ≤ 0xfffd) || (0x10000 ≤ c.toNat && c.toNat ≤ 0x10ffff)

/-- The characters that reading a document does not change: a carriage return counts as a line end. -/
def isKept (c : Char) : Bool := isChar c && c ≠ '\r'

/-- The two code points below U+10000 that are no characters and no surrogates. -/
def noncharacters : List Char := ['\uFFFE', '\uFFFF']

/-- What may stand in a comment. -/
structure IsInside (inside : List Char) : Prop where
  noHyphens : ¬ ['-', '-'] <:+: inside
  noHyphenAtEnd : inside.getLast? ≠ some '-'
  chars : ∀ c ∈ inside, isChar c = true

/-- What opens a comment. -/
def commentStart : List Char := "<!--".toList

/-- What closes it. -/
def commentEnd : List Char := "-->".toList

/-- A comment. -/
def comment (inside : List Char) : List Char := commentStart ++ inside ++ commentEnd

/-- Text between tags. -/
structure IsText (text : List Char) : Prop where
  noTag : '<' ∉ text
  noReference : '&' ∉ text
  noSectionEnd : ¬ "]]>".toList <:+: text

/-- What a reader of documents takes for the parts that have no comment in them. -/
structure Reader where
  /-- What stands in front of the root element. -/
  prolog : List Char → Prop
  /-- A start tag and the end tag that belongs to it. -/
  tags : List Char → List Char → Prop
  /-- An element of one tag. -/
  emptyTag : List Char → Prop
  /-- A reference, or a section of text that is marked as such. -/
  reference : List Char → Prop
  /-- An instruction for another program. -/
  instruction : List Char → Prop

namespace Reader

variable (r : Reader)

/-- What may stand in an element beside texts, comments and elements with a content. -/
def part (cs : List Char) : Prop := r.emptyTag cs ∨ r.reference cs ∨ r.instruction cs

/-- The content of an element: texts, with something else between any two of them. -/
inductive Content : List Char → Prop where
  | text {text : List Char} (htext : IsText text) : Content text
  | comment {text inside rest : List Char} (htext : IsText text) (h : IsInside inside)
      (hrest : Content rest) : Content (text ++ comment inside ++ rest)
  | part {text part rest : List Char} (htext : IsText text) (h : r.part part)
      (hrest : Content rest) : Content (text ++ part ++ rest)
  | element {text start stop content rest : List Char} (htext : IsText text)
      (htags : r.tags start stop) (h : Content content) (hrest : Content rest) :
      Content (text ++ (start ++ content ++ stop) ++ rest)

/-- What stands behind the root element. -/
inductive Epilog : List Char → Prop where
  | nil : Epilog []
  | space {c : Char} {rest : List Char} (hc : c ∈ [' ', '\t', '\n', '\r']) (hrest : Epilog rest) :
      Epilog (c :: rest)
  | comment {inside rest : List Char} (h : IsInside inside) (hrest : Epilog rest) :
      Epilog (comment inside ++ rest)
  | instruction {cs rest : List Char} (h : r.instruction cs) (hrest : Epilog rest) :
      Epilog (cs ++ rest)

/-- A root element. -/
inductive Root : List Char → Prop where
  | emptyTag {cs : List Char} (h : r.emptyTag cs) : Root cs
  | element {start stop content : List Char} (htags : r.tags start stop)
      (h : r.Content content) : Root (start ++ content ++ stop)

/-- What a document is made of. -/
def Parts (document : List Char) : Prop :=
  ∃ prolog root epilog, document = prolog ++ root ++ epilog ∧ r.prolog prolog ∧ r.Root root ∧
    r.Epilog epilog

/-- A document: it is made of its parts, and of characters. -/
structure Accepts (document : List Char) : Prop where
  parts : r.Parts document
  chars : ∀ c ∈ document, isChar c = true

/-! ### Places for a comment -/

/-- What stands before and after a place in an element, in front of an end tag. -/
inductive BeforeEndTag : List Char → List Char → Prop where
  /-- In front of the end tag of the element. -/
  | here {start stop content : List Char} (htags : r.tags start stop) (h : r.Content content) :
      BeforeEndTag (start ++ content) stop
  /-- In an element that stands in the element. -/
  | within {start stop left before after right : List Char} (htags : r.tags start stop)
      (hleft : r.Content left) (h : BeforeEndTag before after) (hright : r.Content right) :
      BeforeEndTag (start ++ left ++ before) (after ++ right ++ stop)

/-- What stands before and after a place in a document where a line with a comment can come. -/
inductive IsPlace : List Char → List Char → Prop where
  /-- In front of an end tag. -/
  | inside {prolog before after epilog : List Char} (hprolog : r.prolog prolog)
      (h : r.BeforeEndTag before after) (hepilog : r.Epilog epilog) :
      IsPlace (prolog ++ before) (after ++ epilog)
  /-- Behind all of it. -/
  | behind {document : List Char} (h : r.Parts document) : IsPlace document []

variable {r}

/-- Whatever may stand between two texts may stand between two contents. -/
theorem Content.append {left cs right : List Char} (hleft : r.Content left)
    (h : ∀ {text rest : List Char}, IsText text → r.Content rest → r.Content (text ++ cs ++ rest))
    (hright : r.Content right) : r.Content (left ++ cs ++ right) := by
  induction hleft with
  | text htext => exact h htext hright
  | comment htext hinside _ ih =>
    rw [List.append_assoc _ _ cs, List.append_assoc _ _ right]
    exact .comment htext hinside ih
  | part htext hpart _ ih =>
    rw [List.append_assoc _ _ cs, List.append_assoc _ _ right]
    exact .part htext hpart ih
  | element htext htags hcontent _ _ ih =>
    rw [List.append_assoc _ _ cs, List.append_assoc _ _ right]
    exact .element htext htags hcontent ih

theorem isText_newline : IsText ['\n'] := ⟨by decide, by decide, by decide⟩

/-- An element with a line more in front of an end tag is an element still. -/
theorem BeforeEndTag.insert {before after inside : List Char} (h : r.BeforeEndTag before after)
    (hinside : IsInside inside) : ∃ start stop content, r.tags start stop ∧ r.Content content ∧
      before ++ (Xml.comment inside ++ ['\n']) ++ after = start ++ content ++ stop := by
  induction h with
  | @here start stop content htags hcontent =>
    refine ⟨start, stop, content ++ Xml.comment inside ++ ['\n'], htags,
      hcontent.append (.comment · hinside) (.text isText_newline), ?_⟩
    simp only [List.append_assoc]
  | @within start stop left before after right htags hleft _ hright ih =>
    obtain ⟨start', stop', content, htags', hcontent, hparts⟩ := ih
    refine ⟨start, stop, left ++ (start' ++ content ++ stop') ++ right, htags,
      hleft.append (.element · htags' hcontent) hright, ?_⟩
    rw [← hparts]
    simp only [List.append_assoc]

theorem Epilog.append {behind : List Char} (hbehind : r.Epilog behind) {epilog : List Char}
    (h : r.Epilog epilog) : r.Epilog (epilog ++ behind) := by
  induction h with
  | nil => exact hbehind
  | space hc _ ih => exact .space hc ih
  | comment h _ ih =>
    rw [List.append_assoc]
    exact .comment h ih
  | instruction h _ ih =>
    rw [List.append_assoc]
    exact .instruction h ih

/-- A document with a comment in a place for one is a document. -/
theorem IsPlace.parts_insert {before after inside : List Char} (h : r.IsPlace before after)
    (hinside : IsInside inside) : r.Parts (before ++ (Xml.comment inside ++ ['\n']) ++ after) := by
  cases h with
  | @inside prolog before after epilog hprolog h hepilog =>
    obtain ⟨start, stop, content, htags, hcontent, hparts⟩ := h.insert hinside
    refine ⟨prolog, start ++ content ++ stop, epilog, ?_, hprolog, .element htags hcontent, hepilog⟩
    rw [← hparts]
    simp only [List.append_assoc]
  | behind h =>
    obtain ⟨prolog, root, epilog, rfl, hprolog, hroot, hepilog⟩ := h
    have hline : r.Epilog (Xml.comment inside ++ ['\n']) :=
      .comment hinside (.space (by simp) .nil)
    refine ⟨prolog, root, _, ?_, hprolog, hroot, hline.append hepilog⟩
    simp only [List.append_assoc, List.append_nil]

end Reader
end Xml

namespace Embed.Svg

/-! ### The comment of a document -/

/-- What the comment of a document begins with. -/
def mark : List Char := " deciduous-source".toList

/-- What stands in the comment of a document. -/
def inside (source : List Char) : List Char := mark ++ '\n' :: escapeChars source ++ ['\n']

theorem comment_eq (source : List Char) :
    comment source = Xml.comment (inside source) ++ ['\n'] := by
  have hopening : opening = Xml.commentStart ++ (mark ++ ['\n']) := rfl
  have hclosing : closing = ['\n'] ++ Xml.commentEnd := rfl
  rw [comment, Xml.comment, inside, hopening, hclosing]
  simp only [List.append_assoc, List.cons_append, List.nil_append]

/-! ### Characters -/

theorem isKept_of_not_isControl {c : Char} (hcontrol : isControl c = false)
    (h : c ∉ Xml.noncharacters) : Xml.isKept c = true := by
  have hvalid : c.toNat < 0xd800 ∨ 0xdfff < c.toNat ∧ c.toNat < 0x110000 := c.valid
  have hreturn : c ≠ '\r' := by
    rintro rfl
    exact absurd hcontrol (by decide)
  have hlow : 0x20 ≤ c.toNat ∨ c = '\t' ∨ c = '\n' := by
    by_cases htab : c = '\t'
    · exact .inr (.inl htab)
    by_cases hnewline : c = '\n'
    · exact .inr (.inr hnewline)
    · exact .inl (by simpa [isControl, htab, hnewline] using hcontrol)
  have hhigh : c.toNat ≠ 0xfffe ∧ c.toNat ≠ 0xffff := by
    constructor
    · intro heq
      obtain rfl : c = '\uFFFE' := Char.toNat_inj.mp heq
      exact h (by decide)
    · intro heq
      obtain rfl : c = '\uFFFF' := Char.toNat_inj.mp heq
      exact h (by decide)
  simp only [Xml.isKept, Xml.isChar, Bool.and_eq_true, Bool.or_eq_true, decide_eq_true_eq]
  refine ⟨?_, hreturn⟩
  rcases hlow with hlow | rfl | rfl
  · omega
  · simp
  · simp

theorem isKept_of_mem_hexDigits {c d : Char} (hcontrol : isControl c = true)
    (hd : d ∈ hexDigits 2 c.toNat) : Xml.isKept d = true := by
  have hlt : c.toNat < 0x20 := by
    simp only [isControl, Bool.and_eq_true, decide_eq_true_eq] at hcontrol
    exact hcontrol.1.1
  have hdigits : ∀ n < 0x20, (hexDigits 2 n).all Xml.isKept = true := by decide
  exact List.all_eq_true.mp (hdigits _ hlt) d hd

/-- Escapes are made of characters that reading keeps. -/
theorem isKept_of_mem_escapeFrom {hyphen : Bool} {cs : List Char}
    (h : ∀ c ∈ cs, c ∉ Xml.noncharacters) : ∀ d ∈ escapeFrom hyphen cs, Xml.isKept d = true := by
  induction cs generalizing hyphen with
  | nil => simp [escapeFrom]
  | cons c cs ih =>
    obtain ⟨hc, hcs⟩ := List.forall_mem_cons.mp h
    have hrest := @ih (c = '-') hcs
    rw [escapeFrom_cons]
    split
    · simpa using ⟨by decide, hrest⟩
    split
    · next hcontrol =>
      simp only [List.cons_append, List.forall_mem_cons, List.forall_mem_append]
      exact ⟨by decide, by decide, fun d hd => isKept_of_mem_hexDigits hcontrol hd, hrest⟩
    next hcontrol =>
    split
    · simpa using ⟨by decide, by decide, hrest⟩
    · rw [List.forall_mem_cons]
      exact ⟨isKept_of_not_isControl (Bool.eq_false_iff.mpr hcontrol) hc, hrest⟩

/-- What is no character is no escape either, and stays as it is. -/
theorem mem_escapeFrom_of_noncharacter {hyphen : Bool} {c : Char} {cs : List Char}
    (hc : c ∈ Xml.noncharacters) (h : c ∈ cs) : c ∈ escapeFrom hyphen cs := by
  induction cs generalizing hyphen with
  | nil => cases h
  | cons d cs ih =>
    rw [escapeFrom_cons]
    rcases List.mem_cons.mp h with rfl | h
    · have hself : c ≠ '\\' ∧ isControl c = false ∧ c ≠ '-' := by
        revert hc
        simp only [Xml.noncharacters, List.mem_cons, List.not_mem_nil, or_false]
        rintro (rfl | rfl) <;> decide
      simp [hself.1, hself.2.1, hself.2.2]
    · have hrest := @ih (d = '-') h
      split
      · simp [hrest]
      split
      · simp [hrest]
      split <;> simp [hrest]

theorem isChar_of_noncharacter {c : Char} (h : c ∈ Xml.noncharacters) : Xml.isChar c = false := by
  revert h
  simp only [Xml.noncharacters, List.mem_cons, List.not_mem_nil, or_false]
  rintro (rfl | rfl) <;> decide

theorem mem_inside_of_noncharacter {c : Char} {source : List Char} (hc : c ∈ Xml.noncharacters)
    (h : c ∈ source) : c ∈ inside source := by
  rw [inside, List.mem_append, List.mem_append, List.mem_cons]
  exact .inl (.inr (.inr (mem_escapeFrom_of_noncharacter hc h)))

/-- The inside of a comment has characters that reading keeps, unless the document has others. -/
theorem isKept_inside_iff (source : List Char) :
    (∀ c ∈ inside source, Xml.isKept c = true) ↔ ∀ c ∈ source, c ∉ Xml.noncharacters := by
  constructor
  · intro h c hc hnone
    have hkept := h c (mem_inside_of_noncharacter hnone hc)
    rw [Xml.isKept, isChar_of_noncharacter hnone] at hkept
    cases hkept
  · intro h
    rw [inside, List.forall_mem_append, List.forall_mem_append, List.forall_mem_cons]
    exact ⟨⟨List.all_eq_true.mp (by decide), by decide, isKept_of_mem_escapeFrom h⟩,
      List.all_eq_true.mp (by decide)⟩

/-- There are no two hyphens in a row in the comment of a document. -/
theorem not_hyphens_inside (source : List Char) : ¬ hyphens <:+: inside source := by
  rw [inside, List.append_assoc, List.cons_append]
  intro h
  rcases hyphens_separated (by decide) h with h | h
  · have hmark : ¬ hyphens <:+: mark := by decide +kernel
    exact hmark h
  rcases hyphens_separated (by decide) h with h | h
  · exact not_hyphens_escapeChars source h
  · exact absurd h (by decide)

theorem getLast?_inside (source : List Char) : (inside source).getLast? = some '\n' := by
  rw [inside, List.getLast?_concat]

theorem isInside_inside {source : List Char} (h : ∀ c ∈ source, c ∉ Xml.noncharacters) :
    Xml.IsInside (inside source) where
  noHyphens := not_hyphens_inside source
  noHyphenAtEnd := by
    rw [getLast?_inside]
    decide
  chars c hc := by
    have hkept := (isKept_inside_iff source).mpr h c hc
    rw [Xml.isKept, Bool.and_eq_true] at hkept
    exact hkept.1

/-! ### Pictures with documents -/

/-- A reader that accepts a picture accepts it with the comment of a document, unless the document
holds what is no character. -/
theorem accepts_embedChars_iff {r : Xml.Reader} {svg : List Char} (source : List Char)
    (hplace : r.IsPlace (place svg).1 (place svg).2) (hsvg : r.Accepts svg) :
    r.Accepts (embedChars svg source) ↔ ∀ c ∈ source, c ∉ Xml.noncharacters := by
  rw [embedChars_eq, comment_eq]
  constructor
  · intro h c hc hnone
    have hchar := h.chars c (by simp [Xml.comment, mem_inside_of_noncharacter hnone hc])
    rw [isChar_of_noncharacter hnone] at hchar
    cases hchar
  · intro h
    have hinside := isInside_inside h
    refine ⟨hplace.parts_insert hinside, ?_⟩
    have hchars := hsvg.chars
    rw [place_eq svg, List.forall_mem_append] at hchars
    simp only [List.forall_mem_append]
    refine ⟨⟨hchars.1, ?_, List.all_eq_true.mp (by decide)⟩, hchars.2⟩
    rw [Xml.comment, List.forall_mem_append, List.forall_mem_append]
    exact ⟨⟨List.all_eq_true.mp (by decide), hinside.chars⟩, List.all_eq_true.mp (by decide)⟩

/-- **A document travels in a comment of XML.** In it there are no two hyphens in a row and none at the
end, and its characters are characters of XML that reading keeps, exactly if the document has neither
U+FFFE nor U+FFFF in it. In that case, and in no other, a picture that is XML is still XML with the
comment in it, if the last closing tag of the picture closes an element and is not a part of a text. -/
theorem wellFormed_embed_iff (svg source : String) :
    (embed svg source).toList = (place svg.toList).1 ++
        (Xml.comment (inside source.toList) ++ ['\n']) ++ (place svg.toList).2 ∧
      ¬ hyphens <:+: inside source.toList ∧
      (inside source.toList).getLast? ≠ some '-' ∧
      ((∀ c ∈ inside source.toList, Xml.isKept c = true) ↔
        ∀ c ∈ source.toList, c ∉ Xml.noncharacters) ∧
      ∀ r : Xml.Reader, r.IsPlace (place svg.toList).1 (place svg.toList).2 →
        r.Accepts svg.toList →
        (r.Accepts (embed svg source).toList ↔ ∀ c ∈ source.toList, c ∉ Xml.noncharacters) := by
  rw [embed, String.toList_ofList]
  refine ⟨?_, not_hyphens_inside _, ?_, isKept_inside_iff _, fun r hplace hsvg => ?_⟩
  · rw [embedChars_eq, comment_eq]
  · rw [getLast?_inside]
    decide
  · exact accepts_embedChars_iff _ hplace hsvg

/-! ### A reader for small pictures -/

/-- Reads pictures of empty groups. -/
def groupReader : Xml.Reader where
  prolog cs := cs = []
  tags start stop := start = "<svg>".toList ∧ stop = rootEnd
  emptyTag cs := cs = "<g/>".toList
  reference _ := False
  instruction _ := False

/-- A picture of an empty group. -/
def groupPicture : String := "<svg><g/></svg>\n"

theorem content_group : groupReader.Content "<g/>".toList := by
  have hnone : Xml.IsText [] := ⟨by decide, by decide, by decide⟩
  have hgroup : groupReader.part "<g/>".toList := .inl rfl
  exact Xml.Reader.Content.part hnone hgroup (.text hnone)

theorem isPlace_groupPicture :
    groupReader.IsPlace (place groupPicture.toList).1 (place groupPicture.toList).2 := by
  have hplace : place groupPicture.toList =
      ([] ++ ("<svg>".toList ++ "<g/>".toList), rootEnd ++ ['\n']) := by decide
  rw [hplace]
  exact .inside rfl (.here ⟨rfl, rfl⟩ content_group) (.space (by simp) .nil)

theorem accepts_groupPicture : groupReader.Accepts groupPicture.toList where
  parts := ⟨[], "<svg>".toList ++ "<g/>".toList ++ rootEnd, ['\n'], by decide, rfl,
    .element ⟨rfl, rfl⟩ content_group, .space (by simp) .nil⟩
  chars := List.all_eq_true.mp (by decide)

/-- A text with tags, hyphens and control characters in it does no harm to a picture. -/
theorem wellFormed_embed_markup :
    groupReader.IsPlace (place groupPicture.toList).1 (place groupPicture.toList).2 ∧
      groupReader.Accepts groupPicture.toList ∧
      groupReader.Accepts (embed groupPicture "--\x01-\r]]></svg>-->").toList := by
  obtain ⟨-, -, -, -, haccepts⟩ := wellFormed_embed_iff groupPicture "--\x01-\r]]></svg>-->"
  exact ⟨isPlace_groupPicture, accepts_groupPicture,
    (haccepts groupReader isPlace_groupPicture accepts_groupPicture).mpr (by simp [Xml.noncharacters])⟩

/-- With U+FFFE in the document there is a character in the comment that no XML holds, and a reader that
accepts the picture accepts it no longer. -/
theorem not_wellFormed_embed_noncharacter :
    '\uFFFE' ∈ inside "\uFFFE".toList ∧ Xml.isChar '\uFFFE' = false ∧
      groupReader.Accepts groupPicture.toList ∧
      ¬ groupReader.Accepts (embed groupPicture "\uFFFE").toList := by
  refine ⟨by decide, by decide, accepts_groupPicture, ?_⟩
  rw [embed, String.toList_ofList, accepts_embedChars_iff _ isPlace_groupPicture accepts_groupPicture]
  simp [Xml.noncharacters]

end Embed.Svg
end ThreatTree
