import Mathlib.Data.List.Basic
import ThreatTree.Proofs.Embed.Png

/-!
# What is read behind PNG pictures

Documents are put between the picture and what is behind it, so the last one is the first to be read
and the others stay there. This needs a picture that ends: behind bytes without a whole picture a
document is not found again, as the walk of chunks does not stop where it stopped before
(`lt_imageSize_append`).

A promised document is not always there. One that was cut short is not refused: what is left of it
is read. Bytes that are no text stop the reader. All other documents are read as they were written.

Main statements: `extract_foldl_append` (documents behind a picture),
`extract_append_eq_document_iff` (documents behind any bytes) and `faithful_iff` (damaged documents).
-/

namespace ThreatTree.Embed.Png

open Text

/-! ### Documents behind a picture -/

/-- Documents put behind a picture one after the other. -/
def appendAll (bs : Bytes) (sources : List String) : Bytes :=
  sources.foldl (fun bs source => append bs (Utf8.encode source)) bs

theorem strip_append_trailer (bs : Bytes) : strip bs ++ trailer bs = bs :=
  List.take_append_drop _ _

/-- The later a document was put behind a picture, the nearer to the picture it stands. -/
theorem appendAll_eq {image : Bytes} (h : IsImage image) (rest : Bytes) (sources : List String) :
    appendAll (image ++ rest) sources =
      image ++ (sources.reverse.flatMap (fun source => packet (Utf8.encode source)) ++ rest) := by
  induction sources generalizing rest with
  | nil => rfl
  | cons source sources ih =>
    rw [appendAll, List.foldl_cons, append_eq h, ← appendAll, ih, List.reverse_cons,
      List.flatMap_append, List.flatMap_singleton, List.append_assoc]

/-- **Of documents that are put behind a picture one after the other the last one comes back**,
also if there was something behind it. The picture stays what it was, and so does all that was
behind it. -/
theorem extract_foldl_append {bs : Bytes} (h : HasImage bs) {sources : List String}
    (hsources : sources ≠ [])
    (hsize : ∀ source ∈ sources, (Utf8.encode source).length < 0x100000000) :
    extract (appendAll bs sources) = .document (sources.getLast hsources) ∧
      strip (appendAll bs sources) = strip bs ∧
      strip bs ++ trailer bs = bs ∧
      appendAll bs sources =
        strip bs ++ sources.reverse.flatMap (fun source => packet (Utf8.encode source)) ++
          trailer bs := by
  obtain ⟨image, rest, himage, rfl⟩ := h
  have hall := appendAll_eq himage rest sources
  refine ⟨?_, ?_, strip_append_trailer _, ?_⟩
  · obtain ⟨earlier, last, rfl⟩ := (List.eq_nil_or_concat' sources).resolve_left hsources
    have hlast : (Utf8.encode last).length < 0x100000000 := hsize last (by simp)
    rw [appendAll, List.foldl_concat, ← appendAll, appendAll_eq himage,
      extract_append himage _ hlast, List.getLast_append_singleton]
  · rw [hall, strip_append himage, strip_append himage]
  · rw [hall, strip_append himage, trailer_append himage, List.append_assoc]

/-- A chunk that holds what could be taken for the end of a picture. -/
def noteChunk : Chunk :=
  ⟨[0x74, 0x45, 0x58, 0x74], be32 0 ++ endName, [0, 0, 0, 0], rfl, rfl, by decide⟩

/-- The chunk that ends pictures. -/
def endChunk : Chunk := ⟨endName, [], [0xae, 0x42, 0x60, 0x82], rfl, rfl, by decide⟩

theorem isImage_noted : IsImage (signature ++ noteChunk.bytes ++ endChunk.bytes) :=
  ⟨[noteChunk], endChunk, by decide, rfl, by simp⟩

/-- There is a document behind the picture already, and the last one looks like the marker. -/
theorem extract_foldl_append_noted :
    HasImage (signature ++ noteChunk.bytes ++ endChunk.bytes ++ packet (Utf8.encode "a")) ∧
      (∀ source ∈ ["b", "\n#deciduous-source\n"], (Utf8.encode source).length < 0x100000000) ∧
      extract (appendAll (signature ++ noteChunk.bytes ++ endChunk.bytes ++
        packet (Utf8.encode "a")) ["b", "\n#deciduous-source\n"]) =
        .document "\n#deciduous-source\n" :=
  have himage : HasImage (signature ++ noteChunk.bytes ++ endChunk.bytes ++
      packet (Utf8.encode "a")) := ⟨_, _, isImage_noted, rfl⟩
  have hsize : ∀ source ∈ ["b", "\n#deciduous-source\n"],
      (Utf8.encode source).length < 0x100000000 := by decide
  ⟨himage, hsize, (extract_foldl_append himage (by decide) hsize).1⟩

/-! ### Bytes without a whole picture -/

/-- A document is put behind all of the bytes if there is no whole picture. -/
theorem append_of_not_hasImage {bs : Bytes} (h : ¬ HasImage bs) (source : Bytes) :
    append bs source = bs ++ packet source := by
  have hend : bs.length ≤ imageSize bs :=
    Nat.le_of_not_lt fun hlt => h (hasImage_of_imageSize_lt hlt)
  rw [append, strip, trailer, List.take_of_length_le hend, List.drop_of_length_le hend,
    List.append_nil]

/-- With anything behind them the walk of such bytes goes on. -/
theorem lt_imageSize_append {bs rest : Bytes} (h : ¬ HasImage bs) (hrest : rest ≠ []) :
    bs.length < imageSize (bs ++ rest) := by
  by_contra hle
  have hpositive : 0 < rest.length := List.length_pos_iff.mpr hrest
  have hlt : imageSize (bs ++ rest) < (bs ++ rest).length := by
    rw [List.length_append]
    omega
  obtain ⟨image, behind, himage, hparts⟩ := hasImage_of_imageSize_lt hlt
  rw [hparts, imageSize_append himage] at hle
  have hprefix : image <+: bs := by
    refine List.prefix_of_prefix_length_le ⟨behind, hparts.symm⟩ (List.prefix_append bs rest) ?_
    omega
  obtain ⟨between, rfl⟩ := hprefix
  exact h ⟨image, between, himage, rfl⟩

/-- What is read is shorter than what follows the picture by the marker and the number. -/
theorem length_of_extractBytes? {bs source : Bytes} (h : extractBytes? bs = some source) :
    source.length < 0x100000000 ∧
      source.length + marker.length + 4 ≤ bs.length - imageSize bs := by
  obtain ⟨n, body, ⟨hn, htrailer⟩, rfl⟩ := extractBytes?_eq_some_iff.mp h
  have hlength : (trailer bs).length = bs.length - imageSize bs := List.length_drop
  rw [htrailer] at hlength
  simp only [List.length_append, length_be32] at hlength
  rw [List.length_take]
  omega

/-- **A document comes back from where it was put exactly if there is a whole picture before it** and
its length fits into the number. -/
theorem extract_append_eq_document_iff (bs : Bytes) (source : String) :
    extract (append bs (Utf8.encode source)) = .document source ↔
      HasImage bs ∧ (Utf8.encode source).length < 0x100000000 := by
  constructor
  · intro h
    obtain ⟨n, body, hpromise, htext⟩ := extract_eq_document_iff.mp h
    obtain ⟨hsize, hlength⟩ :=
      length_of_extractBytes? (extractBytes?_eq_some_iff.mpr ⟨n, body, hpromise, rfl⟩)
    rw [htext] at hsize hlength
    refine ⟨?_, hsize⟩
    by_contra hnone
    -- The packet is all that was put behind, and the walk stops inside of it or behind it.
    have hpacket : packet (Utf8.encode source) ≠ [] := by simp [packet, be32]
    have hlater := lt_imageSize_append hnone hpacket
    rw [append_of_not_hasImage hnone] at hlength
    simp only [packet, List.length_append, length_be32] at hlength hlater
    omega
  · rintro ⟨⟨image, rest, himage, rfl⟩, hsize⟩
    exact extract_append himage rest hsize

/-- A picture of no points. -/
def leastImage : Bytes := signature ++ endChunk.bytes

theorem isImage_leastImage : IsImage leastImage :=
  ⟨[], endChunk, by simp, rfl, by simp [leastImage]⟩

/-- The last byte of a picture is missing, and the document behind it is lost. -/
theorem extract_append_cutOff :
    ¬ HasImage leastImage.dropLast ∧
      extract (append leastImage.dropLast (Utf8.encode "facts: [a]\n")) = .nothing := by
  constructor
  · rintro ⟨image, rest, ⟨chunks, last, -, -, rfl⟩, hparts⟩
    have hlength := congrArg List.length hparts
    have hleast : leastImage.dropLast.length = 19 := rfl
    have hsignature : signature.length = 8 := rfl
    simp only [List.length_append, last.length_bytes, chunkSize, hleast, hsignature] at hlength
    omega
  · decide +kernel

/-! ### Damaged documents -/

/-- A trailer starts with all of a document: the marker, its length and its UTF-8 form. -/
def Holds (t : Bytes) (source : String) : Prop :=
  ∃ rest, Promises t (Utf8.encode source).length (Utf8.encode source ++ rest)

/-- What is read behind a picture is nothing, or a document that is there from its beginning to its
end. -/
def Faithful (bs : Bytes) : Prop :=
  extract bs = .nothing ∨ ∃ source, extract bs = .document source ∧ Holds (trailer bs) source

/-- A trailer promises a document that is not there: it ends too early, or the bytes are no text. -/
def Damaged (t : Bytes) : Prop :=
  ∃ n body, Promises t n body ∧ (body.length < n ∨ ∀ source, body.take n ≠ Utf8.encode source)

theorem not_faithful_of_damaged {bs : Bytes} (h : Damaged (trailer bs)) : ¬ Faithful bs := by
  obtain ⟨n, body, hpromise, hdamage⟩ := h
  rintro (hnothing | ⟨source, -, rest, hholds⟩)
  · exact extract_eq_nothing_iff.mp hnothing ⟨n, body, hpromise⟩
  · obtain ⟨rfl, rfl⟩ := hpromise.unique hholds
    rcases hdamage with hshort | hnone
    · rw [List.length_append] at hshort
      omega
    · exact hnone source List.take_left

theorem faithful_of_not_damaged {bs : Bytes} (h : ¬ Damaged (trailer bs)) : Faithful bs := by
  by_cases hpromise : ∃ n body, Promises (trailer bs) n body
  · obtain ⟨n, body, hpromise⟩ := hpromise
    have hlong : n ≤ body.length := by
      by_contra hshort
      exact h ⟨n, body, hpromise, .inl (Nat.lt_of_not_le hshort)⟩
    have htext : ∃ source, body.take n = Utf8.encode source := by
      by_contra hnone
      exact h ⟨n, body, hpromise, .inr (not_exists.mp hnone)⟩
    obtain ⟨source, htext⟩ := htext
    refine .inr ⟨source, extract_eq_document_iff.mpr ⟨n, body, hpromise, htext⟩, body.drop n, ?_⟩
    rw [← htext, List.length_take_of_le hlong, List.take_append_drop]
    exact hpromise
  · exact .inl (extract_eq_nothing_iff.mpr hpromise)

/-- **What is read is all of a document or nothing exactly where none is damaged.** Where a document
was cut short, what is left of it is read; where the bytes are no text, the reader is stopped. -/
theorem faithful_iff (bs : Bytes) :
    (Faithful bs ↔ ¬ Damaged (trailer bs)) ∧
      (extract bs = .illFormed ↔
        ∃ n body, Promises (trailer bs) n body ∧ ∀ source, body.take n ≠ Utf8.encode source) :=
  ⟨⟨fun h hdamaged => not_faithful_of_damaged hdamaged h, faithful_of_not_damaged⟩,
    extract_eq_illFormed_iff⟩

/-- Of five bytes three are there, and they are read as a document; a byte that starts no character
stops the reader. -/
theorem not_faithful_cutOff :
    extract (leastImage ++ (marker ++ be32 5 ++ Utf8.encode "abc")) = .document "abc" ∧
      ¬ Faithful (leastImage ++ (marker ++ be32 5 ++ Utf8.encode "abc")) ∧
      extract (leastImage ++ (marker ++ be32 1 ++ [0xff])) = .illFormed := by
  have hpromise : Promises (trailer (leastImage ++ (marker ++ be32 5 ++ Utf8.encode "abc"))) 5
      (Utf8.encode "abc") := ⟨by decide, trailer_append isImage_leastImage _⟩
  have hpromise' : Promises (trailer (leastImage ++ (marker ++ be32 1 ++ [0xff]))) 1 [0xff] :=
    ⟨by decide, trailer_append isImage_leastImage _⟩
  refine ⟨extract_eq_document_iff.mpr ⟨5, _, hpromise, rfl⟩,
    not_faithful_of_damaged ⟨5, _, hpromise, .inl (by decide)⟩,
    extract_eq_illFormed_iff.mpr ⟨1, _, hpromise', fun source htext => ?_⟩⟩
  exact Utf8.head?_encode_ne (b := 0xff) (fun _ => rfl) source (by rw [← htext]; rfl)

end ThreatTree.Embed.Png
