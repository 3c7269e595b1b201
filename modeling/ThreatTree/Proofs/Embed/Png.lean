import ThreatTree.Embed.Png
import ThreatTree.Proofs.Text.Utf8

/-!
# Documents come back from PNG pictures

A picture is told here by what it is made of: the signature, chunks, and a chunk that ends it
(`IsImage`). The walk of chunks finds the end of such a picture whatever follows it
(`imageSize_append`), by induction on the chunks. So a document is put right behind the picture and
found there again, also if there were other bytes.

The walk finds nothing else: where it stops before the end of the bytes, a picture has ended
(`hasImage_of_imageSize_lt`), by induction on the walk.

What follows a picture promises a document if it starts with the marker and a number of bytes
(`Promises`). What is read there is the promised number of bytes, or what is left of them
(`extractBytes?_eq_some_iff`).

Main statements: `extract_append`, and `extract_eq_document_iff` for what is read behind any bytes.
-/

namespace ThreatTree.Embed.Png

open Text

/-! ### Pictures as chunks -/

/-- A chunk of a picture. -/
structure Chunk where
  name : Bytes
  data : Bytes
  checkSum : Bytes
  length_name : name.length = 4
  length_checkSum : checkSum.length = 4
  length_data : data.length < 0x100000000

namespace Chunk

/-- The bytes of a chunk. -/
def bytes (c : Chunk) : Bytes := be32 c.data.length ++ c.name ++ c.data ++ c.checkSum

theorem length_bytes (c : Chunk) : c.bytes.length = chunkSize c.data.length := by
  simp only [bytes, List.length_append, length_be32, c.length_name, c.length_checkSum, chunkSize]
  omega

end Chunk

/-- A whole picture and nothing behind it: its last chunk is the first that ends a picture. -/
def IsImage (image : Bytes) : Prop :=
  ∃ (chunks : List Chunk) (last : Chunk), (∀ c ∈ chunks, c.name ≠ endName) ∧ last.name = endName ∧
    image = signature ++ chunks.flatMap Chunk.bytes ++ last.bytes

/-- Bytes that start with a whole picture. -/
def HasImage (bs : Bytes) : Prop := ∃ image rest, IsImage image ∧ bs = image ++ rest

theorem IsImage.signature_prefix {image : Bytes} (h : IsImage image) : signature <+: image := by
  obtain ⟨chunks, last, -, -, rfl⟩ := h
  rw [List.append_assoc]
  exact List.prefix_append _ _

/-! ### The walk of chunks -/

/-- A step of the walk. -/
theorem walk?_bytes_append (c : Chunk) (rest : Bytes) :
    walk? (c.bytes ++ rest) =
      if c.name = endName then some c.bytes.length
      else (walk? rest).map (c.bytes.length + ·) := by
  have hlength : ¬ (c.bytes ++ rest).length < 8 := by
    rw [List.length_append, c.length_bytes, chunkSize]
    omega
  have hhead : (c.bytes ++ rest).take 4 = be32 c.data.length := by
    simp only [Chunk.bytes, List.append_assoc]
    exact List.take_left' (length_be32 _)
  have hname : ((c.bytes ++ rest).drop 4).take 4 = c.name := by
    have hdrop : (c.bytes ++ rest).drop 4 = c.name ++ (c.data ++ c.checkSum ++ rest) := by
      simp only [Chunk.bytes, List.append_assoc]
      exact List.drop_left' (length_be32 _)
    rw [hdrop, ← c.length_name, List.take_left]
  have hsize : chunkSize (beNat (be32 c.data.length)) = c.bytes.length := by
    rw [beNat_be32 c.length_data, c.length_bytes]
  rw [walk?, if_neg hlength]
  simp only [hhead, hname, hsize, List.drop_left]
  split
  · rw [List.length_append, Nat.min_eq_left (Nat.le_add_right _ _)]
  · rfl

theorem walk?_chunks {chunks : List Chunk} {last : Chunk} (h : ∀ c ∈ chunks, c.name ≠ endName)
    (hlast : last.name = endName) (rest : Bytes) :
    walk? (chunks.flatMap Chunk.bytes ++ last.bytes ++ rest) =
      some (chunks.flatMap Chunk.bytes ++ last.bytes).length := by
  induction chunks with
  | nil => rw [List.flatMap_nil, List.nil_append, walk?_bytes_append, if_pos hlast]
  | cons c chunks ih =>
    have hc : c.name ≠ endName := h c List.mem_cons_self
    have hchunks : ∀ c ∈ chunks, c.name ≠ endName := fun c hc => h c (List.mem_cons_of_mem _ hc)
    rw [List.flatMap_cons, List.append_assoc, List.append_assoc, walk?_bytes_append, if_neg hc,
      ← List.append_assoc, ih hchunks, Option.map_some, List.append_assoc, ← List.length_append]

/-- A picture ends where its last chunk does, whatever follows. -/
theorem imageSize_append {image : Bytes} (h : IsImage image) (rest : Bytes) :
    imageSize (image ++ rest) = image.length := by
  obtain ⟨chunks, last, hchunks, hlast, rfl⟩ := h
  have hsignature : signature.isPrefixOf
      (signature ++ (chunks.flatMap Chunk.bytes ++ last.bytes ++ rest)) = true :=
    List.isPrefixOf_iff_prefix.mpr (List.prefix_append _ _)
  rw [List.append_assoc, List.append_assoc, ← List.append_assoc (List.flatMap _ _), imageSize,
    if_pos hsignature, List.drop_left, walk?_chunks hchunks hlast]
  simp only [List.append_assoc, List.length_append]

theorem strip_append {image : Bytes} (h : IsImage image) (rest : Bytes) :
    strip (image ++ rest) = image := by
  rw [strip, imageSize_append h, List.take_left]

theorem trailer_append {image : Bytes} (h : IsImage image) (rest : Bytes) :
    trailer (image ++ rest) = rest := by
  rw [trailer, imageSize_append h, List.drop_left]

/-! ### Where the walk stops -/

theorem exists_append_of_le (bs : Bytes) {n : Nat} (h : n ≤ bs.length) :
    ∃ front rest, front.length = n ∧ bs = front ++ rest :=
  ⟨bs.take n, bs.drop n, List.length_take_of_le h, (List.take_append_drop n bs).symm⟩

/-- Bytes that are long enough for the chunk that they promise start with it. -/
theorem exists_chunk (bs : Bytes) (h : chunkSize (beNat (bs.take 4)) ≤ bs.length) :
    ∃ c : Chunk, c.name = (bs.drop 4).take 4 ∧
      bs = c.bytes ++ bs.drop (chunkSize (beNat (bs.take 4))) := by
  obtain ⟨number, bs, hnumber, rfl⟩ :=
    exists_append_of_le bs (Nat.le_trans (show 4 ≤ chunkSize _ by simp only [chunkSize]; omega) h)
  rw [List.take_left' hnumber, chunkSize, List.length_append, hnumber] at h
  obtain ⟨name, bs, hname, rfl⟩ := exists_append_of_le bs (show 4 ≤ bs.length by omega)
  rw [List.length_append, hname] at h
  obtain ⟨data, bs, hdata, rfl⟩ := exists_append_of_le bs (show beNat number ≤ bs.length by omega)
  rw [List.length_append, hdata] at h
  obtain ⟨checkSum, rest, hcheckSum, rfl⟩ := exists_append_of_le bs (show 4 ≤ bs.length by omega)
  let c : Chunk := ⟨name, data, checkSum, hname, hcheckSum, hdata ▸ beNat_lt hnumber⟩
  have hbytes : c.bytes ++ rest = number ++ (name ++ (data ++ (checkSum ++ rest))) := by
    simp only [Chunk.bytes, c, hdata, be32_beNat hnumber, List.append_assoc]
  refine ⟨c, ?_, ?_⟩
  · rw [List.drop_left' hnumber, List.take_left' hname]
  · rw [List.take_left' hnumber, ← hbytes, List.drop_left']
    rw [c.length_bytes, hdata]

/-- A walk that stops before the end of the bytes has passed whole chunks. -/
theorem exists_chunks_of_walk? {bs : Bytes} {n : Nat} (h : walk? bs = some n)
    (hn : n < bs.length) :
    ∃ (chunks : List Chunk) (last : Chunk) (rest : Bytes), (∀ c ∈ chunks, c.name ≠ endName) ∧
      last.name = endName ∧ bs = chunks.flatMap Chunk.bytes ++ last.bytes ++ rest := by
  induction hlength : bs.length using Nat.strongRecOn generalizing bs n with
  | ind length ih =>
    subst hlength
    rw [walk?] at h
    split at h
    · cases h
    dsimp only at h
    split at h
    · next hname =>
      cases h
      obtain ⟨last, hlast, hbs⟩ := exists_chunk bs (by omega)
      exact ⟨[], last, _, by simp, hlast.trans hname, hbs⟩
    · next hname =>
      obtain ⟨m, hm, rfl⟩ := Option.map_eq_some_iff.mp h
      obtain ⟨c, hc, hbs⟩ := exists_chunk bs (by omega)
      have hpositive : 0 < chunkSize (beNat (bs.take 4)) := by
        simp only [chunkSize]
        omega
      have hrest : (bs.drop (chunkSize (beNat (bs.take 4)))).length =
          bs.length - chunkSize (beNat (bs.take 4)) := List.length_drop
      obtain ⟨chunks, last, rest, hchunks, hlast, hparts⟩ :=
        ih _ (by omega) hm (by omega) rfl
      refine ⟨c :: chunks, last, rest, ?_, hlast, ?_⟩
      · rw [List.forall_mem_cons]
        exact ⟨fun h => hname (hc.symm.trans h), hchunks⟩
      · rw [hbs, hparts, List.flatMap_cons]
        simp only [List.append_assoc]

/-- **Where the walk stops before the end, a picture has ended.** -/
theorem hasImage_of_imageSize_lt {bs : Bytes} (h : imageSize bs < bs.length) : HasImage bs := by
  unfold imageSize at h
  split at h
  · next hsignature =>
    obtain ⟨body, rfl⟩ := List.isPrefixOf_iff_prefix.mp hsignature
    rw [List.drop_left] at h
    split at h
    · next n hwalk =>
      obtain ⟨chunks, last, rest, hchunks, hlast, rfl⟩ :=
        exists_chunks_of_walk? hwalk (by rw [List.length_append] at h; omega)
      exact ⟨_, rest, ⟨chunks, last, hchunks, hlast, rfl⟩, by simp only [List.append_assoc]⟩
    · exact absurd h (Nat.lt_irrefl _)
  · exact absurd h (Nat.lt_irrefl _)

/-! ### Promised documents -/

/-- A trailer starts like one with a document of `n` bytes, and `body` stands where the document
should be. -/
def Promises (t : Bytes) (n : Nat) (body : Bytes) : Prop :=
  n < 0x100000000 ∧ t = marker ++ be32 n ++ body

theorem Promises.unique {t body body' : Bytes} {n n' : Nat} (h : Promises t n body)
    (h' : Promises t n' body') : n = n' ∧ body = body' := by
  have heq : marker ++ (be32 n ++ body) = marker ++ (be32 n' ++ body') := by
    rw [← List.append_assoc, ← List.append_assoc, ← h.2, h'.2]
  obtain ⟨hnumber, hbody⟩ :=
    List.append_inj (List.append_cancel_left heq) (by simp only [length_be32])
  have hn : beNat (be32 n) = beNat (be32 n') := congrArg beNat hnumber
  rw [beNat_be32 h.1, beNat_be32 h'.1] at hn
  exact ⟨hn, hbody⟩

/-- The bytes that are read are the promised number, as far as there are so many. -/
theorem extractBytes?_eq_some_iff {bs source : Bytes} :
    extractBytes? bs = some source ↔
      ∃ n body, Promises (trailer bs) n body ∧ source = body.take n := by
  rw [extractBytes?]
  constructor
  · intro h
    dsimp only at h
    split at h
    · next hmarker =>
      obtain ⟨rest, hrest⟩ := List.isPrefixOf_iff_prefix.mp hmarker
      rw [← hrest, List.drop_left] at h
      split at h
      · cases h
      · next hlong =>
        obtain ⟨number, body, hnumber, rfl⟩ := exists_append_of_le rest (Nat.le_of_not_lt hlong)
        rw [List.take_left' hnumber, List.drop_left' hnumber, Option.some.injEq] at h
        refine ⟨beNat number, body, ⟨beNat_lt hnumber, ?_⟩, h.symm⟩
        rw [be32_beNat hnumber, List.append_assoc, hrest]
    · cases h
  · rintro ⟨n, body, ⟨hn, htrailer⟩, rfl⟩
    have hmarker : marker.isPrefixOf (marker ++ (be32 n ++ body)) = true :=
      List.isPrefixOf_iff_prefix.mpr (List.prefix_append _ _)
    have hlong : ¬ (be32 n ++ body).length < 4 := by
      rw [List.length_append, length_be32]
      omega
    rw [htrailer, List.append_assoc]
    simp only [if_pos hmarker, List.drop_left, if_neg hlong, List.take_left' (length_be32 n),
      List.drop_left' (length_be32 n), beNat_be32 hn]

/-- A promised document is read as far as it is there, if that is a text. -/
theorem extract_eq_document_iff {bs : Bytes} {source : String} :
    extract bs = .document source ↔
      ∃ n body, Promises (trailer bs) n body ∧ body.take n = Utf8.encode source := by
  have hbytes : extract bs = .document source ↔ extractBytes? bs = some (Utf8.encode source) := by
    rw [extract]
    cases extractBytes? bs with
    | none => simp
    | some found =>
      rw [Option.some.injEq, ← Utf8.decode?_eq_some_iff]
      dsimp only
      cases Utf8.decode? found <;> simp
  rw [hbytes, extractBytes?_eq_some_iff]
  simp only [eq_comm]

/-- Nothing is read where nothing is promised, and only there. -/
theorem extract_eq_nothing_iff {bs : Bytes} :
    extract bs = .nothing ↔ ¬ ∃ n body, Promises (trailer bs) n body := by
  have hbytes : extract bs = .nothing ↔ extractBytes? bs = none := by
    rw [extract]
    cases extractBytes? bs with
    | none => simp
    | some found =>
      dsimp only
      cases Utf8.decode? found <;> simp
  rw [hbytes, Option.eq_none_iff_forall_ne_some]
  simp only [ne_eq, extractBytes?_eq_some_iff]
  constructor
  · rintro h ⟨n, body, hpromise⟩
    exact h _ ⟨n, body, hpromise, rfl⟩
  · rintro h source ⟨n, body, hpromise, -⟩
    exact h ⟨n, body, hpromise⟩

/-- What is found is no text exactly if something is promised and no text is there. -/
theorem extract_eq_illFormed_iff {bs : Bytes} :
    extract bs = .illFormed ↔
      ∃ n body, Promises (trailer bs) n body ∧ ∀ source, body.take n ≠ Utf8.encode source := by
  constructor
  · intro h
    have hpromise : ∃ n body, Promises (trailer bs) n body := by
      by_contra hnone
      rw [extract_eq_nothing_iff.mpr hnone] at h
      cases h
    obtain ⟨n, body, hpromise⟩ := hpromise
    refine ⟨n, body, hpromise, fun source htext => ?_⟩
    rw [extract_eq_document_iff.mpr ⟨n, body, hpromise, htext⟩] at h
    cases h
  · rintro ⟨n, body, hpromise, hnone⟩
    cases h : extract bs with
    | nothing => exact absurd ⟨n, body, hpromise⟩ (extract_eq_nothing_iff.mp h)
    | document source =>
      obtain ⟨n', body', hpromise', htext⟩ := extract_eq_document_iff.mp h
      obtain ⟨rfl, rfl⟩ := hpromise.unique hpromise'
      exact absurd htext (hnone source)
    | illFormed => rfl

/-! ### The document behind a picture -/

/-- The document stands between the picture and what followed it. -/
theorem append_eq {image : Bytes} (h : IsImage image) (rest source : Bytes) :
    append (image ++ rest) source = image ++ (packet source ++ rest) := by
  rw [append, strip_append h, trailer_append h, List.append_assoc]

/-- **A document comes back from behind a picture**, whatever else follows there. -/
theorem extract_append {image : Bytes} (h : IsImage image) (rest : Bytes) {source : String}
    (hsource : (Utf8.encode source).length < 0x100000000) :
    extract (append (image ++ rest) (Utf8.encode source)) = .document source := by
  rw [append_eq h, extract_eq_document_iff, trailer_append h]
  refine ⟨_, Utf8.encode source ++ rest, ⟨hsource, ?_⟩, List.take_left⟩
  simp only [packet, List.append_assoc]

end ThreatTree.Embed.Png
