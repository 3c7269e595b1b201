import ThreatTree.Proofs.Embed.Dot
import ThreatTree.Proofs.Text.Utf8
import ThreatTree.Yaml.Surrogate

/-!
# What stands for half a surrogate pair

The block of stand-ins for a text has no character that is in the text or that an escape in it names
(`of_block?_eq_some`), so a stand-in differs from every other character that is read from the text, and
two stand-ins differ from each other (`standIn_inj`). A text is therefore told to be whole or not by
its characters: one that has only characters of the document, of whole texts and of the first plane is
whole (`isWhole_of_chars`), and one that has a stand-in is not (`isWhole_eq_false`).
-/

namespace ThreatTree.Yaml

namespace Surrogate

variable {codes : List Nat} {start : Nat} {text : List Char}

theorem isFree_iff :
    isFree start codes = true ↔ ∀ code ∈ codes, code < start ∨ start + count ≤ code := by
  simp [isFree]

/-- A block that is found is free, and it is one of those that were looked at. -/
theorem exists_of_freeBlock? {n : Nat} (h : freeBlock? codes n = some start) :
    ∃ m < n, start = 0x10000 + count * m ∧ isFree start codes = true := by
  induction n with
  | zero => cases h
  | succ n ih =>
    rw [freeBlock?] at h
    split at h
    · next hfree =>
      cases h
      exact ⟨n, n.lt_succ_self, rfl, hfree⟩
    · obtain ⟨m, hm, hstart⟩ := ih h
      exact ⟨m, Nat.lt_succ_of_lt hm, hstart⟩

/-- All of a block is behind the first plane, is made of characters, and has none that the text has or
names. -/
theorem of_block?_eq_some (h : block? text = some start) :
    0x10000 ≤ start ∧ start + count ≤ 0x110000 ∧
      (∀ c ∈ text, c.toNat < start ∨ start + count ≤ c.toNat) ∧
      ∀ code ∈ named text, code < start ∨ start + count ≤ code := by
  obtain ⟨m, hm, hstart, hfree⟩ := exists_of_freeBlock? h
  rw [isFree_iff] at hfree
  refine ⟨by omega, ?_, ?_, ?_⟩
  · rw [hstart, count]
    omega
  · intro c hc
    exact hfree _ (List.mem_append_left _ (List.mem_map_of_mem hc))
  · intro code hcode
    exact hfree _ (List.mem_append_right _ hcode)

theorem isHalf_iff {code : Nat} : isHalf code = true ↔ first ≤ code ∧ code < first + count := by
  simp [isHalf]

/-- A stand-in is a character of the block, in the place of its half. -/
theorem toNat_standIn (h : block? text = some start) {code : Nat} (hcode : isHalf code = true) :
    (standIn text code).toNat = start + (code - first) := by
  obtain ⟨hplane, hend, -, -⟩ := of_block?_eq_some h
  rw [isHalf_iff] at hcode
  rw [standIn, h]
  dsimp only
  exact Text.Utf8.toNat_ofNat (by omega)

/-- Halves are told apart by their stand-ins. -/
theorem standIn_inj (h : block? text = some start) {code code' : Nat}
    (hcode : isHalf code = true) (hcode' : isHalf code' = true)
    (hsame : standIn text code = standIn text code') : code = code' := by
  have hnumbers := congrArg Char.toNat hsame
  rw [toNat_standIn h hcode, toNat_standIn h hcode'] at hnumbers
  rw [isHalf_iff] at hcode hcode'
  omega

/-- A stand-in is in the text nowhere. -/
theorem standIn_notMem (h : block? text = some start) {code : Nat} (hcode : isHalf code = true) :
    standIn text code ∉ text := by
  intro hmem
  have hnumber := toNat_standIn h hcode
  obtain ⟨-, -, hchars, -⟩ := of_block?_eq_some h
  have houtside := hchars _ hmem
  rw [isHalf_iff] at hcode
  omega

end Surrogate

open Surrogate

variable {source made : String}

/-- A text is whole if its document names no half, or if it has no stand-in. -/
theorem isWhole_iff :
    isWhole source made = true ↔
      (∀ code ∈ named source.toList, isHalf code = false) ∨
        ∀ start, block? source.toList = some start →
          ∀ c ∈ made.toList, c.toNat < start ∨ start + count ≤ c.toNat := by
  rw [isWhole, Bool.or_eq_true]
  apply or_congr
  · simp
  · cases hblock : block? source.toList <;> simp [isFree_iff]

/-- What a document is made to is whole if the document names no half. -/
theorem isWhole_of_named (h : (named source.toList).any isHalf = false) :
    isWhole source made = true := by
  rw [isWhole, h]
  rfl

/-- What has no characters but those of the document, of a whole text and of the first plane is
whole. -/
theorem isWhole_of_chars (hmade : isWhole source made = true) {text : String}
    (hchars : ∀ c ∈ text.toList, c ∈ source.toList ∨ c ∈ made.toList ∨ c.toNat < 0x10000) :
    isWhole source text = true := by
  rw [isWhole_iff] at hmade ⊢
  refine hmade.imp_right fun hmade start hblock c hc => ?_
  obtain ⟨hplane, -, hsource, -⟩ := of_block?_eq_some hblock
  rcases hchars c hc with hc | hc | hc
  · exact hsource c hc
  · exact hmade start hblock c hc
  · exact .inl (Nat.lt_of_lt_of_le hc hplane)

/-- A text with a stand-in in it is not whole. -/
theorem isWhole_eq_false {start code : Nat} (hblock : block? source.toList = some start)
    (hnamed : code ∈ named source.toList) (hcode : isHalf code = true)
    (hmade : standIn source.toList code ∈ made.toList) : isWhole source made = false := by
  rw [← Bool.not_eq_true, isWhole_iff]
  rintro (hnone | hfree)
  · simp [hnone code hnamed] at hcode
  · have houtside := hfree start hblock _ hmade
    rw [toNat_standIn hblock hcode] at houtside
    rw [isHalf_iff] at hcode
    omega

/-- A document in front of a whole text leaves it whole. -/
theorem isWhole_embed {dot : String} (hdot : isWhole source dot = true) :
    isWhole source (Embed.Dot.embed dot source) = true :=
  isWhole_of_chars hdot fun _ => Embed.Dot.mem_embed

end ThreatTree.Yaml
