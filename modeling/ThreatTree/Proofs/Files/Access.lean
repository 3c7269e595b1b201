import Mathlib.Data.List.Infix
import ThreatTree.Files.Lemmas
import ThreatTree.Proofs.Text.Occurrence

/-!
# Which paths can be used

The null character is the one thing in a path that no tree of files can make good. A path without it
(`Path.IsClean`) is only ever refused for what is in the tree, or is not in it. A file that can be
written can be written again, whatever is written (`Ready.exists_write`).
-/

namespace ThreatTree

open Files

/-! ### Paths without the null character -/

namespace Path

/-- No part of the path holds the null character. -/
def IsClean (p : Path) : Prop := ∀ part ∈ p.root :: p.parts, '\x00' ∉ part.toList

instance (p : Path) : Decidable p.IsClean := List.decidableBAll _ _

theorem not_mem_intercalate {parts : List String} (h : ∀ part ∈ parts, '\x00' ∉ part.toList) :
    '\x00' ∉ (String.intercalate "/" parts).toList := by
  rw [String.toList_intercalate]
  induction parts with
  | nil => simp
  | cons part parts ih =>
    obtain ⟨hpart, hparts⟩ := List.forall_mem_cons.mp h
    cases parts with
    | nil => simpa using hpart
    | cons next parts =>
      rw [List.map_cons, List.map_cons, List.intercalate_cons_cons, ← List.map_cons]
      simp only [List.mem_append, not_or]
      exact ⟨⟨hpart, by decide⟩, ih hparts⟩

variable {p : Path}

theorem IsClean.not_mem_toString (h : p.IsClean) : '\x00' ∉ p.toString.toList := by
  obtain ⟨hroot, hparts⟩ := List.forall_mem_cons.mp h
  unfold toString
  split
  · decide
  · rw [String.toList_append, List.mem_append, not_or]
    exact ⟨hroot, not_mem_intercalate hparts⟩

theorem IsClean.parent (h : p.IsClean) : p.parent.IsClean := by
  intro part hpart
  rcases List.mem_cons.mp hpart with rfl | hpart
  · exact h _ List.mem_cons_self
  · exact h part (List.mem_cons_of_mem _ (List.mem_of_mem_dropLast hpart))

end Path

namespace Files

/-! ### Operations on such paths -/

/-- An operation does not fail for a null character. -/
def Passes {α : Type} (r : Except FileError α) : Prop :=
  ∀ e, r = .error e → e.obstacle ≠ .nullCharacter

theorem passes_ok {α : Type} (a : α) : Passes (.ok a) := by
  rintro e ⟨⟩

theorem passes_error {α : Type} {e : FileError} :
    Passes (.error e : Except FileError α) ↔ e.obstacle ≠ .nullCharacter := by
  simp [Passes]

theorem walk_ne_nullCharacter (fs : Files) (place : Place) (names : List String) :
    fs.walk place names ≠ .error .nullCharacter := by
  induction names generalizing place with
  | nil => simp [walk]
  | cons name names ih =>
    unfold walk
    split
    · simp
    · simp
    · split
      · exact ih place
      split
      · exact ih _
      split
      · simp
      · exact ih _

variable {p : Path}

theorem resolve_ne_nullCharacter (fs : Files) (hp : p.IsClean) :
    fs.resolve p.toString ≠ .error .nullCharacter := by
  have hnull : ¬ p.toString.toList.contains '\x00' = true := by
    simpa using hp.not_mem_toString
  rw [resolve, if_neg hnull]
  split
  · simp
  split
  · simp
  · exact walk_ne_nullCharacter _ _ _

theorem passes_write (fs : Files) (hp : p.IsClean) (bytes : Bytes) :
    Passes (fs.write p bytes) := by
  have hresolve := fs.resolve_ne_nullCharacter hp
  unfold write writeStamped
  split
  · next ho => exact passes_error.mpr fun h => hresolve (h ▸ ho)
  · split
    · exact passes_error.mpr (by simp)
    · exact passes_ok _

theorem passes_makeDirectory (fs : Files) (hp : p.IsClean) : Passes (fs.makeDirectory p) := by
  have hresolve := fs.resolve_ne_nullCharacter hp
  unfold makeDirectory
  split
  · next ho => exact passes_error.mpr fun h => hresolve (h ▸ ho)
  · split
    · exact passes_error.mpr (by simp)
    · exact passes_ok _

theorem passes_ensureDirectory (fs : Files) (hp : p.IsClean) : Passes (fs.ensureDirectory p) := by
  have hmake := fs.passes_makeDirectory hp
  unfold ensureDirectory
  split
  · exact passes_ok _
  · next e he =>
    split
    · exact passes_ok _
    · exact passes_error.mpr (hmake e he)

theorem passes_ensureDirectories (fs : Files) {root : String} {parts : List String}
    (hp : (Path.mk root parts.reverse).IsClean) : Passes (fs.ensureDirectories root parts).2 := by
  induction parts with
  | nil =>
    have hensure := fs.passes_ensureDirectory hp
    unfold ensureDirectories
    split
    · exact passes_ok _
    · next e he => exact passes_error.mpr (hensure e he)
  | cons part parts ih =>
    have habove : (Path.mk root parts.reverse).IsClean := by simpa [Path.parent] using hp.parent
    have hmake := fs.passes_makeDirectory hp
    unfold ensureDirectories
    dsimp only
    split
    · exact passes_ok _
    · next e he =>
      split
      · -- The directories above are made first; one of them may be what fails.
        split
        · next e' he' => exact passes_error.mpr (ih habove e' (congrArg Prod.snd he'))
        · next fs' _ _ =>
          have hensure := fs'.passes_ensureDirectory hp
          split
          · exact passes_ok _
          · next e' he' => exact passes_error.mpr (hensure e' he')
      split
      · exact passes_ok _
      · exact passes_error.mpr (hmake e he)

theorem passes_makeDirectories (fs : Files) (hp : p.IsClean) : Passes (fs.makeDirectories p).2 :=
  fs.passes_ensureDirectories (by rwa [List.reverse_reverse])

/-- What has no stamp is nothing to be read. -/
theorem exists_of_stamp_eq_error {fs : Files} {e : FileError} (h : fs.stamp p = .error e) :
    ∃ e', fs.read p = .error e' := by
  unfold stamp at h
  unfold read
  split at h
  · cases h
  · cases h
  · exact ⟨_, rfl⟩

/-! ### Files that can be written -/

/-- A path leads to a place where no directory is. -/
def Ready (fs : Files) (p : Path) : Prop :=
  ∃ place, fs.resolve p.toString = .ok place ∧ fs.isDirectoryAt place = false

instance (fs : Files) (p : Path) : Decidable (fs.Ready p) :=
  decidable_of_iff ((fs.resolve p.toString).toOption.any (!fs.isDirectoryAt ·) = true) (by
    unfold Ready
    cases fs.resolve p.toString <;> simp [Except.toOption])

/-- A file can be written once the directories above it are made. -/
def Writable (fs : Files) (p : Path) : Prop :=
  (fs.makeDirectories p.parent).2 = .ok () ∧ (fs.makeDirectories p.parent).1.Ready p

instance (fs : Files) (p : Path) : Decidable (fs.Writable p) := instDecidableAnd

/-- **Where a file can be written, anything can be written again and again.** -/
theorem Ready.exists_write {fs : Files} (h : fs.Ready p) (bytes : Bytes) :
    ∃ fs', fs.write p bytes = .ok fs' ∧ fs'.Ready p := by
  obtain ⟨place, hplace, hdirectory⟩ := h
  refine ⟨fs.place place (.file bytes fs.nextStamp), ?_, place,
    resolve_place hdirectory hplace, ?_⟩
  · unfold write writeStamped
    rw [hplace]
    dsimp only
    split
    · next s hs => exact absurd (isDirectoryAt_eq_true.mpr ⟨s, hs⟩) (by simp [hdirectory])
    · rfl
  · rw [isDirectoryAt, item?_place_self fs _ (isFixed_eq_false hdirectory)]

end Files
end ThreatTree
