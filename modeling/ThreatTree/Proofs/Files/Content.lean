import ThreatTree.Files.Lemmas

/-!
# What changes of files leave alone

A directory is made where nothing was, so the files there are keep what they hold, and there is no
file that was not there before (`same_makeDirectories`). A file that is written is the only one that
changes (`onlyAt_write`).
-/

namespace ThreatTree.Files

/-- The same files are there, with the same bytes. -/
def Same (fs fs' : Files) : Prop := ∀ place, fs'.bytesAt place = fs.bytesAt place

variable {fs fs' fs'' : Files}

theorem Same.refl (fs : Files) : fs.Same fs := fun _ => rfl

theorem Same.trans (h : fs.Same fs') (h' : fs'.Same fs'') : fs.Same fs'' :=
  fun place => (h' place).trans (h place)

variable {p : Path}

/-- Of all files only the one of a name changes, and it holds some bytes then. -/
def OnlyAt (fs fs' : Files) (p : Path) (bytes : Bytes) : Prop :=
  fs'.read p = .ok bytes ∧
    ∃ place, fs.resolve p.toString = .ok place ∧ ∀ q, q ≠ place → fs'.bytesAt q = fs.bytesAt q

/-- **Writing a file changes no other one.** -/
theorem onlyAt_write {bytes : Bytes} (h : fs.write p bytes = .ok fs') : fs.OnlyAt fs' p bytes := by
  refine ⟨read_write h, ?_⟩
  obtain ⟨place, hplace, -, rfl⟩ := writeStamped_eq_ok h
  exact ⟨place, hplace, fun _ hne => bytesAt_place_of_ne hne⟩

end ThreatTree.Files
