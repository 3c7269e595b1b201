import ThreatTree.Files.Basic

/-!
# What writing does

A file that is written holds what was written (`read_write`), and nothing else changes but stamps
of directories: every other place holds the bytes that it held before (`bytesAt_place_of_ne`).
-/

namespace ThreatTree.Files

/-- The bytes of the file at a place. -/
def bytesAt (fs : Files) (p : Place) : Option Bytes :=
  match fs.item? p with
  | some (.file bytes _) => some bytes
  | _ => none

/-- Whether a directory is at a place. -/
def isDirectoryAt (fs : Files) (p : Place) : Bool :=
  match fs.item? p with
  | some (.directory _) => true
  | _ => false

/-! ### One item -/

theorem lookup_filter_ne {p q : Place} (items : List (Place × Item)) (h : q ≠ p) :
    (items.filter (·.1 ≠ p)).lookup q = items.lookup q := by
  induction items with
  | nil => rfl
  | cons e items ih =>
    obtain ⟨r, i⟩ := e
    by_cases hr : r = p
    · rw [List.filter_cons_of_neg (by simp [hr]), ih, List.lookup_cons]
      have : (q == r) = false := by simpa [hr] using h
      rw [this]
    · rw [List.filter_cons_of_pos (by simpa using hr), List.lookup_cons, List.lookup_cons, ih]

@[simp] theorem item?_put_self {fs : Files} {p : Place} {i : Item} (h : isFixed p = false) :
    (fs.put p i).item? p = some i := by
  simp [item?, h, put]

theorem item?_put_of_ne {fs : Files} {p q : Place} {i : Item} (h : q ≠ p) :
    (fs.put p i).item? q = fs.item? q := by
  have hq : (q == p) = false := by simpa using h
  simp only [item?, put, List.lookup_cons, hq, lookup_filter_ne _ h]

@[simp] theorem item?_count (fs : Files) (p : Place) : fs.count.item? p = fs.item? p := rfl

/-- A touched place that is no fixed one holds a directory with another stamp. -/
theorem item?_touch_self (fs : Files) (p : Place) :
    (fs.touch p).item? p = fs.item? p ∨
      ∃ s t, fs.item? p = some (.directory s) ∧ (fs.touch p).item? p = some (.directory t) := by
  unfold touch
  split
  · next s hs =>
    by_cases hp : isFixed p = true
    · exact .inl (by simp [item?, hp])
    · have hp : isFixed p = false := by simpa using hp
      exact .inr ⟨s, fs.nextStamp, by simp [item?, hp, hs], item?_put_self hp⟩
  · exact .inl rfl

theorem item?_touch_of_ne {fs : Files} {p q : Place} (h : q ≠ p) :
    (fs.touch p).item? q = fs.item? q := by
  unfold touch
  split
  · exact item?_put_of_ne h
  · rfl

/-! ### Bytes and directories -/

@[simp] theorem bytesAt_touch (fs : Files) (p q : Place) :
    (fs.touch p).bytesAt q = fs.bytesAt q := by
  by_cases h : q = p
  · subst h
    obtain h | ⟨s, t, h1, h2⟩ := item?_touch_self fs q
    · simp [bytesAt, h]
    · simp [bytesAt, h1, h2]
  · simp [bytesAt, item?_touch_of_ne h]

@[simp] theorem isDirectoryAt_touch (fs : Files) (p q : Place) :
    (fs.touch p).isDirectoryAt q = fs.isDirectoryAt q := by
  by_cases h : q = p
  · subst h
    obtain h | ⟨s, t, h1, h2⟩ := item?_touch_self fs q
    · simp [isDirectoryAt, h]
    · simp [isDirectoryAt, h1, h2]
  · simp [isDirectoryAt, item?_touch_of_ne h]

/-- Every other place holds the bytes that it held before. -/
theorem bytesAt_place_of_ne {fs : Files} {p q : Place} {i : Item} (h : q ≠ p) :
    (fs.place p i).bytesAt q = fs.bytesAt q := by
  unfold place
  split
  · rw [← bytesAt_touch fs (above p) q]
    simp [bytesAt, item?_put_of_ne h]
  · simp [bytesAt, item?_put_of_ne h]

theorem isDirectoryAt_place_of_ne {fs : Files} {p q : Place} {i : Item} (h : q ≠ p) :
    (fs.place p i).isDirectoryAt q = fs.isDirectoryAt q := by
  unfold place
  split
  · rw [← isDirectoryAt_touch fs (above p) q]
    simp [isDirectoryAt, item?_put_of_ne h]
  · simp [isDirectoryAt, item?_put_of_ne h]

theorem item?_place_self (fs : Files) {p : Place} (i : Item) (h : isFixed p = false) :
    (fs.place p i).item? p = some i := by
  unfold place
  split <;> simp [h]

/-- A fixed place is a directory. -/
theorem isFixed_eq_false {fs : Files} {p : Place} (h : fs.isDirectoryAt p = false) :
    isFixed p = false := by
  by_cases hp : isFixed p = true
  · simp [isDirectoryAt, item?, hp] at h
  · simpa using hp

/-! ### Paths -/

theorem isDirectoryAt_eq_true {fs : Files} {p : Place} :
    fs.isDirectoryAt p = true ↔ ∃ s, fs.item? p = some (.directory s) := by
  unfold isDirectoryAt
  split
  · next s hs => simp [hs]
  · next hn => simpa using hn

/-- A step of a path from a directory. -/
theorem walk_directory {fs : Files} {p : Place} {s : Stamp} {name : String} {names : List String}
    (h : fs.item? p = some (.directory s)) :
    fs.walk p (name :: names) =
      if name = "" || name = "." then fs.walk p names
      else if name = up then fs.walk (above p) names
      else if longestName < name.utf8ByteSize then .error .nameTooLong
      else fs.walk (p ++ [name]) names := by
  simp only [walk, h]

/-- A path that goes on from a place goes on from a directory. -/
theorem isDirectoryAt_of_walk {fs : Files} {p q : Place} {name : String} {names : List String}
    (h : fs.walk p (name :: names) = .ok q) : fs.isDirectoryAt p = true := by
  unfold walk at h
  unfold isDirectoryAt
  split at h
  · exact absurd h (by simp)
  · exact absurd h (by simp)
  · next heq => rw [heq]

/-- A path that leads somewhere still does after a change where no directory is. -/
theorem walk_place {fs : Files} {p q pl : Place} {names : List String} {i : Item}
    (hpl : fs.isDirectoryAt pl = false) (h : fs.walk p names = .ok q) :
    (fs.place pl i).walk p names = .ok q := by
  induction names generalizing p with
  | nil => simpa [walk] using h
  | cons name names ih =>
    have hd := isDirectoryAt_of_walk h
    have hne : p ≠ pl := by
      rintro rfl
      simp [hpl] at hd
    have hd' : (fs.place pl i).isDirectoryAt p = true := by
      rw [isDirectoryAt_place_of_ne hne, hd]
    obtain ⟨s, hs⟩ := isDirectoryAt_eq_true.1 hd
    obtain ⟨t, ht⟩ := isDirectoryAt_eq_true.1 hd'
    rw [walk_directory hs] at h
    rw [walk_directory ht]
    by_cases h1 : (name = "" || name = ".") = true
    · rw [if_pos h1] at h ⊢
      exact ih h
    by_cases h2 : name = up
    · rw [if_neg h1, if_pos h2] at h ⊢
      exact ih h
    by_cases h3 : longestName < name.utf8ByteSize
    · rw [if_neg h1, if_neg h2, if_pos h3] at h
      exact absurd h (by simp)
    rw [if_neg h1, if_neg h2, if_neg h3] at h ⊢
    exact ih h

theorem resolve_place {fs : Files} {s : String} {q pl : Place} {i : Item}
    (hpl : fs.isDirectoryAt pl = false) (h : fs.resolve s = .ok q) :
    (fs.place pl i).resolve s = .ok q := by
  simp only [resolve] at h ⊢
  by_cases h1 : s.toList.contains '\x00' = true
  · rw [if_pos h1] at h
    exact absurd h (by simp)
  by_cases h2 : s = ""
  · rw [if_neg h1, if_pos h2] at h
    exact absurd h (by simp)
  by_cases h3 : longestPath < s.utf8ByteSize
  · rw [if_neg h1, if_neg h2, if_pos h3] at h
    exact absurd h (by simp)
  rw [if_neg h1, if_neg h2, if_neg h3] at h ⊢
  exact walk_place hpl h

/-- What a successful write comes to. -/
theorem writeStamped_eq_ok {fs fs' : Files} {p : Path} {bytes : Bytes} {stamp : Stamp}
    (h : fs.writeStamped p bytes stamp = .ok fs') :
    ∃ place, fs.resolve p.toString = .ok place ∧ fs.isDirectoryAt place = false ∧
      fs' = fs.place place (.file bytes stamp) := by
  unfold writeStamped at h
  split at h
  · exact absurd h (by simp)
  · next place hp =>
    split at h
    · exact absurd h (by simp)
    · next hn =>
      refine ⟨place, hp, ?_, (Except.ok.inj h).symm⟩
      unfold isDirectoryAt
      split
      · next s hs => exact absurd hs (hn s)
      · rfl

/-- A file that is written holds what was written. -/
theorem read_write {fs fs' : Files} {p : Path} {bytes : Bytes} (h : fs.write p bytes = .ok fs') :
    fs'.read p = .ok bytes := by
  obtain ⟨place, hp, hd, rfl⟩ := writeStamped_eq_ok h
  have hr := resolve_place (i := .file bytes fs.nextStamp) hd hp
  have hi := item?_place_self fs (.file bytes fs.nextStamp) (isFixed_eq_false hd)
  simp only [read, find, hr, hi]

end ThreatTree.Files
