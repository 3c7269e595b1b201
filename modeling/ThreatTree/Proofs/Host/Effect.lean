import ThreatTree.Proofs.Files.Access
import ThreatTree.Proofs.Host.Closure

/-!
# What actions leave behind

Most steps of a run work without a word to the reader: they change files and note what they do, and
whoever called them decides what to say of their faults. An action is `Quiet` if it is one of these,
for a bound on its faults. What is put together from quiet actions is quiet.
-/

namespace ThreatTree

/-! ### Alerts -/

/-- The line of an event that is printed for the reader's attention. -/
def Event.alert? : Event → Option String
  | alert line => some line
  | _ => none

namespace Journal

/-- The lines that are printed for the reader's attention. -/
def alerts (j : Journal) : List String := j.filterMap Event.alert?

@[simp] theorem alerts_nil : alerts [] = [] := rfl

@[simp] theorem alerts_alert (line : String) : alerts [.alert line] = [line] := rfl

@[simp] theorem alerts_print (text : String) : alerts [.print text] = [] := rfl

@[simp] theorem alerts_pause (seconds : Float) : alerts [.pause seconds] = [] := rfl

@[simp] theorem alerts_append (j k : Journal) : alerts (j ++ k) = alerts j ++ alerts k := by
  simp [alerts]

end Journal

/-- From a host to another one nothing changes but files and the journal, and nobody is alerted. -/
def Host.Silent (h h' : Host) : Prop :=
  ∃ files j, h' = (h.withFiles files).noted j ∧ j.alerts = []

namespace Host

variable (h : Host)

theorem silent_withFiles (files : Files) : h.Silent (h.withFiles files) :=
  ⟨files, [], by simp [noted, withFiles], rfl⟩

theorem silent_noted {j : Journal} (hj : j.alerts = []) : h.Silent (h.noted j) :=
  ⟨h.files, j, rfl, hj⟩

instance : IsPreorder Host Silent where
  refl h := h.silent_withFiles h.files
  trans := by
    rintro h _ _ ⟨files, j, rfl, hj⟩ ⟨files', j', rfl, hj'⟩
    refine ⟨files', j ++ j', ?_, by rw [Journal.alerts_append, hj, hj', List.append_nil]⟩
    rw [← noted_noted]
    rfl

end Host

namespace Action

/-! ### Quiet actions -/

variable {α β ε : Type} {faults : Fault → Prop}

/-- An action changes nothing but files and the journal, alerts nobody, and ends with no fault but
some of the given ones. -/
abbrev Quiet (a : Action α) (faults : Fault → Prop) : Prop := a.Within Host.Silent faults

theorem quiet_noteAll {j : Journal} (hj : j.alerts = []) : (noteAll j).Quiet faults :=
  within_noteAll fun h => h.silent_noted hj

theorem quiet_note {e : Event} (he : e.alert? = none) : (note e).Quiet faults :=
  quiet_noteAll (by simp [Journal.alerts, he])

/-! ### Steps of a host -/

variable {p : Path}

/-- A file operation that is not refused for a null character fails as expected. -/
theorem isExpected_file {r : Except FileError α} (hr : Files.Passes r) {e : FileError}
    (h : r = .error e) : (Fault.file e).isExpected = true := by
  simpa [Fault.isExpected, Fault.isOwn] using hr e h

theorem quiet_writeBytes (hp : p.IsClean) (bytes : Bytes) :
    (writeBytes p bytes).Quiet (·.isExpected = true) := by
  intro h
  have hpasses := h.files.passes_write hp bytes
  rw [outcome_writeBytes]
  cases hwrite : h.files.write p bytes with
  | ok files =>
    refine ⟨h.silent_withFiles files, ?_⟩
    rintro f ⟨⟩
  | error e =>
    refine ⟨h.silent_withFiles h.files, ?_⟩
    rintro f ⟨⟩
    exact isExpected_file hpasses hwrite

theorem quiet_makeDirectories (hp : p.IsClean) :
    (makeDirectories p).Quiet (·.isExpected = true) := by
  intro h
  have hpasses := h.files.passes_makeDirectories hp
  rw [outcome_makeDirectories]
  refine ⟨h.silent_withFiles _, ?_⟩
  intro f hf
  cases hmake : (h.files.makeDirectories p).2 with
  | ok _ =>
    rw [hmake] at hf
    cases hf
  | error e =>
    rw [hmake] at hf
    cases hf
    exact isExpected_file hpasses hmake

theorem alerts_pictureLog (a : Layout.Attempt) (format program : String) :
    (pictureLog a format program).alerts = [] := by
  obtain ⟨request, report, result⟩ := a
  rw [pictureLog, attemptLog, Journal.alerts_append, Journal.alerts_append]
  cases request <;> cases result <;> by_cases hr : report = "" <;>
    simp [hr, Journal.alerts, Event.alert?, pictureLine]

theorem quiet_picture (dot format program : String) (whole : Bool) :
    (picture dot format program whole).Quiet (·.isExpected = true) := by
  intro h
  rw [outcome_picture]
  refine ⟨h.silent_noted (alerts_pictureLog _ _ _), ?_⟩
  intro f hf
  cases hresult : (Layout.attemptOf h.engine dot format program whole).result with
  | ok bytes =>
    rw [hresult] at hf
    cases hf
  | error e =>
    rw [hresult] at hf
    cases hf
    rfl

end Action
end ThreatTree
