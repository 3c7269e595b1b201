import ThreatTree.Proofs.Host.Outcome

/-!
# Where settings come from

The settings of a host come of its variables and of what the file of variables holds, and of nothing
else (`exists_outcome_loadSettings`, `settingsIn_congr`).
-/

namespace ThreatTree

/-! ### What a file holds -/

namespace Files

/-- The bytes of the file that a text leads to as a path. -/
def bytesOf? (fs : Files) (s : String) : Option Bytes :=
  match fs.find s with
  | .ok (.file bytes _) => some bytes
  | _ => none

theorem isFile_eq_isSome (fs : Files) (s : String) : fs.isFile s = (fs.bytesOf? s).isSome := by
  unfold isFile bytesOf?
  rcases fs.find s with o | ⟨_, _⟩ | _ <;> rfl

theorem read_eq_ok_iff {fs : Files} {p : Path} {bytes : Bytes} :
    fs.read p = .ok bytes ↔ fs.bytesOf? p.toString = some bytes := by
  unfold read bytesOf?
  rcases fs.find p.toString with o | ⟨_, _⟩ | _ <;> simp

end Files

namespace Action

variable {files files' : Files} {p : Path}

theorem textIn_eq_ok_iff {text : String} :
    textIn files p = .ok text ↔
      ∃ bytes, files.bytesOf? p.toString = some bytes ∧ textOf? bytes = some text := by
  simp only [textIn, ← Files.read_eq_ok_iff]
  cases files.read p with
  | error e => simp
  | ok bytes => cases h : textOf? bytes <;> simp [h]

/-- Two files with the same bytes hold the same text, or both hold none. -/
theorem textIn_congr (h : files'.bytesOf? p.toString = files.bytesOf? p.toString)
    (hfile : files.isFile p.toString = true) : textIn files' p = textIn files p := by
  rw [Files.isFile_eq_isSome, Option.isSome_iff_exists] at hfile
  obtain ⟨bytes, hbytes⟩ := hfile
  rw [textIn, textIn, Files.read_eq_ok_iff.mpr hbytes, Files.read_eq_ok_iff.mpr (h.trans hbytes)]

/-! ### Settings -/

/-- What the file of variables says, if it is a text. -/
def listingIn (files : Files) (vars : Variables) : Except Fault Variables.Listing :=
  if files.isFile variableFile.toString then Variables.ofText vars <$> textIn files variableFile
  else .ok ⟨[], []⟩

/-- The settings that files and variables come to. -/
def settingsIn (files : Files) (vars : Variables) : Except Fault Settings := do
  let listing ← listingIn files vars
  (Settings.ofChoices (Settings.chosen vars listing.vars)).mapError .settings

theorem outcome_variableListing (h : Host) :
    variableListing.outcome h = (listingIn h.files h.vars, h) := by
  rw [variableListing, outcome_bind_ok (outcome_get h), listingIn]
  split
  · rw [outcome_bind, outcome_readText]
    cases textIn h.files variableFile <;> rfl
  · rfl

theorem exists_outcome_loadSettings (warn : String → Event) (h : Host) :
    ∃ j, (loadSettings warn).outcome h = (settingsIn h.files h.vars, h.noted j) := by
  rw [loadSettings, outcome_bind, outcome_variableListing, settingsIn]
  cases listingIn h.files h.vars with
  | error f => exact ⟨[], by simp [Host.noted]; rfl⟩
  | ok listing =>
    refine ⟨listing.skipped.map fun n => warn (skippedLine n), ?_⟩
    dsimp only
    rw [outcome_bind_ok (outcome_noteAll _ h), outcome_bind_ok (outcome_get _), outcome_lift]
    rfl

theorem settingsIn_congr (vars : Variables)
    (h : files'.bytesOf? variableFile.toString = files.bytesOf? variableFile.toString) :
    settingsIn files' vars = settingsIn files vars := by
  have hfile : files'.isFile variableFile.toString = files.isFile variableFile.toString := by
    rw [Files.isFile_eq_isSome, h, Files.isFile_eq_isSome]
  rw [settingsIn, listingIn, hfile, settingsIn, listingIn]
  split
  · rw [textIn_congr h ‹_›]
  · rfl

end Action
end ThreatTree
