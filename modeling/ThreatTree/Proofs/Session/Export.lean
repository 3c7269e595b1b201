import ThreatTree.Files.Lemmas
import ThreatTree.Proofs.Embed.Artifact
import ThreatTree.Proofs.Sequence
import ThreatTree.Proofs.Session.Refresh
import ThreatTree.Session.Export

/-!
# What an export writes

An export ends with a file that holds the artifact of the snapshot, or with the fault of an artifact
that cannot be made, or with one of a file operation (`writes_exportTo`). The artifact itself is a
function of the snapshot and of little else (`artifact_congr`). An artifact that there is ends up in
any file that can be written (`exists_exportTo`), and all faults of an export are of an expected kind
(`quiet_exportTo`).
-/

namespace ThreatTree

open ThreatTree.Action

/-- An action writes the bytes that should be in a file, or ends with the fault that there is in
place of them, or with one of a file operation. -/
def Action.Writes (a : Action Unit) (h : Host) (p : Path) (r : Except Fault Bytes) : Prop :=
  match a.outcome h with
  | (.ok (), h') => ∃ bytes, r = .ok bytes ∧ h'.files.read p = .ok bytes
  | (.error f, _) => r = .error f ∨ ∃ e, f = .file e

namespace Action

theorem writes_writeBytes (p : Path) (bytes : Bytes) (h : Host) :
    (writeBytes p bytes).Writes h p (.ok bytes) := by
  rw [Writes, outcome_writeBytes]
  cases hwrite : h.files.write p bytes with
  | error e => exact .inr ⟨e, rfl⟩
  | ok files => exact ⟨bytes, rfl, Files.read_write hwrite⟩

/-- Making the bytes comes first. -/
theorem writes_bind {α : Type} {a : Action α} {f : α → Action Unit} {h h' : Host} {p : Path}
    {x : Except Fault α} {r : α → Except Fault Bytes} (ha : a.outcome h = (x, h'))
    (hf : ∀ y, x = .ok y → (f y).Writes h' p (r y)) : (a >>= f).Writes h p (x >>= r) := by
  cases x with
  | error e =>
    rw [Writes, outcome_bind_error ha]
    exact .inl rfl
  | ok y =>
    rw [Writes, outcome_bind_ok ha]
    exact hf y rfl

/-- A file operation comes first. -/
theorem writes_bind_files {a : Action Unit} {f : Unit → Action Unit} {h : Host} {files : Files}
    {p : Path} {x : Except FileError Unit} {r : Except Fault Bytes}
    (ha : a.outcome h = (x.mapError .file, h.withFiles files))
    (hf : (f ()).Writes (h.withFiles files) p r) : (a >>= f).Writes h p r := by
  cases x with
  | error e =>
    rw [Writes, outcome_bind_error ha]
    exact .inr ⟨e, rfl⟩
  | ok y =>
    rw [Writes, outcome_bind_ok ha]
    exact hf

theorem writes_get_bind {f : Host → Action Unit} {h : Host} {p : Path} {r : Except Fault Bytes}
    (hf : (f h).Writes h p r) : (get >>= f).Writes h p r := by
  rw [Writes, outcome_bind_ok (outcome_get h)]
  exact hf

/-- Noting something changes no file. -/
theorem writes_bind_note {a : Action Unit} {h : Host} {p : Path} {r : Except Fault Bytes}
    (ha : a.Writes h p r) (e : Event) : (a >>= fun _ => note e).Writes h p r := by
  unfold Writes at ha ⊢
  rw [outcome_bind]
  rcases hrun : a.outcome h with ⟨f | ⟨⟩, h'⟩ <;> rw [hrun] at ha <;> exact ha

end Action

namespace Session

variable (s : Session) (shot : Snapshot)

/-! ### Artifacts -/

/-- The request for the picture of points of a snapshot. -/
def rasterRequest? : Option Layout.Request :=
  Layout.request? (Layout.withDpi shot.dot s.settings.pngDpi) "png" s.program

/-- The bytes of a snapshot in a format, with a layout program and the time of the clock. -/
def artifact (engine : Layout.Engine) (time : String) : Format → Except Fault Bytes
  | .png => do
    let dot := Layout.withDpi shot.dot s.settings.pngDpi
    let png ← (Layout.attempt engine dot "png" s.program).result.mapError .layout
    return Embed.Png.append png (Text.Utf8.encode shot.source)
  | .dot => return Text.Utf8.encode (Embed.Dot.embed shot.dot shot.source)
  | .html => do return Text.Utf8.encode (← (Page.render (shot.page time)).mapError .style)
  | .svg => return Text.Utf8.encode (Embed.Svg.embed shot.svg shot.source)

theorem artifact_html {engine : Layout.Engine} {time page : String}
    (h : Page.render (shot.page time) = .ok page) :
    s.artifact shot engine time .html = .ok (Text.Utf8.encode page) := by
  rw [artifact, h]
  rfl

/-- Only a picture of points depends on the layout program, and only a page on the clock. -/
theorem artifact_congr {engine engine' : Layout.Engine} {time time' : String} {format : Format}
    (hengine : format = .png → ∀ r ∈ s.rasterRequest? shot, engine r = engine' r)
    (htime : format = .html → time = time') :
    s.artifact shot engine time format = s.artifact shot engine' time' format := by
  cases format with
  | png => rw [artifact, artifact, Layout.attempt_congr (hengine rfl)]
  | html => rw [artifact, artifact, htime rfl]
  | dot => rfl
  | svg => rfl

/-! ### Exports -/

theorem writes_exportPng (p : Path) (h : Host) :
    (s.exportPng shot p).Writes h p (s.artifact shot h.engine h.time .png) :=
  writes_bind (outcome_rasterPicture _ _ _ h) fun _ _ => writes_writeBytes _ _ _

theorem writes_exportPage (p : Path) (h : Host) :
    (exportPage shot p).Writes h p (s.artifact shot h.engine h.time .html) := by
  obtain ⟨x, files, hempty⟩ := exists_outcome_writeBytes p [] h
  unfold exportPage
  apply writes_bind_files hempty
  apply writes_get_bind
  exact writes_bind (outcome_lift _ _ _) fun _ _ => writes_writeBytes _ _ _

theorem writes_writeFormat (p : Path) (format : Format) (h : Host) :
    (s.writeFormat shot p format).Writes h p (s.artifact shot h.engine h.time format) := by
  cases format with
  | png => exact s.writes_exportPng shot p h
  | html => exact s.writes_exportPage shot p h
  | dot => exact writes_writeBytes p _ h
  | svg => exact writes_writeBytes p _ h

/-- **An export of a picture writes the artifact of the snapshot.** -/
theorem writes_exportTo {shot : Snapshot} (hrender : shot.hasRender = true) (p : Path) (h : Host) :
    (s.exportTo shot p).Writes h p (s.artifact shot h.engine h.time (Format.ofPath p)) := by
  unfold exportTo
  rw [hrender]
  exact writes_bind_files (outcome_makeDirectories _ h)
    (writes_bind_note (s.writes_writeFormat shot p (Format.ofPath p) _) _)

/-- An export that goes well leaves a file with the artifact of the snapshot. -/
theorem exists_artifact_of_exportTo {shot : Snapshot} {p : Path} {h after : Host}
    (hexport : (s.exportTo shot p).outcome h = (.ok (), after)) :
    ∃ bytes, s.artifact shot h.engine h.time (Format.ofPath p) = .ok bytes ∧
      after.files.read p = .ok bytes := by
  by_cases hrender : shot.hasRender = true
  · have hwrites := s.writes_exportTo hrender p h
    rwa [Writes, hexport] at hwrites
  · have hnothing : (s.exportTo shot p).outcome h = (.error .nothingRendered, h) := by
      rw [exportTo, Bool.eq_false_iff.mpr hrender]
      rfl
    rw [hnothing] at hexport
    cases hexport

/-! ### Exports to files that can be written -/

variable {p : Path} {h : Host}

theorem exists_outcome_writeBytes_of_ready (hready : h.files.Ready p) (bytes : Bytes) :
    ∃ files, (writeBytes p bytes).outcome h = (.ok (), h.withFiles files) ∧ files.Ready p := by
  obtain ⟨files, hwrite, hagain⟩ := hready.exists_write bytes
  exact ⟨files, by rw [outcome_writeBytes, hwrite], hagain⟩

/-- A format that has its bytes is written where a file can be written. -/
theorem exists_outcome_writeFormat {format : Format} {bytes : Bytes} (hready : h.files.Ready p)
    (hbytes : s.artifact shot h.engine h.time format = .ok bytes) :
    ∃ h', (s.writeFormat shot p format).outcome h = (.ok (), h') := by
  cases format with
  | png =>
    obtain ⟨png, hpng, -⟩ := bind_eq_ok_iff.mp hbytes
    have hpicture := outcome_rasterPicture shot.dot s.program s.settings.pngDpi h
    rw [hpng] at hpicture
    obtain ⟨files, hwrite, -⟩ := exists_outcome_writeBytes_of_ready (h := h.noted _) hready
      (Embed.Png.append png (Text.Utf8.encode shot.source))
    exact ⟨_, (outcome_bind_ok hpicture _).trans hwrite⟩
  | html =>
    obtain ⟨page, hpage, -⟩ := bind_eq_ok_iff.mp hbytes
    obtain ⟨files, hempty, hagain⟩ := exists_outcome_writeBytes_of_ready hready []
    obtain ⟨files', hwrite, -⟩ := exists_outcome_writeBytes_of_ready (h := h.withFiles files)
      hagain (Text.Utf8.encode page)
    have hlift : (lift .style (Page.render (shot.page h.time))).outcome (h.withFiles files) =
        (.ok page, h.withFiles files) := by rw [outcome_lift, hpage]
    refine ⟨(h.withFiles files).withFiles files', ?_⟩
    show (exportPage shot p).outcome h = _
    rw [exportPage, outcome_bind_ok hempty, outcome_bind_ok (outcome_get _), Host.withFiles_time,
      outcome_bind_ok hlift]
    exact hwrite
  | dot =>
    obtain ⟨files, hwrite, -⟩ := exists_outcome_writeBytes_of_ready hready
      (Text.Utf8.encode (Embed.Dot.embed shot.dot shot.source))
    exact ⟨_, hwrite⟩
  | svg =>
    obtain ⟨files, hwrite, -⟩ := exists_outcome_writeBytes_of_ready hready
      (Text.Utf8.encode (Embed.Svg.embed shot.svg shot.source))
    exact ⟨_, hwrite⟩

/-- **An artifact that there is ends up in a file that can be written.** -/
theorem exists_exportTo {shot : Snapshot} {bytes : Bytes} (hrender : shot.hasRender = true)
    (hwritable : h.files.Writable p)
    (hbytes : s.artifact shot h.engine h.time (Format.ofPath p) = .ok bytes) :
    ∃ h', (s.exportTo shot p).outcome h = (.ok (), h') ∧ h'.files.read p = .ok bytes := by
  obtain ⟨hmake, hready⟩ := hwritable
  have hdirectories := outcome_makeDirectories p.parent h
  rw [hmake] at hdirectories
  obtain ⟨h', hformat⟩ := s.exists_outcome_writeFormat shot (h := h.withFiles _) hready hbytes
  have hexport : (s.exportTo shot p).outcome h =
      (.ok (), h'.noted [logLine .debug s!"Exported {(Format.ofPath p).name} to {p}"]) := by
    unfold exportTo
    rw [hrender]
    exact (outcome_bind_ok hdirectories _).trans (outcome_bind_ok hformat _)
  refine ⟨_, hexport, ?_⟩
  obtain ⟨bytes', hbytes', hread⟩ := s.exists_artifact_of_exportTo hexport
  rwa [Except.ok.inj (hbytes.symm.trans hbytes')]

/-! ### Exports that fail -/

theorem quiet_writeFormat (hp : p.IsClean) (format : Format) :
    (s.writeFormat shot p format).Quiet (·.isExpected = true) := by
  cases format with
  | png => exact within_bind (quiet_picture _ _ _ _) fun _ => quiet_writeBytes hp _
  | html =>
    apply within_bind (quiet_writeBytes hp _)
    intro _
    apply within_bind within_get
    intro _
    exact within_bind (within_lift fun _ _ => rfl) fun _ => quiet_writeBytes hp _
  | dot => exact quiet_writeBytes hp _
  | svg => exact quiet_writeBytes hp _

/-- An export alerts nobody, and it fails as expected. -/
theorem quiet_exportTo (hp : p.IsClean) :
    (s.exportTo shot p).Quiet (·.isExpected = true) := by
  unfold exportTo
  have hrest : (do
      makeDirectories p.parent
      let format := Format.ofPath p
      s.writeFormat shot p format
      note (logLine .debug s!"Exported {format.name} to {p}") : Action Unit).Quiet
        (·.isExpected = true) := by
    apply within_bind (quiet_makeDirectories hp.parent)
    intro _
    exact within_bind (s.quiet_writeFormat shot hp _) fun _ => quiet_note rfl
  split
  · exact within_throw rfl
  · exact hrest

end Session
end ThreatTree
