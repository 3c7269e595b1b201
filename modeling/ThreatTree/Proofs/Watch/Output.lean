import ThreatTree.Command.Run
import ThreatTree.Proofs.Session.Process
import ThreatTree.Proofs.Watch.Look

/-!
# What a look writes

A version is shown if its text compiles to a graph with a node and the DOT text of it can be encoded
(`Session.shows`). Where the layout program does its work and the output can be written, a look that
tries such a version writes the artifact of its text, and every other look leaves all files as they are
(`files_after`, `read_after`). A one-time export of the same text writes the same
(`exists_runExport`).
-/

namespace ThreatTree

open ThreatTree.Action

/-- The layout program makes a picture of every text by a way to arrange it; the vector pictures are
texts and not empty. -/
structure Layout.Engine.Succeeds (engine : Layout.Engine) (program : String) : Prop where
  vector : ∀ dot, ∃ output svg, (Layout.attempt engine dot "svg" program).result = .ok output ∧
    Text.Utf8.decode? output = some svg ∧ svg ≠ ""
  raster : ∀ dot, ∃ image, (Layout.attempt engine dot "png" program).result = .ok image

/-- So does the layout program that draws nothing. -/
theorem succeeds_blankEngine : Session.blankEngine.Succeeds "dot" where
  vector dot := by
    have hrequest : Layout.request? dot "svg" "dot" =
        some ⟨Text.lower "dot", "svg", Layout.inputOf dot⟩ := if_pos (by decide +kernel)
    exact ⟨_, "<svg></svg>", Layout.attempt_eq_ok hrequest (if_pos rfl),
      Text.Utf8.decode?_encode _, by decide⟩
  raster dot := by
    have hrequest : Layout.request? dot "png" "dot" =
        some ⟨Text.lower "dot", "png", Layout.inputOf dot⟩ := if_pos (by decide +kernel)
    exact ⟨Session.blankImage, Layout.attempt_eq_ok hrequest (if_neg (by simp))⟩

variable [SetOrder]

namespace Session

variable (s : Session) {engine : Layout.Engine} {text : String}

/-- Whether a text compiles to a graph with a node, and to a DOT text that can be encoded. -/
def shows (text : String) : Bool :=
  match s.compile text with
  | .ok c => c.graph.worthRendering && Yaml.isWhole text c.dot
  | .error _ => false

theorem shows_eq_true_iff :
    s.shows text = true ↔
      ∃ c, s.compile text = .ok c ∧ c.graph.nodes ≠ [] ∧ Yaml.isWhole text c.dot = true := by
  unfold shows
  cases s.compile text with
  | error e => simp
  | ok c => simp [worthRendering_iff]

omit [SetOrder] in
theorem shows_eq_of_readAlike {o o' : SetOrder} (h : Yaml.ReadAlike o o' text) :
    @shows o s text = @shows o' s text := by
  unfold shows
  rw [compile_eq_of_readAlike h]

/-! ### Snapshots -/

/-- A text that is not shown has no picture. -/
theorem hasRender_of_not_shows (hshows : s.shows text = false) {shot : Snapshot}
    (hshot : s.shown engine text = .ok shot) : shot.hasRender = false := by
  unfold shows at hshows
  unfold shown at hshot
  cases hc : s.compile text with
  | error e =>
    rw [hc] at hshot
    dsimp only at hshot
    split at hshot
    · cases hshot
      rfl
    · cases hshot
  | ok c =>
    rw [hc] at hshot hshows
    dsimp only at hshot hshows
    split at hshot
    · next hworth =>
      rw [hworth, Bool.true_and] at hshows
      unfold laidOut at hshot
      split at hshot
      · cases hshot
        rfl
      · -- There is no picture of a text that cannot be encoded.
        next hresult =>
        rw [(Layout.exists_of_attemptOf_eq_ok hresult).1] at hshows
        cases hshows
    · cases hshot
      rfl

/-- A text that is shown has a picture, and its artifact in every format. -/
theorem exists_picture (hengine : engine.Succeeds s.program) (hshows : s.shows text = true) :
    ∃ shot, s.shown engine text = .ok shot ∧ shot.error = none ∧ shot.hasRender = true ∧
      ∀ time format, ∃ bytes, s.artifact shot engine time format = .ok bytes := by
  obtain ⟨c, hc, hnodes, hwhole⟩ := s.shows_eq_true_iff.mp hshows
  obtain ⟨output, svg, houtput, hsvg, hne⟩ := hengine.vector c.dot
  have hshot : s.shown engine text = .ok (.compiled text c svg none) := by
    unfold shown laidOut attempt Layout.attemptOf
    rw [hc]
    dsimp only
    rw [if_pos (worthRendering_iff.mpr hnodes), if_pos hwhole, houtput]
    dsimp only
    rw [hsvg]
  have hrender : (Snapshot.compiled text c svg none).hasRender = true := decide_eq_true hne
  refine ⟨_, hshot, rfl, hrender, ?_⟩
  intro time format
  cases format with
  | png =>
    obtain ⟨image, himage⟩ := hengine.raster (Layout.withDpi c.dot s.settings.pngDpi)
    exact ⟨_, bind_eq_ok_iff.mpr ⟨image, mapError_eq_ok_iff.mpr himage, rfl⟩⟩
  | html =>
    obtain ⟨t, ht⟩ := exists_theme_of_coherent (s.coherent_of_shown hshot).2 hrender
    obtain ⟨before, hpage⟩ :=
      Page.exists_render (c := (Snapshot.compiled text c svg none).page time) ht
    obtain ⟨page, hpage, -⟩ := hpage time
    exact ⟨_, s.artifact_html _ hpage⟩
  | dot => exact ⟨_, rfl⟩
  | svg => exact ⟨_, rfl⟩

/-- Some bytes are the artifact of a text in a format. -/
def IsArtifact (engine : Layout.Engine) (time text : String) (format : Format) (bytes : Bytes) :
    Prop :=
  ∃ shot, s.shown engine text = .ok shot ∧ s.artifact shot engine time format = .ok bytes

/-- A text has one artifact; on pages, one for each time. -/
theorem IsArtifact.unique {s : Session} {time time' : String} {format : Format}
    {bytes bytes' : Bytes} (h : s.IsArtifact engine time text format bytes)
    (h' : s.IsArtifact engine time' text format bytes') (htime : format = .html → time = time') :
    bytes = bytes' := by
  obtain ⟨shot, hshot, hbytes⟩ := h
  obtain ⟨shot', hshot', hbytes'⟩ := h'
  obtain rfl : shot = shot' := Except.ok.inj (hshot.symm.trans hshot')
  rw [s.artifact_congr shot (fun _ _ _ => rfl) htime] at hbytes
  exact Except.ok.inj (hbytes.symm.trans hbytes')

/-- The artifact of a text as DOT text is what the text compiles to with the text itself. -/
theorem IsArtifact.eq_embed {s : Session} {time : String} {bytes : Bytes} {c : Compiled}
    (h : s.IsArtifact engine time text .dot bytes) (hc : s.compile text = .ok c) :
    bytes = Text.Utf8.encode (Embed.Dot.embed c.dot text) := by
  obtain ⟨shot, hshot, hbytes⟩ := h
  obtain ⟨hdot, hsource⟩ := dot_of_shown hshot hc
  rw [← hdot, ← hsource]
  exact (Except.ok.inj hbytes).symm

omit [SetOrder] in
theorem isArtifact_iff_of_readAlike {o o' : SetOrder} (h : Yaml.ReadAlike o o' text) {time : String}
    {format : Format} {bytes : Bytes} :
    @IsArtifact o s engine time text format bytes ↔ @IsArtifact o' s engine time text format bytes := by
  unfold IsArtifact
  rw [shown_eq_of_readAlike h]

/-- The artifacts of a text that is shown, one for each time of the clock. They are the same but for the
footers of pages. -/
theorem exists_artifacts (hengine : engine.Succeeds s.program) (hshows : s.shows text = true)
    (format : Format) :
    ∃ artifact : String → Bytes,
      (∀ time bytes, s.IsArtifact engine time text format bytes ↔ bytes = artifact time) ∧
      (format ≠ .html → ∀ time time', artifact time = artifact time') ∧
      (format = .html → ∃ above, ∀ time,
        artifact time = Text.Utf8.encode (above ++ Page.footer time)) := by
  obtain ⟨shot, hshot, -, hrender, hall⟩ := s.exists_picture hengine hshows
  choose artifact hartifact using fun time => hall time format
  have hiff (time : String) (bytes : Bytes) :
      s.IsArtifact engine time text format bytes ↔ bytes = artifact time := by
    constructor
    · intro hbytes
      exact hbytes.unique ⟨shot, hshot, hartifact time⟩ fun _ => rfl
    · rintro rfl
      exact ⟨shot, hshot, hartifact time⟩
  refine ⟨artifact, hiff, ?_, ?_⟩
  · intro hformat time time'
    have hsame : s.artifact shot engine time format = s.artifact shot engine time' format :=
      s.artifact_congr shot (fun _ _ _ => rfl) fun h => absurd h hformat
    rw [hartifact, hartifact] at hsame
    exact Except.ok.inj hsame
  · rintro rfl
    obtain ⟨t, ht⟩ := exists_theme_of_coherent (s.coherent_of_shown hshot).2 hrender
    obtain ⟨before, hpage⟩ := Page.exists_render (c := shot.page "") ht
    refine ⟨String.ofList (before ++ Embed.Svg.embedChars shot.svg.toList shot.source.toList), ?_⟩
    intro time
    obtain ⟨page, hrendered, hchars⟩ := hpage time
    have hbytes := (s.artifact_html shot hrendered).symm.trans (hartifact time)
    rw [← Except.ok.inj hbytes]
    congr 1
    rw [← String.toList_inj, hchars, String.toList_append, String.toList_ofList]
    rfl

/-! ### Exports -/

variable {p : Path} {h : Host}

/-- A refresh and an export of a text that is shown write its artifact. -/
theorem exists_refreshFile_exportTo (hengine : h.engine.Succeeds s.program)
    (htext : textIn h.files p = .ok text) (hshows : s.shows text = true) {output : Path}
    (hwritable : h.files.Writable output) :
    ∃ shot h' h'' bytes, (s.refreshFile p).outcome h = (.ok shot, h') ∧ shot.error = none ∧
      shot.hasRender = true ∧ (s.exportTo shot output).outcome h' = (.ok (), h'') ∧
      h''.files.read output = .ok bytes ∧
      s.IsArtifact h.engine h.time text (Format.ofPath output) bytes := by
  obtain ⟨shot, hshot, herror, hrender, hartifact⟩ := s.exists_picture hengine hshows
  obtain ⟨bytes, hbytes⟩ := hartifact h.time (Format.ofPath output)
  obtain ⟨j, -, hrun⟩ := s.outcome_refresh text h
  have hrefresh : (s.refreshFile p).outcome h = (.ok shot, h.noted j) := by
    rw [s.outcome_refreshFile, htext]
    dsimp only
    rw [hrun, hshot]
  obtain ⟨h'', hexport, hread⟩ := s.exists_exportTo (h := h.noted j) hrender hwritable hbytes
  exact ⟨shot, _, h'', bytes, hrefresh, herror, hrender, hexport, hread, shot, hshot, hbytes⟩

end Session

/-- **A one-time export of a text that is shown writes its artifact**, and then says so. -/
theorem Command.exists_runExport (settings : Settings) (view : View) {document output : String}
    {text : String} {h : Host}
    (hengine : h.engine.Succeeds settings.engine)
    (htext : textIn h.files (.ofString document) = .ok text)
    (hshows : (Session.start view.focus view.theme settings).shows text = true)
    (hwritable : h.files.Writable (.ofString output)) :
    ∃ h' bytes, (runExport (some settings) document output view).outcome h =
        (say (exportedLine (.ofString output))).outcome h' ∧
      h'.files.read (.ofString output) = .ok bytes ∧
      (Session.start view.focus view.theme settings).IsArtifact h.engine h.time text
        (Format.ofPath (.ofString output)) bytes := by
  obtain ⟨shot, h₁, h₂, bytes, hrefresh, herror, hrender, hexport, hread, hartifact⟩ :=
    (Session.start view.focus view.theme settings).exists_refreshFile_exportTo hengine htext hshows
      hwritable
  refine ⟨h₂, bytes, ?_, hread, hartifact⟩
  unfold runExport Command.settings
  rw [outcome_bind_ok (outcome_pure settings h), outcome_bind_ok hrefresh, herror]
  dsimp only
  rw [if_pos hrender, outcome_bind, outcome_tryCatch, hexport]

/-- A one-time export of a text that is not shown changes no file. -/
theorem Command.files_runExport (settings : Settings) (view : View) {document : String} (output : String)
    {text : String} {h : Host} (htext : textIn h.files (.ofString document) = .ok text)
    (hshows : (Session.start view.focus view.theme settings).shows text = false) :
    ((runExport (some settings) document output view).outcome h).2.files = h.files := by
  obtain ⟨j, -, hrun⟩ :=
    (Session.start view.focus view.theme settings).outcome_refresh text h
  unfold runExport Command.settings
  rw [outcome_bind_ok (outcome_pure settings h), outcome_bind, Session.outcome_refreshFile, htext]
  dsimp only
  rw [hrun]
  cases hshot : (Session.start view.focus view.theme settings).shown h.engine text with
  | error f => rfl
  | ok shot =>
    dsimp only
    cases shot.error with
    | some e => rfl
    | none =>
      dsimp only
      rw [if_neg (by simp [Session.hasRender_of_not_shows _ hshows hshot]), outcome_say]
      split <;> rfl

/-! ### One look -/

namespace Look

variable {w : Watch} {l : Look}

/-- The text of the version that a look finds, if it is one that is shown. -/
def shown? (l : Look) (w : Watch) : Option String :=
  match textIn l.host.files w.document with
  | .ok text => if w.session.shows text then some text else none
  | .error _ => none

theorem shown?_eq_some_iff {text : String} :
    l.shown? w = some text ↔
      textIn l.host.files w.document = .ok text ∧ w.session.shows text = true := by
  unfold shown?
  cases textIn l.host.files w.document with
  | error f => simp
  | ok text' =>
    cases hshows : w.session.shows text' with
    | false =>
      simp only [hshows, Bool.false_eq_true, if_false, reduceCtorEq, Except.ok.injEq, false_iff,
        not_and]
      rintro rfl
      simp [hshows]
    | true =>
      simp only [hshows, if_true, Option.some.injEq, Except.ok.injEq, iff_self_and]
      rintro rfl
      exact hshows

/-- An update to a version that is not to be shown changes no file. -/
theorem files_update (hshown : l.shown? w = none) :
    (w.update.outcome l.host).2.files = l.host.files := by
  rw [Watch.outcome_update, w.session.outcome_refreshFile]
  cases htext : textIn l.host.files w.document with
  | error f => rfl
  | ok text =>
    have hshows : w.session.shows text = false := by
      rw [← Bool.not_eq_true]
      intro hshows
      rw [shown?_eq_some_iff.mpr ⟨htext, hshows⟩] at hshown
      cases hshown
    obtain ⟨j, -, hrun⟩ := w.session.outcome_refresh text l.host
    dsimp only
    rw [hrun]
    cases hshot : w.session.shown l.host.engine text with
    | error f => rfl
    | ok shot =>
      dsimp only
      cases shot.error with
      | some e => rfl
      | none =>
        dsimp only
        rw [if_neg (by simp [w.session.hasRender_of_not_shows hshows hshot])]
        rfl

/-- **A look that does not try a version to be shown leaves all files as they are.** -/
theorem files_after (h : l.tries w = false ∨ l.shown? w = none) :
    (l.after w).files = l.host.files := by
  unfold after
  cases hstamp : l.host.files.stamp w.document with
  | error e =>
    rw [Watch.outcome_poll_absent hstamp]
    split <;> rfl
  | ok stamp =>
    by_cases hseen : l.seen = some stamp
    · rw [hseen, Watch.outcome_poll_same hstamp]
    have htries : l.tries w = true := Watch.tries_eq_true_iff.mpr ⟨stamp, hstamp, hseen⟩
    have hupdate := files_update (h.resolve_left (by simp [htries]))
    rw [Watch.outcome_poll_tried hstamp hseen]
    -- No file was changed, whether the update went well or not.
    rcases hrun : w.update.outcome l.host with ⟨f | ⟨⟩, h'⟩ <;> rw [hrun] at hupdate
    · dsimp only
      split <;> exact hupdate
    · exact hupdate

/-- **A look that tries a version to be shown writes its artifact.** -/
theorem read_after (hengine : l.host.engine.Succeeds w.session.program)
    (hwritable : l.host.files.Writable w.output) (htries : l.tries w = true) {text : String}
    (hshown : l.shown? w = some text) :
    ∃ bytes, (l.after w).files.read w.output = .ok bytes ∧
      w.session.IsArtifact l.host.engine l.host.time text (Format.ofPath w.output) bytes := by
  obtain ⟨htext, hshows⟩ := shown?_eq_some_iff.mp hshown
  obtain ⟨shot, h₁, h₂, bytes, hrefresh, herror, hrender, hexport, hread, hartifact⟩ :=
    w.session.exists_refreshFile_exportTo hengine htext hshows hwritable
  refine ⟨bytes, ?_, hartifact⟩
  obtain ⟨stamp, hstamp, hseen⟩ := Watch.tries_eq_true_iff.mp htries
  unfold after
  rw [Watch.outcome_poll_tried hstamp hseen, Watch.outcome_update, hrefresh]
  dsimp only
  rw [herror]
  dsimp only
  rw [if_pos hrender, hexport]
  dsimp only
  rw [outcome_say]
  -- The line about it changes no file, whether it is printed, refused or reported.
  cases h₂.refusal? (Text.plain (w.updatedLine ++ "\n")) with
  | none => exact hread
  | some r =>
    dsimp only
    split <;> exact hread

end Look
end ThreatTree
