import ThreatTree.Proofs.Dot.ReadBack
import ThreatTree.Proofs.Page
import ThreatTree.Proofs.Session.Export

/-!
# Documents come back from exports

A picture that a session shows can be exported and the document is found in the file, whatever is in
the document or in its title. This rests on what the layout program writes (`Engine.Draws`): pictures
that can be told as such and in which no other document begins at the end.

Main statement: `extract_exportTo`.
-/

namespace ThreatTree

open ThreatTree.Action

/-- A text that is told as a picture, and in which no comment of a document begins behind the root
element. A last line without its end counts as a line too. -/
def Embed.Svg.IsPicture (svg : List Char) : Prop :=
  svgTag <:+: svg ∧ ¬ opening <:+: afterRoot svg ++ ['\n']

/-- What a layout program writes when it succeeds: pictures, of the format that it is asked for. -/
structure Layout.Engine.Draws (engine : Layout.Engine) : Prop where
  vector : ∀ {r output errors svg}, r.format = "svg" → engine r = .finished 0 output errors →
    Text.Utf8.decode? output = some svg → Embed.Svg.IsPicture svg.toList
  raster : ∀ {r output errors}, r.format = "png" → engine r = .finished 0 output errors →
    ∃ image rest, Embed.Png.IsImage image ∧ output = image ++ rest

/-! ### The theme of a snapshot with a picture -/

/-- A graph with a node is written in a theme that there is. -/
theorem Dot.exists_theme_of_emit {g : Graph} {dot : String} (h : emit g = .ok dot)
    (hnodes : g.nodes ≠ []) : ∃ t : Theme, t.name = g.theme := by
  obtain ⟨n, ns, hg⟩ := List.exists_cons_of_ne_nil hnodes
  obtain ⟨lines, hlines, -⟩ := map_eq_ok_iff.mp h
  obtain ⟨nodes, hmap, -⟩ := bind_eq_ok_iff.mp hlines
  obtain ⟨line, hline⟩ := exists_mapM_eq_ok_iff.mp ⟨nodes, hmap⟩ n (by simp [hg])
  obtain ⟨t, ht⟩ := exists_theme_of_nodeLine hline
  exact ⟨t, ht.symm⟩

theorem Session.exists_theme_of_compile [SetOrder] {s : Session} {text : String} {c : Compiled}
    (h : s.compile text = .ok c) (hnodes : c.graph.nodes ≠ []) :
    ∃ t : Theme, t.name = c.graph.theme := by
  obtain ⟨d, -, hd⟩ := bind_eq_ok_iff.mp h
  obtain ⟨g, -, hg⟩ := bind_eq_ok_iff.mp hd
  obtain ⟨dot, hdot, hc⟩ := bind_eq_ok_iff.mp hg
  cases hc
  exact Dot.exists_theme_of_emit (mapError_eq_ok_iff.mp hdot) hnodes

namespace Session

variable {s : Session} {engine : Layout.Engine} {shot : Snapshot}

theorem exists_theme_of_coherent [SetOrder] (h : shot.Coherent s engine) (hrender : shot.hasRender = true) :
    ∃ t : Theme, t.name = shot.theme := by
  obtain ⟨-, c, hc, -, -, htheme, -⟩ := h.rendered hrender
  have hnodes : c.graph.nodes ≠ [] := by
    intro hnodes
    have hempty := h.attempted c hc
    rw [if_pos hnodes] at hempty
    simp [Snapshot.hasRender, hempty.1] at hrender
  rw [htheme]
  exact exists_theme_of_compile hc hnodes

theorem isPicture_of_coherent [SetOrder] (hdraws : engine.Draws) (h : shot.Coherent s engine)
    (hrender : shot.hasRender = true) : Embed.Svg.IsPicture shot.svg.toList := by
  obtain ⟨-, c, -, -, -, -, -, r, output, errors, hr, hanswer, hsvg⟩ := h.rendered hrender
  exact hdraws.vector (Layout.format_of_request? hr) hanswer hsvg

/-! ### Artifacts -/

/-- A document comes back from a picture. -/
theorem extract_vector (hsvg : Embed.Svg.IsPicture shot.svg.toList) :
    Embed.extract (Text.Utf8.encode (Embed.Svg.embed shot.svg shot.source)) =
      .document shot.source := by
  have hlast : ¬ Embed.Svg.opening <:+: Embed.Svg.afterRoot shot.svg.toList ++ [] := by
    intro h
    rw [List.append_nil] at h
    exact hsvg.2 (h.trans (List.prefix_append _ _).isInfix)
  have := Embed.extract_encode_embedChars [] [] shot.source hsvg.1 hlast
  rwa [List.nil_append, List.append_nil] at this

/-- A document comes back from a page. -/
theorem extract_page (hsvg : Embed.Svg.IsPicture shot.svg.toList) {before : List Char}
    {time page : String} (hpage : page.toList = before ++
      Embed.Svg.embedChars shot.svg.toList shot.source.toList ++
        (Page.footer time).toList) :
    Embed.extract (Text.Utf8.encode page) = .document shot.source := by
  have hlast := Page.not_opening_footer hsvg.2 time
  have := Embed.extract_encode_embedChars before _ shot.source hsvg.1 hlast
  rwa [← hpage, String.ofList_toList] at this

/-- A document comes back from every artifact but DOT text. Only a picture of points may be
missing. -/
theorem extract_artifact (hdraws : engine.Draws) (htheme : ∃ t : Theme, t.name = shot.theme)
    (hsvg : Embed.Svg.IsPicture shot.svg.toList)
    (hsource : (Text.Utf8.encode shot.source).length < 0x100000000) (time : String)
    {format : Format} (hformat : format ≠ .dot) :
    match s.artifact shot engine time format with
    | .ok bytes => Embed.extract bytes = .document shot.source
    | .error f => format = .png ∧ ∃ e, f = .layout e := by
  cases format with
  | dot => exact absurd rfl hformat
  | svg => exact extract_vector hsvg
  | html =>
    obtain ⟨t, ht⟩ := htheme
    obtain ⟨before, hbefore⟩ := Page.exists_render (c := shot.page time) ht
    obtain ⟨page, hrender, hpage⟩ := hbefore time
    rw [s.artifact_html shot hrender]
    exact extract_page hsvg hpage
  | png =>
    rw [artifact]
    cases hpng : (Layout.attempt engine (Layout.withDpi shot.dot s.settings.pngDpi) "png"
        s.program).result with
    | error e => exact ⟨rfl, e, rfl⟩
    | ok png =>
      obtain ⟨r, errors, hr, hanswer⟩ := Layout.exists_of_attempt_eq_ok hpng
      obtain ⟨image, rest, himage, rfl⟩ := hdraws.raster (Layout.format_of_request? hr) hanswer
      exact Embed.extract_append himage rest hsource

/-- **A document comes back from every export but DOT text:** if a text is shown with a picture, an
export ends with a file in which the text is found, or else a file operation has failed or there is
no picture of points. -/
theorem extract_exportTo [SetOrder] (s : Session) {text : String} {h : Host} {shot : Snapshot}
    (hdraws : h.engine.Draws) (hrefresh : ((s.refresh text).outcome h).1 = .ok shot)
    (hrender : shot.hasRender = true) (hsource : (Text.Utf8.encode text).length < 0x100000000)
    {p : Path} (hformat : Format.ofPath p ≠ .dot) {h' : Host} (hdraws' : h'.engine.Draws) :
    shot.source = text ∧
      match (s.exportTo shot p).outcome h' with
      | (.ok (), after) =>
        ∃ bytes, after.files.read p = .ok bytes ∧ Embed.extract bytes = .document text
      | (.error f, _) => (∃ e, f = .file e) ∨ Format.ofPath p = .png ∧ ∃ e, f = .layout e := by
  obtain ⟨j, -, hrun⟩ := s.outcome_refresh text h
  rw [hrun] at hrefresh
  obtain ⟨rfl, hcoherent⟩ := s.coherent_of_shown hrefresh
  have hartifact := s.extract_artifact hdraws' (exists_theme_of_coherent hcoherent hrender)
    (isPicture_of_coherent hdraws hcoherent hrender) hsource h'.time hformat
  have hwrites := s.writes_exportTo hrender p h'
  refine ⟨rfl, ?_⟩
  unfold Writes at hwrites
  rcases hexport : (s.exportTo shot p).outcome h' with ⟨f | ⟨⟩, after⟩ <;> rw [hexport] at hwrites
  · rcases hwrites with hfault | hfile
    · rw [hfault] at hartifact
      exact .inr hartifact
    · exact .inl hfile
  · obtain ⟨bytes, hbytes, hread⟩ := hwrites
    rw [hbytes] at hartifact
    exact ⟨bytes, hread, hartifact⟩

/-! ### A document with markup -/

attribute [local instance] SetOrder.written

/-- A picture of points without any. -/
def blankImage : Bytes :=
  Embed.Png.signature ++ be32 0 ++ Embed.Png.endName ++ [0xae, 0x42, 0x60, 0x82]

/-- A layout program that draws nothing but empty pictures. -/
def blankEngine : Layout.Engine := fun r =>
  if r.format = "svg" then .finished 0 (Text.Utf8.encode "<svg></svg>") []
  else .finished 0 blankImage []

theorem isImage_blankImage : Embed.Png.IsImage blankImage :=
  ⟨[], ⟨Embed.Png.endName, [], [0xae, 0x42, 0x60, 0x82], rfl, rfl, by decide⟩, by simp, rfl,
    by simp [blankImage, Embed.Png.Chunk.bytes]⟩

theorem isPicture_blank : Embed.Svg.IsPicture "<svg></svg>".toList :=
  ⟨⟨[], "></svg>".toList, by decide +kernel⟩, fun h => absurd h.length_le (by decide +kernel)⟩

theorem draws_blankEngine : blankEngine.Draws where
  vector {r output errors svg} hformat hanswer hsvg := by
    rw [blankEngine, if_pos hformat] at hanswer
    cases hanswer
    rw [Text.Utf8.decode?_encode] at hsvg
    cases hsvg
    exact isPicture_blank
  raster {r output errors} hformat hanswer := by
    rw [blankEngine, if_neg (by simp [hformat])] at hanswer
    cases hanswer
    exact ⟨blankImage, [], isImage_blankImage, (List.append_nil _).symm⟩

/-- A host without files. -/
def blankHost : Host :=
  ⟨.empty, [], blankEngine, "2024-01-02 03:04:05 UTC", fun _ => none, .warning, []⟩

/-- A session with the settings that nothing chooses. -/
def blankSession : Session := .start [] none .default

/-- A document that holds what ends a picture and what ends a comment. -/
def markupText : String := "facts: [a: '</svg>-->']"

/-- What is shown of it. -/
def markupShot : Snapshot :=
  ((blankSession.refresh markupText).outcome blankHost).1.toOption.getD .empty

theorem refresh_markupText :
    ((blankSession.refresh markupText).outcome blankHost).1 = .ok markupShot := by
  have hsome : ((blankSession.refresh markupText).outcome blankHost).1.toOption.isSome = true := by
    decide +kernel
  rw [markupShot]
  cases h : ((blankSession.refresh markupText).outcome blankHost).1 with
  | error f =>
    rw [h] at hsome
    cases hsome
  | ok shot => rfl

/-- The document can be exported as a page. -/
theorem exists_export_markup : ∃ after,
    (blankSession.exportTo markupShot (.ofString "t.Html")).outcome blankHost = (.ok (), after) :=
  exists_outcome_eq_ok (by decide +kernel)

/-- A document comes back from a page although it holds what ends a picture and a comment. -/
theorem extract_exportTo_markup :
    ∃ after bytes, (blankSession.exportTo markupShot (.ofString "t.Html")).outcome blankHost =
        (.ok (), after) ∧
      after.files.read (.ofString "t.Html") = .ok bytes ∧
      Embed.extract bytes = .document markupText := by
  obtain ⟨after, hexport⟩ := exists_export_markup
  have hdraws : blankHost.engine.Draws := draws_blankEngine
  have hfound := extract_exportTo blankSession (p := .ofString "t.Html") hdraws
    refresh_markupText (by decide +kernel) (by decide +kernel) (by decide +kernel) hdraws
  rw [hexport] at hfound
  obtain ⟨-, bytes, hread, hsource⟩ := hfound
  exact ⟨after, bytes, hexport, hread, hsource⟩

end Session
end ThreatTree
