import ThreatTree.Proofs.Command.Delivery
import ThreatTree.Proofs.Session.History

/-!
# Two ways to an embedded document

A DOT text with its document in it comes of an export to a file of that format, by way of a session and
the layout program, or of compiling with the document embedded, by way of neither. Both take the text,
the settings and the view in the same way, so where the first writes a file the second can, and what they
write is the same, if the two processes read the text alike.

Main statements: `compile_embeds_what_export_writes`, and `compile_embeds_otherwise` for what the second
way needs besides.
-/

namespace ThreatTree

open ThreatTree.Action

namespace Command

/-! ### What goes into a run -/

/-- Two hosts have the same variables and, under the same names, the same file of variables and the
same document. -/
structure SameInputs (h g : Host) (document : String) : Prop where
  vars : g.vars = h.vars
  listing : g.files.bytesOf? variableFile.toString = h.files.bytesOf? variableFile.toString
  named : g.files.isFile document = h.files.isFile document
  document : g.files.bytesOf? (Path.ofString document).toString =
    h.files.bytesOf? (Path.ofString document).toString

/-- What a command finds on a host before it writes anything: it may run, its document has a text, and
the text compiles in the view that is asked for. -/
structure Finds [SetOrder] (h : Host) (verbose : Bool) (document : String) (view : View)
    (text : String) (c : Compiled) : Prop where
  input : inputFile h.files document = .ok document
  theme : IsThemeChoice view.theme
  configured : ∃ loaded, configuredIn verbose h.files h.vars = .ok loaded
  reads : textIn h.files (.ofString document) = .ok text
  compiles : ∃ settings, settingsIn h.files h.vars = .ok settings ∧
    (Session.start view.focus view.theme settings).compile text = .ok c

/-- Arguments ask for an export of a document to a file. -/
def AsksExport (args : List String) (verbose : Bool) (document output : String) (view : View) :
    Prop :=
  ∃ a, Spells args verbose "export" a ∧ a.operands = [document] ∧
    a.value? outputSwitch = some output ∧ a.values focusSwitch = view.focus ∧
    a.value? themeSwitch = view.theme

/-- Arguments ask for the DOT text of a document, with the document in it, in a file. -/
def AsksEmbedding (args : List String) (verbose : Bool) (document output : String) (view : View) :
    Prop :=
  ∃ a, Spells args verbose "compile" a ∧ a.has embedSwitch = true ∧ a.operands = [document] ∧
    a.value? outputSwitch = some output ∧ a.values focusSwitch = view.focus ∧
    a.value? themeSwitch = view.theme

/-! ### The options -/

theorem inputFile_eq_ok_iff {files : Files} {name found : String} :
    inputFile files name = .ok found ↔
      checkName name = .ok () ∧ files.isFile name = true ∧ name = found := by
  unfold inputFile
  cases checkName name with
  | error f => simp [bind, Except.bind]
  | ok _ =>
    dsimp only [bind, Except.bind]
    split <;> simp [*, pure, Except.pure, throw, throwThe, MonadExceptOf.throw]

theorem outputFile_eq_ok_iff {files : Files} {name found : String} :
    outputFile files name = .ok found ↔
      checkName name = .ok () ∧ files.isDirectory name = false ∧ name = found := by
  unfold outputFile
  cases checkName name with
  | error f => simp [bind, Except.bind]
  | ok _ =>
    dsimp only [bind, Except.bind]
    split <;> simp [*, pure, Except.pure, throw, throwThe, MonadExceptOf.throw]

theorem view_eq_ok_iff {a : Arguments} {v : View} :
    view a = .ok v ↔ IsThemeChoice (a.value? themeSwitch) ∧
      ⟨a.values focusSwitch, a.value? themeSwitch⟩ = v := by
  rw [view, bind_eq_ok_iff, theme?]
  cases a.value? themeSwitch with
  | none => simp [IsThemeChoice, pure, Except.pure]
  | some name =>
    simp only [IsThemeChoice, Option.mem_some_iff, forall_eq', ← ofName?_eq_some_iff,
      ← Option.isSome_iff_exists]
    split <;> simp [*, pure, Except.pure]

variable {files : Files} {a : Arguments} {document output : String}

theorem ofArguments_export (hdocument : a.operands = [document])
    (houtput : a.value? outputSwitch = some output) :
    ofArguments files "export" a = (do
      let document ← inputFile files document
      let output ← outputFile files output
      return .exportTo document output (← view a)) := by
  simp only [ofArguments, operand, hdocument, Command.output, houtput]
  rfl

theorem ofArguments_compile (hdocument : a.operands = [document])
    (houtput : a.value? outputSwitch = some output) :
    ofArguments files "compile" a = (do
      let document ← inputFile files document
      let output ← some <$> outputFile files output
      return .compile document output (← view a) (a.has embedSwitch)) := by
  simp only [ofArguments, operand, hdocument, output?, houtput]
  rfl

/-! ### The export -/

section Export

variable [SetOrder]

/-- What an export that goes well has done: it took the settings, it made a snapshot, and wrote the
artifact if there is a picture. -/
theorem exists_of_runExport {loaded : Option Settings} {view : View} {h h' : Host}
    (hrun : (runExport loaded document output view).outcome h = (.ok (), h')) :
    ∃ settings shot h₁ h₂, (Command.settings loaded).outcome h = (.ok settings, h₁) ∧
      ((Session.start view.focus view.theme settings).refreshFile (.ofString document)).outcome h₁ =
        (.ok shot, h₂) ∧
      (h'.files = h₂.files ∨ shot.hasRender = true ∧ ∃ bytes,
        (Session.start view.focus view.theme settings).artifact shot h₂.engine h₂.time
          (Format.ofPath (.ofString output)) = .ok bytes ∧
        h'.files.read (.ofString output) = .ok bytes) := by
  obtain ⟨settings, h₁, hsettings, hrun⟩ := outcome_bind_eq_ok_iff.mp hrun
  obtain ⟨shot, h₂, hshot, hrun⟩ := outcome_bind_eq_ok_iff.mp hrun
  refine ⟨settings, shot, h₁, h₂, hsettings, hshot, ?_⟩
  split at hrun
  · cases hrun
  split at hrun
  · next hrender =>
    obtain ⟨_, h₃, hexport, hrun⟩ := outcome_bind_eq_ok_iff.mp hrun
    have hsame : h'.files = h₃.files := files_of_say hrun
    rw [outcome_tryCatch] at hexport
    rcases hfirst : (Session.exportTo _ shot (.ofString output)).outcome h₂ with ⟨f | ⟨⟩, h₄⟩
    · -- A fault is passed on or reported, and ends the run in either case.
      rw [hfirst] at hexport
      dsimp only at hexport
      split at hexport <;> cases hexport
    · rw [hfirst] at hexport
      cases hexport
      obtain ⟨bytes, hbytes, hread⟩ := Session.exists_artifact_of_exportTo _ hfirst
      exact .inr ⟨hrender, bytes, hbytes, hsame ▸ hread⟩
  · exact .inl (files_of_say hrun)

/-- **An export that writes a file found a text that compiles and can be encoded**, and wrote the DOT
text with it. -/
theorem exists_finds_of_export {h : Host} {args : List String} {verbose : Bool} {view : View}
    (hargs : AsksExport args verbose document output view) {pauses : List (List Change)}
    (hformat : Format.ofPath (.ofString output) = .dot)
    (hstatus : (h.run args pauses).1.status = 0) (hwritten : (h.run args pauses).2.files ≠ h.files) :
    ∃ text c, Finds h verbose document view text c ∧ Yaml.isWhole text c.dot = true ∧
      (h.run args pauses).2.files.read (.ofString output) =
        .ok (Text.Utf8.encode (Embed.Dot.embed c.dot text)) := by
  obtain ⟨a, hspells, hdocument, houtput, hfocus, htheme⟩ := hargs
  obtain ⟨command, loaded, start, hloaded, hstart, hcommand, hrun⟩ :=
    exists_start_of_dispatch hspells (Host.dispatch_eq_ok_of_status hstatus)
  -- the command
  rw [ofArguments_export hdocument houtput] at hcommand
  obtain ⟨_, hinput, hcommand⟩ := bind_eq_ok_iff.mp hcommand
  obtain rfl := (inputFile_eq_ok_iff.mp hinput).2.2
  obtain ⟨_, houtput, hcommand⟩ := bind_eq_ok_iff.mp hcommand
  obtain rfl := (outputFile_eq_ok_iff.mp houtput).2.2
  obtain ⟨v, hview, ⟨⟩⟩ := bind_eq_ok_iff.mp hcommand
  rw [view_eq_ok_iff, hfocus, htheme] at hview
  obtain ⟨hchoice, rfl⟩ := hview
  -- its snapshot
  obtain ⟨settings, shot, h₁, h₂, hsettings, hshot, hwrote⟩ := exists_of_runExport hrun
  obtain ⟨j, houtcome⟩ := hstart.outcome_settings
  obtain ⟨hsettings, rfl⟩ := Prod.ext_iff.mp (houtcome.symm.trans hsettings)
  obtain ⟨text, k, htext, hshown, rfl⟩ := Session.exists_shown_of_refreshFile hshot
  obtain hsame | ⟨hrender, bytes, hbytes, hread⟩ := hwrote
  · exact absurd (hsame.trans hstart.files_eq) hwritten
  obtain ⟨c, hc, hwhole⟩ := Session.exists_compile_of_hasRender hshown hrender
  obtain ⟨hdot, hsource⟩ := Session.dot_of_shown hshown hc
  rw [Host.noted_files, hstart.files_eq] at htext
  refine ⟨text, c, ⟨hinput, hchoice, ⟨loaded, hloaded⟩, htext, settings, hsettings, hc⟩, hwhole, ?_⟩
  rw [hformat] at hbytes
  have hbytes : Text.Utf8.encode (Embed.Dot.embed shot.dot shot.source) = bytes :=
    Except.ok.inj hbytes
  rw [hread, ← hbytes, hdot, hsource]

end Export

/-! ### Compiling -/

/-- What a command finds is in its inputs, and in the order of sets if the text has any. -/
theorem Finds.congr {o o' : SetOrder} {h g : Host} {verbose : Bool} {view : View} {text : String}
    {c : Compiled} (hfinds : @Finds o h verbose document view text c)
    (hinputs : SameInputs h g document) (halike : Yaml.ReadAlike o o' text) :
    @Finds o' g verbose document view text c := by
  obtain ⟨hinput, htheme, hconfigured, hreads, settings, hloaded, hc⟩ := hfinds
  have hsettings : settingsIn g.files g.vars = settingsIn h.files h.vars := by
    rw [hinputs.vars, settingsIn_congr _ hinputs.listing]
  rw [configuredIn, ← hsettings] at hconfigured
  rw [← hsettings] at hloaded
  rw [Session.compile_eq_of_readAlike halike] at hc
  refine @Finds.mk o' g verbose document view text c ?_ htheme hconfigured ?_ ⟨settings, hloaded, hc⟩
  · obtain ⟨hname, hfile, -⟩ := inputFile_eq_ok_iff.mp hinput
    exact inputFile_eq_ok_iff.mpr ⟨hname, hinputs.named.trans hfile, rfl⟩
  · rw [textIn_eq_ok_iff] at hreads ⊢
    rwa [hinputs.document]

/-- **Where a text compiles it can be embedded**, in any file that can be written, if the line about it
can be printed. -/
theorem run_of_finds [SetOrder] {g : Host} {args : List String} {verbose : Bool} {view : View}
    {text : String} {c : Compiled} (hargs : AsksEmbedding args verbose document output view)
    (hfinds : Finds g verbose document view text c) (hwhole : Yaml.isWhole text c.dot = true)
    (hwrite : CanWrite g.files output) (hprints : g.Prints ("DOT generated: " ++ output ++ "\n"))
    (pauses : List (List Change)) :
    (g.run args pauses).1.status = 0 ∧
      (g.run args pauses).2.files.read (.ofString output) =
        .ok (Text.Utf8.encode (Embed.Dot.embed c.dot text)) := by
  obtain ⟨a, hspells, hembed, hdocument, houtput, hfocus, htheme⟩ := hargs
  have hview : Command.view a = .ok view :=
    view_eq_ok_iff.mpr ⟨htheme ▸ hfinds.theme, by rw [hfocus, htheme]⟩
  have hcommand : ofArguments g.files "compile" a =
      .ok (.compile document (some output) view true) := by
    rw [ofArguments_compile hdocument houtput, hfinds.input, hwrite.accepted, hview, hembed]
    rfl
  obtain ⟨loaded, hloaded⟩ := hfinds.configured
  obtain ⟨settings, hsettings, hc⟩ := hfinds.compiles
  have hyields : (Job.compile document view true).Yields g (Embed.Dot.embed c.dot text)
      (Yaml.isWhole text (Embed.Dot.embed c.dot text)) :=
    .compile hfinds.reads hsettings hc (if_pos rfl)
  rw [Yaml.isWhole_embed hwhole] at hyields
  have hasks : Asks g args ((Job.compile document view true).command (some output)) :=
    ⟨verbose, loaded, _, a, hspells, hloaded, hcommand⟩
  exact run_writes hasks hwrite hyields hprints pauses

/-- **Compiling with the document embedded writes what an export of that format wrote.** The two runs
may be on two hosts, if these have the same variables and the same document, and in two processes, if
these read the text alike. -/
theorem compile_embeds_what_export_writes (o o' : SetOrder) {h g : Host} {args args' : List String}
    {verbose : Bool} {document x y : String} {view : View} (pauses pauses' : List (List Change))
    (hexport : AsksExport args verbose document x view)
    (hformat : Format.ofPath (.ofString x) = .dot)
    (hcompile : AsksEmbedding args' verbose document y view)
    (hinputs : SameInputs h g document)
    (halike : ∀ text, textIn h.files (.ofString document) = .ok text → Yaml.ReadAlike o o' text)
    (hwrite : CanWrite g.files y) (hprints : g.Prints ("DOT generated: " ++ y ++ "\n"))
    (hstatus : (@Host.run o h args pauses).1.status = 0)
    (hwritten : (@Host.run o h args pauses).2.files ≠ h.files) :
    (@Host.run o' g args' pauses').1.status = 0 ∧
      ∃ bytes, (@Host.run o h args pauses).2.files.read (.ofString x) = .ok bytes ∧
        (@Host.run o' g args' pauses').2.files.read (.ofString y) = .ok bytes := by
  obtain ⟨text, c, hfinds, hwhole, hread⟩ :=
    @exists_finds_of_export document x o h args verbose view hexport pauses hformat hstatus hwritten
  have hfinds' := hfinds.congr hinputs (halike text (@Finds.reads o h verbose document view text c hfinds))
  obtain ⟨hstatus', hread'⟩ :=
    @run_of_finds document y o' g args' verbose view text c hcompile hfinds' hwhole hwrite hprints pauses'
  exact ⟨hstatus', _, hread, hread'⟩

/-- A part of a document in a theme. -/
def classicPart : View := ⟨["a"], some "classic"⟩

def exportArguments : List String :=
  ["export", "d.yaml", "-f", "a", "--theme", "classic", "-o", "x.gv"]

def compileArguments : List String :=
  ["compile", "--embed-source", "--theme=classic", "--focus", "a", "d.yaml", "-oy.dot"]

theorem asksExport_exportArguments :
    AsksExport exportArguments false "d.yaml" "x.gv" classicPart :=
  ⟨_, ⟨_, _, _, rfl, rfl, rfl, rfl, rfl, rfl⟩, rfl, rfl, rfl, rfl⟩

theorem asksEmbedding_compileArguments :
    AsksEmbedding compileArguments false "d.yaml" "y.dot" classicPart :=
  ⟨_, ⟨_, _, _, rfl, rfl, rfl, rfl, rfl, rfl⟩, rfl, rfl, rfl, rfl, rfl⟩

/-- A host after the export. -/
def exported (h : Host) : Host := (@Host.run .written h exportArguments []).2

/-- Compiling after the export, in a process that lists sets in another order. -/
def compiledAfter (h : Host) : Outcome × Host := @Host.run .reversed (exported h) compileArguments []

/-- An export that leaves the inputs as they were, with room for the second file. -/
theorem inputs_of_exported {h : Host}
    (hsame : (exported h).vars = h.vars ∧
      (exported h).files.bytesOf? variableFile.toString = h.files.bytesOf? variableFile.toString ∧
      (exported h).files.isFile "d.yaml" = h.files.isFile "d.yaml" ∧
      (exported h).files.bytesOf? (Path.ofString "d.yaml").toString =
        h.files.bytesOf? (Path.ofString "d.yaml").toString ∧
      (exported h).files.isDirectory "y.dot" = false ∧
      (exported h).files.Ready (.ofString "y.dot") ∧
      (exported h).refusal? (Text.plain "DOT generated: y.dot\n") = none) :
    SameInputs h (exported h) "d.yaml" ∧ CanWrite (exported h).files "y.dot" ∧
      (exported h).Prints ("DOT generated: " ++ "y.dot" ++ "\n") := by
  obtain ⟨hvars, hlisting, hnamed, hdocument, hdirectory, hready, hprints⟩ := hsame
  exact ⟨⟨hvars, hlisting, hnamed, hdocument⟩,
    ⟨by decide, outputFile_eq_ok_iff.mpr ⟨rfl, hdirectory, rfl⟩, hready⟩, hprints⟩

/-- What a host with a document holds is the text of it. -/
theorem eq_of_textIn {h : Host} {p : Path} {text document : String} (htext : textIn h.files p = .ok text)
    (hdocument : (textIn h.files p).toOption = some document) : document = text := by
  rw [htext] at hdocument
  exact (Option.some.inj hdocument).symm

/-- An export, and compiling after it on the same host. -/
theorem compile_embeds_what_export_wrote :
    (@Host.run .written Watch.exampleHost exportArguments []).1.status = 0 ∧
      (exported Watch.exampleHost).files ≠ Watch.exampleHost.files ∧
      (compiledAfter Watch.exampleHost).1.status = 0 ∧
      ∃ bytes, (exported Watch.exampleHost).files.read (.ofString "x.gv") = .ok bytes ∧
        (compiledAfter Watch.exampleHost).2.files.read (.ofString "y.dot") = .ok bytes := by
  obtain ⟨hstatus, hwritten⟩ :
      (@Host.run .written Watch.exampleHost exportArguments []).1.status = 0 ∧
        (exported Watch.exampleHost).files ≠ Watch.exampleHost.files := by
    decide +kernel
  obtain ⟨hinputs, hwrite, hprints⟩ := inputs_of_exported (h := Watch.exampleHost) (by decide +kernel)
  have halike (text : String) (htext : textIn Watch.exampleHost.files (.ofString "d.yaml") = .ok text) :
      Yaml.ReadAlike .written .reversed text := by
    obtain rfl : "facts: [a]\n" = text := eq_of_textIn htext (by decide +kernel)
    exact Yaml.readAlike_oneFact _ _
  obtain ⟨hstatus', hsame⟩ :=
    compile_embeds_what_export_writes _ _ [] [] asksExport_exportArguments (by decide +kernel)
      asksEmbedding_compileArguments hinputs halike hwrite hprints hstatus hwritten
  exact ⟨hstatus, hwritten, hstatus', hsame⟩

/-! ### What else it takes -/

/-- A host with a document that has a set for its title. -/
def setHost : Host := Watch.hostWith Session.setDocument

/-- A host on which the name of the second file is that of a directory. -/
def directoryHost : Host :=
  { Watch.exampleHost with
    files := (Watch.exampleHost.files.makeDirectories (.ofString "y.dot")).1 }

/-- A host whose output stream does not take the line about the second file. -/
def silentHost : Host :=
  { Watch.exampleHost with
    refusal? := fun text => if text = "DOT generated: y.dot\n" then some .device else none }

/-- The second file need not be like the first one: its name may be that of a directory, the line about
it may not be printed, and two processes may show the set of a title in two orders. -/
theorem compile_embeds_otherwise :
    ((@Host.run .written directoryHost exportArguments []).1.status = 0 ∧
        (exported directoryHost).files ≠ directoryHost.files ∧
        (compiledAfter directoryHost).1.status ≠ 0) ∧
      ((@Host.run .written silentHost exportArguments []).1.status = 0 ∧
        (exported silentHost).files ≠ silentHost.files ∧
        (compiledAfter silentHost).1.status ≠ 0) ∧
      (@Host.run .written setHost exportArguments []).1.status = 0 ∧
        (exported setHost).files ≠ setHost.files ∧
        (compiledAfter setHost).1.status = 0 ∧
        (compiledAfter setHost).2.files.read (.ofString "y.dot") ≠
          (exported setHost).files.read (.ofString "x.gv") := by
  refine ⟨by decide +kernel, by decide +kernel, ?_⟩
  obtain ⟨hstatus, hwritten, hstatus', hwritten'⟩ :
      (@Host.run .written setHost exportArguments []).1.status = 0 ∧
        (exported setHost).files ≠ setHost.files ∧
        (@Host.run .reversed setHost exportArguments []).1.status = 0 ∧
        (@Host.run .reversed setHost exportArguments []).2.files ≠ setHost.files := by
    decide +kernel
  obtain ⟨hinputs, hwrite, hprints⟩ := inputs_of_exported (h := setHost) (by decide +kernel)
  have hformat : Format.ofPath (.ofString "x.gv") = .dot := by decide +kernel
  -- What the two processes make of the document, each by its own export.
  obtain ⟨text, c, hfinds, -, hread⟩ := @exists_finds_of_export _ _ .written _ _ _ _
    asksExport_exportArguments [] hformat hstatus hwritten
  obtain ⟨text', c', hfinds', hwhole, -⟩ := @exists_finds_of_export _ _ .reversed _ _ _ _
    asksExport_exportArguments [] hformat hstatus' hwritten'
  obtain ⟨hcompiled, hread'⟩ := @run_of_finds _ _ .reversed _ _ _ _ _ _
    asksEmbedding_compileArguments (hfinds'.congr hinputs rfl) hwhole hwrite hprints []
  refine ⟨hstatus, hwritten, hcompiled, fun hsame => ?_⟩
  obtain ⟨-, -, -, htext, settings, -, hc⟩ := hfinds
  obtain ⟨-, -, -, htext', settings', -, hc'⟩ := hfinds'
  obtain rfl : Session.setDocument = text := eq_of_textIn htext (by decide +kernel)
  obtain rfl : Session.setDocument = text' := eq_of_textIn htext' (by decide +kernel)
  have hbytes := Text.Utf8.encode_inj.mp (Except.ok.inj (hread'.symm.trans (hsame.trans hread)))
  exact Session.dot_ne_of_setDocument hc hc' (Embed.Dot.embed_left_inj hbytes)

end Command
end ThreatTree
