import ThreatTree.Proofs.Command.Line
import ThreatTree.Proofs.Session.Process
import ThreatTree.Proofs.Text.Terminal
import ThreatTree.Proofs.Watch.Survival

/-!
# Printing a text and writing it

Compiling and recovering a document end alike: a text is there (`Job.Yields`), and it is printed or
written to a file that the user names. Nothing is printed before it, whatever the settings and log lines,
so the output stream has the text without its terminal commands, and the file has the bytes of all of it
(`run_prints`, `run_writes`). Two runs of one process that way differ exactly if there is a terminal
command in the text. For a text that cannot be encoded, or that the output stream does not take, there
is neither.

Main statement: `printed_eq_written_iff`.
-/

namespace ThreatTree

open ThreatTree.Action

/-- Compiling prints nothing. -/
theorem Session.output_compileLog [SetOrder] (s : Session) (text : String) :
    Journal.output (s.compileLog text) = "" := by
  apply Journal.output_eq_empty
  intro e he
  obtain ⟨_, _, _, rfl⟩ := exists_log_of_mem_compileLog he
  rfl

namespace Command

/-- A command can write to a file: its name is not empty, it is no directory, and the directory that it
is in is there. -/
structure CanWrite (files : Files) (output : String) : Prop where
  named : output ≠ ""
  accepted : outputFile files output = .ok output
  ready : files.Ready (.ofString output)

/-! ### Jobs -/

/-- What there is to deliver: the DOT text of a document in a view, with or without the document in it,
or the document of an artifact. -/
inductive Job where
  | compile (document : String) (view : View) (embed : Bool)
  | extract (artifact : String)

/-- The command for a job; what is delivered is printed if no file is named. -/
def Job.command (output : Option String) : Job → Command
  | .compile document view embed => .compile document output view embed
  | .extract artifact => .extract artifact output

/-- What the reader is told of a file that is written. -/
def Job.what : Job → String
  | .compile .. => "DOT generated: "
  | .extract _ => "Document recovered: "

section Jobs

variable [SetOrder]

/-- A job comes to a text on a host, which can be encoded or not. -/
inductive Job.Yields (h : Host) : Job → String → Bool → Prop
  /-- A document is accepted. -/
  | compile {document source dot : String} {view : View} {embed : Bool} {settings : Settings}
      {c : Compiled} (hreads : textIn h.files (.ofString document) = .ok source)
      (hsettings : settingsIn h.files h.vars = .ok settings)
      (hcompiles : (Session.start view.focus view.theme settings).compile source = .ok c)
      (hdot : (if embed then Embed.Dot.embed c.dot source else c.dot) = dot) :
      Yields h (.compile document view embed) dot (Yaml.isWhole source dot)
  /-- An artifact has a document in it. -/
  | extract {artifact source : String} {bytes : Bytes}
      (hreads : h.files.read (.ofString artifact) = .ok bytes)
      (hholds : Embed.extract bytes = .document source) : Yields h (.extract artifact) source true

variable {h start : Host} {args : List String} {job : Job} {text output : String} {whole : Bool}

/-- A job whose text is there ends with its delivery, and prints nothing before. -/
theorem Job.Yields.exists_deliver {loaded : Option Settings} (hyields : job.Yields h text whole)
    (hstart : Starts h loaded start) (output : Option String) (pauses : List (List Change)) :
    ∃ j : Journal, (start.noted j).journal.output = "" ∧
      ((job.command output).run loaded pauses).outcome start =
        (deliver output text job.what whole).outcome (start.noted j) := by
  cases hyields with
  | compile hreads hsettings hcompiles hdot =>
    rename_i document source view embed settings c
    obtain ⟨j, hloaded⟩ := hstart.outcome_settings
    rw [hsettings] at hloaded
    have hread : (readText (.ofString document)).outcome start = (.ok source, start) := by
      rw [outcome_readText, hstart.files_eq, hreads]
    have hmute := (mute_settings loaded start).1
    rw [hloaded] at hmute
    refine ⟨j ++ (Session.start view.focus view.theme settings).compileLog source, ?_, ?_⟩
    · rw [← Host.noted_noted, Host.noted_journal, Journal.output_append, Session.output_compileLog,
        String.append_empty, ← hmute, hstart.output]
    · show (runCompile loaded document output view embed).outcome start = _
      rw [runCompile, outcome_bind_ok hread, outcome_bind_ok hloaded,
        outcome_bind_ok (outcome_noteAll _ _), hcompiles, ← Host.noted_noted]
      dsimp only
      rw [hdot]
      rfl
  | @extract artifact source bytes hreads hholds =>
    have hread : (readBytes (.ofString artifact)).outcome start = (.ok bytes, start) := by
      rw [outcome_readBytes, hstart.files_eq, hreads]
      rfl
    refine ⟨[], by simpa using hstart.output, ?_⟩
    show (runExtract artifact output).outcome start = _
    rw [runExtract, outcome_bind_ok hread, hholds]
    simp [Host.noted, Job.what]

/-- **A run that is asked for a job ends with the delivery of its text**, on the files of the host and
with nothing printed before. -/
theorem exists_dispatch_eq_deliver {output : Option String} (hargs : Asks h args (job.command output))
    (hyields : job.Yields h text whole) (pauses : List (List Change)) :
    ∃ h₁, h₁.files = h.files ∧ h₁.refusal? = h.refusal? ∧ h₁.journal.output = "" ∧
      (dispatch args pauses).outcome h.fresh = (deliver output text job.what whole).outcome h₁ := by
  obtain ⟨loaded, start, hstart, hrun⟩ := hargs.exists_dispatch pauses
  obtain ⟨j, houtput, hdeliver⟩ := hyields.exists_deliver hstart output pauses
  exact ⟨start.noted j, hstart.files_eq, hstart.refusal?_eq, houtput, hrun.trans hdeliver⟩

end Jobs

/-! ### Both ways of delivery -/

theorem deliver_some {output : String} (hnamed : output ≠ "") (text what : String) (whole : Bool) :
    deliver (some output) text what whole = (do
      writeTextOf (.ofString output) text whole
      say (what ++ output)) := by
  have hfilter : (some output).filter (· ≠ "") = some output := by simp [hnamed]
  rw [deliver, hfilter]

/-- What is delivered to a file is there afterwards, no other file is changed, and the reader is told of
it. -/
theorem exists_outcome_deliver {h : Host} {output : String} (hnamed : output ≠ "")
    (hready : h.files.Ready (.ofString output)) (text what : String) :
    ∃ files, h.files.OnlyAt files (.ofString output) (Text.Utf8.encode text) ∧
      (deliver (some output) text what true).outcome h =
        (say (what ++ output)).outcome (h.withFiles files) := by
  obtain ⟨files, hfiles, -⟩ := hready.exists_write (Text.Utf8.encode text)
  have hwritten : (writeTextOf (.ofString output) text true).outcome h =
      (.ok (), h.withFiles files) := by
    rw [writeTextOf, if_pos rfl, writeText, outcome_writeBytes, hfiles]
  refine ⟨files, Files.onlyAt_write hfiles, ?_⟩
  rw [deliver_some hnamed, outcome_bind_ok hwritten]

section Runs

variable [SetOrder] {h : Host} {args : List String} {job : Job} {text output : String}

/-- **A run that names no file prints the text** without its terminal commands, and nothing else. -/
theorem run_prints (hargs : Asks h args (job.command none)) (hyields : job.Yields h text true)
    (hprints : h.Prints text) (pauses : List (List Change)) :
    (h.run args pauses).1.status = 0 ∧
      (h.run args pauses).2.journal.output = Text.plain text := by
  obtain ⟨h₁, -, hrefusal, houtput, hrun⟩ := exists_dispatch_eq_deliver hargs hyields pauses
  have hprinted : (deliver none text job.what true).outcome h₁ =
      (.ok (), h₁.noted [.print text]) :=
    outcome_print_of_prints (by rwa [Host.Prints, hrefusal])
  rw [Host.run_eq_of_dispatch (hrun.trans hprinted)]
  refine ⟨rfl, ?_⟩
  rw [Host.noted_journal, Journal.output_append, houtput, String.empty_append]
  simp [Journal.output, String.join, Event.output]

/-- **A run that names a file writes the text to it**, and goes well if the line about it is printed. -/
theorem run_writes (hargs : Asks h args (job.command (some output)))
    (hwrite : CanWrite h.files output) (hyields : job.Yields h text true)
    (hprints : h.Prints (job.what ++ output ++ "\n")) (pauses : List (List Change)) :
    (h.run args pauses).1.status = 0 ∧
      (h.run args pauses).2.files.read (.ofString output) = .ok (Text.Utf8.encode text) := by
  obtain ⟨h₁, hfiles, hrefusal, -, hrun⟩ := exists_dispatch_eq_deliver hargs hyields pauses
  have hready : h₁.files.Ready (.ofString output) := hfiles ▸ hwrite.ready
  obtain ⟨files, ⟨hread, -⟩, hdeliver⟩ := exists_outcome_deliver hwrite.named hready text job.what
  have hsaid : (say (job.what ++ output)).outcome (h₁.withFiles files) =
      (.ok (), (h₁.withFiles files).noted [.print (job.what ++ output ++ "\n")]) :=
    outcome_print_of_prints (by rwa [Host.Prints, Host.withFiles_refusal?, hrefusal])
  rw [Host.run_eq_of_dispatch (hrun.trans (hdeliver.trans hsaid))]
  exact ⟨rfl, hread⟩

end Runs

/-- **What is printed is what is written to a file exactly if the one text is the other without its
terminal commands.** Both runs go well, for every document that is accepted, in every view, with the
document in the DOT text or without, and for every artifact with a document in it, as far as the texts can
be encoded and the output stream takes what is printed. Two processes may read a document with a set in
it to different texts; where the texts are the same one, it must have no terminal command. -/
theorem printed_eq_written_iff (o o' : SetOrder) {h : Host} {args args' : List String} {job : Job}
    {text text' output : String} (pauses pauses' : List (List Change))
    (hprint : Asks h args (job.command none)) (hfile : Asks h args' (job.command (some output)))
    (hwrite : CanWrite h.files output)
    (hyields : @Job.Yields o h job text true) (hyields' : @Job.Yields o' h job text' true)
    (htext : h.Prints text) (hline : h.Prints (job.what ++ output ++ "\n")) :
    (@Host.run o h args pauses).1.status = 0 ∧ (@Host.run o' h args' pauses').1.status = 0 ∧
      (@Host.run o h args pauses).2.journal.output = Text.plain text ∧
      (@Host.run o' h args' pauses').2.files.read (.ofString output) =
        .ok (Text.Utf8.encode text') ∧
      ((@Host.run o' h args' pauses').2.files.read (.ofString output) =
          .ok (Text.Utf8.encode (@Host.run o h args pauses).2.journal.output) ↔
        text' = Text.plain text) ∧
      (text' = text →
        ((@Host.run o' h args' pauses').2.files.read (.ofString output) =
            .ok (Text.Utf8.encode (@Host.run o h args pauses).2.journal.output) ↔
          ¬ Text.HasCommand text.toList)) := by
  obtain ⟨hstatus, hprinted⟩ := @run_prints o _ _ _ _ hprint hyields htext pauses
  obtain ⟨hstatus', hread⟩ := @run_writes o' _ _ _ _ _ hfile hwrite hyields' hline pauses'
  refine ⟨hstatus, hstatus', hprinted, hread, ?_, ?_⟩
  · rw [hread, hprinted, Except.ok.injEq]
    exact Text.Utf8.encode_inj
  · rintro rfl
    rw [hread, hprinted, Except.ok.injEq, Text.Utf8.encode_inj, eq_comm, Text.plain_eq_self_iff]

/-! ### A text without commands -/

attribute [local instance] SetOrder.written

/-- A host with a document, and with an artifact that another text is in. -/
def deliveryHost (document recovered : String) : Host :=
  { Watch.exampleHost with
    files := ⟨[(["d.yaml"], .file (Text.Utf8.encode document) (.change 0)),
      (["x.gv"], .file (Text.Utf8.encode (Embed.Dot.embed "digraph \x7b\n\x7d\n" recovered)) (.change 0))],
      1⟩ }

/-- A host without terminal commands. -/
def plainHost : Host := deliveryHost "facts: [a]\n" "facts: [b]\n"

/-- The document of an artifact, printed and written over another one. -/
theorem printed_eq_written_plain :
    (plainHost.run ["-v", "extract", "x.gv"] []).1.status = 0 ∧
      (plainHost.run ["-v", "extract", "x.gv", "-o", "d.yaml"] []).1.status = 0 ∧
      (plainHost.run ["-v", "extract", "x.gv", "-o", "d.yaml"] []).2.files.read (.ofString "d.yaml") =
        .ok (Text.Utf8.encode (plainHost.run ["-v", "extract", "x.gv"] []).2.journal.output) := by
  have hprint : Asks plainHost ["-v", "extract", "x.gv"] ((Job.extract "x.gv").command none) :=
    ⟨true, none, _, _, ⟨_, _, _, rfl, rfl, rfl, rfl, rfl, rfl⟩, rfl, rfl⟩
  have hfile : Asks plainHost ["-v", "extract", "x.gv", "-o", "d.yaml"]
      ((Job.extract "x.gv").command (some "d.yaml")) :=
    ⟨true, none, _, _, ⟨_, _, _, rfl, rfl, rfl, rfl, rfl, rfl⟩, rfl, rfl⟩
  have hwrite : CanWrite plainHost.files "d.yaml" := ⟨by decide, rfl, by decide +kernel⟩
  have hyields : (Job.extract "x.gv").Yields plainHost "facts: [b]\n" true :=
    .extract rfl (by decide +kernel)
  obtain ⟨hstatus, hstatus', -, -, -, hiff⟩ :=
    printed_eq_written_iff _ _ [] [] hprint hfile hwrite hyields hyields rfl rfl
  refine ⟨hstatus, hstatus', (hiff rfl).mpr ?_⟩
  rw [← Text.plain_eq_self_iff]
  decide +kernel

/-! ### A label with commands -/

/-- The DOT text of a document has the name of each node of its graph. -/
theorem hasCommand_of_node {s : Session} {text : String} {c : Compiled} (hc : s.compile text = .ok c) {n : Node}
    (hn : n ∈ c.graph.nodes) (hname : Text.HasCommand (Dot.nameOf n.id).toList) :
    Text.HasCommand c.dot.toList := by
  obtain ⟨command, hcommand, hinfix⟩ := hname
  exact ⟨command, hcommand, hinfix.trans (Dot.name_infix_of_emit (Session.emit_of_compile hc) hn)⟩

/-- A name that a terminal shows in bold letters from its second one on. -/
def boldName : String := "a\x1b[1mb"

/-- A host with a node of that name, and with an artifact that the name is in. -/
def boldHost : Host := deliveryHost "facts: [\"a\\e[1mb\"]\n" boldName

/-- The name has its command in quotes too. -/
theorem hasCommand_boldName : Text.HasCommand (Dot.nameOf boldName).toList := by
  have hname : (Dot.nameOf boldName).toList =
      ['"', 'a'] ++ ['\x1b', '[', '1', 'm'] ++ ['b', '"'] := by decide +kernel
  rw [hname]
  exact ⟨_, ⟨['1'], [], 'm', rfl, List.all_eq_true.mp (by decide), by simp, by decide⟩,
    List.infix_append _ _ _⟩

/-- The document of the host is accepted. -/
theorem exists_yields_boldHost :
    ∃ text, (Job.compile "d.yaml" ⟨[], none⟩ false).Yields boldHost text true ∧
      Text.HasCommand text.toList := by
  have hchain : (do
      let settings ← settingsIn boldHost.files boldHost.vars
      let source ← textIn boldHost.files (.ofString "d.yaml")
      let c ← ((Session.start [] none settings).compile source).mapError Fault.compile
      return (c.graph.nodes.map Node.id,
        (Yaml.Surrogate.named source.toList).any Yaml.Surrogate.isHalf)) = .ok ([boldName], false) :=
    toOption_eq_some_iff.mp (by decide +kernel)
  obtain ⟨settings, hsettings, hchain⟩ := bind_eq_ok_iff.mp hchain
  obtain ⟨source, hreads, hchain⟩ := bind_eq_ok_iff.mp hchain
  obtain ⟨c, hc, hfound⟩ := bind_eq_ok_iff.mp hchain
  have hc := mapError_eq_ok_iff.mp hc
  simp only [pure, Except.pure, Except.ok.injEq, Prod.mk.injEq] at hfound
  obtain ⟨hids, hnamed⟩ := hfound
  obtain ⟨n, hn, hname⟩ : ∃ n ∈ c.graph.nodes, n.id = boldName :=
    List.mem_map.mp (hids ▸ List.mem_singleton_self boldName)
  have hyields : (Job.compile "d.yaml" ⟨[], none⟩ false).Yields boldHost c.dot
      (Yaml.isWhole source c.dot) := .compile hreads hsettings hc (if_neg (by simp))
  rw [Yaml.isWhole_of_named hnamed] at hyields
  exact ⟨_, hyields, hasCommand_of_node hc hn (hname ▸ hasCommand_boldName)⟩

/-- A name with a terminal command in it is written with it and printed without, in the DOT text of a
document and in what is recovered from an artifact. -/
theorem printed_ne_written_command :
    ((boldHost.run ["-v", "compile", "d.yaml"] []).1.status = 0 ∧
      (boldHost.run ["-v", "compile", "d.yaml", "-o", "text.gv"] []).1.status = 0 ∧
      (boldHost.run ["-v", "compile", "d.yaml", "-o", "text.gv"] []).2.files.read
          (.ofString "text.gv") ≠
        .ok (Text.Utf8.encode (boldHost.run ["-v", "compile", "d.yaml"] []).2.journal.output)) ∧
    (boldHost.run ["extract", "x.gv"] []).1.status = 0 ∧
      (boldHost.run ["extract", "x.gv", "-o", "d.yaml"] []).1.status = 0 ∧
      (boldHost.run ["extract", "x.gv", "-o", "d.yaml"] []).2.files.read (.ofString "d.yaml") ≠
        .ok (Text.Utf8.encode (boldHost.run ["extract", "x.gv"] []).2.journal.output) := by
  constructor
  · have hprint : Asks boldHost ["-v", "compile", "d.yaml"]
        ((Job.compile "d.yaml" ⟨[], none⟩ false).command none) :=
      ⟨true, none, _, _, ⟨_, _, _, rfl, rfl, rfl, rfl, rfl, rfl⟩, rfl, rfl⟩
    have hfile : Asks boldHost ["-v", "compile", "d.yaml", "-o", "text.gv"]
        ((Job.compile "d.yaml" ⟨[], none⟩ false).command (some "text.gv")) :=
      ⟨true, none, _, _, ⟨_, _, _, rfl, rfl, rfl, rfl, rfl, rfl⟩, rfl, rfl⟩
    have hwrite : CanWrite boldHost.files "text.gv" := ⟨by decide, rfl, by decide +kernel⟩
    obtain ⟨text, hyields, hcommand⟩ := exists_yields_boldHost
    obtain ⟨hstatus, hprinted⟩ := run_prints hprint hyields rfl []
    obtain ⟨hstatus', hread⟩ := run_writes hfile hwrite hyields rfl []
    refine ⟨hstatus, hstatus', ?_⟩
    rw [hread, hprinted, ne_eq, Except.ok.injEq, Text.Utf8.encode_inj, eq_comm, Text.plain_eq_self_iff, not_not]
    exact hcommand
  · simp only [ne_eq, Files.read_eq_ok_iff]
    decide +kernel

end Command
end ThreatTree
