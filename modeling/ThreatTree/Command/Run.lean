import ThreatTree.Command.Basic
import ThreatTree.Example
import ThreatTree.Text.Upper
import ThreatTree.Watch

/-!
# Running commands

Each command is an action. `Command.request` reads arguments and sets up log lines,
`Command.dispatch` does what they ask for, and `Host.run` is a whole run, with its exit status and
the fault that ended it, if one did.
-/

namespace ThreatTree
namespace Command

open ThreatTree.Action

/-! ### Common steps -/

/-- Ends a run over a document that does not compile. -/
def reject {α : Type} (what : String) (e : CompileError) : Action α :=
  if e.isReported then fail (what ++ e.message) else throw (.compile e)

/-- The settings: those that are loaded already, or those of the host. -/
def settings (loaded : Option Settings) : Action Settings :=
  match loaded with
  | some s => pure s
  | none => loadSettings (.log .warning "dotenv.main")

/-- Writes a text to a file, or prints it if no file is named. The text can be encoded if it is
`whole`. -/
def deliver (output : Option String) (text what : String) (whole : Bool) : Action Unit :=
  match output.filter (· ≠ "") with
  | some name => do
    writeTextOf (.ofString name) text whole
    say (what ++ name)
  | none => print text whole

/-! ### The commands -/

/-- The lines about a graph that is valid. -/
def summary (g : Graph) : List String :=
  let count (c : Category) := (g.nodes.filter fun n => n.category = c && !n.implicit).length
  ["Validation successful!", "  Title: " ++ (g.title.filter (· ≠ "")).getD "(none)"]
    ++ Category.all.map (fun c => s!"  {c.heading}: {count c}")
    ++ [s!"  Edges: {g.edges.length}"]
    ++ if g.focus.isEmpty then [] else ["  Filter: " ++ String.intercalate ", " g.focus]

/-- Says whether a document is valid, and what is in it. -/
def runValidate [SetOrder] (document : String) : Action Unit := do
  let what := "Validation failed: "
  let text ← readText (.ofString document)
  noteAll (Document.textLog text)
  match Document.ofText text with
  | .error e => reject what e
  | .ok d =>
    noteAll (d.graphLog none Theme.defaultName)
    match d.toGraph none Theme.defaultName with
    | .error e => reject what (.document e)
    | .ok g => (summary g).forM fun line => print (line ++ "\n") (Yaml.isWhole text line)

/-- Writes the DOT text of a document. -/
def runCompile [SetOrder] (loaded : Option Settings) (document : String) (output : Option String)
    (view : View) (embed : Bool) : Action Unit := do
  let source ← readText (.ofString document)
  let session := Session.start view.focus view.theme (← settings loaded)
  noteAll (session.compileLog source)
  match session.compile source with
  | .error e => reject "Failed to compile: " e
  | .ok c =>
    let dot := if embed then Embed.Dot.embed c.dot source else c.dot
    deliver output dot "DOT generated: " (Yaml.isWhole source dot)

/-- The line about a picture that is written. -/
def exportedLine (p : Path) : String := s!"Exported: {p}"

/-- Writes a picture of a document. -/
def runExport [SetOrder] (loaded : Option Settings) (document output : String) (view : View) :
    Action Unit := do
  let session := Session.start view.focus view.theme (← settings loaded)
  let shot ← session.refreshFile (.ofString document)
  match shot.error with
  | some e => fail ("Failed to render: " ++ e)
  | none =>
    if shot.hasRender then
      let path := Path.ofString output
      tryCatch (session.exportTo shot path)
        (fun f => if f.isOwn then fail ("Failed to export: " ++ f.message) else throw f)
      say (exportedLine path)
    else say "Nothing to render in this document."

/-- Recovers the document of an artifact. -/
def runExtract (artifact : String) (output : Option String) : Action Unit := do
  match Embed.extract (← readBytes (.ofString artifact)) with
  | .illFormed => throw .notText
  | .nothing => fail ("No embedded document found in " ++ artifact)
  | .document source => deliver output source "Document recovered: " true

/-- The lines about an example that is written. -/
def nextSteps (p : Path) : List String :=
  ["Example threat tree created!", s!"  Location: {p}", "\nNext steps:",
    s!"  1. Edit {p} to describe your own system",
    s!"  2. Run: deciduous export {p} -o " ++ (p.withSuffix ".svg").toString]

/-- Writes the example. -/
def runInit (path : String) : Action Unit := do
  let target := Path.ofString path
  if ← lift .file ((← get).files.pathExists target) then fail ("File already exists: " ++ path)
  makeDirectories target.parent
  writeText target exampleDocument
  (nextSteps target).forM say

/-- The watch that a command asks for. An interval of zero counts as none. -/
def startWatch (loaded : Option Settings) (document output : String) (interval : Option Float)
    (view : View) : Action Watch := do
  let session := Session.start view.focus view.theme (← settings loaded)
  say ("Watching " ++ document)
  let interval := (interval.filter (· != 0)).getD session.settings.watchInterval
  return ⟨.ofString document, .ofString output, session, interval⟩

/-- Runs a command. -/
def run [SetOrder] (loaded : Option Settings) (pauses : List (List Change)) : Command → Action Unit
  | validate document => runValidate document
  | compile document output view embed => runCompile loaded document output view embed
  | exportTo document output view => runExport loaded document output view
  | extract artifact output => runExtract artifact output
  | init path => runInit path
  | watch document output interval view => do
    (← startWatch loaded document output interval view).run none pauses
    say "\nStopped."

/-! ### The whole run -/

/-- Chooses the log lines that appear. A run that is not verbose takes the level from its settings,
which are loaded then. -/
def configure (verbose : Bool) : Action (Option Settings) := do
  if verbose then
    modify fun h => { h with threshold := .debug }
    return none
  else
    let s ← loadSettings .notice
    match Level.ofLabel? (Text.upper s.logLevel) with
    | none => throw (.noLevel (Text.upper s.logLevel))
    | some level =>
      modify fun h => { h with threshold := level }
      return some s

/-- The version of the program. -/
def version : String := "1.0.0"

/-- What arguments ask for. -/
inductive Request where
  | version
  /-- A command, with the settings if they are loaded already. -/
  | command (c : Command) (loaded : Option Settings)

/-- Reads arguments. The options before the name of a command are read and take effect before the
arguments of the command are looked at. -/
def request (args : List String) : Action Request := do
  match Arguments.read generalSwitches false args with
  | none => throw .usage
  | some a =>
    if a.has versionSwitch then return .version
    else
      match a.operands with
      | [] => throw .usage
      | name :: rest =>
        if (switches? name).isNone then throw .usage
        else
          let loaded ← configure (a.has verboseSwitch)
          return .command (← lift id (read (← get).files name rest)) loaded

/-- Does what arguments ask for. -/
def dispatch [SetOrder] (args : List String) (pauses : List (List Change)) : Action Unit := do
  match ← request args with
  | .version => say ("deciduous, version " ++ version)
  | .command c loaded => c.run loaded pauses

end Command

/-- How a run ended. -/
structure Outcome where
  status : Nat
  /-- The fault that nobody reported. -/
  fault : Option Fault

namespace Outcome

/-- The outcome of an action that ended with a value or a fault. -/
def of : Except Fault Unit → Outcome
  | .ok _ => ⟨0, none⟩
  | .error .usage => ⟨2, none⟩
  | .error .reported => ⟨1, none⟩
  | .error f => ⟨1, some f⟩

end Outcome

/-- A host at the start of a run. -/
def Host.fresh (h : Host) : Host := { h with journal := [], threshold := .warning }

/-- A run of the program on a host. -/
def Host.run [SetOrder] (h : Host) (args : List String) (pauses : List (List Change)) : Outcome × Host :=
  let (r, h) := (Command.dispatch args pauses).run h.fresh
  (.of r, h)

end ThreatTree
