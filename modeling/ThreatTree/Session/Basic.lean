import ThreatTree.Compile.Log
import ThreatTree.Host

/-!
# Sessions

A session shows one document as it changes. Each version is compiled and laid out into a `Snapshot`,
which later versions replace as a whole. A version with a problem of the document's has a snapshot
too, which says what is wrong and has no picture.
-/

namespace ThreatTree

/-- Everything that came of one version of a document. -/
structure Snapshot where
  source : String
  dot : String
  /-- The picture, empty if there is none. -/
  svg : String
  title : Option String
  theme : String
  categories : List Category
  error : Option String
  deriving DecidableEq, Repr

namespace Snapshot

/-- What a session shows before the first version. -/
def empty : Snapshot := ⟨"", "", "", none, Theme.defaultName, [], none⟩

/-- Whether there is a picture. -/
def hasRender (s : Snapshot) : Bool := s.svg ≠ ""

/-- The snapshot of a document that is rejected. -/
def rejected (source : String) (e : CompileError) : Snapshot :=
  { empty with source := source, error := some e.message }

/-- The snapshot of a compiled document with a picture, or with the reason that there is none. -/
def compiled (source : String) (c : Compiled) (svg : String) (error : Option String) :
    Snapshot where
  source := source
  dot := c.dot
  svg := svg
  title := c.graph.title
  theme := c.graph.theme
  categories := c.graph.categories
  error := error

end Snapshot

/-- What a session shows of its document, and by which settings. -/
structure Session where
  focus : Option (List String)
  theme : Option String
  settings : Settings
  /-- The way to arrange graphs: the one of the whole run, also if the settings are others. -/
  program : String

namespace Session

/-- A session that starts, with the settings of the whole run. An empty focus counts as none. -/
def start (focus : List String) (theme : Option String) (settings : Settings) : Session :=
  ⟨if focus.isEmpty then none else some focus, theme, settings, settings.engine⟩

/-- What a text compiles to. -/
def compile [SetOrder] (s : Session) (text : String) : Except CompileError Compiled :=
  ThreatTree.compile text s.focus s.theme s.settings.theme.name

/-- The log of compiling a text. -/
def compileLog [SetOrder] (s : Session) (text : String) : Journal :=
  ThreatTree.compileLog text s.focus s.theme s.settings.theme.name

/-- A log line of sessions. -/
def logLine (level : Level) (message : String) : Event := .log level "deciduous.session" message

/-- Lays out a compiled document. A layout program that fails is reported in the snapshot, and so is
a document that cannot be encoded. -/
def layOut (s : Session) (source : String) (c : Compiled) : Action Snapshot :=
  if c.graph.worthRendering then
    tryCatch
      (do
        let whole := Yaml.isWhole source c.dot
        return .compiled source c (← Action.vectorPicture c.dot s.program whole) none)
      (fun
        | .layout e => do
          Action.note (logLine .warning ("Layout failed: " ++ e.message))
          return .compiled source c "" (some e.message)
        | f => throw f)
  else return .compiled source c "" none

/-- The snapshot of a new version of the document. -/
def refresh [SetOrder] (s : Session) (text : String) : Action Snapshot := do
  Action.noteAll (s.compileLog text)
  match s.compile text with
  | .ok c => s.layOut text c
  | .error e =>
    if e.isReported then
      Action.note (logLine .info ("Document rejected: " ++ e.message))
      return .rejected text e
    else throw (.compile e)

/-- The snapshot of what a file holds now. -/
def refreshFile [SetOrder] (s : Session) (p : Path) : Action Snapshot := do
  s.refresh (← Action.readText p)

end Session
end ThreatTree
