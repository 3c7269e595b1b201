import ThreatTree.Compile
import ThreatTree.Files.Basic
import ThreatTree.Journal
import ThreatTree.Layout.Resolution
import ThreatTree.Settings.Basic

/-!
# Hosts

A host is where a run happens: files, variables, a layout program, a clock, an output stream, and the
journal of what the run did. An `Action` is a step of a run: it may change the host, and it ends with
a value or with a `Fault`. What a step changed before its fault stays changed.

Texts that are written or printed come with the answer to whether they can be encoded at all
(`whole`), since a document may have half of a surrogate pair in it (`Yaml.isWhole`).
-/

namespace ThreatTree

/-- Why the output stream does not take a text. -/
inductive Refusal where
  /-- There are no bytes for a character. Half of a surrogate pair has none in any encoding, and a file's
  name may have characters without bytes too: those that stand for bytes of no character. -/
  | encoding
  /-- The text cannot be brought out. -/
  | device
  deriving DecidableEq, Repr

/-- Why a run stops before its end. -/
inductive Fault where
  /-- A document does not compile. -/
  | compile (e : CompileError)
  /-- There is no picture. -/
  | layout (e : Layout.LayoutError)
  /-- The look of a node is unknown. -/
  | style (e : StyleError)
  /-- Nothing is there to export. -/
  | nothingRendered
  /-- A file operation failed. -/
  | file (e : FileError)
  /-- Bytes that should be a text are none. -/
  | notText
  /-- There are no bytes for a text that should be in a file. -/
  | notEncodable
  /-- The output stream does not take a text. -/
  | unprinted (text : String) (r : Refusal)
  /-- Settings have bad values. -/
  | settings (bad : List Setting)
  /-- A name is no level of log lines. -/
  | noLevel (name : String)
  /-- The arguments of the command line make no command. -/
  | usage
  /-- The problem is reported already. -/
  | reported

namespace Fault

/-- The wording of a fault. -/
def message : Fault → String
  | compile e => e.message
  | layout e => e.message
  | style e => e.message
  | nothingRendered => "No rendered threat tree to export"
  | file e => e.message
  | notText => "The file is no text"
  | notEncodable | unprinted _ .encoding => "The text cannot be encoded"
  | unprinted _ .device => "The text cannot be printed"
  | settings bad => "Bad settings: " ++ String.intercalate ", " (bad.map Setting.name)
  | noLevel name => "Unknown level: " ++ Text.quote name
  | usage => ""
  | reported => ""

/-- Whether a fault is one that this program makes itself, about a document or a picture. -/
def isOwn : Fault → Bool
  | compile (.emit (.style _)) => true
  | compile e => e.isReported
  | layout _ | style _ | nothingRendered => true
  | _ => false

/-- Whether a program that goes on working reports a fault and tries again: one of its own, or one
of the operating system. -/
def isExpected (f : Fault) : Bool :=
  f.isOwn || match f with
    | file e => e.obstacle ≠ .nullCharacter
    | unprinted _ r => r = .device
    | _ => false

end Fault

/-- Where a run happens. -/
structure Host where
  files : Files
  vars : Variables
  engine : Layout.Engine
  /-- The time of the clock, as pages show it. -/
  time : String
  /-- Why the output stream does not take a text, without its terminal commands, if it does not. -/
  refusal? : String → Option Refusal
  /-- The log lines that appear. -/
  threshold : Level
  journal : Journal

/-- Why a text is not printed, if it is not. The text can be encoded if it is `whole`. -/
def Host.refused? (h : Host) (text : String) (whole : Bool) : Option Refusal :=
  if whole then h.refusal? (Text.plain text) else some .encoding

/-- Something that others do to a host while a run pauses. -/
inductive Change where
  /-- A file is written, at a time if one is given; missing directories are made. -/
  | write (path : Path) (bytes : Bytes) (stamp : Option Stamp)
  | delete (path : Path)
  | makeDirectory (path : Path)
  | engine (e : Layout.Engine)

namespace Change

/-- Files with a file written in a directory that is made if it is missing. -/
def writeInto (fs : Files) (p : Path) (bytes : Bytes) (stamp : Option Stamp) : Files :=
  let fs := (fs.makeDirectories p.parent).1
  (fs.writeStamped p bytes (stamp.getD fs.nextStamp)).toOption.getD fs

/-- A host after a change. What cannot be changed stays as it is. -/
def apply (h : Host) : Change → Host
  | write p bytes stamp => { h with files := writeInto h.files p bytes stamp }
  | delete p => { h with files := h.files.delete p }
  | makeDirectory p => { h with files := (h.files.makeDirectories p).1 }
  | engine e => { h with engine := e }

end Change

/-- A step of a run. -/
abbrev Action := ExceptT Fault (StateM Host)

namespace Action

/-- Notes some events. -/
def noteAll (j : Journal) : Action Unit := modify fun h => { h with journal := h.journal ++ j }

/-- Notes an event. -/
def note (e : Event) : Action Unit := noteAll [e]

/-- Prints a text, which can be encoded if it is `whole`. -/
def print (text : String) (whole : Bool) : Action Unit := do
  match (← get).refused? text whole with
  | some r => throw (.unprinted text r)
  | none => note (.print text)

/-- Prints a line. -/
def say (line : String) : Action Unit := print (line ++ "\n") true

/-- Prints a line for the reader's attention. -/
def alert (line : String) : Action Unit := note (.alert line)

/-- Ends the run with a report. -/
def fail {α : Type} (line : String) : Action α := do
  alert line
  throw .reported

/-- A value, or the fault of an error. -/
def lift {ε α : Type} (fault : ε → Fault) (r : Except ε α) : Action α :=
  match r with
  | .ok a => pure a
  | .error e => throw (fault e)

/-! ### Files -/

/-- What a file holds. -/
def readBytes (p : Path) : Action Bytes := do lift .file ((← get).files.read p)

/-- The text that a file holds, with newlines alone as line ends. -/
def readText (p : Path) : Action String := do
  match Text.Utf8.decodeChars? (← readBytes p) with
  | some cs => return String.ofList (Text.normalizeNewlines cs)
  | none => throw .notText

/-- Writes a file. -/
def writeBytes (p : Path) (bytes : Bytes) : Action Unit := do
  let files ← lift .file ((← get).files.write p bytes)
  modify fun h => { h with files := files }

/-- Writes a file that holds a text. -/
def writeText (p : Path) (text : String) : Action Unit := writeBytes p (Text.Utf8.encode text)

/-- Writes a file that holds a text, which can be encoded if it is `whole`. -/
def writeTextOf (p : Path) (text : String) (whole : Bool) : Action Unit := do
  if whole then writeText p text
  else
    -- The file is emptied before the text turns out to have no bytes.
    writeBytes p []
    throw .notEncodable

/-- Makes a directory and the missing ones above it. -/
def makeDirectories (p : Path) : Action Unit := do
  let (files, r) := (← get).files.makeDirectories p
  modify fun h => { h with files := files }
  lift .file r

/-! ### Settings -/

/-- The file of variables in the working directory. -/
def variableFile : Path := .ofString ".env"

/-- A line of the file of variables that is skipped. -/
def skippedLine (n : Nat) : String :=
  s!"python-dotenv could not parse statement starting at line {n}"

/-- What the file of variables says; nothing if there is none. -/
def variableListing : Action Variables.Listing := do
  let h ← get
  if h.files.isFile variableFile.toString then
    return Variables.ofText h.vars (← readText variableFile)
  else return ⟨[], []⟩

/-- The settings of the host. `warn` says how a skipped line of the file of variables is noted. -/
def loadSettings (warn : String → Event) : Action Settings := do
  let listing ← variableListing
  noteAll (listing.skipped.map fun n => warn (skippedLine n))
  let choice := Settings.chosen (← get).vars listing.vars
  lift .settings (Settings.ofChoices choice)

/-! ### Layout -/

/-- The log line of a picture. -/
def pictureLine (bytes : Bytes) (format program : String) : Event :=
  .log .debug "deciduous.renderer"
    s!"Rendered {bytes.length} byte(s) of {format} with {program}"

/-- What the journal tells of the attempt to make a picture. -/
def attemptLog (a : Layout.Attempt) : Journal :=
  (a.request.map Event.ask).toList ++ if a.report = "" then [] else [.report a.report]

/-- The bytes of a picture of a text, which can be encoded if it is `whole`. -/
def picture (dot format program : String) (whole : Bool) : Action Bytes := do
  let attempt := Layout.attemptOf (← get).engine dot format program whole
  noteAll (attemptLog attempt)
  let bytes ← lift .layout attempt.result
  note (pictureLine bytes format program)
  return bytes

/-- A picture that is a text. -/
def vectorPicture (dot program : String) (whole : Bool) : Action String := do
  match Text.Utf8.decode? (← picture dot "svg" program whole) with
  | some svg => return svg
  | none => throw .notText

/-- A picture of points in a resolution. Of this text there is a picture already, so it can be
encoded. -/
def rasterPicture (dot program : String) (dpi : Int) : Action Bytes :=
  picture (Layout.withDpi dot dpi) "png" program true

/-- The program of a name, or that of the settings. An empty name counts as none. -/
def programOr (name : Option String) (settings : Action Settings) : Action String := do
  match name.filter (· ≠ "") with
  | some name => return name
  | none => return (← settings).engine

/-- A resolution, or that of the settings. A resolution of zero counts as none. -/
def resolutionOr (dpi : Option Int) (settings : Action Settings) : Action Int := do
  match dpi.filter (· ≠ 0) with
  | some n => return n
  | none => return (← settings).pngDpi

end Action
end ThreatTree
