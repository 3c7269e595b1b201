import Std.Time.DateTime
import ThreatTree.Command.Run

/-!
# The program

The outer layer: the files that arguments name are read into a host, a command runs on it, and
what it printed and wrote goes out again. A watch does so at each look. Requests to the layout
program are answered as if it were not installed, and sets are listed as they are written.
-/

namespace ThreatTree.Program

attribute [local instance] SetOrder.written

/-! ### Reading the host -/

/-- What a path names on the disk. A file's stamp tells its content. -/
def itemAt (path : String) : IO (Option Item) := do
  try
    let bytes := (← IO.FS.readBinFile path).toList
    return some (.file bytes (.set (hash bytes).toNat))
  catch
    | .inappropriateType .. => return some (.directory (.set 0))
    | _ => return none

/-- Files with what a path leads to, and the directories on the way. -/
def load (files : Files) (p : Path) : IO Files :=
  (List.range (p.parts.length + 1)).foldlM (fun files n => do
    let text := (Path.mk p.root (p.parts.take n)).toString
    match files.resolve text with
    | .error _ => return files
    | .ok place =>
      match ← itemAt text with
      | some item => return files.put place item
      | none => return files) files

/-- The texts inside an argument that may name a file. -/
def namesIn (arg : String) : List String :=
  let cs := arg.toList
  [arg, String.ofList (cs.drop 2), String.ofList ((cs.dropWhile (· ≠ '=')).drop 1)].filter (· ≠ "")

/-- The files that a run may look at. -/
def loadAll (args : List String) : IO Files :=
  ((".env" :: Command.examplePath :: args.flatMap namesIn).map Path.ofString).foldlM load .empty

/-- A number with two digits. -/
def two (n : Int) : String := if n < 10 then s!"0{n}" else s!"{n}"

/-- The time of the clock. -/
def clock : IO String := do
  let t := Std.Time.DateTime.ofTimestamp (← Std.Time.Timestamp.now) Std.Time.TimeZone.ZoneRules.UTC
  let day := s!"{t.year.toInt}-{two t.month.toInt}-{two t.day.toInt}"
  return s!"{day} {two t.hour.toInt}:{two t.minute.toInt}:{two t.second.toInt} UTC"

/-- The variables that settings are read from. -/
def readVariables : IO Variables := do
  let names := Setting.all.map fun s => s.variableName.toUpper
  let found ← names.mapM fun n => do return (← IO.getEnv n).map fun v => (n, v)
  return found.filterMap id

/-- The host of a run. -/
def readHost (args : List String) : IO Host := do
  return ⟨← loadAll args, ← readVariables, fun _ => .missing, ← clock, fun _ => none, .warning, []⟩

/-! ### Writing it back -/

/-- A place as a path. -/
def pathOf (p : Place) : String :=
  match p with
  | first :: rest =>
    if first = Files.root then Files.root ++ String.intercalate "/" rest
    else String.intercalate "/" p
  | [] => "."

/-- Writes what a run changed. -/
def writeBack (before after : Files) : IO Unit := do
  for (place, item) in after.items.reverse do
    if before.items.lookup place != some item then
      match item with
      | .directory _ => IO.FS.createDirAll (pathOf place)
      | .file bytes _ => IO.FS.writeBinFile (pathOf place) ⟨bytes.toArray⟩

/-- Prints what a run said and writes what it changed. -/
def flush (before : Files) (h : Host) : IO Unit := do
  writeBack before h.files
  IO.print h.journal.output
  IO.eprint (h.journal.errors h.threshold)
  (← IO.getStdout).flush

/-- What is said about arguments that make no command. -/
def usage : String := "Usage: deciduous [-v] validate|compile|export|extract|init|watch ARGUMENTS"

/-- The exit status of an outcome. A fault that nobody reported is reported now. -/
def finish (o : Outcome) : IO UInt32 := do
  if let some f := o.fault then IO.eprintln f.message
  if o.status = 2 then IO.eprintln usage
  return o.status.toUInt32

/-! ### Running -/

/-- Watches until the user interrupts. -/
partial def watch (args : List String) (w : Watch) (seen : Option Stamp) (h : Host) :
    IO UInt32 := do
  let files ← loadAll args
  let (r, h) := (w.turn seen).run { h with files := files, journal := [], time := ← clock }
  flush files h
  match r with
  | .error f => finish (.of (.error f))
  | .ok seen =>
    IO.sleep (w.interval * 1000).toUInt32
    watch args w seen h

/-- Runs the program. -/
def run (args : List String) : IO UInt32 := do
  let host ← readHost args
  let (r, h) := (Command.request args).run host.fresh
  match r with
  | .ok (.command (.watch document output interval view) loaded) =>
    let (r, h) := (Command.startWatch loaded document output interval view).run h
    flush host.files h
    match r with
    | .error f => finish (.of (.error f))
    | .ok w => watch args w none h
  | _ =>
    let (o, h) := host.run args []
    flush host.files h
    finish o

end ThreatTree.Program

/-- The command line. -/
def main (args : List String) : IO UInt32 := ThreatTree.Program.run args
