import ThreatTree.Layout.Engine
import ThreatTree.Text.Terminal

/-!
# Journals

What a run says and asks for is a list of events in the order in which they happen. What appears
on the two output streams, the requests to the layout program and the pauses are views of it.
Neither stream is a terminal, so what is printed loses its terminal commands; log lines and
reports of the layout program are passed on as they are. A view of two journals in a row is the
two views in a row.
-/

namespace ThreatTree

/-- How serious a log line is, or has to be to appear. -/
inductive Level where
  | all
  | debug
  | info
  | warning
  | error
  | critical
  deriving DecidableEq, Repr

namespace Level

/-- The order of levels. -/
def rank : Level → Nat
  | all => 0
  | debug => 1
  | info => 2
  | warning => 3
  | error => 4
  | critical => 5

/-- A level at the start of a log line. -/
def label : Level → String
  | all => "NOTSET"
  | debug => "DEBUG"
  | info => "INFO"
  | warning => "WARNING"
  | error => "ERROR"
  | critical => "CRITICAL"

/-- The level with a name in capital letters. Two levels have a second name. -/
def ofLabel? (s : String) : Option Level :=
  if s = "WARN" then some warning
  else if s = "FATAL" then some critical
  else [all, debug, info, warning, error, critical].find? (·.label = s)

end Level

/-- Something that a run does and others can see. -/
inductive Event where
  /-- A log line of a part of the program. -/
  | log (level : Level) (part message : String)
  /-- A warning from before log lines have a form. -/
  | notice (message : String)
  /-- The layout program is asked for a picture. -/
  | ask (request : Layout.Request)
  /-- The layout program reports something. -/
  | report (text : String)
  /-- A text is printed. -/
  | print (text : String)
  /-- A line is printed for the reader's attention. -/
  | alert (line : String)
  /-- The run pauses. -/
  | pause (seconds : Float)

namespace Event

/-- What an event adds to the output stream. -/
def output : Event → String
  | print text => Text.plain text
  | _ => ""

/-- What an event adds to the error stream when only log lines from a level on appear. -/
def errors (threshold : Level) : Event → String
  | log level part message =>
    if threshold.rank ≤ level.rank then s!"{level.label} {part}: {message}\n" else ""
  | notice message => message ++ "\n"
  | report text => text
  | alert line => Text.plain line ++ "\n"
  | _ => ""

/-- The request that an event makes. -/
def request? : Event → Option Layout.Request
  | ask r => some r
  | _ => none

/-- The length of a pause. -/
def pause? : Event → Option Float
  | pause seconds => some seconds
  | _ => none

end Event

/-- The events of a run. -/
abbrev Journal := List Event

namespace Journal

def output (j : Journal) : String := String.join (j.map Event.output)

def errors (j : Journal) (threshold : Level) : String :=
  String.join (j.map (Event.errors threshold))

def requests (j : Journal) : List Layout.Request := j.filterMap Event.request?

def pauses (j : Journal) : List Float := j.filterMap Event.pause?

/-! ### Views of journals in a row -/

@[simp] theorem output_append (j k : Journal) : output (j ++ k) = output j ++ output k := by
  simp [output, String.join_append]

@[simp] theorem errors_append (j k : Journal) (t : Level) :
    errors (j ++ k) t = errors j t ++ errors k t := by
  simp [errors, String.join_append]

@[simp] theorem requests_append (j k : Journal) :
    requests (j ++ k) = requests j ++ requests k := by
  simp [requests]

@[simp] theorem pauses_append (j k : Journal) : pauses (j ++ k) = pauses j ++ pauses k := by
  simp [pauses]

end Journal
end ThreatTree
