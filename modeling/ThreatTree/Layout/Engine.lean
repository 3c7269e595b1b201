import ThreatTree.Text.Blank
import ThreatTree.Text.Lower
import ThreatTree.Text.Quoted
import ThreatTree.Text.Utf8

/-!
# The layout program

Nodes and edges are arranged by a program of its own, which reads DOT and writes a picture. It is
known here by what it answers: an `Engine` is any function from requests to responses. Programs and
formats with unknown names are refused before the program is asked.
-/

namespace ThreatTree.Layout

/-- What the layout program is asked for. -/
structure Request where
  /-- The way to arrange the graph. -/
  program : String
  format : String
  input : String
  deriving DecidableEq, Repr

/-- The options that a request stands for. -/
def Request.options (r : Request) : List String := ["-K" ++ r.program, "-T" ++ r.format]

/-- What comes of a request. -/
inductive Response where
  /-- The program is not installed. -/
  | missing
  | finished (status : Int) (output errors : Bytes)
  deriving DecidableEq, Repr

/-- A layout program. -/
abbrev Engine := Request → Response

/-- The ways to arrange a graph. -/
def programs : List String :=
  ["circo", "dot", "fdp", "neato", "osage", "patchwork", "sfdp", "twopi"]

/-- The formats that the layout program writes. -/
def formats : List String :=
  ["bmp", "canon", "cgimage", "cmap", "cmapx", "cmapx_np", "dot", "dot_json", "eps", "exr", "fig",
    "gd", "gd2", "gif", "gtk", "gv", "ico", "imap", "imap_np", "ismap", "jp2", "jpe", "jpeg", "jpg",
    "json", "json0", "pct", "pdf", "pic", "pict", "plain", "plain-ext", "png", "pov", "ps", "ps2",
    "psd", "sgi", "svg", "svg_inline", "svgz", "tga", "tif", "tiff", "tk", "vml", "vmlz", "vrml",
    "wbmp", "webp", "x11", "xdot", "xdot1.2", "xdot1.4", "xdot_json", "xlib"]

/-- Why there is no picture. -/
inductive LayoutError where
  | unknownProgram (name : String)
  | unknownFormat (name : String)
  /-- What the program reports is no text. -/
  | unreadableReport (g : Text.Utf8.Gap)
  /-- What the program should read cannot be encoded. -/
  | notEncodable
  | notInstalled
  | failed (request : Request) (status : Int) (report : Bytes)

namespace LayoutError

/-- A list of names inside a message. -/
def quoteNames (names : List String) : String :=
  "[" ++ String.intercalate ", " (names.map Text.quote) ++ "]"

/-- The names of the signals that end a program, by their numbers. -/
def signals : List (Nat × String) :=
  [(1, "HUP"), (2, "INT"), (3, "QUIT"), (4, "ILL"), (5, "TRAP"), (6, "ABRT"), (7, "BUS"),
    (8, "FPE"), (9, "KILL"), (10, "USR1"), (11, "SEGV"), (12, "USR2"), (13, "PIPE"),
    (14, "ALRM"), (15, "TERM"), (16, "STKFLT"), (17, "CHLD"), (18, "CONT"), (19, "STOP"),
    (20, "TSTP"), (21, "TTIN"), (22, "TTOU"), (23, "URG"), (24, "XCPU"), (25, "XFSZ"),
    (26, "VTALRM"), (27, "PROF"), (28, "WINCH"), (29, "IO"), (30, "PWR"), (31, "SYS"),
    (34, "RTMIN"), (64, "RTMAX")]

/-- How a program ended that did not succeed: by a status above zero, or by a signal. -/
def ending (status : Int) : String :=
  if 0 ≤ status then s!"returned non-zero exit status {status}."
  else
    match signals.lookup status.natAbs with
    | some name => s!"died with <Signals.SIG{name}: {status.natAbs}>."
    | none => s!"died with unknown signal {status.natAbs}."

/-- The wording of a failure that the program says nothing about. -/
def unexplained (request : Request) (status : Int) : String :=
  "Command '[PosixPath('dot'), " ++ String.intercalate ", " (request.options.map Text.quote)
    ++ "]' " ++ ending status ++ " [stderr: b'']"

/-- The wording of an error. A failed program is quoted, or its command if it said nothing. -/
def message : LayoutError → String
  | unknownProgram name =>
    s!"Invalid Graphviz option: unknown engine: {Text.quote name}" ++
      s!" (must be one of {quoteNames programs})"
  | unknownFormat name =>
    s!"Invalid Graphviz option: unknown format: {Text.quote name}" ++
      s!" (must be one of {quoteNames formats})"
  | unreadableReport g => s!"Invalid Graphviz option: {g.message}"
  | notEncodable => "Invalid Graphviz option: the input cannot be encoded"
  | notInstalled =>
    "Graphviz is not installed: failed to execute PosixPath('dot'), " ++
      "make sure the Graphviz executables are on your systems' PATH"
  | failed request status report =>
    let said :=
      if report.isEmpty then unexplained request status else Text.Utf8.decodeLossy report
    "Graphviz failed: " ++ Text.trim said

/-- Whether an attempt ends before the program is given anything to read. -/
def precedesInput : LayoutError → Bool
  | unknownProgram _ | unknownFormat _ | notInstalled => true
  | unreadableReport _ | notEncodable | failed .. => false

end LayoutError

/-- What was done for a picture: the request if one was made, what the program reported, and the
picture or the reason that there is none. -/
structure Attempt where
  request : Option Request
  report : String
  result : Except LayoutError Bytes

/-- What the layout program reads: a text that ends a line, unless it is empty. -/
def inputOf (dot : String) : String :=
  if dot.isEmpty || dot.toList.getLast? = some '\n' then dot else dot.push '\n'

/-- Asks the layout program for a picture. -/
def attempt (engine : Engine) (dot format program : String) : Attempt :=
  let name := Text.lower program
  if !programs.contains name then ⟨none, "", .error (.unknownProgram name)⟩
  else if !formats.contains (Text.lower format) then ⟨none, "", .error (.unknownFormat format)⟩
  else
    let request : Request := ⟨name, format, inputOf dot⟩
    match engine request with
    | .missing => ⟨some request, "", .error .notInstalled⟩
    | .finished status output errors =>
      -- A report that is no text spoils a picture that is there.
      match Text.Utf8.gap? errors, Text.Utf8.decode? errors with
      | some g, _ => ⟨some request, "", .error (.unreadableReport g)⟩
      | none, report =>
        let result := if status = 0 then .ok output else .error (.failed request status errors)
        ⟨some request, report.getD "", result⟩

/-- What becomes of an attempt when its input breaks off at a character that cannot be encoded. A
program that is there has been asked by then, but its answer is not waited for. -/
def Attempt.brokenOff (a : Attempt) : Attempt :=
  let unread : Attempt := ⟨a.request, "", .error .notEncodable⟩
  match a.result with
  | .error e => if e.precedesInput then a else unread
  | .ok _ => unread

/-- Asks the layout program for a picture of a text, which can be encoded if it is `whole`. -/
def attemptOf (engine : Engine) (dot format program : String) (whole : Bool) : Attempt :=
  let a := attempt engine dot format program
  if whole then a else a.brokenOff

end ThreatTree.Layout
