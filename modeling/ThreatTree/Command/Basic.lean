import ThreatTree.Command.Options
import ThreatTree.Decimal.Reading
import ThreatTree.Host

/-!
# Commands

What the command line can ask for, and how its arguments are read. Arguments that make no command
are refused as a whole: unknown options, a missing or an extra operand, a theme that there is not,
a file to read that is not there, and a directory where a file is to be written.
-/

namespace ThreatTree

/-- The part of a document to show, and its look. -/
structure View where
  focus : List String
  theme : Option String
  deriving DecidableEq, Repr

/-- What the command line can ask for. Files are named as the user names them. -/
inductive Command where
  | validate (document : String)
  | compile (document : String) (output : Option String) (view : View) (embed : Bool)
  | exportTo (document output : String) (view : View)
  | extract (artifact : String) (output : Option String)
  | init (path : String)
  | watch (document output : String) (interval : Option Float) (view : View)

namespace Command

/-! ### Options -/

def verboseSwitch : Switch := ⟨"verbose", some 'v', false⟩
def versionSwitch : Switch := ⟨"version", none, false⟩
def outputSwitch : Switch := ⟨"output", some 'o', true⟩
def focusSwitch : Switch := ⟨"focus", some 'f', true⟩
def themeSwitch : Switch := ⟨"theme", none, true⟩
def embedSwitch : Switch := ⟨"embed-source", none, false⟩
def intervalSwitch : Switch := ⟨"interval", none, true⟩

/-- The options before the name of a command. -/
def generalSwitches : List Switch := [verboseSwitch, versionSwitch]

/-- The options of each command, by its name. -/
def switches? (name : String) : Option (List Switch) :=
  [("validate", []),
    ("compile", [outputSwitch, focusSwitch, themeSwitch, embedSwitch]),
    ("export", [outputSwitch, focusSwitch, themeSwitch]),
    ("extract", [outputSwitch]),
    ("init", []),
    ("watch", [outputSwitch, focusSwitch, themeSwitch, intervalSwitch])].lookup name

/-! ### Files -/

/-- Whether a name can be that of a file at all. -/
def checkName (name : String) : Except Fault Unit :=
  if name.toList.contains '\x00' then .error (.file ⟨.nullCharacter, name⟩) else .ok ()

/-- The name of a file that is there. -/
def inputFile (files : Files) (name : String) : Except Fault String := do
  checkName name
  if files.isFile name then return name else throw .usage

/-- The name of a file to write, which may not be a directory. -/
def outputFile (files : Files) (name : String) : Except Fault String := do
  checkName name
  if files.isDirectory name then throw .usage else return name

/-! ### Values -/

/-- The file that a command may write. -/
def output? (files : Files) (a : Arguments) : Except Fault (Option String) :=
  (a.value? outputSwitch).mapM (outputFile files)

/-- The file that a command has to write. -/
def output (files : Files) (a : Arguments) : Except Fault String :=
  match a.value? outputSwitch with
  | some name => outputFile files name
  | none => .error .usage

/-- The theme that is chosen. -/
def theme? (a : Arguments) : Except Fault (Option String) :=
  match a.value? themeSwitch with
  | none => .ok none
  | some name => if (Theme.ofName? name).isSome then .ok (some name) else .error .usage

/-- The view that is chosen. -/
def view (a : Arguments) : Except Fault View := return ⟨a.values focusSwitch, ← theme? a⟩

/-- The interval that is chosen. -/
def interval? (a : Arguments) : Except Fault (Option Float) :=
  match a.value? intervalSwitch with
  | none => .ok none
  | some text =>
    match Decimal.readFloat? text.toList with
    | some x => .ok (some x)
    | none => .error .usage

/-- The only operand. -/
def operand (a : Arguments) : Except Fault String :=
  match a.operands with
  | [x] => .ok x
  | _ => .error .usage

/-- The only operand, which a command can do without. -/
def operandOr (default : String) (a : Arguments) : Except Fault String :=
  if a.operands.isEmpty then .ok default else operand a

/-- Where the example goes. -/
def examplePath : String := "threat-tree.yaml"

/-! ### Commands -/

/-- The command of a name with its arguments. -/
def ofArguments (files : Files) (name : String) (a : Arguments) : Except Fault Command := do
  match name with
  | "validate" => return .validate (← inputFile files (← operand a))
  | "compile" =>
    let document ← inputFile files (← operand a)
    return .compile document (← output? files a) (← view a) (a.has embedSwitch)
  | "export" =>
    let document ← inputFile files (← operand a)
    return .exportTo document (← output files a) (← view a)
  | "extract" => return .extract (← inputFile files (← operand a)) (← output? files a)
  | "init" => return .init (← outputFile files (← operandOr examplePath a))
  | "watch" =>
    let document ← inputFile files (← operand a)
    return .watch document (← output files a) (← interval? a) (← view a)
  | _ => throw .usage

/-- Reads the name of a command and what follows it. -/
def read (files : Files) (name : String) (args : List String) : Except Fault Command :=
  match (switches? name).bind fun s => Arguments.read s true args with
  | some a => ofArguments files name a
  | none => .error .usage

end Command
end ThreatTree
