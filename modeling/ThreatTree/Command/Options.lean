import ThreatTree.Text.Lines

/-!
# Options

The arguments of a command are options and operands in any order. An option has a long name, and
may have a short one of a single letter; short ones can be written together. Some options take a
value, which stands in the same argument or is the next one, whatever that is. After two hyphens
alone all is operand.
-/

namespace ThreatTree

/-- An option. -/
structure Switch where
  /-- The name behind two hyphens. -/
  long : String
  /-- The letter behind one hyphen. -/
  short : Option Char
  takesValue : Bool
  deriving DecidableEq, Repr

namespace Switch

/-- What one argument says: options that are complete, and perhaps one that wants the next
argument as its value. -/
structure Reading where
  complete : List (Switch × String)
  waiting : Option Switch

/-- Reads letters of short options. -/
def readLetters (switches : List Switch) : List Char → Option Reading
  | [] => some ⟨[], none⟩
  | c :: cs =>
    match switches.find? (·.short = some c) with
    | none => none
    | some s =>
      if !s.takesValue then
        (readLetters switches cs).map fun r => { r with complete := (s, "") :: r.complete }
      else if cs.isEmpty then some ⟨[], some s⟩
      else some ⟨[(s, String.ofList cs)], none⟩

/-- Reads a long option with its value, if that stands in the same argument. -/
def readLong (s : Switch) : Option (List Char) → Option Reading
  | some value => if s.takesValue then some ⟨[(s, String.ofList value)], none⟩ else none
  | none => if s.takesValue then some ⟨[], some s⟩ else some ⟨[(s, "")], none⟩

/-- The name of a long option, and the value behind an equals sign. -/
def splitValue (cs : List Char) : List Char × Option (List Char) :=
  match Text.splitFirst ['='] cs with
  | some (name, value) => (name, some value)
  | none => (cs, none)

/-- Reads an argument that starts with a hyphen, given without it. -/
def read (switches : List Switch) : List Char → Option Reading
  | '-' :: cs =>
    let (name, value) := splitValue cs
    (switches.find? (·.long.toList = name)).bind fun s => readLong s value
  | cs => readLetters switches cs

end Switch

/-- The options and operands of a command. -/
structure Arguments where
  options : List (Switch × String)
  operands : List String

namespace Arguments

/-- The arguments with more options before them. -/
def add (complete : List (Switch × String)) (a : Arguments) : Arguments :=
  { a with options := complete ++ a.options }

/-- Whether a text is written as an option. -/
def isOption (arg : String) : Bool :=
  match arg.toList with
  | '-' :: _ :: _ => true
  | _ => false

/-- Reads arguments; `none` if they are none of these options. If options may not come behind an
operand, all that comes behind one is operand. -/
def read (switches : List Switch) (mixed : Bool) : List String → Option Arguments
  | [] => some ⟨[], []⟩
  | arg :: args =>
    if arg = "--" then some ⟨[], args⟩
    else if isOption arg then
      match Switch.read switches (arg.toList.drop 1) with
      | none => none
      | some ⟨complete, none⟩ => (read switches mixed args).map (add complete)
      | some ⟨complete, some s⟩ =>
        match args with
        | [] => none
        | value :: args => (read switches mixed args).map (add (complete ++ [(s, value)]))
    else if mixed then
      (read switches mixed args).map fun a => { a with operands := arg :: a.operands }
    else some ⟨[], arg :: args⟩

/-- The values of an option in the order in which they are given. -/
def values (a : Arguments) (s : Switch) : List String :=
  a.options.filterMap fun (t, value) => if t = s then some value else none

/-- The value of an option that counts: the last one. -/
def value? (a : Arguments) (s : Switch) : Option String := (a.values s).getLast?

/-- Whether an option is given. -/
def has (a : Arguments) (s : Switch) : Bool := !(a.values s).isEmpty

end Arguments
end ThreatTree
