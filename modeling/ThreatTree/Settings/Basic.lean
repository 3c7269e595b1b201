import ThreatTree.Decimal.Reading
import ThreatTree.Settings.Variables
import ThreatTree.Style.Theme

/-!
# Settings

What a user can choose for all documents, by variables of the surroundings or of a file in the
working directory. The surroundings win over the file, and names count in any letter case. A
setting that no variable chooses has its default; one that a variable sets badly is reported by
name.
-/

namespace ThreatTree

/-- What can be set. -/
inductive Setting where
  | engine
  | logLevel
  | pngDpi
  | theme
  | watchInterval
  deriving DecidableEq, Repr

namespace Setting

/-- Every setting, in the order of names. -/
def all : List Setting := [engine, logLevel, pngDpi, theme, watchInterval]

def name : Setting → String
  | engine => "engine"
  | logLevel => "log_level"
  | pngDpi => "png_dpi"
  | theme => "theme"
  | watchInterval => "watch_interval"

/-- The variable of a setting, in small letters. -/
def variableName (s : Setting) : String := "deciduous_" ++ s.name

end Setting

/-- A choice for every setting. -/
structure Settings where
  theme : Theme
  /-- The way to arrange graphs. -/
  engine : String
  /-- The resolution of pictures of points. -/
  pngDpi : Nat
  logLevel : String
  /-- The seconds between two looks at a watched file. -/
  watchInterval : Float

namespace Settings

/-- What holds when nothing is chosen. -/
def default : Settings where
  theme := .default
  engine := "dot"
  pngDpi := 144
  logLevel := "WARNING"
  watchInterval := 1

/-! ### Values -/

/-- A text without the white space at its ends. -/
def trimSpaces (cs : List Char) : List Char :=
  ((cs.dropWhile Text.isSpace).reverse.dropWhile Text.isSpace).reverse

/-- A numeral without a fraction of zeros. -/
def dropZeroFraction (cs : List Char) : List Char :=
  match Text.splitFirst ['.'] cs with
  | some (whole, fraction) =>
    if !fraction.isEmpty && fraction.all (· = '0') then whole else cs
  | none => cs

/-- A numeral without the zeros that it begins with, and without the underscores among them. -/
def dropLeadingZeros (cs : List Char) : List Char :=
  if cs.head? = some '0' then cs.dropWhile (fun c => c = '0' || c = '_') else cs

/-- The number that digits stand for, unless they are too many. -/
def countOfDigits? (ds : List Char) : Option Nat :=
  if Decimal.longestNumeral < ds.length then none else Decimal.natOfDigits? 10 ds

/-- A whole number above zero: an optional plus sign, digits with single underscores between them,
and a fraction of zeros. Zeros at the start do not count for the length. -/
def readCount? (s : String) : Option Nat :=
  let cs := trimSpaces s.toList
  let body := match cs with
    | '+' :: rest => rest
    | _ => cs
  let digits? := Decimal.dropUnderscores? Char.isDigit false
    (dropZeroFraction (dropLeadingZeros body))
  (digits?.bind countOfDigits?).filter (0 < ·)

/-- A text without its underscores, if each has another character on either side. -/
def dropInnerUnderscores? (cs : List Char) : Option (List Char) :=
  if cs.head? = some '_' || cs.getLast? = some '_' || Text.occurs ['_', '_'] cs then none
  else some (cs.filter (· ≠ '_'))

/-- A number above zero, possibly infinite. White space may stand around a number, or underscores
inside it. -/
def readSeconds? (s : String) : Option Float :=
  let value := Decimal.floatOfChars? (trimSpaces s.toList) <|>
    (dropInnerUnderscores? s.toList).bind Decimal.floatOfChars?
  value.filter (0 < ·)

/-! ### From variables -/

/-- The text that is chosen for a setting, first by the surroundings, then by a file. -/
def chosen (surroundings : Variables) (file : List (String × Option String)) (s : Setting) :
    Option String :=
  Variables.find? surroundings s.variableName <|> (Variables.find? file s.variableName).join

/-- Some settings with one of them set to a text, `none` if the text does not fit. -/
def set? (c : Settings) (s : Setting) (text : String) : Option Settings :=
  match s with
  | .engine => some { c with engine := text }
  | .logLevel => some { c with logLevel := text }
  | .pngDpi => (readCount? text).map fun n => { c with pngDpi := n }
  | .theme => (Theme.ofName? text).map fun t => { c with theme := t }
  | .watchInterval => (readSeconds? text).map fun x => { c with watchInterval := x }

/-- Whether the text that is chosen for a setting does not fit. -/
def isBad (choice : Setting → Option String) (s : Setting) : Bool :=
  (choice s).any fun text => (default.set? s text).isNone

/-- The settings for some choices, or the settings that are chosen badly. -/
def ofChoices (choice : Setting → Option String) : Except (List Setting) Settings :=
  match Setting.all.filter (isBad choice) with
  | [] => .ok (Setting.all.foldl
      (fun c s => ((choice s).bind (c.set? s)).getD c) default)
  | bad => .error bad

end Settings
end ThreatTree
