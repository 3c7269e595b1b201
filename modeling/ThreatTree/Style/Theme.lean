/-!
# Themes

A theme is a palette with a name. Colours are written as `#` and six hexadecimal digits. A theme is
named by a text wherever a document, an option or a setting chooses one; `Theme.ofName?` says which
names there are.
-/

namespace ThreatTree

/-- The colours of a threat tree. Facts, attacks and mitigations have the default text colour. -/
structure Palette where
  edge : String
  edgeText : String
  backwardsEdge : String
  realityFill : String
  realityText : String
  factFill : String
  attackFill : String
  mitigationFill : String
  goalFill : String
  goalText : String

/-- The palettes to choose from. -/
inductive Theme where
  | default
  | classic
  | accessible
  deriving DecidableEq, Repr

namespace Theme

/-- Every theme, the default one first. -/
def all : List Theme := [default, classic, accessible]

@[simp] theorem mem_all (t : Theme) : t ∈ all := by cases t <;> simp [all]

def name : Theme → String
  | default => "default"
  | classic => "classic"
  | accessible => "accessible"

/-- The theme with a name. -/
def ofName? (s : String) : Option Theme := all.find? (·.name = s)

@[simp] theorem ofName?_name (t : Theme) : ofName? t.name = some t := by cases t <;> rfl

/-- The colours of a theme. -/
def palette : Theme → Palette
  | default =>
    { edge := "#2B303A", edgeText := "#DB2955", backwardsEdge := "#7692FF"
      realityFill := "#272727", realityText := "#FFFFFF", factFill := "#D2D5DD"
      attackFill := "#FF92CC", mitigationFill := "#B9D6F2", goalFill := "#5F00C2"
      goalText := "#FFFFFF" }
  | classic =>
    { edge := "#2B303A", edgeText := "#DB2955", backwardsEdge := "#7692FF"
      realityFill := "#2B303A", realityText := "#FFFFFF", factFill := "#C6CCD2"
      attackFill := "#ED96AC", mitigationFill := "#ABD2FA", goalFill := "#5F00C2"
      goalText := "#FFFFFF" }
  | accessible =>
    { edge := "#000000", edgeText := "#DC267F", backwardsEdge := "#648FFF"
      realityFill := "#000000", realityText := "#FFFFFF", factFill := "#E0E0E0"
      attackFill := "#FFB000", mitigationFill := "#648FFF", goalFill := "#785EF0"
      goalText := "#FFFFFF" }

/-- The name of the theme that is used when nothing chooses one. -/
def defaultName : String := default.name

/-- The names of all themes, for messages. -/
def names : String := String.intercalate ", " (all.map name)

end Theme
end ThreatTree
