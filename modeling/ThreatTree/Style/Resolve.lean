import ThreatTree.Category
import ThreatTree.Style.Attributes
import ThreatTree.Style.Theme
import ThreatTree.Text.Quoted

/-!
# Styles

The look of a node follows from its category, the look of an edge from the categories of its two
ends and from whether it is implemented yet. Both take their colours from a theme. A theme or a
category that there is no style for is an error of the program that asks, not of a document.
-/

namespace ThreatTree

/-- What a style is asked for: a category, or a name that is none. -/
inductive StyleKey where
  | category (c : Category)
  | other (name : String)
  deriving DecidableEq, Repr

namespace StyleKey

/-- The category of that name, if there is one. -/
def ofName (s : String) : StyleKey :=
  match Category.ofName? s with
  | some c => category c
  | none => other s

/-- A key inside a message. -/
def quote : StyleKey → String
  | category .fact => "<Category.FACT: 'fact'>"
  | category .attack => "<Category.ATTACK: 'attack'>"
  | category .mitigation => "<Category.MITIGATION: 'mitigation'>"
  | category .goal => "<Category.GOAL: 'goal'>"
  | other name => Text.quote name

end StyleKey

/-- A style that does not exist. -/
inductive StyleError where
  | noTheme (name : String)
  | noNodeStyle (key : StyleKey) (theme : String)
  | noEdgeStyle (source target : StyleKey) (implemented : Bool) (theme : String)
  deriving DecidableEq, Repr

/-- The wording of a missing style. -/
def StyleError.message : StyleError → String
  | noTheme name => s!"No style table for theme '{name}'"
  | noNodeStyle key theme => s!"No node style for category {key.quote} in theme '{theme}'"
  | noEdgeStyle source target implemented theme =>
    let truth := if implemented then "True" else "False"
    s!"No edge style for ({source.quote}, {target.quote}, {truth}) in theme '{theme}'"

namespace Theme

/-- The theme with a name, or the error that there is none. -/
def find (name : String) : Except StyleError Theme :=
  match ofName? name with
  | some t => .ok t
  | none => .error (.noTheme name)

@[simp] theorem find_name (t : Theme) : find t.name = .ok t := by simp [find]

theorem find_eq_ok {name : String} {t : Theme} : find name = .ok t ↔ t.name = name := by
  constructor
  · intro h
    unfold find at h
    split at h
    · next t' ht =>
      cases h
      simpa using List.find?_some ht
    · cases h
  · rintro rfl
    exact find_name t

/-- The look of a node of a category. -/
def nodeStyle (t : Theme) : Category → Attributes
  | .fact => { shape := some "box", style := some "filled", fillcolor := some t.palette.factFill }
  | .attack =>
    { shape := some "box", style := some "filled,rounded", fillcolor := some t.palette.attackFill }
  | .mitigation =>
    { shape := some "octagon", style := some "filled", fillcolor := some t.palette.mitigationFill }
  | .goal =>
    { shape := some "invhouse", style := some "filled", fillcolor := some t.palette.goalFill
      fontcolor := some t.palette.goalText, penwidth := some "2" }

/-- The look of the fact that no document declares. -/
def realityStyle (t : Theme) : Attributes :=
  { shape := some "box", style := some "filled", fillcolor := some t.palette.realityFill
    fontcolor := some t.palette.realityText }

/-- What an arrow into a node means: an attack that gets around a mitigation has an open head, and a
mitigation stops what leads to it. -/
def arrowhead : Category → Category → String
  | .mitigation, .attack => "empty"
  | _, .mitigation => "tee"
  | _, _ => "normal"

/-- The look of an edge: dashed until it is implemented, in a colour of its own if it is drawn
backwards. -/
def edgeStyle (t : Theme) (source target : Category) (implemented backwards : Bool) : Attributes :=
  { color := some (if backwards then t.palette.backwardsEdge else t.palette.edge)
    fontcolor := some t.palette.edgeText
    arrowhead := some (arrowhead source target)
    style := some (if implemented then "solid" else "dashed") }

end Theme

/-- The look of a node by the name of its theme. -/
def resolveNodeStyle (key : StyleKey) (theme : String) (reality : Bool) :
    Except StyleError Attributes := do
  let t ← Theme.find theme
  if reality then return t.realityStyle
  match key with
  | .category c => return t.nodeStyle c
  | .other _ => .error (.noNodeStyle key theme)

/-- The look of an edge by the name of its theme. -/
def resolveEdgeStyle (source target : StyleKey) (implemented : Bool) (theme : String)
    (backwards : Bool) : Except StyleError Attributes := do
  let t ← Theme.find theme
  match source, target with
  | .category s, .category d => return t.edgeStyle s d implemented backwards
  | _, _ => .error (.noEdgeStyle source target implemented theme)

/-- Every node has a look in every theme. -/
theorem resolveNodeStyle_name (c : Category) (t : Theme) (reality : Bool) :
    resolveNodeStyle (.category c) t.name reality =
      .ok (if reality then t.realityStyle else t.nodeStyle c) := by
  rw [resolveNodeStyle, Theme.find_name]
  cases reality <;> rfl

/-- Every edge has a look in every theme. -/
theorem resolveEdgeStyle_name (source target : Category) (implemented : Bool) (t : Theme)
    (backwards : Bool) :
    resolveEdgeStyle (.category source) (.category target) implemented t.name backwards =
      .ok (t.edgeStyle source target implemented backwards) := by
  rw [resolveEdgeStyle, Theme.find_name]
  rfl

end ThreatTree
