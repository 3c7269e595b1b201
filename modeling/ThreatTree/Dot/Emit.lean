import ThreatTree.Dot.Ident
import ThreatTree.Dot.Text
import ThreatTree.Graph.Basic
import ThreatTree.Style.Resolve

/-!
# The DOT text of a graph

A graph is written as one statement a line: defaults, the title if there is one, nodes, edges. The
text depends on the graph alone. An edge whose ends are not nodes, and a theme that there is not,
are defects of whoever built the graph.
-/

namespace ThreatTree.Dot

/-- Why a graph cannot be written. -/
inductive EmitError where
  | missingNode (id : String)
  | style (e : StyleError)
  deriving DecidableEq, Repr

/-! ### Statements -/

/-- One attribute. -/
def assignment (name value : String) : String := quote name ++ "=" ++ quote value

/-- Attributes in the order of their names. -/
def sortedAttributes (attrs : List (String × String)) : List String :=
  (attrs.mergeSort fun a b => a.1 ≤ b.1).map fun (name, value) => assignment name value

/-- A list of attributes in brackets, the label first; nothing if it is empty. -/
def attributeList (label : Option String) (attrs : List (String × String)) : String :=
  let items := (label.map (assignment "label")).toList ++ sortedAttributes attrs
  if items.isEmpty then "" else " [" ++ String.intercalate " " items ++ "]"

/-- A statement on a line of its own. -/
def statement (s : String) : String := "\t" ++ s ++ "\n"

/-! ### Header and title -/

/-- How the layout program arranges a tree. -/
def graphDefaults : List (String × String) :=
  [("rankdir", "TB"), ("splines", "true"), ("overlap", "false"), ("nodesep", "0.2"),
    ("ranksep", "0.4"), ("fontname", "Arial")]

/-- The font of nodes and edges. -/
def textDefaults : List (String × String) := [("fontname", "Arial")]

/-- The lines before the title. -/
def header : List String :=
  ["digraph \x7b\n", statement ("graph" ++ attributeList none graphDefaults),
    statement ("node" ++ attributeList none textDefaults),
    statement ("edge" ++ attributeList none textDefaults)]

/-- A character of a title in markup. -/
def markupChar : Char → List Char
  | '&' => "&amp;".toList
  | '<' => "&lt;".toList
  | '>' => "&gt;".toList
  | '"' => "&quot;".toList
  | '\'' => "&#x27;".toList
  | '\n' => "<br/>".toList
  | c => [c]

/-- A title in markup: the characters of markup are written by name and a newline is a break. -/
def markup (title : String) : String := String.ofList (title.toList.flatMap markupChar)

/-- The line of the title, if there is a title to show. -/
def titleLine (g : Graph) : List String :=
  match g.title with
  | none | some "" => []
  | some title =>
    [statement ("label=<<font POINT-SIZE=\"20\">" ++ markup title ++ "</font>> labelloc=t")]

/-! ### Nodes and edges -/

/-- The line of a node. -/
def nodeLine (theme : String) (n : Node) : Except EmitError String := do
  let attrs ← (resolveNodeStyle (.category n.category) theme n.implicit).mapError EmitError.style
  return statement (quote (text n.id) ++ attributeList (some (text n.label)) attrs.toList)

/-- The node at an end of an edge. -/
def endpoint (g : Graph) (id : String) : Except EmitError Node :=
  match g.node? id with
  | some n => .ok n
  | none => .error (.missingNode id)

/-- The remark of an edge, if there is one to show. -/
def shownTag (e : Edge) : Option String := e.tag.filter (· ≠ "")

/-- The line of an edge. The text colour is left out where no text is shown. -/
def edgeLine (g : Graph) (e : Edge) : Except EmitError String := do
  let source ← endpoint g e.source
  let target ← endpoint g e.target
  let attrs ← (resolveEdgeStyle (.category source.category) (.category target.category)
    e.implemented g.theme e.backwards).mapError EmitError.style
  let tag := shownTag e
  let attrs := if tag.isNone then { attrs with fontcolor := none } else attrs
  let (tail, head) := e.drawn
  return statement (quote (text tail) ++ " -> " ++ quote (text head)
    ++ attributeList (tag.map text) attrs.toList)

/-- The lines of a graph. -/
def emitLines (g : Graph) : Except EmitError (List String) := do
  let nodes ← g.nodes.mapM (nodeLine g.theme)
  let edges ← g.edges.mapM (edgeLine g)
  return header ++ titleLine g ++ nodes ++ edges ++ ["\x7d\n"]

/-- The DOT text of a graph. -/
def emit (g : Graph) : Except EmitError String := String.join <$> emitLines g

end ThreatTree.Dot
