import ThreatTree.Compile
import ThreatTree.Journal
import ThreatTree.Value.Display

/-!
# The log of a compilation

Every stage that succeeds leaves a log line with what it counted; the log ends with the first stage
that fails.
-/

namespace ThreatTree

namespace Document

/-- The log line of a checked document. -/
def checkedLine (d : Document) : Event :=
  .log .debug "deciduous.parser" s!"Parsed document with {d.nodes.length} node(s)"

/-- The log line of a document's text; none if it has no document. -/
def textLog [SetOrder] (text : String) : Journal :=
  match ofText text with
  | .ok d => [d.checkedLine]
  | .error _ => []

/-- The log line of a compiled document. -/
def compiledLine (d : Document) (c : Compiled) : Event :=
  let title := (d.title.map Text.quote).getD "None"
  let sorted := (c.graph.categories.map Category.name).mergeSort (· ≤ ·)
  let names := String.intercalate ", " (sorted.map Text.quote)
  .log .debug "deciduous.compiler" s!"Compiled {title}: categories=[{names}]"

end Document

namespace Graph

/-- The log line of a whole graph. -/
def builtLine (g : Graph) : Event :=
  .log .debug "deciduous.graph_builder"
    s!"Built graph with {g.nodes.length} node(s) and {g.edges.length} edge(s)"

/-- The log line of the part `h` of a graph in focus; none if there is no focus. -/
def focusLog (g h : Graph) (focus : List String) : Journal :=
  if focus.isEmpty then []
  else
    let names := String.intercalate ", " (focus.map Text.quote)
    [.log .debug "deciduous.path_filter"
      (s!"Filter [{names}] kept {h.nodes.length}/{g.nodes.length} node(s)"
        ++ s!" and {h.edges.length}/{g.edges.length} edge(s)")]

/-- The log line of a graph with DOT text. -/
def writtenLine (g : Graph) : Event :=
  .log .debug "deciduous.dot_emitter"
    s!"Emitted {g.nodes.length} node(s), {g.edges.length} edge(s)"

end Graph

/-- The log of building a document's graph. -/
def Document.graphLog (d : Document) (theme : Option String) (fallback : String) : Journal :=
  match d.toGraph theme fallback with
  | .ok g => [g.builtLine]
  | .error _ => []

/-- The log of compiling a text. -/
def compileLog [SetOrder] (text : String) (focus : Option (List String)) (theme : Option String)
    (fallback : String) : Journal :=
  match Document.ofText text with
  | .error _ => []
  | .ok d =>
    d.checkedLine :: match d.toGraph theme fallback with
      | .error _ => []
      | .ok g =>
        let focus := focus.getD d.focus
        g.builtLine :: match g.focusOn focus with
          | .error _ => []
          | .ok h =>
            g.focusLog h focus ++ match Dot.emit h with
              | .error _ => []
              | .ok dot => [h.writtenLine, d.compiledLine ⟨dot, h⟩]

end ThreatTree
