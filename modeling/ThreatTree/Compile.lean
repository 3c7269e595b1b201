import ThreatTree.Document.Validation
import ThreatTree.Dot.Emit
import ThreatTree.Graph.Build
import ThreatTree.Graph.Focus
import ThreatTree.Yaml.Node.Value

/-!
# Compiling a document

A document's text to the DOT text of the part of its graph that is in focus: decode, check, build,
focus, write. Nothing is produced from a document that any stage refuses.
-/

namespace ThreatTree

/-- Why a document does not compile. -/
inductive CompileError where
  /-- The text has no value. -/
  | yaml (f : Yaml.Failure)
  /-- The value is no document, or the focus is not in it. -/
  | document (e : DocumentError)
  /-- The graph has no DOT text. -/
  | emit (e : Dot.EmitError)

namespace CompileError

/-- The wording of an error. -/
def message : CompileError → String
  | yaml .malformed => "YAML parse error: the text is not well formed"
  | yaml .tooDeep => "YAML value error: a node is nested too deep"
  | yaml _ => "YAML value error: a scalar does not fit its type"
  | document e => e.message
  | emit (.missingNode id) => "Unknown node " ++ Text.quote id
  | emit (.style e) => e.message

/-- Whether an error is reported to the author of a document: a text that is not well formed, or a
problem of the document. All else stops the program. -/
def isReported : CompileError → Bool
  | yaml .malformed => true
  | document e => e.isReported
  | _ => false

end CompileError

/-- What a document compiles to. -/
structure Compiled where
  dot : String
  graph : Graph

/-- A document from its text. -/
def Document.ofText [SetOrder] (text : String) : Except CompileError Document := do
  let value ← (Yaml.load text).mapError .yaml
  (Document.ofValue value).mapError .document

/-- The part of a document's graph that is in focus. Without an explicit focus the document's own
counts. -/
def Document.focusedGraph (d : Document) (focus : Option (List String)) (theme : Option String)
    (fallback : String) : Except CompileError Graph := do
  let g ← (d.toGraph theme fallback).mapError .document
  (g.focusOn (focus.getD d.focus)).mapError .document

/-- What a document compiles to. -/
def Document.compile (d : Document) (focus : Option (List String)) (theme : Option String)
    (fallback : String) : Except CompileError Compiled := do
  let graph ← d.focusedGraph focus theme fallback
  let dot ← (Dot.emit graph).mapError .emit
  return ⟨dot, graph⟩

/-- What a document's text compiles to. -/
def compile [SetOrder] (text : String) (focus : Option (List String)) (theme : Option String)
    (fallback : String) : Except CompileError Compiled := do
  (← Document.ofText text).compile focus theme fallback

end ThreatTree
