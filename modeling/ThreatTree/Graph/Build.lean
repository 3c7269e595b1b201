import ThreatTree.Document.Basic
import ThreatTree.Document.Error
import ThreatTree.Graph.Basic

/-!
# The graph of a document

Declared nodes become nodes in creation order and references become edges, one for one. The fact
`reality` is added in front if a node refers to it and none declares it. A reference to anything
else that is not declared is an error, also in a document that was never checked.
-/

namespace ThreatTree

/-- The edge that a reference of the node `target` stands for. -/
def Ref.toEdge (target : String) : Ref → Edge
  | .plain id => ⟨id, target, none, false, true⟩
  | .tagged id tag => ⟨id, target, some tag, false, true⟩
  | .flagged id implemented backwards tag => ⟨id, target, tag, backwards, implemented⟩

@[simp] theorem Ref.source_toEdge (target : String) (r : Ref) :
    (r.toEdge target).source = r.id := by
  cases r <;> rfl

@[simp] theorem Ref.target_toEdge (target : String) (r : Ref) :
    (r.toEdge target).target = target := by
  cases r <;> rfl

/-- The node that a declaration stands for. -/
def NodeDef.toNode (n : NodeDef) : Node := ⟨n.id, n.displayLabel, n.category, false⟩

/-- The fact that no document has to declare. -/
def realityNode : Node := ⟨realityId, realityLabel, .fact, true⟩

namespace Document

/-- Whether a node refers to `reality` and none declares it. -/
def needsReality (d : Document) : Bool :=
  !d.declaredIds.contains realityId && d.refs.any (·.id = realityId)

/-- The nodes of a document's graph. -/
def graphNodes (d : Document) : List Node :=
  (if d.needsReality then [realityNode] else []) ++ d.nodes.map NodeDef.toNode

/-- The edges of a document's graph. -/
def graphEdges (d : Document) : List Edge := d.nodes.flatMap fun n => n.refs.map (·.toEdge n.id)

/-- The theme of a graph: an explicit choice wins over the document's own, and that one over the
fallback. An empty name chooses nothing. -/
def chooseTheme (choice own : Option String) (fallback : String) : String :=
  match choice.filter (· ≠ ""), own.filter (· ≠ "") with
  | some t, _ | none, some t => t
  | none, none => fallback

/-- The graph of a document, or the first reference that leads nowhere. -/
def toGraph (d : Document) (theme : Option String) (fallback : String) :
    Except DocumentError Graph :=
  let known := d.graphNodes.map (·.id)
  -- No target can be missing: it is the node that has the reference.
  match d.graphEdges.find? (!known.contains ·.source) with
  | some e => .error (.undefinedRef e.source e.target)
  | none => .ok {
      nodes := d.graphNodes
      edges := d.graphEdges
      title := d.title
      focus := d.focus
      theme := chooseTheme theme d.theme fallback }

end Document
end ThreatTree
