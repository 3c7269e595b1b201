import ThreatTree.Category

/-!
# Graphs

A threat tree as nodes and edges. An edge points from a prerequisite to what depends on it;
`Edge.backwards` turns only the arrow that is drawn. Nodes may share an id and edges may name ids
that no node has, so lookups say which node they take.
-/

namespace ThreatTree

/-- A node of a graph. Only a node that no document declares is implicit. -/
structure Node where
  id : String
  label : String
  category : Category
  implicit : Bool
  deriving DecidableEq, Repr

/-- An edge from a prerequisite to what depends on it. -/
structure Edge where
  source : String
  target : String
  tag : Option String
  backwards : Bool
  implemented : Bool
  deriving DecidableEq, Repr

/-- Tail and head of the arrow that is drawn for an edge. -/
def Edge.drawn (e : Edge) : String × String :=
  if e.backwards then (e.target, e.source) else (e.source, e.target)

/-- A compiled threat tree. -/
structure Graph where
  nodes : List Node
  edges : List Edge
  title : Option String
  focus : List String
  theme : String
  deriving DecidableEq, Repr

namespace Graph

/-- The categories of a graph's nodes, in the order of sections. -/
def categories (g : Graph) : List Category :=
  Category.all.filter fun c => g.nodes.any (·.category = c)

def isEmpty (g : Graph) : Bool := g.nodes.isEmpty

/-- A graph without a node has nothing to lay out. -/
def worthRendering (g : Graph) : Bool := !g.isEmpty

/-- Whether there is a title to show. -/
def hasTitle (g : Graph) : Bool :=
  match g.title with
  | none | some "" => false
  | some _ => true

/-- The node with an id: the last one of that id. -/
def node? (g : Graph) (id : String) : Option Node := g.nodes.reverse.find? (·.id = id)

/-- The ids of a graph in the order in which they first occur: those of nodes, then endpoints of
edges. -/
def vertices (g : Graph) : List String :=
  (g.nodes.map (·.id) ++ g.edges.flatMap fun e => [e.source, e.target]).eraseDups

theorem mem_vertices_iff {g : Graph} {id : String} :
    id ∈ g.vertices ↔
      id ∈ g.nodes.map (·.id) ∨ ∃ e ∈ g.edges, id = e.source ∨ id = e.target := by
  simp only [vertices, List.mem_eraseDups, List.mem_append, List.mem_flatMap, List.mem_cons,
    List.not_mem_nil, or_false]

/-- The pairs that edges join, from prerequisite to dependent. -/
def arcs (g : Graph) : List (String × String) := g.edges.map fun e => (e.source, e.target)

/-- The distinct ids that edges lead to from an id, in the order of code points. -/
def successors (g : Graph) (id : String) : List String :=
  ((g.arcs.filter (·.1 = id)).map (·.2)).eraseDups.mergeSort (· ≤ ·)

end Graph
end ThreatTree
