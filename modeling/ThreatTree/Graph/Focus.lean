import ThreatTree.Document.Error
import ThreatTree.Graph.Basic
import ThreatTree.Graph.Reach

/-!
# Focus

A focus is a list of ids. The part of a graph in focus is what lies on a path into or out of one of
them: `ancestors` and `descendants` are the two cones of an id, `through` both together, and
`restrict` keeps the nodes in some cone and the edges between them. An edge is kept when both its
ends are, also if unrelated cones keep them.
-/

namespace ThreatTree
namespace Graph

/-- The ids from which edges lead to `id`, and `id` itself. -/
def ancestors (g : Graph) (id : String) : List String := reach (g.arcs.map Prod.swap) [id]

/-- The ids to which edges lead from `id`, and `id` itself. -/
def descendants (g : Graph) (id : String) : List String := reach g.arcs [id]

/-- Both cones of `id`. -/
def through (g : Graph) (id : String) : List String := g.ancestors id ++ g.descendants id

/-- The ids in a cone of one of the focus ids. -/
def retained (g : Graph) (focus : List String) : List String := focus.flatMap g.through

/-- The nodes with a kept id and the edges between kept ids. -/
def restrict (g : Graph) (kept : List String) : Graph :=
  { g with
    nodes := g.nodes.filter fun n => kept.contains n.id
    edges := g.edges.filter fun e => kept.contains e.source && kept.contains e.target }

/-- The part of a graph that is in focus; all of it if the focus is empty. -/
def focusOn (g : Graph) (focus : List String) : Except DocumentError Graph :=
  if focus.isEmpty then .ok g
  else
    match focus.find? (!g.vertices.contains ·) with
    | some id => .error (.undefinedFocus id)
    | none => .ok (g.restrict (g.retained focus))

@[simp] theorem focusOn_nil (g : Graph) : g.focusOn [] = .ok g := rfl

end Graph
end ThreatTree
