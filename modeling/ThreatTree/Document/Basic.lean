import ThreatTree.Category

/-!
# Documents

A threat tree document after checking: the declared nodes by section, the references of each node to
its prerequisites, and the nodes that the reader wants to focus on.
-/

namespace ThreatTree

/-- The node that stands for the world as it is. A document may refer to it without declaring
it. -/
def realityId : String := "reality"

/-- How `reality` is labelled when no document declares it. -/
def realityLabel : String := "Reality"

/-- A reference of a node to one of its prerequisites. -/
inductive Ref where
  /-- Only the prerequisite is named. -/
  | plain (id : String)
  /-- The reference carries a remark. -/
  | tagged (id tag : String)
  /-- The reference says how its edge is drawn. -/
  | flagged (id : String) (implemented backwards : Bool) (tag : Option String)
  deriving DecidableEq, Repr

namespace Ref

/-- The prerequisite that a reference names. -/
def id : Ref → String
  | plain id | tagged id _ | flagged id _ _ _ => id

end Ref

/-- A declared node. -/
structure NodeDef where
  id : String
  category : Category
  label : Option String
  refs : List Ref
  deriving DecidableEq, Repr

/-- What a node shows: its label, or its id if it has none. -/
def NodeDef.displayLabel (n : NodeDef) : String := n.label.getD n.id

/-- A threat tree document. -/
structure Document where
  title : Option String
  theme : Option String
  facts : List NodeDef
  attacks : List NodeDef
  mitigations : List NodeDef
  goals : List NodeDef
  focus : List String
  deriving DecidableEq, Repr

namespace Document

/-- The nodes declared in the section of a category. -/
def ofCategory (d : Document) : Category → List NodeDef
  | .fact => d.facts
  | .attack => d.attacks
  | .mitigation => d.mitigations
  | .goal => d.goals

/-- The declared nodes in creation order. -/
def nodes (d : Document) : List NodeDef := Category.all.flatMap d.ofCategory

/-- The ids of the declared nodes in creation order. -/
def declaredIds (d : Document) : List String := d.nodes.map (·.id)

/-- All references of a document in creation order. -/
def refs (d : Document) : List Ref := d.nodes.flatMap (·.refs)

end Document
end ThreatTree
