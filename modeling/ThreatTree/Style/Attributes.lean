/-!
# Drawing attributes

The attributes that a style sets, as the layout program names them. An attribute that is not set is
not written at all, while an empty one is.
-/

namespace ThreatTree

/-- The attributes of a node or an edge. -/
structure Attributes where
  shape : Option String := none
  style : Option String := none
  fillcolor : Option String := none
  fontcolor : Option String := none
  color : Option String := none
  arrowhead : Option String := none
  penwidth : Option String := none
  deriving DecidableEq, Repr

namespace Attributes

/-- The attributes that are set, by name, in the order of the fields. -/
def toList (a : Attributes) : List (String × String) :=
  [("shape", a.shape), ("style", a.style), ("fillcolor", a.fillcolor), ("fontcolor", a.fontcolor),
    ("color", a.color), ("arrowhead", a.arrowhead), ("penwidth", a.penwidth)].filterMap
      fun (name, value?) => value?.map fun value => (name, value)

/-- The attributes of `b`, and those of `a` that `b` does not set. -/
def merge (a b : Attributes) : Attributes where
  shape := b.shape.or a.shape
  style := b.style.or a.style
  fillcolor := b.fillcolor.or a.fillcolor
  fontcolor := b.fontcolor.or a.fontcolor
  color := b.color.or a.color
  arrowhead := b.arrowhead.or a.arrowhead
  penwidth := b.penwidth.or a.penwidth

@[simp] theorem merge_empty (a : Attributes) : a.merge {} = a := by cases a; rfl

end Attributes
end ThreatTree
