/-!
# Nodes

A text as a tree before any scalar is given its kind. Every node has a tag, which says what kind of
value it is to become. An alias is the node that it names; inside that node itself it is
`enclosing`, which counts the nodes on the way out.
-/

namespace ThreatTree.Yaml

/-- What kind of value a node is to become. -/
inductive Tag where
  | null
  | bool
  | int
  | float
  | binary
  | timestamp
  | str
  | seq
  | map
  | set
  | omap
  | pairs
  /-- The key that merges other mappings into its own. -/
  | merge
  /-- The key that stands for the value of a mapping where a scalar is wanted. -/
  | value
  | other (name : String)
  deriving DecidableEq, Repr

namespace Tag

/-- What the names of the known tags begin with. -/
def base : String := "tag:yaml.org,2002:"

/-- The known tags by their last part. -/
def known : List (String × Tag) :=
  [("null", null), ("bool", bool), ("int", int), ("float", float), ("binary", binary),
    ("timestamp", timestamp), ("str", str), ("seq", seq), ("map", map), ("set", set),
    ("omap", omap), ("pairs", pairs), ("merge", merge), ("value", value)]

/-- The tag with a name. -/
def ofName (name : String) : Tag :=
  match known.find? fun (part, _) => base ++ part = name with
  | some (_, t) => t
  | none => other name

end Tag

/-- A node of a text. -/
inductive Node where
  | scalar (tag : Tag) (text : String)
  | sequence (tag : Tag) (items : List Node)
  | mapping (tag : Tag) (entries : List (Node × Node))
  /-- A sequence or a mapping that contains the place where this stands: the innermost one if `up`
  is zero, else the one that is so many nodes further out. -/
  | enclosing (up : Nat) (isMapping : Bool)
  deriving Inhabited

/-- The tag of a node. -/
def Node.tag : Node → Tag
  | scalar t _ | sequence t _ | mapping t _ => t
  | enclosing _ isMapping => if isMapping then .map else .seq

end ThreatTree.Yaml
