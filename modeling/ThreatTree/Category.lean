/-!
# Categories

The four kinds of node of a threat tree. A document declares the nodes of each kind in a section of
its own, and `Category.all` is the order in which sections are read and nodes are created.
-/

namespace ThreatTree

/-- What a node of a threat tree is. -/
inductive Category where
  | fact
  | attack
  | mitigation
  | goal
  deriving DecidableEq, Repr, Inhabited

namespace Category

/-- Every category, in the order of the sections. -/
def all : List Category := [fact, attack, mitigation, goal]

@[simp] theorem mem_all (c : Category) : c ∈ all := by cases c <;> simp [all]

/-- The name of a category in answers and messages. -/
def name : Category → String
  | fact => "fact"
  | attack => "attack"
  | mitigation => "mitigation"
  | goal => "goal"

/-- The section of a document that declares nodes of a category. -/
def sectionName : Category → String
  | fact => "facts"
  | attack => "attacks"
  | mitigation => "mitigations"
  | goal => "goals"

/-- The section's name as a heading. -/
def heading : Category → String
  | fact => "Facts"
  | attack => "Attacks"
  | mitigation => "Mitigations"
  | goal => "Goals"

/-- The category with a name. -/
def ofName? (s : String) : Option Category := all.find? (·.name = s)

@[simp] theorem ofName?_name (c : Category) : ofName? c.name = some c := by cases c <;> rfl

end Category
end ThreatTree
