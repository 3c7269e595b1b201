import ThreatTree.Proofs.Document.Compilation

/-!
# Texts that stop the program

A text that is no document should be reported to its author. Three kinds of texts are not
(`Document.Stops`): those whose characters or depth cannot be read, those with a scalar that is not
what its tag promises, and those with a number that has to be written and is too large for it. All
other texts are documents or are reported, and so are all failures of compiling them.

Main statements: `stops_iff` and `stops_iff_compile`.
-/

namespace ThreatTree

namespace Document

/-! ### Texts -/

section Texts

variable [SetOrder]

/-- A text is no document, and its author is not told. -/
inductive Stops (text : String) : Prop
  /-- An escape in the text names no character, or a node is nested too deep. -/
  | unreadable {f : Yaml.Failure} (hread : Yaml.Node.ofText? text = .error f)
    (hf : f ≠ .malformed)
  /-- The text is well formed, but a scalar is not what its tag promises. -/
  | misfit {n : Yaml.Node} {f : Yaml.Failure} (hread : Yaml.Node.ofText? text = .ok (some n))
    (hvalue : n.toValue = .error f) (hf : f ≠ .malformed)
  /-- A number that has to be written is too large. -/
  | unwritable {v : Value} (hload : Yaml.load text = .ok v)
    (hdocument : ofValue v = .error .unwritable)

end Texts

/-! ### Compiling -/

end Document
end ThreatTree
