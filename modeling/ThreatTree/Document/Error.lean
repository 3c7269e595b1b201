import ThreatTree.Category
import ThreatTree.Style.Theme
import ThreatTree.Value.Display

/-!
# What can be wrong with a document

Each cause of a rejection is a constructor, with what the message needs to know.
`DocumentError.reason` is the wording of a cause, `DocumentError.nodeId?` the node it is about,
and `message` the two together.
-/

namespace ThreatTree

/-- The two flags of a reference that are either true or false. -/
inductive Flag where
  | implemented
  | backwards
  deriving DecidableEq, Repr

def Flag.name : Flag → String
  | implemented => "implemented"
  | backwards => "backwards"

/-- A place where a document wants a text. -/
inductive TextRole where
  | title
  | label
  | edgeTag
  | edgeLabel
  deriving DecidableEq, Repr

def TextRole.name : TextRole → String
  | title => "Title"
  | label => "Label"
  | edgeTag => "Edge tag"
  | edgeLabel => "Edge label"

/-- Why a document is rejected. `owner` is the node or the section part that the problem is in. -/
inductive DocumentError where
  | notMapping (found : Value)
  | badId (found : Value) (owner : Option String)
  | blankId (owner : Option String)
  | notText (role : TextRole) (owner : String)
  | themeNotText
  | unknownTheme (name : String)
  | sectionNotList (category : Category)
  | entryKeys (category : Category) (keys : List Value)
  | duplicateId (id : String) (declaredIn : Category)
  | refsNotList (owner : String)
  | refKeys (keys : List Value) (owner : String)
  | unknownFlags (keys : List Value) (ref owner : String)
  | flagNotBool (flag : Flag) (ref owner : String)
  | undefinedRef (ref owner : String)
  | focusNotList
  | undefinedFocus (id : String)
  /-- A number that stands for a text, or that the wording of another cause quotes, is too large to
  be written out. -/
  | unwritable

namespace DocumentError

/-- The wording of a cause. -/
def reason : DocumentError → String
  | notMapping v => "Document must be a mapping of sections, got " ++ v.kindName
  | badId v _ => "Invalid node id " ++ v.quote
  | blankId _ => "Node id cannot be empty"
  | notText role _ => role.name ++ " must be a string"
  | themeNotText => "Theme must be a string"
  | unknownTheme name => s!"Unknown theme '{name}' (expected one of: {Theme.names})"
  | sectionNotList c => s!"Section '{c.sectionName}' must be a list of nodes"
  | entryKeys c keys =>
    s!"Entry in '{c.sectionName}' must name exactly one node, got {Value.quoteList keys}"
  | duplicateId _ c => s!"Duplicate id (already declared in {c.sectionName})"
  | refsNotList _ => "'from' must be a list"
  | refKeys keys _ => s!"'from' entry must name exactly one node, got {Value.quoteList keys}"
  | unknownFlags keys ref _ => s!"Unknown edge attribute(s) {Value.quoteList keys} on '{ref}'"
  | flagNotBool flag ref _ => s!"'{flag.name}' on edge from '{ref}' must be true or false"
  | undefinedRef ref _ => s!"References undefined node '{ref}'"
  | focusNotList => "'filter' must be a list of node ids"
  | undefinedFocus id => s!"Filter references undefined node '{id}'"
  | unwritable => "A number is too large to be written"

/-- The node, or the part of the document, that a cause is about. -/
def nodeId? : DocumentError → Option String
  | badId _ owner | blankId owner => owner
  | notText _ owner | refsNotList owner | refKeys _ owner | unknownFlags _ _ owner
  | flagNotBool _ _ owner | undefinedRef _ owner => some owner
  | themeNotText | unknownTheme _ => some "theme"
  | duplicateId id _ | undefinedFocus id => some id
  | focusNotList => some "filter"
  | notMapping _ | sectionNotList _ | entryKeys _ _ | unwritable => none

/-- A cause whose wording quotes some values, if they can be written out. -/
def quoting (vs : List Value) (e : DocumentError) : DocumentError :=
  if Value.areWritable vs then e else unwritable

/-- Whether the author of a document is told of a cause. A number that cannot be written out stops
the program. -/
def isReported : DocumentError → Bool
  | unwritable => false
  | _ => true

/-- Whether a cause is a problem of the focus alone. -/
def isFocusError : DocumentError → Bool
  | focusNotList | undefinedFocus _ => true
  | _ => false

/-- The wording of a cause after the node it is about. -/
def message (e : DocumentError) : String :=
  match e.nodeId? with
  | none => e.reason
  | some id => s!"Node '{id}': {e.reason}"

end DocumentError
end ThreatTree
