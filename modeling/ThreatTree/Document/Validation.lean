import ThreatTree.Document.Basic
import ThreatTree.Document.Error
import ThreatTree.Text.Blank
import ThreatTree.Value.Parts

/-!
# Reading a document from a value

`Document.ofValue` checks a decoded value against the grammar of documents and reports the first
problem it meets, in this order: title, theme, the sections with the entries of each, references
between nodes, focus. Nothing is read from a document that is rejected.

A reference is written in several ways: as a bare id, as an id with a remark, with flags beside the
id or under it. A flag beside the id wins over the same flag under it.
-/

namespace ThreatTree

open DocumentError

/-! ### Ids and texts -/

/-- A node id: a text or a number that is not blank. Truth values are never ids. -/
def idOfValue (owner : Option String) : Value → Except DocumentError String
  | v@(.text _) | v@(.int _) | v@(.float _) =>
    if Text.isBlankText v.display then .error (blankId owner) else .ok v.display
  | v => .error (quoting [v] (badId v owner))

/-- A text: any value but a list or a mapping. -/
def textOfValue (role : TextRole) (owner : String) : Value → Except DocumentError String
  | .list _ | .map _ | .enclosing _ _ => .error (notText role owner)
  | v => if v.isWritable then .ok v.display else .error unwritable

/-! ### References -/

/-- The key of an entry that lists prerequisites. -/
def refsKey : String := "from"

/-- The flag that gives a reference its remark. -/
def labelFlag : String := "label"

/-- Whether a key is a flag of a reference. -/
def isFlagKey (k : Value) : Bool :=
  k.isText Flag.implemented.name || k.isText Flag.backwards.name || k.isText labelFlag

/-- The flags of a reference: those beside the id and those under it. -/
structure Flags where
  beside : List (Value × Value)
  under : List (Value × Value)

namespace Flags

/-- No flag is given. -/
def isEmpty (f : Flags) : Bool := f.beside.isEmpty && f.under.isEmpty

/-- The value of a flag. -/
def get? (f : Flags) (key : String) : Option Value :=
  match Value.lookup? key f.beside with
  | some v => some v
  | none => Value.lookup? key f.under

/-- A flag that is either true or false, or `otherwise` if it is not given. -/
def bool (f : Flags) (flag : Flag) (otherwise : Bool) (ref owner : String) :
    Except DocumentError Bool :=
  match f.get? flag.name with
  | none => .ok otherwise
  | some (.bool b) => .ok b
  | some _ => .error (flagNotBool flag ref owner)

/-- The remark that the flags give, or `otherwise` if they give none. -/
def tag (f : Flags) (otherwise : Option String) (owner : String) :
    Except DocumentError (Option String) :=
  match f.get? labelFlag with
  | none | some .null => .ok otherwise
  | some v => some <$> textOfValue .edgeLabel owner v

end Flags

/-- What stands under the id of a reference: flags, or a remark. -/
def underRef (ref owner : String) :
    Value → Except DocumentError (List (Value × Value) × Option String)
  | .null => .ok ([], none)
  | .map entries =>
    let unknown := (entries.map (·.1)).filter (!isFlagKey ·)
    if unknown.isEmpty then .ok (entries, none)
    else .error (quoting unknown (unknownFlags unknown ref owner))
  | v => do return ([], some (← textOfValue .edgeTag owner v))

/-- A reference with flags. -/
def flaggedRef (flags : Flags) (tag : Option String) (ref owner : String) :
    Except DocumentError Ref := do
  let implemented ← flags.bool .implemented true ref owner
  let backwards ← flags.bool .backwards false ref owner
  return .flagged ref implemented backwards (← flags.tag tag owner)

/-- A reference of the node `owner`. -/
def Ref.ofValue (owner : String) : Value → Except DocumentError Ref
  | .map es => do
    let entries := Value.entries es
    match entries.filter (!isFlagKey ·.1) with
    | [(key, value)] =>
      let ref ← idOfValue (some owner) key
      let (under, tag) ← underRef ref owner value
      let flags : Flags := ⟨entries.filter (isFlagKey ·.1), under⟩
      -- A flag that says what holds anyway makes a flagged reference too.
      if flags.isEmpty then
        return match tag with
          | none => .plain ref
          | some t => .tagged ref t
      else flaggedRef flags tag ref owner
    | others =>
      let keys := others.map (·.1)
      .error (quoting keys (refKeys keys owner))
  | v => .plain <$> idOfValue (some owner) v

/-- The references of the node `owner`. -/
def refsOfValue (owner : String) : Option Value → Except DocumentError (List Ref)
  | none => .ok []
  | some (.list vs) => (Value.items vs).mapM (Ref.ofValue owner)
  | some _ => .error (refsNotList owner)

/-! ### Entries and sections -/

/-- A node of a section: a bare id, or an id with its label and the list of its prerequisites. -/
def NodeDef.ofValue (category : Category) : Value → Except DocumentError NodeDef
  | .map es => do
    let entries := Value.entries es
    match entries.filter (!·.1.isText refsKey) with
    | [(key, value)] =>
      let id ← idOfValue none key
      let label ← match value with
        | .null => pure none
        | v => some <$> textOfValue .label id v
      let refs ← refsOfValue id (Value.field? refsKey entries)
      return ⟨id, category, label, refs⟩
    | others =>
      let keys := others.map (·.1)
      .error (quoting keys (entryKeys category keys))
  | v => do return ⟨← idOfValue none v, category, none, []⟩

/-- The entries of a section after the nodes `seen` have been declared: the nodes of all sections
so far. -/
def readEntries (category : Category) (seen : List NodeDef) :
    List Value → Except DocumentError (List NodeDef)
  | [] => .ok seen
  | v :: vs => do
    let node ← NodeDef.ofValue category v
    match seen.find? (·.id = node.id) with
    | some other => .error (duplicateId node.id other.category)
    | none => readEntries category (seen ++ [node]) vs

/-- The entries of the section of a category, after the nodes `seen`. -/
def readSection (entries : List (Value × Value)) (seen : List NodeDef) (category : Category) :
    Except DocumentError (List NodeDef) :=
  match Value.field? category.sectionName entries with
  | none => .ok seen
  | some (.list vs) => readEntries category seen (Value.items vs)
  | some _ => .error (sectionNotList category)

/-! ### References between nodes and focus -/

/-- The first reference that names no declared node and not `reality`. -/
def checkRefs (nodes : List NodeDef) : Except DocumentError Unit :=
  let ids := nodes.map (·.id)
  let dangling := nodes.flatMap fun n =>
    (n.refs.filter fun r => !ids.contains r.id && r.id ≠ realityId).map fun r => (r.id, n.id)
  match dangling with
  | [] => .ok ()
  | (ref, owner) :: _ => .error (undefinedRef ref owner)

/-- The ids that a focus may name: the declared ones, and `reality` where a node refers to it. -/
def focusIds (nodes : List NodeDef) : List String :=
  let refs := (nodes.flatMap (·.refs)).map Ref.id
  nodes.map (·.id) ++ (if refs.contains realityId then [realityId] else [])

/-- A node of the focus. -/
def focusOfValue (known : List String) (v : Value) : Except DocumentError String := do
  let id ← idOfValue (some "filter") v
  if known.contains id then return id else .error (undefinedFocus id)

/-- The focus of a document. -/
def readFocus (known : List String) : Option Value → Except DocumentError (List String)
  | none => .ok []
  | some (.list vs) => (Value.items vs).mapM (focusOfValue known)
  | some _ => .error focusNotList

/-! ### The document -/

/-- The title of a document. -/
def readTitle (entries : List (Value × Value)) : Except DocumentError (Option String) :=
  match Value.field? "title" entries with
  | none => .ok none
  | some v => some <$> textOfValue .title "title" v

/-- The theme of a document. -/
def readTheme (entries : List (Value × Value)) : Except DocumentError (Option String) :=
  match Value.field? "theme" entries with
  | none => .ok none
  | some (.text name) =>
    match Theme.ofName? name with
    | some _ => .ok (some name)
    | none => .error (unknownTheme name)
  | some _ => .error themeNotText

/-- A document from the entries of its mapping. -/
def Document.ofEntries (entries : List (Value × Value)) : Except DocumentError Document := do
  let title ← readTitle entries
  let theme ← readTheme entries
  let nodes ← Category.all.foldlM (readSection entries) []
  checkRefs nodes
  let focus ← readFocus (focusIds nodes) (Value.field? "filter" entries)
  let ofCategory (c : Category) := nodes.filter (·.category = c)
  return {
    title, theme, focus
    facts := ofCategory .fact
    attacks := ofCategory .attack
    mitigations := ofCategory .mitigation
    goals := ofCategory .goal }

/-- A document from a decoded value. No value at all is the empty document. -/
def Document.ofValue : Value → Except DocumentError Document
  | .null => Document.ofEntries []
  | .map es => Document.ofEntries (Value.entries es)
  | v => .error (notMapping v)

end ThreatTree
