import ThreatTree.Document.Validation

/-!
# The grammar of documents

Which values are documents? `Document.ofValue` reads a value from the top and stops at the first
problem. The grammar here says it part by part, without an order: what an id is, a reference, an
entry of a section, and which conditions tie the parts together.

A name is looked for in two kinds of mapping, and in both of them among the keys that are not set
aside for something else: `from` in an entry, the flags in a reference. Beside the grammar stand the
values that a text is taken from (`documentTexts`), for a grammar cannot tell which numbers can be
written out.
-/

namespace ThreatTree.Grammar

/-! ### Parts of a value -/

/-- The members of a list; none where there is no list. -/
def members : Option Value → List Value
  | some (.list vs) => Value.items vs
  | _ => []

/-- The entries of a mapping whose keys are not set aside. -/
def namings (aside : Value → Bool) (es : List (Value × Value)) : List (Value × Value) :=
  (Value.entries es).filter (!aside ·.1)

/-- What names a node, with what stands under the name: the first key that is not set aside, or the
value itself where it is no mapping. -/
def naming (aside : Value → Bool) : Value → Value × Value
  | .map es => (namings aside es).headD (.null, .null)
  | v => (v, .null)

/-- The name of a reference. -/
def refName (v : Value) : Value := (naming isFlagKey v).1

/-- The flags under the name of a reference. -/
def flagsUnder : Value → List (Value × Value)
  | .map fs => fs
  | _ => []

/-- The value of a flag of a reference. What stands beside the name wins over what stands under
it. -/
def flag? (name : String) : Value → Option Value
  | v@(.map es) =>
    (Value.lookup? name (Value.entries es)).or
      (Value.lookup? name (flagsUnder (naming isFlagKey v).2))
  | _ => none

/-- The name of an entry. -/
def entryName (v : Value) : Value := (naming (·.isText refsKey) v).1

/-- The label of an entry. -/
def entryLabel (v : Value) : Value := (naming (·.isText refsKey) v).2

/-- The references of an entry. -/
def entryRefs : Value → List Value
  | .map es => members (Value.field? refsKey (Value.entries es))
  | _ => []

/-- The entries at the top of a document. No value at all is the empty document. -/
def topEntries? : Value → Option (List (Value × Value))
  | .null => some []
  | .map es => some (Value.entries es)
  | _ => none

/-- The entries of the section of a category. -/
def sectionEntries (es : List (Value × Value)) (c : Category) : List Value :=
  members (Value.field? c.sectionName es)

/-- The entries of all sections. -/
def nodeEntries (es : List (Value × Value)) : List Value := Category.all.flatMap (sectionEntries es)

/-- The ids that a document declares. -/
def declared (es : List (Value × Value)) : List String :=
  (nodeEntries es).map fun v => (entryName v).display

/-- The ids that a document refers to. -/
def referred (es : List (Value × Value)) : List String :=
  ((nodeEntries es).flatMap entryRefs).map fun v => (refName v).display

/-! ### The grammar -/

/-- An id: a number, or a text that is not blank. -/
inductive IsId : Value → Prop where
  | text {s : String} (h : Text.isBlankText s = false) : IsId (.text s)
  | int (n : Int) : IsId (.int n)
  | hugeInt (n : Int) : IsId (.hugeInt n)
  | float (x : Float) : IsId (.float x)

/-- What a text is taken from: anything but a list or a mapping. -/
def IsText : Value → Prop
  | .list _ | .map _ | .enclosing _ _ => False
  | _ => True

/-- What may be left out, and else is a list with members of one kind. -/
inductive ListOf (p : Value → Prop) : Option Value → Prop where
  | absent : ListOf p none
  | list {vs : List Value} (h : ∀ v ∈ Value.items vs, p v) : ListOf p (some (.list vs))

/-- What stands under the name of a reference: nothing, a remark or flags. -/
inductive IsUnderRef : Value → Prop where
  | text {v : Value} (h : IsText v) : IsUnderRef v
  | flags {fs : List (Value × Value)} (h : ∀ e ∈ fs, isFlagKey e.1 = true) : IsUnderRef (.map fs)

/-- A reference: an id, or a mapping that names one node and may have flags. -/
inductive IsRef : Value → Prop where
  | id {v : Value} (h : IsId v) : IsRef v
  | mapping {es : List (Value × Value)} {key under : Value}
      (hnaming : namings isFlagKey es = [(key, under)])
      (hkey : IsId key)
      (hunder : IsUnderRef under)
      (hbool : ∀ (flag : Flag) (v : Value), flag? flag.name (.map es) = some v → ∃ b, v = .bool b)
      (hlabel : ∀ v, flag? labelFlag (.map es) = some v → IsText v) :
      IsRef (.map es)

/-- An entry of a section: an id, or a mapping that names one node and may list its
prerequisites. -/
inductive IsEntry : Value → Prop where
  | id {v : Value} (h : IsId v) : IsEntry v
  | mapping {es : List (Value × Value)} {key label : Value}
      (hnaming : namings (·.isText refsKey) es = [(key, label)])
      (hkey : IsId key)
      (hlabel : IsText label)
      (hrefs : ListOf IsRef (Value.field? refsKey (Value.entries es))) :
      IsEntry (.map es)

/-- An id that the focus of a document may name: a declared one, or `reality` where a node refers
to it. -/
def InReach (es : List (Value × Value)) (id : String) : Prop :=
  id ∈ declared es ∨ id = realityId ∧ realityId ∈ referred es

/-- The entries at the top of a document. -/
structure IsTop (es : List (Value × Value)) : Prop where
  title : ∀ v, Value.field? "title" es = some v → IsText v
  theme : ∀ v, Value.field? "theme" es = some v → ∃ t : Theme, v = .text t.name
  sections : ∀ c : Category, ListOf IsEntry (Value.field? c.sectionName es)
  distinct : (declared es).Nodup
  refs : ∀ id ∈ referred es, id ∈ declared es ∨ id = realityId
  focus : ListOf (fun v => IsId v ∧ InReach es v.display) (Value.field? "filter" es)

/-- A document. -/
def IsDocument (v : Value) : Prop := ∃ es, topEntries? v = some es ∧ IsTop es

/-! ### What texts are taken from -/

/-- The remark under the name of a reference, if there is one. -/
def remark : Value → List Value
  | .map _ => []
  | v => [v]

/-- What the texts of a reference are taken from. -/
def refTexts (v : Value) : List Value :=
  refName v :: remark (naming isFlagKey v).2 ++ (flag? labelFlag v).toList

/-- What the texts of an entry are taken from. -/
def entryTexts (v : Value) : List Value :=
  entryName v :: entryLabel v :: (entryRefs v).flatMap refTexts

/-- What the texts of a document are taken from. -/
def topTexts (es : List (Value × Value)) : List Value :=
  (Value.field? "title" es).toList ++ (nodeEntries es).flatMap entryTexts ++
    members (Value.field? "filter" es)

/-- What the texts of a document are taken from: the title, the names, the labels, the remarks and
the focus. -/
def documentTexts (v : Value) : List Value := ((topEntries? v).map topTexts).getD []

end ThreatTree.Grammar
