import ThreatTree.Yaml.Node.Parse
import ThreatTree.Yaml.ScalarValue

/-!
# From nodes to values

Every node becomes a value of the kind that its tag names. A mapping holds each key once: the last
value at the first place. The key `<<` merges the entries of other mappings in front of its own, so
that its own entries win. A set has its members in the order of the process, `[SetOrder]`.

If several nodes have no value, the text is refused for the one that is nested least, and of those
equally deep for the first one.
-/

namespace ThreatTree.Yaml

/-- A failure and how deep in the tree it is. -/
structure Fault where
  depth : Nat
  failure : Failure

/-- The fault that counts: the one nested less, the first of two equally deep. -/
def Fault.first : Option Fault → Option Fault → Option Fault
  | some a, some b => some (if b.depth < a.depth then b else a)
  | some a, none => some a
  | none, b => b

/-- A value with the fault that counts among its parts, if one has a fault. -/
structure Outcome where
  value : Value
  fault : Option Fault

namespace Outcome

def ok (v : Value) : Outcome := ⟨v, none⟩

/-- No value, for a reason found at a depth. -/
def fail (depth : Nat) (e : Failure) : Outcome := ⟨.null, some ⟨depth, e⟩⟩

def ofExcept (depth : Nat) : Except Failure Value → Outcome
  | .ok v => ok v
  | .error e => fail depth e

/-- The fault that counts among several outcomes. -/
def firstFault (os : List Outcome) : Option Fault :=
  os.foldl (fun f o => Fault.first f o.fault) none

/-- A list of values. -/
def list (os : List Outcome) : Outcome := ⟨.list (os.map (·.value)), firstFault os⟩

end Outcome

/-- Whether two values are one key. Not-a-number is one key, though it is not equal to itself. -/
def sameKey (a b : Value) : Bool :=
  match a, b with
  | .float x, .float y => x == y || (x.isNaN && y.isNaN)
  | _, _ => a.sameKey b

/-- The entries of a mapping on the way to values: those merged from other mappings, its own, and
whether something that is no mapping was to be merged. -/
structure Entries where
  merged : List (Outcome × Outcome)
  own : List (Outcome × Outcome)
  broken : Bool

namespace Entries

def none : Entries := ⟨[], [], false⟩

/-- All entries, the merged ones first. -/
def all (e : Entries) : List (Outcome × Outcome) := e.merged ++ e.own

/-- The faults of keys and values in their order. A collection is no key. -/
def fault (e : Entries) (depth : Nat) : Option Fault :=
  if e.broken then some ⟨depth, .malformed⟩
  else
    e.all.foldl (fun f (k, v) =>
      -- A key that failed has no value of which to say that it is a collection.
      let unfit := if k.fault.isNone && !k.value.isKey then
        some ⟨depth, .malformed⟩ else Option.none
      Fault.first (Fault.first (Fault.first f k.fault) unfit) v.fault) Option.none

/-- The entries with each key once. -/
def values (e : Entries) : List (Value × Value) :=
  e.all.foldl (fun acc (k, v) => Value.insertEntry sameKey k.value v.value acc) []

/-- The mapping of the entries, whose parts are at a depth. -/
def toMap (e : Entries) (depth : Nat) : Outcome := ⟨.map e.values, e.fault depth⟩

/-- The set of the keys, whose parts are at a depth. -/
def toSet [SetOrder] (e : Entries) (depth : Nat) : Outcome :=
  ⟨.set (SetOrder.list (e.values.map (·.1))), e.fault depth⟩

end Entries

namespace Node

/-- The text that a mapping gives where a scalar is wanted: that of its key for the value. -/
def scalarText? : Node → Option String
  | scalar _ text => some text
  | mapping _ entries => search entries
  | _ => none
where
  search : List (Node × Node) → Option String
    | [] => none
    | (.scalar .value _, v) :: _ => scalarText? v
    | _ :: rest => search rest

/-- The value of a mapping or a sequence under the tag of a scalar. -/
def scalarInstead (depth : Nat) (tag : Tag) (text? : Option String) : Outcome :=
  match text? with
  | some text =>
    match tag.scalarValue? text with
    | some r => .ofExcept depth r
    | none => .fail depth .malformed
  | none => .fail depth .malformed

variable [SetOrder]

mutual

/-- The value of a node at a depth. -/
def outcome (depth : Nat) : Node → Outcome
  | scalar tag text =>
    match tag with
    | .seq | .map | .set | .omap | .pairs => .fail (depth + 1) .malformed
    | _ =>
      match tag.scalarValue? text with
      | some r => .ofExcept depth r
      | none => .fail depth .malformed
  | sequence tag items =>
    match tag with
    | .seq => .list (outcomes (depth + 1) items)
    | .omap | .pairs => .list (pairOutcomes (depth + 1) items)
    | .map | .set => .fail (depth + 1) .malformed
    | _ => .fail depth .malformed
  | mapping tag entries =>
    match tag with
    | .map => (entryOutcomes (depth + 1) entries).toMap (depth + 1)
    | .set => (entryOutcomes (depth + 1) entries).toSet (depth + 1)
    | .seq | .omap | .pairs => .fail (depth + 1) .malformed
    | _ => scalarInstead depth tag (scalarText? (mapping tag entries))
  | enclosing up isMapping => .ok (.enclosing up isMapping)

/-- The values of nodes at a depth. -/
def outcomes (depth : Nat) : List Node → List Outcome
  | [] => []
  | n :: ns => outcome depth n :: outcomes depth ns

/-- The pairs of nodes at a depth that are mappings of one entry each. -/
def pairOutcomes (depth : Nat) : List Node → List Outcome
  | [] => []
  | mapping _ [(k, v)] :: ns =>
    let key := outcome depth k
    let value := outcome depth v
    ⟨.pair key.value value.value, Fault.first key.fault value.fault⟩ :: pairOutcomes depth ns
  | _ :: ns => .fail depth .malformed :: pairOutcomes depth ns

/-- The entries of a mapping whose parts are at a depth. -/
def entryOutcomes (depth : Nat) : List (Node × Node) → Entries
  | [] => .none
  | (k, v) :: rest =>
    let others := entryOutcomes depth rest
    if k.tag = .merge then
      match v with
      | mapping _ entries =>
        let e := entryOutcomes depth entries
        { others with merged := e.all ++ others.merged, broken := e.broken || others.broken }
      | sequence _ items =>
        let e := mergedOutcomes depth items
        { others with merged := e.all ++ others.merged, broken := e.broken || others.broken }
      -- A mapping merged into itself adds nothing.
      | enclosing _ true => others
      | _ => { others with broken := true }
    else
      let key := match k with
        | scalar .value text => .ok (.text text)
        | _ => outcome depth k
      { others with own := (key, outcome depth v) :: others.own }

/-- The entries of several mappings, those of the last one first. -/
def mergedOutcomes (depth : Nat) : List Node → Entries
  | [] => .none
  | n :: ns =>
    let others := mergedOutcomes depth ns
    match n with
    | mapping _ entries =>
      let e := entryOutcomes depth entries
      { others with merged := others.merged ++ e.all, broken := e.broken || others.broken }
    | enclosing _ true => others
    | _ => { others with broken := true }

end

/-- The value of a node. -/
def toValue (n : Node) : Except Failure Value :=
  match outcome 0 n with
  | ⟨_, some f⟩ => .error f.failure
  | ⟨v, none⟩ => .ok v

end Node

/-- The value of a text. A text without a document has no value but nothing. -/
def load [SetOrder] (s : String) : Except Failure Value := do
  match (← Node.ofText? s) with
  | some n => n.toValue
  | none => return .null

end ThreatTree.Yaml
