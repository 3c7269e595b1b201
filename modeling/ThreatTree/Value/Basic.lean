import ThreatTree.Calendar
import ThreatTree.Decimal.Reading
import ThreatTree.Decimal.Shortest
import ThreatTree.Text.Utf8

/-!
# Values

The tree that a document's text decodes to: scalars, lists and mappings, and the few other
collections that a document can ask for by a tag. A mapping keeps the order in which its keys were
written and holds each key once; what counts as one key is `Value.sameKey`.
-/

namespace ThreatTree

/-- A decoded value. -/
inductive Value where
  | null
  | bool (b : Bool)
  | int (n : Int)
  /-- A whole number that is too large to be written in base ten. -/
  | hugeInt (n : Int)
  | float (x : Float)
  | text (s : String)
  | bytes (bs : Bytes)
  | date (d : Date)
  | moment (m : Moment)
  | list (items : List Value)
  | pair (first second : Value)
  | map (entries : List (Value × Value))
  /-- A set, with its members in the order in which the process lists them (`SetOrder`). -/
  | set (items : List Value)
  /-- A mapping or a list that contains the place where this stands: the innermost one if `up` is
  zero, else the one that is so many collections further out. -/
  | enclosing (up : Nat) (isMap : Bool)
  deriving Inhabited

/-- The order in which a process lists the members of a set. Each process has one of its own, and two
processes need not agree. It shows in the text of a set and nowhere else. -/
class SetOrder where
  /-- The members of a set as they are listed, from those in the order of writing. -/
  list : List Value → List Value
  /-- Nothing is left out and nothing comes twice. -/
  perm : ∀ members, (list members).Perm members

namespace SetOrder

/-- Sets are listed as they are written. -/
@[reducible] def written : SetOrder := ⟨id, fun _ => .refl _⟩

/-- Sets are listed from their ends. -/
@[reducible] def reversed : SetOrder := ⟨List.reverse, List.reverse_perm⟩

end SetOrder

namespace Value

/-- A whole number. -/
def ofInt (n : Int) : Value := if Decimal.isBeyondNumerals n.natAbs then hugeInt n else int n

/-- Whether a number is exactly the whole number `n`. -/
def floatIsInt (x : Float) (n : Int) : Bool :=
  match Decimal.Parts.of x with
  | .nan | .infinite _ => false
  | .zero _ => n = 0
  | .finite negative m q _ =>
    let m : Int := if negative then -(m : Int) else m
    m * Int.pow 2 q.toNat = n * Int.pow 2 (-q).toNat

/-- The whole number that a truth value or a whole number counts as. -/
def asInt? : Value → Option Int
  | bool b => some (if b then 1 else 0)
  | int n | hugeInt n => some n
  | _ => none

/-- Whether two scalars are one key of a mapping: numbers and truth values are compared by size, all
else by kind and content. -/
def sameKey : Value → Value → Bool
  | null, null => true
  | text a, text b => a = b
  | bytes a, bytes b => a = b
  | date a, date b => a = b
  | moment a, moment b => a.same b
  | float a, float b => a == b
  | float a, b =>
    match asInt? b with
    | some n => floatIsInt a n
    | none => false
  | a, float b =>
    match asInt? a with
    | some n => floatIsInt b n
    | none => false
  | a, b =>
    match asInt? a, asInt? b with
    | some m, some n => m = n
    | _, _ => false

/-- Whether a value can be the key of a mapping: collections cannot. -/
def isKey : Value → Bool
  | list _ | map _ | set _ | enclosing _ _ => false
  | _ => true

/-- Sets a key of a mapping. A key that is there keeps its place and spelling. -/
def insertEntry (same : Value → Value → Bool) (k v : Value) :
    List (Value × Value) → List (Value × Value)
  | [] => [(k, v)]
  | (k', v') :: rest =>
    if same k' k then (k', v) :: rest else (k', v') :: insertEntry same k v rest

/-- The value under a text key. -/
def lookup? (key : String) : List (Value × Value) → Option Value
  | [] => none
  | (.text k, v) :: rest => if k = key then some v else lookup? key rest
  | _ :: rest => lookup? key rest

/-- The value under a text key, where a key without a value counts as absent. -/
def field? (key : String) (entries : List (Value × Value)) : Option Value :=
  match lookup? key entries with
  | some .null => none
  | v => v

/-- Whether a key is the given text. -/
def isText (s : String) : Value → Bool
  | text t => t = s
  | _ => false

theorem isText_iff {s : String} {v : Value} : v.isText s = true ↔ v = text s := by
  cases v <;> simp [isText]

end Value
end ThreatTree
