import ThreatTree.Text.Quoted
import ThreatTree.Value.Basic

/-!
# Values as text

A value has two texts. `Value.display` is the value where a text is wanted: a text is itself and a
number its shortest numeral. `Value.quote` is the value inside a message: texts stand between
quotation marks, and a collection is written out with its members quoted, those of a set in the order
of the process (`SetOrder`). Neither is of use where a number is too large to be written out
(`Value.isWritable`).
-/

namespace ThreatTree

/-- A number in at least `width` places. -/
def padded (width n : Nat) : String :=
  let ds := Nat.toDigits 10 n
  String.ofList (List.replicate (width - ds.length) '0' ++ ds)

/-- Year, month and day with hyphens. -/
def Date.display (d : Date) : String :=
  s!"{padded 4 d.year}-{padded 2 d.month}-{padded 2 d.day}"

def Date.quote (d : Date) : String := s!"datetime.date({d.year}, {d.month}, {d.day})"

/-- The sign, hours and minutes of an offset. -/
def Moment.displayOffset (o : Int) : String :=
  let sign := if o < 0 then "-" else "+"
  s!"{sign}{padded 2 (o.natAbs / 60)}:{padded 2 (o.natAbs % 60)}"

/-- Day and time, with microseconds if there are any and the offset if it is known. -/
def Moment.display (m : Moment) : String :=
  let fraction := if m.microsecond = 0 then "" else "." ++ padded 6 m.microsecond
  let offset := match m.offset with
    | none => ""
    | some o => displayOffset o
  s!"{m.date.display} {padded 2 m.hour}:{padded 2 m.minute}:{padded 2 m.second}{fraction}{offset}"

/-- An offset as whole days and the seconds that remain. -/
def Moment.quoteOffset (o : Int) : String :=
  if o = 0 then "datetime.timezone.utc"
  else
    let seconds := o * 60
    let days := seconds / 86400
    let rest := seconds % 86400
    let parts := (if days = 0 then [] else [s!"days={days}"]) ++
      (if rest = 0 then [] else [s!"seconds={rest}"])
    "datetime.timezone(datetime.timedelta(" ++ String.intercalate ", " parts ++ "))"

def Moment.quote (m : Moment) : String :=
  let clock := [m.date.year, m.date.month, m.date.day, m.hour, m.minute] ++
    (if m.microsecond ≠ 0 then [m.second, m.microsecond]
      else if m.second ≠ 0 then [m.second] else [])
  let zone := match m.offset with
    | none => []
    | some o => ["tzinfo=" ++ quoteOffset o]
  "datetime.datetime(" ++ String.intercalate ", " (clock.map toString ++ zone) ++ ")"

namespace Value

mutual

/-- A value inside a message. The members of a set stand as the set lists them, which is in the order
of the process. -/
def quote : Value → String
  | null => "None"
  | bool b => if b then "True" else "False"
  | int n | hugeInt n => toString n
  | float x => Decimal.floatText x
  | text s => Text.quote s
  | bytes bs => Text.quoteBytes bs
  | date d => d.quote
  | moment m => m.quote
  | list items => "[" ++ String.intercalate ", " (quoteAll items) ++ "]"
  | pair a b => "(" ++ quote a ++ ", " ++ quote b ++ ")"
  | map entries => "\x7b" ++ String.intercalate ", " (quoteEntries entries) ++ "\x7d"
  | set items =>
    if items.isEmpty then "set()"
    else "\x7b" ++ String.intercalate ", " (quoteAll items) ++ "\x7d"
  | enclosing _ isMap => if isMap then "\x7b...\x7d" else "[...]"

/-- The members of a list, each quoted. -/
def quoteAll : List Value → List String
  | [] => []
  | v :: vs => quote v :: quoteAll vs

/-- The entries of a mapping, keys and values quoted. -/
def quoteEntries : List (Value × Value) → List String
  | [] => []
  | (k, v) :: rest => (quote k ++ ": " ++ quote v) :: quoteEntries rest

end

mutual

/-- Whether all numbers in a value can be written out. -/
def isWritable : Value → Bool
  | hugeInt _ => false
  | list items | set items => areWritable items
  | pair a b => isWritable a && isWritable b
  | map entries => areEntriesWritable entries
  | _ => true

/-- Whether all numbers in some values can be written out. -/
def areWritable : List Value → Bool
  | [] => true
  | v :: vs => isWritable v && areWritable vs

/-- Whether all numbers in the entries of a mapping can be written out. -/
def areEntriesWritable : List (Value × Value) → Bool
  | [] => true
  | (k, v) :: rest => isWritable k && isWritable v && areEntriesWritable rest

end

/-- A value where a text is wanted. -/
def display : Value → String
  | text s => s
  | date d => d.display
  | moment m => m.display
  | v => v.quote

/-- Values as a list inside a message. -/
def quoteList (vs : List Value) : String := (list vs).quote

/-- The name of a value's kind. -/
def kindName : Value → String
  | null => "NoneType"
  | bool _ => "bool"
  | int _ | hugeInt _ => "int"
  | float _ => "float"
  | text _ => "str"
  | bytes _ => "bytes"
  | date _ => "date"
  | moment _ => "datetime"
  | list _ => "list"
  | pair _ _ => "tuple"
  | map _ => "dict"
  | set _ => "set"
  | enclosing _ isMap => if isMap then "dict" else "list"

end Value
end ThreatTree
