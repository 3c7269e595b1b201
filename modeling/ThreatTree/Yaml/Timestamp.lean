import ThreatTree.Calendar
import ThreatTree.Decimal.Reading

/-!
# Timestamps

A date of four, one or two, and one or two digits, and optionally a time of day behind it, with a
fraction of a second and a distance from universal time. A date without a time that has one digit
for a month or a day is read as a timestamp only where a tag asks for one.
-/

namespace ThreatTree.Yaml

/-- The time of day in a timestamp, each part as its digits. -/
structure Clock where
  hour : List Char
  minute : List Char
  second : List Char
  fraction : List Char
  /-- Minutes ahead of universal time. -/
  offset : Option Int

/-- A date with an optional time of day, each part as its digits. -/
structure Timestamp where
  year : List Char
  month : List Char
  day : List Char
  clock : Option Clock

namespace Timestamp

/-- A run of digits of a length between `least` and `most` and the rest. -/
def digits? (least most : Nat) (cs : List Char) : Option (List Char × List Char) :=
  let run := (cs.take most).takeWhile Char.isDigit
  if least ≤ run.length then some (run, cs.drop run.length) else none

/-- The rest behind a character that must come next. -/
def after? (c : Char) : List Char → Option (List Char)
  | d :: cs => if c = d then some cs else none
  | [] => none

/-- The number that digits stand for. -/
def number (cs : List Char) : Nat := (Decimal.natOfDigits? 10 cs).getD 0

/-- What separates the date from the time: a letter, or blanks. -/
def afterDate? (cs : List Char) : Option (List Char) :=
  match cs with
  | 'T' :: rest | 't' :: rest => some rest
  | c :: _ => if c = ' ' || c = '\t' then some (cs.dropWhile fun d => d = ' ' || d = '\t') else none
  | [] => none

/-- The distance from universal time behind a time of day: nothing, `Z`, or a sign with hours and
optional minutes. The text must end there. -/
def offset? (cs : List Char) : Option (Option Int) :=
  match cs, cs.dropWhile fun d => d = ' ' || d = '\t' with
  | [], _ => some none
  | _, ['Z'] => some (some 0)
  | _, sign :: rest => do
    if sign ≠ '+' && sign ≠ '-' then none
    let (hours, rest) ← digits? 1 2 rest
    let minutes ← match rest with
      | [] => some []
      | _ => do
        let (minutes, rest) ← digits? 2 2 (← after? ':' rest)
        if rest.isEmpty then some minutes else none
    let total : Int := number hours * 60 + number minutes
    return some (if sign = '-' then -total else total)
  | _, [] => none

/-- A time of day with its fraction and its distance from universal time. -/
def clock? (cs : List Char) : Option Clock := do
  let (hour, cs) ← digits? 1 2 cs
  let (minute, cs) ← digits? 2 2 (← after? ':' cs)
  let (second, cs) ← digits? 2 2 (← after? ':' cs)
  let (fraction, cs) :=
    match cs with
    | '.' :: rest => (rest.takeWhile Char.isDigit, rest.dropWhile Char.isDigit)
    | _ => ([], cs)
  return ⟨hour, minute, second, fraction, ← offset? cs⟩

/-- A timestamp. -/
def ofChars? (cs : List Char) : Option Timestamp := do
  let (year, cs) ← digits? 4 4 cs
  let (month, cs) ← digits? 1 2 (← after? '-' cs)
  let (day, cs) ← digits? 1 2 (← after? '-' cs)
  if cs.isEmpty then return ⟨year, month, day, none⟩
  return ⟨year, month, day, some (← clock? (← afterDate? cs))⟩

/-- Whether a timestamp is understood as one without a tag. -/
def isPlain (t : Timestamp) : Bool :=
  t.clock.isSome || (t.month.length = 2 && t.day.length = 2)

/-- The microseconds of a fraction: its first six digits. -/
def microseconds (fraction : List Char) : Nat :=
  let ds := fraction.take 6
  number (ds ++ List.replicate (6 - ds.length) '0')

/-- The day of a timestamp, if there is one. -/
def date? (t : Timestamp) : Option Date := Date.of? (number t.year) (number t.month) (number t.day)

end Timestamp

/-- The moment of a timestamp with a time of day, if there is one. -/
def Clock.moment? (c : Clock) (d : Date) : Option Moment :=
  Moment.of? d (Timestamp.number c.hour) (Timestamp.number c.minute) (Timestamp.number c.second)
    (Timestamp.microseconds c.fraction) c.offset

end ThreatTree.Yaml
