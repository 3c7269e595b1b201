/-!
# Days and moments

Dates of the proleptic Gregorian calendar from year 1 to 9999, and moments of a day with an optional
distance from universal time. `Date.of?` and `Moment.of?` refuse what no calendar shows, such as the
thirtieth of February. Two moments that know their distance are the same if they are the same
instant.
-/

namespace ThreatTree

/-- A day. -/
structure Date where
  year : Nat
  month : Nat
  day : Nat
  deriving DecidableEq, Repr

namespace Date

/-- Years with a twenty-ninth of February. -/
def isLeap (year : Nat) : Bool := year % 4 = 0 && (year % 100 ≠ 0 || year % 400 = 0)

/-- The number of days of a month. -/
def daysIn (year month : Nat) : Nat :=
  if month = 2 then if isLeap year then 29 else 28
  else if month = 4 || month = 6 || month = 9 || month = 11 then 30
  else 31

/-- The day with these numbers, if there is one. -/
def of? (year month day : Nat) : Option Date :=
  if 1 ≤ year && year ≤ 9999 && 1 ≤ month && month ≤ 12 && 1 ≤ day && day ≤ daysIn year month then
    some ⟨year, month, day⟩
  else none

/-- The number of days before this one, from the first day of year 1. -/
def index (d : Date) : Nat :=
  let y := d.year - 1
  let months := (List.range (d.month - 1)).map fun m => daysIn d.year (m + 1)
  y * 365 + y / 4 - y / 100 + y / 400 + months.foldl (· + ·) 0 + (d.day - 1)

end Date

/-- A time of a day, with the minutes by which local time is ahead of universal time if they are
known. -/
structure Moment where
  date : Date
  hour : Nat
  minute : Nat
  second : Nat
  microsecond : Nat
  offset : Option Int
  deriving DecidableEq, Repr

namespace Moment

/-- The moment with these numbers, if there is one. The offset is less than a day. -/
def of? (date : Date) (hour minute second microsecond : Nat) (offset : Option Int) :
    Option Moment :=
  let near := match offset with
    | none => true
    | some o => -1440 < o && o < 1440
  if hour < 24 && minute < 60 && second < 60 && microsecond < 1000000 && near then
    some ⟨date, hour, minute, second, microsecond, offset⟩
  else none

/-- The microseconds of universal time, for a moment whose offset is `o`. -/
def instant (m : Moment) (o : Int) : Int :=
  let minutes : Int := m.date.index * 1440 + m.hour * 60 + m.minute - o
  (minutes * 60 + m.second) * 1000000 + m.microsecond

/-- Whether two moments are the same: by instant if both know their offset, by the clock if neither
does. -/
def same (a b : Moment) : Bool :=
  match a.offset, b.offset with
  | none, none => a = b
  | some p, some q => a.instant p = b.instant q
  | _, _ => false

end Moment
end ThreatTree
