/-!
# Instants

An instant is a date and a time of day in UTC. Seconds run up to 60, so that a
leap second is kept; parts of a second are nanoseconds.

- `Date`, `Date.next`, `Date.previous`: the Gregorian calendar.
- `Instant`: a moment in UTC.
- `Instant.ofLocal?`: the moment of a local time with an offset from UTC.
-/

namespace HubAutomation

/-- A day of the Gregorian calendar, extended to all years. -/
structure Date where
  year : Int
  month : Nat
  day : Nat
deriving DecidableEq

namespace Date

def isLeapYear (year : Int) : Bool :=
  year % 4 == 0 && (year % 100 != 0 || year % 400 == 0)

/-- The number of days of a month. -/
def daysIn (year : Int) (month : Nat) : Nat :=
  match month with
  | 2 => if isLeapYear year then 29 else 28
  | 4 | 6 | 9 | 11 => 30
  | _ => 31

/-- The years that a date may have. -/
def firstYear : Int := -262143

def lastYear : Int := 262142

/-- Whether the date exists. -/
def isValid (d : Date) : Bool :=
  firstYear ≤ d.year && d.year ≤ lastYear && 1 ≤ d.month && d.month ≤ 12 && 1 ≤ d.day &&
    d.day ≤ daysIn d.year d.month

/-- The day after. -/
def next (d : Date) : Date :=
  if d.day < daysIn d.year d.month then { d with day := d.day + 1 }
  else if d.month < 12 then ⟨d.year, d.month + 1, 1⟩
  else ⟨d.year + 1, 1, 1⟩

/-- The day before. -/
def previous (d : Date) : Date :=
  if 1 < d.day then { d with day := d.day - 1 }
  else if 1 < d.month then ⟨d.year, d.month - 1, daysIn d.year (d.month - 1)⟩
  else ⟨d.year - 1, 12, 31⟩

end Date

/-- A moment in UTC. Second 60 is a leap second. -/
structure Instant where
  date : Date
  hour : Nat
  minute : Nat
  second : Nat
  nano : Nat
deriving DecidableEq

namespace Instant

/-- Whether date and time of day exist. -/
def isValid (t : Instant) : Bool :=
  t.date.isValid && t.hour < 24 && t.minute < 60 && t.second ≤ 60 && t.nano < 1000000000

/-- The moment at which a clock that is `offset` minutes ahead of UTC shows the
given time. The offset is less than a day, so the date moves by at most one. -/
def ofLocal? (shown : Instant) (offset : Int) : Option Instant :=
  if offset.natAbs < 1440 ∧ shown.isValid then
    let minutes : Int := (shown.hour * 60 + shown.minute : Nat) - offset
    let date :=
      if minutes < 0 then shown.date.previous
      else if 1440 ≤ minutes then shown.date.next
      else shown.date
    let ofDay := (minutes % 1440).toNat
    if date.isValid then some { shown with date, hour := ofDay / 60, minute := ofDay % 60 } else none
  else none

end Instant

end HubAutomation
