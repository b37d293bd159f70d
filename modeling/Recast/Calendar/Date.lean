/-!
# Dates and times of day

Days of the proleptic Gregorian calendar from year -262143 to 262142, as year and day of the year,
with conversions to day numbers, months, weekdays and weeks. A time of day counts seconds and
nanoseconds; within a leap second the nanoseconds run on beyond a second.
-/

namespace Recast.Calendar

/-! ## Years and months -/

def isLeap (year : Int) : Bool :=
  year % 4 == 0 && (year % 100 != 0 || year % 400 == 0)

def yearLength (year : Int) : Nat := if isLeap year then 366 else 365

def monthLengths (year : Int) : List Nat :=
  [31, if isLeap year then 29 else 28, 31, 30, 31, 30, 31, 31, 30, 31, 30, 31]

def minYear : Int := -262143

def maxYear : Int := 262142

/-- Days from the first day of year 0 to that of `year`. -/
def daysBeforeYear (year : Int) : Int :=
  let y := year - 1
  year * 365 + y.fdiv 4 - y.fdiv 100 + y.fdiv 400 + 1

/-! ## Dates -/

/-- A day of a year; the first one has the ordinal 1. -/
structure Date where
  year : Int
  ordinal : Nat
deriving DecidableEq, Repr

/-- Monday is 0. -/
abbrev Weekday := Nat

namespace Date

def ofOrdinal? (year : Int) (ordinal : Nat) : Option Date :=
  if minYear ≤ year && year ≤ maxYear && 1 ≤ ordinal && ordinal ≤ yearLength year then
    some ⟨year, ordinal⟩
  else none

def ofMonthDay? (year : Int) (month day : Nat) : Option Date :=
  match (monthLengths year)[month - 1]? with
  | some length =>
    if month == 0 || day == 0 || day > length then none
    else ofOrdinal? year (((monthLengths year).take (month - 1)).foldl Nat.add day)
  | none => none

/-- Days since the first day of year 0. -/
def dayNumber (d : Date) : Int := daysBeforeYear d.year + d.ordinal - 1

/-- The day number of 1970-01-01. -/
def epochDay : Int := 719528

/-- The date of a day number. -/
def ofDayNumber? (n : Int) : Option Date :=
  let cycle := n.fdiv 146097
  let inCycle := n - cycle * 146097
  let guess := cycle * 400 + (inCycle * 400).fdiv 146097
  let year := if daysBeforeYear (guess + 1) ≤ n then guess + 1
    else if n < daysBeforeYear guess then guess - 1 else guess
  ofOrdinal? year (n - daysBeforeYear year + 1).toNat

/-- Month and day of a day of the year, given the lengths of the months still to come. -/
def splitMonth (month ordinal : Nat) : List Nat → Nat × Nat
  | [] => (month, ordinal)
  | length :: rest =>
    if ordinal ≤ length then (month, ordinal)
    else splitMonth (month + 1) (ordinal - length) rest

def monthDay (d : Date) : Nat × Nat := splitMonth 1 d.ordinal (monthLengths d.year)

def month (d : Date) : Nat := d.monthDay.1

def day (d : Date) : Nat := d.monthDay.2

def quarter (d : Date) : Nat := (d.month - 1) / 3 + 1

/-- The first day of year 0 is a Saturday. -/
def weekday (d : Date) : Weekday := ((d.dayNumber + 5) % 7).toNat

/-- Days from the last day of weekday `from` to this one. -/
def daysSince (day from_ : Weekday) : Nat := (day + 7 - from_) % 7

/-- The number of the week when weeks start on a weekday; days before the first such day are in week
0. -/
def weekFrom (d : Date) (start : Weekday) : Nat :=
  (d.ordinal + 6 - daysSince d.weekday start) / 7

/-! ### Weeks of a year from Monday, the first with four days or more -/

/-- Day number of the Monday of week 1. -/
def firstMonday (year : Int) : Int :=
  let fourth := daysBeforeYear year + 3
  fourth - (fourth + 5) % 7

/-- Year and number of the week. -/
def isoWeek (d : Date) : Int × Nat :=
  let n := d.dayNumber
  let year := if n < firstMonday d.year then d.year - 1
    else if firstMonday (d.year + 1) ≤ n then d.year + 1 else d.year
  (year, ((n - firstMonday year) / 7 + 1).toNat)

def ofIsoWeek? (year : Int) (week : Nat) (weekday : Weekday) : Option Date :=
  let n := firstMonday year + (week - 1 : Int) * 7 + weekday
  if week == 0 || firstMonday (year + 1) ≤ firstMonday year + (week - 1 : Int) * 7 then none
  else ofDayNumber? n

end Date

/-! ## Times -/

/-- A time of day. -/
structure Time where
  seconds : Nat
  nanos : Nat
deriving DecidableEq, Repr

namespace Time

def midnight : Time := ⟨0, 0⟩

def billion : Nat := 1000000000

def hour (t : Time) : Nat := t.seconds / 3600

def minute (t : Time) : Nat := t.seconds / 60 % 60

/-- The second, 60 within a leap second. -/
def second (t : Time) : Nat := t.seconds % 60 + t.nanos / billion

/-- Nanoseconds of the second. -/
def nano (t : Time) : Nat := t.nanos % billion

end Time

/-! ## Moments -/

/-- A date and a time of day, without an offset. -/
structure Moment where
  date : Date
  time : Time
deriving DecidableEq, Repr

/-- Seconds since 1970-01-01, in the clock of the moment. -/
def Moment.timestamp (m : Moment) : Int :=
  (m.date.dayNumber - Date.epochDay) * 86400 + m.time.seconds

/-- The moment that many seconds after 1970-01-01. -/
def Moment.ofTimestamp? (seconds : Int) (nanos : Nat) : Option Moment :=
  (Date.ofDayNumber? (seconds.fdiv 86400 + Date.epochDay)).map fun date =>
    ⟨date, ⟨(seconds % 86400).toNat, nanos⟩⟩

/-- A moment on a clock that is `offset` seconds ahead. -/
structure Zoned where
  moment : Moment
  offset : Int
deriving DecidableEq, Repr

end Recast.Calendar
