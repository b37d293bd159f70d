import Recast.Calendar.Date

/-!
# Fields of a moment

What has been read of a moment, field by field. `date`, `time` and `moment` put the fields together
and check that they agree; a fault tells what kept them from it.
-/

namespace Recast.Calendar

/-- Why fields make no moment. -/
inductive Fault where
  | outOfRange
  | impossible
  | notEnough
  | malformed
deriving DecidableEq, Repr

structure Fields where
  year : Option Int := none
  century : Option Int := none
  yearOfCentury : Option Int := none
  weekYear : Option Int := none
  weekYearOfCentury : Option Int := none
  quarter : Option Nat := none
  month : Option Nat := none
  day : Option Nat := none
  weekFromSunday : Option Nat := none
  weekFromMonday : Option Nat := none
  week : Option Nat := none
  weekday : Option Weekday := none
  dayOfYear : Option Nat := none
  half : Option Nat := none
  hourOfHalf : Option Nat := none
  minute : Option Nat := none
  second : Option Nat := none
  nanosecond : Option Nat := none
  timestamp : Option Int := none
  offset : Option Int := none
deriving DecidableEq, Repr

namespace Fields

/-- A field that may be given again only with the same value. -/
def agree [BEq α] (old : Option α) (new : α) : Except Fault (Option α) :=
  match old with
  | none => .ok (some new)
  | some v => if v == new then .ok old else .error .impossible

def within (lo hi n : Int) : Except Fault Unit :=
  if lo ≤ n && n ≤ hi then .ok () else .error .outOfRange

def maxYearField : Int := Nat.pow 2 31 - 1

def setYear (f : Fields) (n : Int) : Except Fault Fields := do
  within (-Nat.pow 2 31) maxYearField n
  .ok { f with year := ← agree f.year n }

def setCentury (f : Fields) (n : Int) : Except Fault Fields := do
  within 0 maxYearField n
  .ok { f with century := ← agree f.century n }

def setYearOfCentury (f : Fields) (n : Int) : Except Fault Fields := do
  within 0 99 n
  .ok { f with yearOfCentury := ← agree f.yearOfCentury n }

def setWeekYear (f : Fields) (n : Int) : Except Fault Fields := do
  within (-Nat.pow 2 31) maxYearField n
  .ok { f with weekYear := ← agree f.weekYear n }

def setWeekYearOfCentury (f : Fields) (n : Int) : Except Fault Fields := do
  within 0 99 n
  .ok { f with weekYearOfCentury := ← agree f.weekYearOfCentury n }

def setQuarter (f : Fields) (n : Int) : Except Fault Fields := do
  within 1 4 n
  .ok { f with quarter := ← agree f.quarter n.toNat }

def setMonth (f : Fields) (n : Int) : Except Fault Fields := do
  within 1 12 n
  .ok { f with month := ← agree f.month n.toNat }

def setDay (f : Fields) (n : Int) : Except Fault Fields := do
  within 1 31 n
  .ok { f with day := ← agree f.day n.toNat }

def setWeekFromSunday (f : Fields) (n : Int) : Except Fault Fields := do
  within 0 53 n
  .ok { f with weekFromSunday := ← agree f.weekFromSunday n.toNat }

def setWeekFromMonday (f : Fields) (n : Int) : Except Fault Fields := do
  within 0 53 n
  .ok { f with weekFromMonday := ← agree f.weekFromMonday n.toNat }

def setWeek (f : Fields) (n : Int) : Except Fault Fields := do
  within 1 53 n
  .ok { f with week := ← agree f.week n.toNat }

def setWeekday (f : Fields) (day : Weekday) : Except Fault Fields := do
  .ok { f with weekday := ← agree f.weekday day }

/-- Sunday is 0. -/
def setWeekdayFromSunday (f : Fields) (n : Int) : Except Fault Fields := do
  within 0 6 n
  f.setWeekday ((n.toNat + 6) % 7)

/-- Monday is 1. -/
def setWeekdayFromMonday (f : Fields) (n : Int) : Except Fault Fields := do
  within 1 7 n
  f.setWeekday (n.toNat - 1)

def setDayOfYear (f : Fields) (n : Int) : Except Fault Fields := do
  within 1 366 n
  .ok { f with dayOfYear := ← agree f.dayOfYear n.toNat }

/-- The half of the day, 1 after noon. -/
def setHalf (f : Fields) (afterNoon : Bool) : Except Fault Fields := do
  .ok { f with half := ← agree f.half (if afterNoon then 1 else 0) }

/-- The hour of the half, where 12 stands for 0. -/
def setHour12 (f : Fields) (n : Int) : Except Fault Fields := do
  within 1 12 n
  .ok { f with hourOfHalf := ← agree f.hourOfHalf (n.toNat % 12) }

def setHour (f : Fields) (n : Int) : Except Fault Fields := do
  within 0 23 n
  let half ← agree f.half (n.toNat / 12)
  .ok { f with half := half, hourOfHalf := ← agree f.hourOfHalf (n.toNat % 12) }

def setMinute (f : Fields) (n : Int) : Except Fault Fields := do
  within 0 59 n
  .ok { f with minute := ← agree f.minute n.toNat }

/-- The second, 60 in a leap second. -/
def setSecond (f : Fields) (n : Int) : Except Fault Fields := do
  within 0 60 n
  .ok { f with second := ← agree f.second n.toNat }

def setNanosecond (f : Fields) (n : Int) : Except Fault Fields := do
  within 0 999999999 n
  .ok { f with nanosecond := ← agree f.nanosecond n.toNat }

def setTimestamp (f : Fields) (n : Int) : Except Fault Fields := do
  .ok { f with timestamp := ← agree f.timestamp n }

def setOffset (f : Fields) (n : Int) : Except Fault Fields := do
  .ok { f with offset := ← agree f.offset n }

/-! ## Dates -/

/-- The year that a full year, a century and a year of the century give. A year of the century alone
lies in 1970..2069. -/
def resolveYear (year century ofCentury : Option Int) : Except Fault (Option Int) :=
  match year, century, ofCentury with
  | y, none, none => .ok y
  | some y, q, r =>
    if y < 0 then .error .impossible
    else if q.getD (y / 100) == y / 100 && r.getD (y % 100) == y % 100 then .ok (some y)
    else .error .impossible
  | none, some q, some r =>
    if q * 100 + r ≤ maxYearField then .ok (some (q * 100 + r)) else .error .outOfRange
  | none, none, some r => .ok (some (r + if r < 70 then 2000 else 1900))
  | none, some _, none => .error .notEnough

/-- Whether a field is not given, or has this value. -/
def fits [BEq α] (field : Option α) (value : α) : Bool :=
  match field with
  | none => true
  | some v => v == value

/-- Whether the century and the year of the century are not given, or are those of a year from 0
on. -/
def fitsCentury (century ofCentury : Option Int) (year : Int) : Bool :=
  if year ≥ 0 then fits century (year / 100) && fits ofCentury (year % 100)
  else century.isNone && ofCentury.isNone

def fitsMonthDay (f : Fields) (d : Date) : Bool :=
  fits f.year d.year && fitsCentury f.century f.yearOfCentury d.year &&
    fits f.month d.month && fits f.day d.day

def fitsWeekDate (f : Fields) (d : Date) : Bool :=
  let (weekYear, week) := d.isoWeek
  fits f.weekYear weekYear && fitsCentury none f.weekYearOfCentury weekYear && fits f.week week &&
    fits f.weekday d.weekday

def fitsOrdinal (f : Fields) (d : Date) : Bool :=
  fits f.dayOfYear d.ordinal && fits f.weekFromSunday (d.weekFrom 6) &&
    fits f.weekFromMonday (d.weekFrom 0)

/-- A date, or a range fault. -/
def inRange (d : Option Date) : Except Fault Date :=
  match d with
  | some d => .ok d
  | none => .error .outOfRange

/-- The date of a weekday in a week of a year whose weeks start on `start`. -/
def resolveWeek (year : Int) (week : Nat) (day start : Weekday) : Except Fault Date := do
  let first ← inRange (Date.ofOrdinal? year 1)
  let ordinal : Int :=
    1 + Date.daysSince start first.weekday + (week - 1 : Int) * 7 + Date.daysSince day start
  if ordinal ≤ 0 then .error .impossible
  else match Date.ofOrdinal? year ordinal.toNat with
    | some d => .ok d
    | none => .error .impossible

/-- A date that passed its checks. -/
def checked (f : Fields) (ok : Bool) (d : Date) : Except Fault Date :=
  if ok && fits f.quarter d.quarter then .ok d else .error .impossible

/-- The date that the fields give: by month and day, by the day of the year, or by week and weekday.
All other fields of a date have to agree with it. -/
def date (f : Fields) : Except Fault Date := do
  let year? ← resolveYear f.year f.century f.yearOfCentury
  let weekYear? ← resolveYear f.weekYear none f.weekYearOfCentury
  match year?, f.month, f.day with
  | some year, some month, some day =>
    let d ← inRange (Date.ofMonthDay? year month day)
    f.checked (f.fitsWeekDate d && f.fitsOrdinal d) d
  | _, _, _ =>
  match year?, f.dayOfYear with
  | some year, some ordinal =>
    let d ← inRange (Date.ofOrdinal? year ordinal)
    f.checked (f.fitsMonthDay d && f.fitsWeekDate d && f.fitsOrdinal d) d
  | _, _ =>
  match year?, f.weekFromSunday, f.weekday with
  | some year, some week, some day =>
    let d ← resolveWeek year week day 6
    f.checked (f.fitsMonthDay d && f.fitsWeekDate d && f.fitsOrdinal d) d
  | _, _, _ =>
  match year?, f.weekFromMonday, f.weekday with
  | some year, some week, some day =>
    let d ← resolveWeek year week day 0
    f.checked (f.fitsMonthDay d && f.fitsWeekDate d && f.fitsOrdinal d) d
  | _, _, _ =>
  match weekYear?, f.week, f.weekday with
  | some year, some week, some day =>
    let d ← inRange (Date.ofIsoWeek? year week day)
    f.checked (f.fitsMonthDay d && f.fitsOrdinal d) d
  | _, _, _ => .error .notEnough

/-! ## Times -/

/-- A field that has to be given. -/
def needed (field : Option α) : Except Fault α :=
  match field with
  | some v => .ok v
  | none => .error .notEnough

/-- The time of day: hour and minute, and the second and its fraction if they are given. -/
def time (f : Fields) : Except Fault Time := do
  let half ← needed f.half
  let hour ← needed f.hourOfHalf
  let minute ← needed f.minute
  let (second, leap) := match f.second with
    | some 60 => (59, Time.billion)
    | some s => (s, 0)
    | none => (0, 0)
  let nano ← match f.nanosecond, f.second with
    | some n, some _ => .ok n
    | some _, none => .error .notEnough
    | none, _ => .ok 0
  .ok ⟨(half * 12 + hour) * 3600 + minute * 60 + second, leap + nano⟩

/-! ## Moments -/

/-- The moment of a timestamp on a clock `offset` seconds ahead, with the fields in agreement. -/
def momentOfTimestamp (f : Fields) (timestamp offset : Int) : Except Fault Moment := do
  let ts := timestamp + offset
  if ts < -Nat.pow 2 63 || ts ≥ Nat.pow 2 63 then throw .outOfRange
  let some m := Moment.ofTimestamp? ts 0 | throw .outOfRange
  let (m, f) ←
    if f.second == some 60 then
      match m.time.second with
      | 59 => pure (m, f)
      | 0 =>
        match Moment.ofTimestamp? (ts - 1) 0 with
        | some m => pure (m, f)
        | none => throw .outOfRange
      | _ => throw .impossible
    else do pure (m, ← f.setSecond m.time.second)
  let f ← f.setYear m.date.year
  let f ← f.setDayOfYear m.date.ordinal
  let f ← f.setHour m.time.hour
  let f ← f.setMinute m.time.minute
  .ok ⟨← f.date, ← f.time⟩

/-- The moment that the fields give on a clock `offset` seconds ahead. -/
def moment (f : Fields) (offset : Int) : Except Fault Moment :=
  match f.date, f.time with
  | .ok date, .ok time =>
    let m : Moment := ⟨date, time⟩
    let ts := m.timestamp - offset
    match f.timestamp with
    | none => .ok m
    | some given =>
      if given == ts || (time.nanos ≥ Time.billion && given == ts + 1) then .ok m
      else .error .impossible
  | date, time =>
    match f.timestamp with
    | none =>
      match date, time with
      | .error e, _ => .error e
      | _, .error e => .error e
      | .ok _, .ok _ => .error .notEnough
    | some timestamp =>
      match date, time with
      | .error .outOfRange, _ | _, .error .outOfRange => .error .outOfRange
      | .error .impossible, _ | _, .error .impossible => .error .impossible
      | _, _ => f.momentOfTimestamp timestamp offset

/-- The moment on the clock of its offset. A timestamp without an offset is on the clock of
Greenwich. -/
def zoned (f : Fields) : Except Fault Zoned := do
  let offset ← match f.offset, f.timestamp with
    | some offset, _ => .ok offset
    | none, some _ => .ok 0
    | none, none => .error .notEnough
  let m ← f.moment offset
  if offset.natAbs ≥ 86400 then .error .outOfRange
  else match Moment.ofTimestamp? (m.timestamp - offset) 0 with
    | some _ => .ok ⟨m, offset⟩
    | none => .error .impossible

end Fields

end Recast.Calendar
