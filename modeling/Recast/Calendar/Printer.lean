import Recast.Calendar.Date
import Recast.Calendar.Layout

/-!
# Writing moments

`Moment.render?` writes a moment by a layout; a layout that asks for an offset can only be followed
when there is one. `Zoned.text` writes the form `2024-03-01T10:00:00.500+02:00`.
-/

namespace Recast.Calendar

namespace Printer

def zeroPad (width n : Nat) : String := Text.padLeft '0' width (toString n)

def months : List String :=
  ["January", "February", "March", "April", "May", "June", "July", "August", "September", "October",
    "November", "December"]

def weekdays : List String :=
  ["Monday", "Tuesday", "Wednesday", "Thursday", "Friday", "Saturday", "Sunday"]

def short (name : String) : String := String.ofList (name.toList.take 3)

/-- Two digits of a number below 256; tens from 10 on go on in the order of code points. -/
def two (padding : Padding) (n : Nat) : String :=
  let ones := Char.ofNat (48 + n % 10)
  if n / 10 == 0 then
    match padding with
    | .none => String.ofList [ones]
    | .space => String.ofList [' ', ones]
    | .zero => String.ofList ['0', ones]
  else String.ofList [Char.ofNat (48 + n / 10), ones]

/-- A number filled up to a width, its sign included. -/
def wide (padding : Padding) (width : Nat) (signed : Bool) (n : Int) : String :=
  let sign := if n < 0 then "-" else if signed then "+" else ""
  let width := if signed then width + 1 else width
  let body := toString n.natAbs
  match padding with
  | .none => sign ++ body
  | .zero => sign ++ Text.padLeft '0' (width - sign.length) body
  | .space => Text.padLeft ' ' width (sign ++ body)

/-- A year of four digits; other years have a sign. -/
def year (padding : Padding) (n : Int) : String :=
  wide padding 4 (!(0 ≤ n && n < 10000)) n

/-- A number below 256 of which only the last byte counts. -/
def byte (n : Int) : Nat := (n % 256).toNat

def hour12 (t : Time) : Nat := if t.hour % 12 == 0 then 12 else t.hour % 12

def numeric (m : Moment) (offset : Int) (padding : Padding) : Numeric → String
  | .year => year padding m.date.year
  | .century => two padding (byte (m.date.year.fdiv 100))
  | .yearOfCentury => two padding (byte (m.date.year.fmod 100))
  | .weekYear => year padding m.date.isoWeek.1
  | .weekYearOfCentury => two padding (byte (m.date.isoWeek.1.fmod 100))
  | .quarter => toString m.date.quarter
  | .month => two padding m.date.month
  | .day => two padding m.date.day
  | .weekFromSunday => two padding (m.date.weekFrom 6)
  | .weekFromMonday => two padding (m.date.weekFrom 0)
  | .week => two padding m.date.isoWeek.2
  | .weekdayFromSunday => toString ((m.date.weekday + 1) % 7)
  | .weekdayFromMonday => toString (m.date.weekday + 1)
  | .dayOfYear => wide padding 3 false m.date.ordinal
  | .hour => two padding m.time.hour
  | .hour12 => two padding (hour12 m.time)
  | .minute => two padding m.time.minute
  | .second => two padding m.time.second
  | .nanosecond => wide padding 9 false m.time.nano
  | .timestamp => wide padding 9 false (m.timestamp - offset)

/-- A fraction with a point and three, six or nine digits, as many as it needs; nothing for none. -/
def fraction (nano : Nat) : String :=
  if nano == 0 then ""
  else if nano % 1000000 == 0 then "." ++ zeroPad 3 (nano / 1000000)
  else if nano % 1000 == 0 then "." ++ zeroPad 6 (nano / 1000)
  else "." ++ zeroPad 9 nano

/-- The first digits of a fraction. -/
def leadingDigits (count nano : Nat) : String := zeroPad count (nano / Nat.pow 10 (9 - count))

/-- Sign and hours of an offset, its minutes and its seconds. -/
def offsetParts (offset : Int) : String × String × String :=
  let n := offset.natAbs
  ((if offset < 0 then "-" else "+") ++ zeroPad 2 (n / 3600), zeroPad 2 (n / 60 % 60),
    zeroPad 2 (n % 60))

def colonOffset (offset : Int) : String :=
  let (hours, minutes, _) := offsetParts offset
  hours ++ ":" ++ minutes

/-- The offset as the name of its zone: with seconds if it has any. -/
def zoneName (offset : Int) : String :=
  let (_, _, seconds) := offsetParts offset
  colonOffset offset ++ if offset % 60 == 0 then "" else ":" ++ seconds

def date (d : Date) : String :=
  year .zero d.year ++ "-" ++ zeroPad 2 d.month ++ "-" ++ zeroPad 2 d.day

/-- The time with the fraction it needs. -/
def time (t : Time) : String :=
  zeroPad 2 t.hour ++ ":" ++ zeroPad 2 t.minute ++ ":" ++ zeroPad 2 t.second ++ fraction t.nano

/-- The offset; zero can be written as a letter. -/
def zone (offset : Int) (zulu : Bool) : String :=
  if zulu && offset == 0 then "Z" else colonOffset offset

/-- Date, time and offset. -/
def full (m : Moment) (offset : Int) (zulu : Bool) : String :=
  date m.date ++ "T" ++ time m.time ++ zone offset zulu

def form (m : Moment) (offset? : Option Int) : Form → Option String
  | .shortMonth => some (short (months[m.date.month - 1]?.getD ""))
  | .longMonth => some (months[m.date.month - 1]?.getD "")
  | .shortWeekday => some (short (weekdays[m.date.weekday]?.getD ""))
  | .longWeekday => some (weekdays[m.date.weekday]?.getD "")
  | .lowerHalf => some (if m.time.hour ≥ 12 then "pm" else "am")
  | .upperHalf => some (if m.time.hour ≥ 12 then "PM" else "AM")
  | .fraction => some (fraction m.time.nano)
  | .pointDigits count => some ("." ++ leadingDigits count m.time.nano)
  | .digits count => some (leadingDigits count m.time.nano)
  | .zoneName => offset?.map zoneName
  | .offset | .offsetLenient => offset?.map fun offset =>
    let (hours, minutes, _) := offsetParts offset
    hours ++ minutes
  | .offsetColon => offset?.map colonOffset
  | .offsetSeconds => offset?.map fun offset =>
    let (hours, minutes, seconds) := offsetParts offset
    hours ++ ":" ++ minutes ++ ":" ++ seconds
  | .offsetHours => offset?.map fun offset => (offsetParts offset).1
  | .full => offset?.map fun offset => full m offset false

def item (m : Moment) (offset? : Option Int) : Item → Option String
  | .literal c | .blank c => some (String.ofList [c])
  | .numeric field padding => some (numeric m (offset?.getD 0) padding field)
  | .form kind => form m offset? kind
  | .invalid => none

def items (m : Moment) (offset? : Option Int) : List Item → Option String
  | [] => some ""
  | i :: rest => do
    let head ← item m offset? i
    let tail ← items m offset? rest
    some (head ++ tail)

end Printer

/-- The moment written by a layout, on the clock of an offset if there is one. -/
def Moment.render? (m : Moment) (offset? : Option Int) (layout : List Item) : Option String :=
  Printer.items m offset? layout

/-- Date, time and offset; the offset zero is written as a letter. -/
def Zoned.text (z : Zoned) : String := Printer.full z.moment z.offset true

end Recast.Calendar
