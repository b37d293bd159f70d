import Recast.Calendar.Fields
import Recast.Calendar.Layout

/-!
# Reading moments

`Zoned.parse?`, `Moment.parse?` and `Date.parse?` read text by a layout, `Zoned.ofText?`
reads the form `2024-03-01T10:00:00.5+02:00`.
-/

namespace Recast.Calendar

namespace Reader

/-- Fields read so far, and the rest of the text. -/
abbrev State := Fields × List Char

def malformed : Except Fault α := .error .malformed

/-- Between `least` and `most` decimal digits. -/
def digits (least most : Nat) (s : List Char) : Except Fault (Nat × List Char) :=
  let ds := (s.take most).takeWhile Text.isDigit
  if ds.length < least then malformed
  else
    let n := Text.digitsValue ds
    if n ≥ Nat.pow 2 63 then .error .outOfRange else .ok (n, s.drop ds.length)

/-- Digits of a fraction, in billionths; those after the ninth are passed over. -/
def fraction (s : List Char) : Except Fault (Nat × List Char) := do
  let (n, rest) ← digits 1 9 s
  .ok (n * Nat.pow 10 (9 - (s.length - rest.length)), rest.dropWhile Text.isDigit)

/-- A fixed number of digits of a fraction, in billionths. -/
def fixedFraction (count : Nat) (s : List Char) : Except Fault (Nat × List Char) := do
  let (n, s) ← digits count count s
  .ok (n * Nat.pow 10 (9 - count), s)

def char (c : Char) (s : List Char) : Except Fault (List Char) :=
  match s with
  | d :: s => if c == d then .ok s else malformed
  | [] => malformed

/-- The letter or the blank between date and time. -/
def between (s : List Char) : Except Fault (List Char) :=
  match s with
  | 't' :: s | 'T' :: s | ' ' :: s => .ok s
  | _ => malformed

def blanks (s : List Char) : List Char := s.dropWhile Text.isBlank

def colonOrBlanks (s : List Char) : Except Fault (List Char) :=
  .ok (s.dropWhile fun c => c == ':' || Text.isBlank c)

/-- A word in any case. -/
def word? (word s : List Char) : Option (List Char) :=
  if (s.take word.length).map Text.asciiLower == word then some (s.drop word.length) else none

/-- The first of the words that the text starts with, and its number. -/
def oneOf (words : List String) (n : Nat) (s : List Char) : Except Fault (Nat × List Char) :=
  match words with
  | [] => malformed
  | w :: rest =>
    match word? w.toList s with
    | some s => .ok (n, s)
    | none => oneOf rest (n + 1) s

def shortMonths : List String :=
  ["jan", "feb", "mar", "apr", "may", "jun", "jul", "aug", "sep", "oct", "nov", "dec"]

def monthEnds : List String :=
  ["uary", "ruary", "ch", "il", "", "e", "y", "ust", "tember", "ober", "ember", "ember"]

def shortWeekdays : List String := ["mon", "tue", "wed", "thu", "fri", "sat", "sun"]

def weekdayEnds : List String := ["day", "sday", "nesday", "rsday", "day", "urday", "day"]

/-- A short name, and the rest of the long one if it follows. -/
def shortOrLong (names ends : List String) (s : List Char) : Except Fault (Nat × List Char) := do
  let (n, s) ← oneOf names 0 s
  .ok (n, (word? (ends[n]?.getD "").toList s).getD s)

/-- How an offset may be written. -/
structure OffsetRule where
  colon : List Char → Except Fault (List Char)
  zulu : Bool
  minutesOptional : Bool

def twoDigits? (s : List Char) : Option (Nat × List Char) :=
  match s with
  | a :: b :: s =>
    if Text.isDigit a && Text.isDigit b then some (Text.digitsValue [a, b], s) else none
  | _ => none

def offsetMinutes (rule : OffsetRule) (s : List Char) : Except Fault (Nat × List Char) :=
  match twoDigits? s with
  | some (m, s) => if m < 60 then .ok (m, s) else .error .outOfRange
  | none => if rule.minutesOptional && s.isEmpty then .ok (0, s) else malformed

/-- An offset in seconds: a sign, hours and minutes. -/
def offset (rule : OffsetRule) (s : List Char) : Except Fault (Int × List Char) :=
  match rule.zulu, s with
  | true, 'Z' :: s | true, 'z' :: s => .ok (0, s)
  | _, c :: s =>
    if c != '+' && c != '-' && c != '−' then malformed
    else match twoDigits? s with
      | none => malformed
      | some (hours, s) => do
        let s ← rule.colon s
        let (minutes, s) ← offsetMinutes rule s
        let seconds : Int := hours * 3600 + minutes * 60
        .ok (if c == '+' then seconds else -seconds, s)
  | _, [] => malformed

def strictOffset : OffsetRule := ⟨char ':', true, false⟩

def plainOffset : OffsetRule := ⟨colonOrBlanks, false, false⟩

def zuluOffset : OffsetRule := ⟨colonOrBlanks, true, false⟩

def lenientOffset : OffsetRule := ⟨colonOrBlanks, true, true⟩

/-! ## Items -/

/-- The greatest number of digits of a field without a sign. -/
def width : Numeric → Nat
  | .year | .weekYear => 4
  | .quarter | .weekdayFromSunday | .weekdayFromMonday => 1
  | .dayOfYear => 3
  | .nanosecond => 9
  | .timestamp => Nat.pow 2 64
  | _ => 2

def store (field : Numeric) (f : Fields) (n : Int) : Except Fault Fields :=
  match field with
  | .year => f.setYear n
  | .century => f.setCentury n
  | .yearOfCentury => f.setYearOfCentury n
  | .weekYear => f.setWeekYear n
  | .weekYearOfCentury => f.setWeekYearOfCentury n
  | .quarter => f.setQuarter n
  | .month => f.setMonth n
  | .day => f.setDay n
  | .weekFromSunday => f.setWeekFromSunday n
  | .weekFromMonday => f.setWeekFromMonday n
  | .week => f.setWeek n
  | .weekdayFromSunday => f.setWeekdayFromSunday n
  | .weekdayFromMonday => f.setWeekdayFromMonday n
  | .dayOfYear => f.setDayOfYear n
  | .hour => f.setHour n
  | .hour12 => f.setHour12 n
  | .minute => f.setMinute n
  | .second => f.setSecond n
  | .nanosecond => f.setNanosecond n
  | .timestamp => f.setTimestamp n

/-- A number after blanks. Years may have a sign, and then any number of digits. -/
def number (field : Numeric) (f : Fields) (s : List Char) : Except Fault State := do
  let s := blanks s
  let (n, s) ← match field == .year || field == .weekYear, s with
    | true, '-' :: s => do
      let (n, s) ← digits 1 s.length s
      pure (-(n : Int), s)
    | true, '+' :: s => do
      let (n, s) ← digits 1 s.length s
      pure ((n : Int), s)
    | _, s => do
      let (n, s) ← digits 1 (width field) s
      pure ((n : Int), s)
  .ok (← store field f n, s)

/-- The offset by a rule, after blanks. -/
def storeOffset (rule : OffsetRule) (f : Fields) (s : List Char) : Except Fault State := do
  let (seconds, s) ← offset rule (blanks s)
  .ok (← f.setOffset seconds, s)

/-- A fraction after a point, if there is one. -/
def storeFraction (f : Fields) (s : List Char) : Except Fault State :=
  match s with
  | '.' :: s => do
    let (n, s) ← fraction s
    .ok (← f.setNanosecond n, s)
  | s => .ok (f, s)

/-- Date, time and offset with a letter or a blank between date and time, and blanks almost
anywhere. -/
def full (f : Fields) (s : List Char) : Except Fault State := do
  let (f, s) ← number .year f s
  let s ← char '-' (blanks s)
  let (f, s) ← number .month f s
  let s ← char '-' (blanks s)
  let (f, s) ← number .day f s
  let s ← between s
  let (f, s) ← number .hour f s
  let s ← char ':' (blanks s)
  let (f, s) ← number .minute f s
  let s ← char ':' (blanks s)
  let (f, s) ← number .second f s
  let (f, s) ← storeFraction f s
  match word? "utc".toList (blanks s) with
  | some s => .ok (← f.setOffset 0, s)
  | none => storeOffset zuluOffset f s

def form (f : Fields) (s : List Char) : Form → Except Fault State
  | .shortMonth => do
    let (n, s) ← oneOf shortMonths 0 s
    .ok (← f.setMonth (n + 1), s)
  | .longMonth => do
    let (n, s) ← shortOrLong shortMonths monthEnds s
    .ok (← f.setMonth (n + 1), s)
  | .shortWeekday => do
    let (n, s) ← oneOf shortWeekdays 0 s
    .ok (← f.setWeekday n, s)
  | .longWeekday => do
    let (n, s) ← shortOrLong shortWeekdays weekdayEnds s
    .ok (← f.setWeekday n, s)
  | .lowerHalf | .upperHalf => do
    let (n, s) ← oneOf ["am", "pm"] 0 s
    .ok (← f.setHalf (n == 1), s)
  | .fraction | .pointDigits _ => storeFraction f s
  | .digits count => do
    let (n, s) ← fixedFraction count s
    .ok (← f.setNanosecond n, s)
  | .zoneName => .ok (f, s.dropWhile fun c => !Text.isBlank c)
  | .offset | .offsetColon | .offsetSeconds | .offsetHours => storeOffset plainOffset f s
  | .offsetLenient => storeOffset lenientOffset f s
  | .full => full f s

def item (f : Fields) (s : List Char) : Item → Except Fault State
  | .literal c => do .ok (f, ← char c s)
  | .blank _ => .ok (f, blanks s)
  | .numeric field _ => number field f s
  | .form kind => form f s kind
  | .invalid => malformed

def itemList (f : Fields) (s : List Char) : List Item → Except Fault State
  | [] => .ok (f, s)
  | i :: rest => do
    let (f, s) ← item f s i
    itemList f s rest

/-- The fields that a text written by a layout gives; nothing may be left over. -/
def fields (layout : List Item) (s : List Char) : Except Fault Fields := do
  match ← itemList {} s layout with
  | (f, []) => .ok f
  | _ => malformed

/-! ## The strict form -/

/-- A number of so many digits in its field. -/
def fixed (width : Nat) (field : Numeric) (f : Fields) (s : List Char) : Except Fault State := do
  let (n, s) ← digits width width s
  .ok (← store field f n, s)

def strictDate (s : List Char) : Except Fault State := do
  let (f, s) ← fixed 4 .year {} s
  let s ← char '-' s
  let (f, s) ← fixed 2 .month f s
  let s ← char '-' s
  fixed 2 .day f s

def strictTime (f : Fields) (s : List Char) : Except Fault State := do
  let (f, s) ← fixed 2 .hour f s
  let s ← char ':' s
  let (f, s) ← fixed 2 .minute f s
  let s ← char ':' s
  let (f, s) ← fixed 2 .second f s
  storeFraction f s

/-- An offset of less than a day. -/
def strictZone (f : Fields) (s : List Char) : Except Fault State := do
  let (seconds, s) ← offset strictOffset s
  if seconds.natAbs > (23 * 60 + 59) * 60 then .error .outOfRange
  else .ok (← f.setOffset seconds, s)

/-- Date, time and offset without blanks between them; nothing may be left over. -/
def strict (s : List Char) : Except Fault Fields := do
  let (f, s) ← strictDate s
  let s ← between s
  let (f, s) ← strictTime f s
  match ← strictZone f s with
  | (f, []) => .ok f
  | _ => malformed

end Reader

def Zoned.parse? (layout : List Item) (s : List Char) : Option Zoned :=
  (do (← Reader.fields layout s).zoned : Except Fault Zoned).toOption

def Moment.parse? (layout : List Item) (s : List Char) : Option Moment :=
  (do (← Reader.fields layout s).moment 0 : Except Fault Moment).toOption

def Date.parse? (layout : List Item) (s : List Char) : Option Date :=
  (do (← Reader.fields layout s).date : Except Fault Date).toOption

/-- Reads the strict form of date, time and offset. -/
def Zoned.ofText? (s : List Char) : Option Zoned :=
  (do (← Reader.strict s).zoned : Except Fault Zoned).toOption

end Recast.Calendar
