import Recast.Text.Basic

/-!
# Time layouts

A layout is written with directives after a percent sign. `items` lists what it is made of; a
directive that does not exist becomes `invalid`.
-/

namespace Recast.Calendar

/-- Fields of a moment that are written as numbers. -/
inductive Numeric where
  | year
  | century
  | yearOfCentury
  | weekYear
  | weekYearOfCentury
  | quarter
  | month
  | day
  | weekFromSunday
  | weekFromMonday
  | week
  | weekdayFromSunday
  | weekdayFromMonday
  | dayOfYear
  | hour
  | hour12
  | minute
  | second
  | nanosecond
  | timestamp
deriving DecidableEq, Repr

/-- What fills a number up to its width. -/
inductive Padding where
  | none
  | zero
  | space
deriving DecidableEq, Repr

/-- Fields that are written as words or in a form of their own. -/
inductive Form where
  | shortMonth
  | longMonth
  | shortWeekday
  | longWeekday
  | lowerHalf
  | upperHalf
  /-- A point and as many digits as the fraction needs, or nothing. -/
  | fraction
  /-- A point and a fixed number of digits. -/
  | pointDigits (count : Nat)
  /-- A fixed number of digits of the fraction. -/
  | digits (count : Nat)
  | zoneName
  | offset
  | offsetColon
  | offsetSeconds
  | offsetHours
  | offsetLenient
  | full
deriving DecidableEq, Repr

inductive Item where
  | literal (c : Char)
  | blank (c : Char)
  | numeric (field : Numeric) (padding : Padding)
  | form (form : Form)
  | invalid
deriving DecidableEq, Repr

namespace Layout

def zeroed (field : Numeric) : Item := .numeric field .zero

def spaced (field : Numeric) : Item := .numeric field .space

def bare (field : Numeric) : Item := .numeric field .none

def clock : List Item :=
  [zeroed .hour, .literal ':', zeroed .minute, .literal ':', zeroed .second]

def americanDate : List Item :=
  [zeroed .month, .literal '/', zeroed .day, .literal '/', zeroed .yearOfCentury]

/-- The items of a directive of one letter. -/
def letter : Char → List Item
  | 'A' => [.form .longWeekday]
  | 'B' => [.form .longMonth]
  | 'C' => [zeroed .century]
  | 'D' => americanDate
  | 'F' => [zeroed .year, .literal '-', zeroed .month, .literal '-', zeroed .day]
  | 'G' => [zeroed .weekYear]
  | 'H' => [zeroed .hour]
  | 'I' => [zeroed .hour12]
  | 'M' => [zeroed .minute]
  | 'P' => [.form .lowerHalf]
  | 'R' => [zeroed .hour, .literal ':', zeroed .minute]
  | 'S' => [zeroed .second]
  | 'T' => clock
  | 'U' => [zeroed .weekFromSunday]
  | 'V' => [zeroed .week]
  | 'W' => [zeroed .weekFromMonday]
  | 'X' => clock
  | 'Y' => [zeroed .year]
  | 'Z' => [.form .zoneName]
  | 'a' => [.form .shortWeekday]
  | 'b' => [.form .shortMonth]
  | 'c' =>
    [.form .shortWeekday, .blank ' ', .form .shortMonth, .blank ' ', spaced .day, .blank ' '] ++
      clock ++ [.blank ' ', zeroed .year]
  | 'd' => [zeroed .day]
  | 'e' => [spaced .day]
  | 'f' => [zeroed .nanosecond]
  | 'g' => [zeroed .weekYearOfCentury]
  | 'h' => [.form .shortMonth]
  | 'j' => [zeroed .dayOfYear]
  | 'k' => [spaced .hour]
  | 'l' => [spaced .hour12]
  | 'm' => [zeroed .month]
  | 'n' => [.blank '\n']
  | 'p' => [.form .upperHalf]
  | 'q' => [bare .quarter]
  | 'r' =>
    [zeroed .hour12, .literal ':', zeroed .minute, .literal ':', zeroed .second, .blank ' ',
      .form .upperHalf]
  | 's' => [bare .timestamp]
  | 't' => [.blank '\t']
  | 'u' => [bare .weekdayFromMonday]
  | 'v' =>
    [spaced .day, .literal '-', .form .shortMonth, .literal '-', zeroed .year]
  | 'w' => [bare .weekdayFromSunday]
  | 'x' => americanDate
  | 'y' => [zeroed .yearOfCentury]
  | 'z' => [.form .offset]
  | '+' => [.form .full]
  | '%' => [.literal '%']
  | _ => [.invalid]

/-- The items of a directive and the text after it. -/
def directive (s : List Char) : List Item × List Char :=
  match s with
  | ':' :: ':' :: ':' :: 'z' :: s => ([.form .offsetHours], s)
  | ':' :: ':' :: 'z' :: s => ([.form .offsetSeconds], s)
  | ':' :: 'z' :: s => ([.form .offsetColon], s)
  | '.' :: 'f' :: s => ([.form .fraction], s)
  | '.' :: '3' :: 'f' :: s => ([.form (.pointDigits 3)], s)
  | '.' :: '6' :: 'f' :: s => ([.form (.pointDigits 6)], s)
  | '.' :: '9' :: 'f' :: s => ([.form (.pointDigits 9)], s)
  | '3' :: 'f' :: s => ([.form (.digits 3)], s)
  | '6' :: 'f' :: s => ([.form (.digits 6)], s)
  | '9' :: 'f' :: s => ([.form (.digits 9)], s)
  | c :: s => (letter c, s)
  | [] => ([.invalid], [])

/-- A directive whose padding is set: it has to be a single number. -/
def padded (padding : Padding) (s : List Char) : List Item × List Char :=
  match directive s with
  | ([.numeric field _], s) => ([.numeric field padding], s)
  | (_, s) => ([.invalid], s)

/-- What stands after a percent sign. -/
def afterPercent (s : List Char) : List Item × List Char :=
  match s with
  | '-' :: s => padded .none s
  | '0' :: s => padded .zero s
  | '_' :: s => padded .space s
  | '#' :: 'z' :: s => ([.form .offsetLenient], s)
  | '#' :: s => ([.invalid], s)
  | s => directive s

/-- The items of a layout; every step takes at least one character. -/
def itemsFrom : (fuel : Nat) → List Char → List Item
  | 0, _ => []
  | _, [] => []
  | fuel + 1, '%' :: s =>
    let (found, s) := afterPercent s
    found ++ itemsFrom fuel s
  | fuel + 1, c :: s =>
    (if Text.isBlank c then .blank c else .literal c) :: itemsFrom fuel s

def items (layout : String) : List Item := itemsFrom layout.length layout.toList

/-- Whether every directive exists. -/
def isValid (layout : String) : Bool := !(items layout).contains .invalid

end Layout

end Recast.Calendar
