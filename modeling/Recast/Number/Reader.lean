import Recast.Number.Double
import Recast.Text.Basic

/-!
# Numbers in plain text

`signed?` reads a decimal integer of 64 bits, `double?` a decimal fraction with an optional
exponent, rounded once to the nearest double.
-/

namespace Recast.Numeral

/-- A sign and the text after it. -/
def sign (s : List Char) : Bool × List Char :=
  match s with
  | '-' :: s => (true, s)
  | '+' :: s => (false, s)
  | s => (false, s)

/-- A decimal integer with an optional sign, in -2^63..2^63-1. -/
def signed? (s : List Char) : Option Int :=
  let (negative, digits) := sign s
  match Text.natural? digits with
  | none => none
  | some n =>
    let i : Int := if negative then -(n : Int) else n
    if -Nat.pow 2 63 ≤ i && i < Nat.pow 2 63 then some i else none

/-- A natural number with an optional plus sign, below 2^64. -/
def unsigned? (s : List Char) : Option Nat :=
  let digits := match s with
    | '+' :: s => s
    | s => s
  match Text.natural? digits with
  | some n => if n < Nat.pow 2 64 then some n else none
  | none => none

/-- The value of an exponent after its mark. -/
def exponent? (s : List Char) : Option Int :=
  let (negative, digits) := sign s
  (Text.natural? digits).map fun n => if negative then -(n : Int) else n

/-- A decimal fraction: digits with at most one point among or beside them, and an exponent. Texts
for infinities and for what is no number are not read. -/
def double? (s : List Char) : Option Double :=
  let (negative, s) := sign s
  let whole := s.takeWhile Text.isDigit
  let s := s.dropWhile Text.isDigit
  let (fraction, s) := match s with
    | '.' :: s => (s.takeWhile Text.isDigit, s.dropWhile Text.isDigit)
    | s => ([], s)
  let digits := whole ++ fraction
  if digits.isEmpty then none
  else
    let exponent? := match s with
      | [] => some 0
      | c :: s => if c == 'e' || c == 'E' then exponent? s else none
    match exponent? with
    | none => none
    | some e => Double.ofDecimal? negative (Text.digitsValue digits) (e - fraction.length)

end Recast.Numeral
