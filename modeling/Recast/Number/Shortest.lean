import Recast.Number.Double

/-!
# The shortest decimal of a double

`shortest` gives the fewest significant digits that read back as the same double, and of those the
nearest to it. `DecimalLayout` says how such digits are written out.
-/

namespace Recast.Double

/-- `digits · 10^exponent`. -/
structure Decimal where
  digits : Nat
  exponent : Int
deriving Repr, DecidableEq

/-- The reals that round to a double, as numerators over `4 · 2^1074`; the ends belong to them iff
`closed`. -/
structure Interval where
  low : Nat
  value : Nat
  high : Nat
  closed : Bool

/-- Below a power of two the neighbour is half as far away as above. -/
def interval (d : Double) : Interval :=
  let v := 4 * d.units
  let half := 2 * Nat.pow 2 d.shift
  let below := if d.mantissa == Nat.pow 2 52 && d.shift > 0 then Nat.pow 2 d.shift else half
  ⟨v - below, v, v + half, d.mantissa % 2 == 0⟩

/-- Numerator and denominator of `n · 10^exponent` over `4 · 2^1074`. -/
def gridPoint (n : Nat) (exponent : Int) : Nat × Nat :=
  if exponent ≥ 0 then (n * Nat.pow 10 exponent.toNat * (4 * one), 1)
  else (n * (4 * one), Nat.pow 10 exponent.natAbs)

def Interval.contains (i : Interval) (point : Nat × Nat) : Bool :=
  let (num, den) := point
  if i.closed then i.low * den ≤ num && num ≤ i.high * den
  else i.low * den < num && num < i.high * den

/-- Twice the distance of a point to the value, over its denominator. -/
def Interval.distance (i : Interval) (point : Nat × Nat) : Nat :=
  let (num, den) := point
  (num - i.value * den) + (i.value * den - num)

/-- The exponent of the leading decimal digit of `num / (4 · 2^1074)`, searched upwards from an
exponent not above it. -/
def leadingFrom (num : Nat) : (fuel : Nat) → Int → Int
  | 0, e => e
  | fuel + 1, e =>
    let (next, den) := gridPoint 1 (e + 1)
    if next ≤ num * den then leadingFrom num fuel (e + 1) else e

/-- The exponent of the leading decimal digit of a positive numerator over `4 · 2^1074`. -/
def leading (num : Nat) : Int :=
  let binary : Int := (num.log2 : Int) - 1076
  leadingFrom num 4 ((binary * 30103).fdiv 100000 - 1)

/-- The two neighbours of the value on the grid of `10^exponent`, if one of them rounds to it: the
nearer one, on a tie the even one. -/
def onGrid? (i : Interval) (exponent : Int) : Option Nat :=
  let n :=
    if exponent ≥ 0 then i.value / (Nat.pow 10 exponent.toNat * (4 * one))
    else i.value * Nat.pow 10 exponent.natAbs / (4 * one)
  let below := gridPoint n exponent
  let above := gridPoint (n + 1) exponent
  match i.contains below, i.contains above with
  | true, true =>
    let a := i.distance below
    let b := i.distance above
    if a < b then some n else if b < a then some (n + 1) else some (n + n % 2)
  | true, false => some n
  | false, true => some (n + 1)
  | false, false => none

/-- The first grid with a hit, among `count` more grids below that of `10^exponent`. -/
def searchGrids (i : Interval) : (count : Nat) → (exponent : Int) → Decimal
  | 0, exponent => ⟨(onGrid? i exponent).getD 0, exponent⟩
  | count + 1, exponent =>
    match onGrid? i exponent with
    | some n => ⟨n, exponent⟩
    | none => searchGrids i count (exponent - 1)

/-- Digits without trailing zeros. -/
def Decimal.strip : (fuel : Nat) → Decimal → Decimal
  | 0, d => d
  | fuel + 1, d =>
    if d.digits != 0 && d.digits % 10 == 0 then strip fuel ⟨d.digits / 10, d.exponent + 1⟩ else d

/-- The fewest digits that read back, nearest to the value. -/
def shortest (d : Double) : Decimal :=
  if d.isZero then ⟨0, 0⟩
  else
    let i := d.interval
    (searchGrids i 16 (leading i.value)).strip 17

/-! ## Writing the digits out -/

/-- How shortest digits are written: which exponents of the leading digit are positional, and the
sign of a positive exponent. -/
structure DecimalLayout where
  positionalFrom : Int
  positionalBelow : Int
  exponentMark : String
  positiveSign : String

/-- Positional from 0.00001 to below 10^16, with at least one digit after the point. -/
def documentLayout : DecimalLayout := ⟨-5, 16, "e", "+"⟩

def DecimalLayout.write (l : DecimalLayout) (negative : Bool) (d : Decimal) : String :=
  let ds := toString d.digits
  let count : Int := ds.length
  let top := d.exponent + count - 1
  let sign := if negative then "-" else ""
  let body :=
    if d.digits == 0 then "0.0"
    else if top < l.positionalFrom || top ≥ l.positionalBelow then
      let cs := ds.toList
      let fraction := if cs.length > 1 then "." ++ String.ofList (cs.drop 1) else ""
      let e := if top < 0 then "-" ++ toString top.natAbs else l.positiveSign ++ toString top.natAbs
      String.ofList (cs.take 1) ++ fraction ++ l.exponentMark ++ e
    else if d.exponent ≥ 0 then
      ds ++ String.ofList (List.replicate d.exponent.toNat '0') ++ ".0"
    else if top ≥ 0 then
      let cs := ds.toList
      let whole := (top + 1).toNat
      String.ofList (cs.take whole) ++ "." ++ String.ofList (cs.drop whole)
    else
      "0." ++ String.ofList (List.replicate (top.natAbs - 1) '0') ++ ds
  sign ++ body

/-- The text of a double in a document. -/
def text (d : Double) : String := documentLayout.write d.negative d.shortest

end Recast.Double
