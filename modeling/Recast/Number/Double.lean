/-!
# Finite binary64 numbers

A double is a sign and a natural number of units of 2^-1074, kept as `mantissa · 2^shift`. All
arithmetic is exact on units and rounds once, to the nearest double and on a tie to the even
mantissa; a result beyond the largest double is `none`.
-/

namespace Recast

/-- The mantissa is below 2^53, and below 2^52 only at the smallest scale. -/
def Double.Canonical (mantissa shift : Nat) : Prop :=
  mantissa < Nat.pow 2 53 ∧ shift ≤ 2045 ∧ (shift = 0 ∨ Nat.pow 2 52 ≤ mantissa)

instance (mantissa shift : Nat) : Decidable (Double.Canonical mantissa shift) := by
  unfold Double.Canonical; infer_instance

/-- The double `± mantissa · 2^shift` units of 2^-1074. -/
structure Double where
  negative : Bool
  mantissa : Nat
  shift : Nat
  canonical : Double.Canonical mantissa shift
deriving DecidableEq

namespace Double

/-- Units per one. -/
def one : Nat := Nat.pow 2 1074

/-- The magnitude in units of 2^-1074. -/
def units (d : Double) : Nat := d.mantissa <<< d.shift

/-- The value in units of 2^-1074. -/
def signedUnits (d : Double) : Int := if d.negative then -(d.units : Int) else d.units

def zero (negative : Bool) : Double := ⟨negative, 0, 0, by decide⟩

instance : Inhabited Double := ⟨zero false⟩

def isZero (d : Double) : Bool := d.mantissa == 0

/-! ## Rounding -/

/-- The natural number nearest to `num / den`, on a tie the even one. -/
def roundHalfEven (num den : Nat) : Nat :=
  let q := num / den
  let r := num % den
  if 2 * r < den then q
  else if 2 * r == den then q + q % 2
  else q + 1

/-- `± mantissa · 2^shift` units, unless it is too large. -/
def ofParts? (negative : Bool) (mantissa shift : Nat) : Option Double :=
  if h : Canonical mantissa shift then some ⟨negative, mantissa, shift, h⟩ else none

/-- The double nearest to `± num / den` units. -/
def ofUnits? (negative : Bool) (num den : Nat) : Option Double :=
  let shift := (num / den).log2 - 52
  let mantissa := roundHalfEven num (den <<< shift)
  if mantissa == Nat.pow 2 53 then ofParts? negative (Nat.pow 2 52) (shift + 1)
  else ofParts? negative mantissa shift

/-- The double nearest to `± num / den`. -/
def ofRatio? (negative : Bool) (num den : Nat) : Option Double :=
  ofUnits? negative (num <<< 1074) den

/-- The double nearest to an integer. -/
def ofInt? (i : Int) : Option Double := ofRatio? (decide (i < 0)) i.natAbs 1

/-- The double nearest to an integer; zero for integers beyond all doubles. -/
def ofInt (i : Int) : Double := (ofInt? i).getD (zero false)

/-- The double nearest to `± digits · 10^exponent`. Exponents that leave no doubt are decided
without writing the power out. -/
def ofDecimal? (negative : Bool) (digits : Nat) (exponent : Int) : Option Double :=
  let magnitude := exponent + (digits.log2 / 3 : Nat)
  if digits == 0 then some (zero negative)
  else if exponent > 400 then none
  else if magnitude < -400 then some (zero negative)
  else if exponent ≥ 0 then ofRatio? negative (digits * Nat.pow 10 exponent.toNat) 1
  else ofRatio? negative digits (Nat.pow 10 exponent.natAbs)

/-! ## Arithmetic -/

def neg (d : Double) : Double := { d with negative := !d.negative }

def mul? (a b : Double) : Option Double :=
  ofUnits? (a.negative != b.negative) (a.units * b.units) one

/-- Division by a double other than zero. -/
def div? (a b : Double) : Option Double :=
  ofRatio? (a.negative != b.negative) a.units b.units

def sub? (a b : Double) : Option Double :=
  let d := a.signedUnits - b.signedUnits
  ofUnits? (decide (d < 0)) d.natAbs 1

/-! ## Order -/

/-- Order of values; the two zeros are equal. -/
def lt (a b : Double) : Bool := decide (a.signedUnits < b.signedUnits)

def le (a b : Double) : Bool := decide (a.signedUnits ≤ b.signedUnits)

/-- Equality of values; the two zeros are equal. -/
def eq (a b : Double) : Bool := a.signedUnits == b.signedUnits

/-! ## Whole parts -/

/-- Whether the value is a whole number. -/
def isWhole (d : Double) : Bool := d.units % one == 0

/-- The whole number towards zero. -/
def truncate (d : Double) : Int :=
  if d.negative then -(d.units / one : Nat) else (d.units / one : Nat)

/-- The greatest whole number not above the value. -/
def floor (d : Double) : Int := d.signedUnits.fdiv one

/-- The nearest whole number, a half away from zero. -/
def roundHalfAway (d : Double) : Int :=
  let n := (2 * d.units + one) / (2 * one)
  if d.negative then -(n : Int) else n

end Double

end Recast
