import Recast.Json.Fault
import Recast.Json.Value

/-!
# Numbers in JSON text

Digits are kept while they fit into 64 bits. A number with a fraction, an exponent or too many
digits is the double nearest to the kept digits, scaled once by a power of ten and rounded again.
-/

namespace Recast.Json

/-- Where reading stopped: the cause and the bytes still to come. -/
structure Stop where
  cause : Cause
  left : Nat

/-- Stops at the next byte. -/
def stopHere (cause : Cause) (s : List UInt8) : Except Stop α := .error ⟨cause, s.length⟩

/-- Stops after the next byte, if there is one. -/
def stopAfter (cause : Cause) (s : List UInt8) : Except Stop α := .error ⟨cause, s.length - 1⟩

namespace Numeral

/-- Kept digits as a number, and the power of ten they are to be scaled by. -/
structure Parts where
  significand : Nat
  exponent : Int

def digit? (b : UInt8) : Option Nat := if 48 ≤ b && b ≤ 57 then some (b.toNat - 48) else none

def wordLimit : Nat := Nat.pow 2 64

def exponentLimit : Nat := Nat.pow 2 31

/-- Digits before the point; those that do not fit any more only raise the exponent. -/
def whole (dropping : Bool) (p : Parts) : List UInt8 → Parts × Bool × List UInt8
  | [] => (p, dropping, [])
  | b :: s =>
    match digit? b with
    | none => (p, dropping, b :: s)
    | some d =>
      if dropping || p.significand * 10 + d ≥ wordLimit then
        whole true { p with exponent := p.exponent + 1 } s
      else whole false { p with significand := p.significand * 10 + d } s

/-- Digits after the point; those that do not fit any more are passed over. -/
def fraction (dropping : Bool) (p : Parts) : List UInt8 → Parts × List UInt8
  | [] => (p, [])
  | b :: s =>
    match digit? b with
    | none => (p, b :: s)
    | some d =>
      if dropping || p.significand * 10 + d ≥ wordLimit then fraction true p s
      else fraction false ⟨p.significand * 10 + d, p.exponent - 1⟩ s

/-- The double `f · 10^exponent`, scaled by at most 10^308 at a time. -/
def scale (f : Double) : (fuel : Nat) → (exponent : Int) → Option Double
  | 0, _ => some f
  | fuel + 1, exponent =>
    if exponent.natAbs ≤ 308 then
      let power := Double.ofInt (Nat.pow 10 exponent.natAbs)
      if exponent ≥ 0 then f.mul? power else f.div? power
    else if f.isZero then some f
    else if exponent ≥ 0 then none
    else match f.div? (Double.ofInt (Nat.pow 10 308)) with
      | some g => scale g fuel (exponent + 308)
      | none => none

def toDouble? (negative : Bool) (p : Parts) : Option Double :=
  (scale (Double.ofInt p.significand) 4 p.exponent).map fun d => if negative then d.neg else d

/-- Digits of an exponent: its value and the text after it, or the text from where it grew too
large. -/
def exponentDigits (e : Nat) : List UInt8 → (Nat × List UInt8) ⊕ List UInt8
  | [] => .inl (e, [])
  | b :: s =>
    match digit? b with
    | none => .inl (e, b :: s)
    | some d => if e * 10 + d ≥ exponentLimit then .inr s else exponentDigits (e * 10 + d) s

/-- The number that the parts make, at the end of its text. -/
def finish (negative : Bool) (p : Parts) (s : List UInt8) : Except Stop (Number × List UInt8) :=
  match toDouble? negative p with
  | some d => .ok (.double d, s)
  | none => stopHere .numberTooLarge s

/-- The exponent after its mark. -/
def afterMark (negative : Bool) (p : Parts) (s : List UInt8) : Except Stop (Number × List UInt8) :=
  let (down, s) := match s with
    | 43 :: s => (false, s)
    | 45 :: s => (true, s)
    | s => (false, s)
  match s with
  | [] => stopHere .unfinishedValue s
  | b :: s =>
    match digit? b with
    | none => stopHere .badNumber s
    | some d =>
      match exponentDigits d s with
      | .inl (e, s) =>
        finish negative { p with exponent := if down then p.exponent - e else p.exponent + e } s
      | .inr s =>
        if p.significand != 0 && !down then stopHere .numberTooLarge s
        else .ok (.double (Double.zero negative), s.dropWhile fun b => (digit? b).isSome)

def afterFraction (negative : Bool) (p : Parts) (s : List UInt8) :
    Except Stop (Number × List UInt8) :=
  match s with
  | 101 :: s | 69 :: s => afterMark negative p s
  | s => finish negative p s

/-- What follows the digits before the point. -/
def afterWhole (negative : Bool) (p : Parts) (dropped : Bool) (s : List UInt8) :
    Except Stop (Number × List UInt8) :=
  match s with
  | 46 :: s =>
    match s with
    | [] => stopAfter .unfinishedValue s
    | b :: _ =>
      if (digit? b).isNone then stopAfter .badNumber s
      else
        let (p, s) := fraction false p s
        afterFraction negative p s
  | 101 :: s | 69 :: s => afterMark negative p s
  | s =>
    if dropped then finish negative p s
    else if !negative then .ok (.integer p.significand, s)
    else if p.significand == 0 || p.significand > Nat.pow 2 63 then
      .ok (.double (Double.ofInt p.significand).neg, s)
    else .ok (.integer (-(p.significand : Int)), s)

/-- A number without its sign. -/
def read (negative : Bool) (s : List UInt8) : Except Stop (Number × List UInt8) :=
  match s with
  | [] => stopHere .unfinishedValue s
  | 48 :: s =>
    match s with
    | b :: _ =>
      if (digit? b).isSome then stopAfter .badNumber s else afterWhole negative ⟨0, 0⟩ false s
    | [] => afterWhole negative ⟨0, 0⟩ false s
  | b :: s =>
    match digit? b with
    | none => stopHere .badNumber s
    | some d =>
      let (p, dropped, s) := whole false ⟨d, 0⟩ s
      afterWhole negative p dropped s

end Numeral

end Recast.Json
