import Recast.Calendar.Printer
import Recast.Calendar.Reader
import Recast.Input.Finding
import Recast.Number.Reader
import Recast.Schema.Kind

/-!
# Coercion

`Scalar.coerce?` turns a JSON value into one of a scalar kind where that can be done without
guessing. Objects, lists and null are never coerced.
-/

namespace Recast

open Json (Value Number)

namespace Coercion

/-- True and false by name or as one and zero; other numbers are true. -/
def boolean? : Value → Option Bool
  | .bool b => some b
  | .number (.integer i) => some (i != 0)
  | .number (.double d) => some (!d.isZero)
  | .string s =>
    match String.ofList ((Text.trim s.toList).map Text.asciiLower) with
    | "true" | "1" => some true
    | "false" | "0" => some false
    | _ => none
  | _ => none

/-- A number, or the number that a text writes: an integer if it reads as one. -/
def number? : Value → Option Number
  | .number n => some n
  | .string s =>
    let s := Text.trim s.toList
    match Numeral.signed? s with
    | some i => some (.integer i)
    | none => (Numeral.double? s).map .double
  | _ => none

/-- A double as an integer of 64 bits, if it is one. -/
def wholeDouble? (d : Double) : Option Int :=
  let i := d.truncate
  if d.isWhole && -Nat.pow 2 63 ≤ i && i < Nat.pow 2 63 then some i else none

/-- A number that is an integer of 64 bits. -/
def integer? (v : Value) : Option Int := do
  let n ← number? v
  match n.signed? with
  | some i => some i
  | none => wholeDouble? n.toDouble

def text? : Value → Option String
  | .string s => some s
  | .bool b => some (if b then "true" else "false")
  | .number n => some n.text
  | _ => none

/-- The moment that many seconds after 1970, on the clock of Greenwich. -/
def atSeconds? (seconds : Int) (nanos : Nat) : Option Calendar.Zoned :=
  (Calendar.Moment.ofTimestamp? seconds nanos).map fun m => ⟨m, 0⟩

/-- Whole seconds and nanoseconds of a number of seconds. -/
def splitSeconds? (d : Double) : Option (Int × Nat) := do
  let whole := d.floor
  let rest ← d.sub? (Double.ofInt whole)
  let nanos ← rest.mul? (Double.ofInt 1000000000)
  some (whole, min nanos.roundHalfAway.toNat 999999999)

/-- The moment that a text writes or that a number counts in seconds since 1970. -/
def moment? : Value → Option Calendar.Zoned
  | .string s => Calendar.Zoned.ofText? (Text.trim s.toList)
  | .number n =>
    match n.signed? with
    | some seconds => atSeconds? seconds 0
    | none => do
      let (seconds, nanos) ← splitSeconds? n.toDouble
      atSeconds? seconds nanos
  | _ => none

end Coercion

open Coercion in
/-- The value as one of the kind. -/
def Scalar.coerce? (kind : Scalar) (v : Value) : Option Value :=
  match kind with
  | .boolean => (boolean? v).map .bool
  | .number => (number? v).map .number
  | .integer => (integer? v).map .ofInt
  | .string => (text? v).map .string
  | .moment => (moment? v).map fun z => .string z.text

/-- The finding as a value of the kind; of nodes, the text of the first one counts. -/
def Input.Finding.coerce? (f : Input.Finding) (kind : Scalar) : Option Value :=
  match f with
  | .json v => kind.coerce? v
  | .nodes _ => f.nodeText?.bind fun s => kind.coerce? (.string s)

end Recast
