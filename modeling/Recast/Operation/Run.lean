import Recast.Calendar.Printer
import Recast.Calendar.Reader
import Recast.Number.Reader
import Recast.Operation.Basic
import Recast.Path.Select
import Recast.Text.Case

/-!
# Running operations

`Operation.run` gives the result of an operation on a value, or why it has none.
-/

namespace Recast.Operation

open Json (Value)

def expectString : Value → Except Error String
  | .string s => .ok s
  | v => .error (wrongKind "string" v)

def expectArray : Value → Except Error (List Value)
  | .array items => .ok items
  | v => .error (wrongKind "array" v)

/-- An operation on text. -/
def onText (f : List Char → List Char) (v : Value) : Except Error Value := do
  .ok (.string (String.ofList (f (← expectString v).toList)))

/-! ## Durations -/

def maxSeconds : Nat := Nat.pow 2 64

/-- The number as a word of 64 bits, if it fits into one. -/
def word? (n : Nat) : Option UInt64 :=
  if n < maxSeconds then some (UInt64.ofNat n) else none

/-- The product of two words, unless it overflows. -/
def times? (a b : UInt64) : Option UInt64 :=
  if a.toNat * b.toNat < maxSeconds then some (a * b) else none

/-- The sum of two words, unless it overflows. -/
def plus? (a b : UInt64) : Option UInt64 :=
  if a.toNat + b.toNat < maxSeconds then some (a + b) else none

/-- Adds a group of digits to the seconds so far. -/
def addGroup (seconds : UInt64) (group : List Char) : Option UInt64 := do
  let part ← word? (← Text.natural? group)
  plus? (← times? seconds 60) part

/-- One to three groups of digits between colons, as a number in base 60. -/
def seconds? (s : List Char) : Option UInt64 :=
  let groups := Text.splitAt (· == ':') s
  if groups.length > 3 then none else groups.foldlM addGroup 0

/-- A double as a number of seconds. -/
def wholeSeconds? (d : Double) : Option Nat :=
  let i := d.truncate
  if d.isWhole && 0 ≤ i && i < maxSeconds then some i.toNat else none

def runDuration : Value → Except Error Value
  | .number n =>
    match n with
    | .integer i =>
      if 0 ≤ i then .ok (.number n) else .error (.failed (.notWholeSeconds n))
    | .double d =>
      match wholeSeconds? d with
      | some i => .ok (.ofNat i)
      | none => .error (.failed (.notWholeSeconds n))
  | v => do
    let s ← expectString v
    match seconds? (Text.trim s.toList) with
    | some n => .ok (.ofNat n.toNat)
    | none => .error (.failed (.malformedDuration s))

/-! ## The greatest element -/

/-- The number that a path finds first, as a double. -/
def rank? (by_ : Path) (v : Value) : Option Double :=
  match by_.first? v with
  | some (.number n) => some n.toDouble
  | _ => none

/-- The greater of the best element so far and the next one; of equal ones the earlier stays. -/
def better (by_ : Path) (best : Option (Double × Value)) (v : Value) :
    Except Error (Option (Double × Value)) :=
  match rank? by_ v with
  | none => .error (.failed (.notNumeric by_))
  | some key =>
    match best with
    | none => .ok (some (key, v))
    | some (current, w) => .ok (some (if current.lt key then (key, v) else (current, w)))

def runMax (by_ result : Path) (v : Value) : Except Error Value := do
  match ← (← expectArray v).foldlM (better by_) none with
  | none => .ok .null
  | some (_, winner) =>
    match result.first? winner with
    | some found => .ok found
    | none => .error (.failed (.missingResult result))

/-! ## Moments -/

/-- Reads text by one layout and writes it by another. What has no offset is read as a moment
without one, and what has no time as midnight. -/
def runTimeParse (format layout : String) (v : Value) : Except Error Value := do
  let s := Text.trim (← expectString v).toList
  let text := String.ofList s
  let items := Calendar.Layout.items format
  let read : Option (Calendar.Moment × Option Int) :=
    match Calendar.Zoned.parse? items s with
    | some z => some (z.moment, some z.offset)
    | none =>
      match Calendar.Moment.parse? items s with
      | some m => some (m, none)
      | none => (Calendar.Date.parse? items s).map fun d => (⟨d, .midnight⟩, none)
  match read with
  | none => .error (.failed (.formatMismatch text format))
  | some (moment, offset) =>
    match moment.render? offset (Calendar.Layout.items layout) with
    | some s => .ok (.string s)
    | none => .error (.failed (.cannotRender text layout))

/-! ## All operations -/

def runInverse : Value → Except Error Value
  | .bool b => .ok (.bool !b)
  | v => .error (wrongKind "boolean" v)

def runStringToInteger : Value → Except Error Value
  | .string s =>
    match Numeral.signed? (Text.trim s.toList) with
    | some i => .ok (.ofInt i)
    | none => .error (.failed (.notInteger s))
  | .number (.integer i) => .ok (.ofInt i)
  | v => .error (wrongKind "string" v)

def runSplit (on : String) (v : Value) : Except Error Value := do
  let s ← expectString v
  .ok (.array ((Text.splitOn on.toList s.toList).map fun piece => .string (String.ofList piece)))

def runJoin (on : String) (v : Value) : Except Error Value := do
  .ok (.string (Text.joinWith on (← (← expectArray v).mapM expectString)))

/-- The result of an operation. -/
def run : Operation → Value → Except Error Value
  | changeCase .upper, v => onText Text.upper v
  | changeCase .lower, v => onText Text.lower v
  | inverse, v => runInverse v
  | duration, v => runDuration v
  | max by_ result, v => runMax by_ result v
  | replace pattern new, v => do .ok (.string (Pattern.replaceAll pattern new (← expectString v)))
  | split on, v => runSplit on v
  | timeParse format layout, v => runTimeParse format layout v
  | stringToInteger, v => runStringToInteger v
  | toCamelCase, v => onText Text.camelCase v
  | trim, v => onText Text.trim v
  | join on, v => runJoin on v

end Recast.Operation
