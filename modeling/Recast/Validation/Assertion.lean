import Recast.Json.Equality
import Recast.Json.Printer
import Recast.Json.Reader
import Recast.Number.Shortest
import Recast.Pattern.Match
import Recast.Text.Base64
import Recast.Text.Utf8
import Recast.Validation.Format
import Recast.Validation.Shape

/-!
# Assertions

Keywords that look at a value alone, without schemas in them: kinds, limits, patterns and choices.
An assertion that fails says so in words that begin with the value.
-/

namespace Recast.Validation

open Json (Value Fields Number compact)

namespace Assertion

/-! ## Kinds -/

/-- Whether a value is of a named kind. -/
def isOfType (draft : Draft) (name : String) (v : Value) : Bool :=
  match name, v with
  | "integer", .number n => Shape.isInteger draft n
  | "number", .number _ => true
  | name, v => v.kindName == name

def quoted (name : String) : String := "\"" ++ name ++ "\""

/-- The names of a list of kinds, in order. -/
def typeNames (items : List Value) : List String :=
  (items.filterMap Value.string?).mergeSort fun a b => a ≤ b

def type (draft : Draft) (arg v : Value) : List String :=
  let names := match arg with
    | .string name => [name]
    | .array items => typeNames items
    | _ => []
  if names.isEmpty || names.any fun name => isOfType draft name v then []
  else match names with
    | [name] => [compact v ++ " is not of type " ++ quoted name]
    | names => [compact v ++ " is not of types " ++ Text.joinWith ", " (names.map quoted)]

/-! ## Choices -/

/-- Up to three choices, or two and the number of the others. -/
def choiceText (items : List Value) : String :=
  match items.map compact with
  | [] => ""
  | [a] => a
  | [a, b] => a ++ " or " ++ b
  | [a, b, c] => a ++ ", " ++ b ++ " or " ++ c
  | a :: b :: rest => a ++ ", " ++ b ++ " or " ++ toString rest.length ++ " other candidates"

def choice (items : List Value) (v : Value) : List String :=
  if items.any (Value.equivalent v) then []
  else [compact v ++ " is not one of " ++ choiceText items]

def constant (expected v : Value) : List String :=
  if expected.equivalent v then [] else [compact expected ++ " was expected"]

/-! ## Limits -/

/-- A natural number, also when it is written as a fraction. -/
def natural? : Value → Option Nat
  | .number (.integer i) => if 0 ≤ i then some i.toNat else none
  | .number (.double d) => if d.isWhole && 0 ≤ d.truncate then some d.truncate.toNat else none
  | _ => none

/-- A count and the word for what is counted. -/
def counted (n : Nat) (one many : String) : String :=
  toString n ++ " " ++ if n == 1 then one else many

/-- A value that is too small or too large in some count. -/
def sized (fails : Nat → Nat → Bool) (verdict one many : String) (arg v : Value)
    (size : Option Nat) : List String :=
  match natural? arg, size with
  | some limit, some n =>
    if fails n limit then [compact v ++ verdict ++ counted limit one many] else []
  | _, _ => []

def length? : Value → Option Nat
  | .string s => some s.length
  | _ => none

def itemCount? : Value → Option Nat
  | .array items => some items.length
  | _ => none

def memberCount? : Value → Option Nat
  | .object fields => some fields.length
  | _ => none

/-- A number beyond another one. -/
def compared (fails : Int → Int → Bool) (verdict : String) (arg v : Value) : List String :=
  match arg, v with
  | .number limit, .number n =>
    if fails n.units limit.units then [compact v ++ verdict ++ compact arg] else []
  | _, _ => []

/-- A double written without an exponent, and without a point if it is whole. -/
def plainText (d : Double) : String :=
  let short := d.shortest
  let digits := toString short.digits
  let zeros (n : Nat) := String.ofList (List.replicate n '0')
  let body :=
    if short.digits == 0 then "0"
    else if 0 ≤ short.exponent then digits ++ zeros short.exponent.toNat
    else
      let places := short.exponent.natAbs
      let cs := (zeros (places + 1 - digits.length) ++ digits).toList
      String.ofList (cs.take (cs.length - places)) ++ "." ++
        String.ofList (cs.drop (cs.length - places))
  (if d.negative then "-" else "") ++ body

/-- Whether one decimal is a whole number of times another one. -/
def divides (divisor n : Double.Decimal) : Bool :=
  let shift := min divisor.exponent n.exponent
  let scaled (d : Double.Decimal) : Nat := d.digits * Nat.pow 10 (d.exponent - shift).toNat
  scaled n % scaled divisor == 0

/-- Whole divisors go by the exact value, others by the shortest decimals of both numbers. -/
def isMultiple (divisor n : Double) : Bool :=
  if divisor.isWhole then n.units % divisor.units == 0 else divides divisor.shortest n.shortest

def multipleOf (arg v : Value) : List String :=
  match arg, v with
  | .number divisor, .number n =>
    let divisor := divisor.toDouble
    if isMultiple divisor n.toDouble then []
    else [compact v ++ " is not a multiple of " ++ plainText divisor]
  | _, _ => []

/-! ## Text and lists -/

def pattern (arg v : Value) : List String :=
  match arg, v with
  | .string source, .string s =>
    match Pattern.compileScript? source with
    | some p => if p.occursIn s then [] else [compact v ++ " does not match " ++ quoted source]
    | none => []
  | _, _ => []

def format (draft : Draft) (arg v : Value) : List String :=
  match arg, v with
  | .string name, .string s =>
    if !draft.checksFormats || Format.holds draft name s then []
    else [compact v ++ " is not a " ++ quoted name]
  | _, _ => []

def uniqueItems (arg v : Value) : List String :=
  match arg, v with
  | .bool true, .array items =>
    if Value.areDistinct items then [] else [compact v ++ " has non-unique elements"]
  | _, _ => []

/-- The keys of a list that an object lacks. -/
def required (arg v : Value) : List String :=
  match arg, v with
  | .array keys, .object fields =>
    (keys.filterMap Value.string?).filterMap fun key =>
      if Fields.has key fields then none
      else some (compact (.string key) ++ " is a required property")
  | _, _ => []

/-- The keys that the keys of an object ask for. -/
def dependentRequired (arg v : Value) : List String :=
  match arg, v with
  | .object lists, .object fields =>
    lists.flatMap fun (key, keys) => if Fields.has key fields then required keys v else []
  | _, _ => []

/-! ## Content -/

def encodingMessage (v : Value) : String :=
  compact v ++ " is not compliant with \"base64\" content encoding"

def mediaTypeMessage (v : Value) : String :=
  compact v ++ " is not compliant with \"application/json\" media type"

def isJson (s : List Char) : Bool := (Json.parse (String.ofList s)).isOk

/-- A string that holds encoded bytes. -/
def encoding (arg v : Value) : List String :=
  match arg, v with
  | .string "base64", .string s =>
    if (Text.Base64.decode? s.toList).isSome then [] else [encodingMessage v]
  | _, _ => []

/-- A string that holds a document, as it is or encoded, and the keyword it is reported for. -/
def mediaType (encoded : Option Value) (arg v : Value) : String × List String :=
  let failed := ("contentMediaType", [mediaTypeMessage v])
  let passed := ("contentMediaType", [])
  match arg, encoded, v with
  | .string "application/json", none, .string s => if isJson s.toList then passed else failed
  | .string "application/json", some (.string "base64"), .string s =>
    match Text.Base64.decode? s.toList with
    | none => ("contentEncoding", [encodingMessage v])
    | some bytes =>
      match Text.Utf8.decode? bytes with
      | some cs => if isJson cs then passed else failed
      | none => passed
  | _, _, _ => passed

/-- What is wrong with an encoded document that is no text at all. It is reported without a
place. -/
def contentFault? (encoded : Option Value) (arg v : Value) : Option Text.Utf8.Fault :=
  match arg, encoded, v with
  | .string "application/json", some (.string "base64"), .string s =>
    (Text.Base64.decode? s.toList).bind Text.Utf8.fault?
  | _, _, _ => none

/-! ## All assertions -/

def above : Int → Int → Bool := fun a b => decide (b < a)

def below : Int → Int → Bool := fun a b => decide (a < b)

/-- A limit that another keyword makes exclusive, before draft 6, and the keyword it is reported
for. -/
def limit (draft : Draft) (parent : Fields) (key exclusiveKey : String) : String :=
  if draft == .draft4 && Fields.get? exclusiveKey parent == some (.bool true) then exclusiveKey
  else key

/-- What a keyword has against a value, and the keyword it is reported for. -/
def check (draft : Draft) (parent : Fields) (key : String) (arg v : Value) :
    String × List String :=
  let late (messages : List String) := (key, if draft.since .draft6 then messages else [])
  let exclusiveMaximum := compared (fun a b => decide (b ≤ a))
    " is greater than or equal to the maximum of " arg v
  let exclusiveMinimum := compared (fun a b => decide (a ≤ b))
    " is less than or equal to the minimum of " arg v
  let more (n limit : Nat) : Bool := decide (limit < n)
  let less (n limit : Nat) : Bool := decide (n < limit)
  match key with
  | "type" => (key, type draft arg v)
  | "enum" => (key, choice (arg.array?.getD []) v)
  | "const" => late (constant arg v)
  | "maximum" =>
    let reported := limit draft parent key "exclusiveMaximum"
    (reported, if reported == key then compared above " is greater than the maximum of " arg v
      else exclusiveMaximum)
  | "minimum" =>
    let reported := limit draft parent key "exclusiveMinimum"
    (reported, if reported == key then compared below " is less than the minimum of " arg v
      else exclusiveMinimum)
  | "exclusiveMaximum" => late exclusiveMaximum
  | "exclusiveMinimum" => late exclusiveMinimum
  | "multipleOf" => (key, multipleOf arg v)
  | "maxLength" => (key, sized more " is longer than " "character" "characters" arg v (length? v))
  | "minLength" => (key, sized less " is shorter than " "character" "characters" arg v (length? v))
  | "maxItems" => (key, sized more " has more than " "item" "items" arg v (itemCount? v))
  | "minItems" => (key, sized less " has less than " "item" "items" arg v (itemCount? v))
  | "maxProperties" =>
    (key, sized more " has more than " "property" "properties" arg v (memberCount? v))
  | "minProperties" =>
    (key, sized less " has less than " "property" "properties" arg v (memberCount? v))
  | "pattern" => (key, pattern arg v)
  | "format" => (key, format draft arg v)
  | "uniqueItems" => (key, uniqueItems arg v)
  | "required" => (key, required arg v)
  | "dependentRequired" => (key, if draft.since .draft2019 then dependentRequired arg v else [])
  | "contentEncoding" =>
    (key, if draft.checksContent && !Fields.has "contentMediaType" parent then encoding arg v
      else [])
  | "contentMediaType" =>
    if draft.checksContent then mediaType (Fields.get? "contentEncoding" parent) arg v
    else (key, [])
  | _ => (key, [])

end Assertion

end Recast.Validation
