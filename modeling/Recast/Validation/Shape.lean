import Recast.Json.Equality
import Recast.Validation.Format

/-!
# The shape of schemas

Every draft lists its keywords in order, each with the shape of its value. `fault?` gives the first
place at which a schema is not shaped like that.
-/

namespace Recast.Validation

open Json (Value Fields Number)

/-- What a keyword's value has to be. -/
inductive Shape where
  | any
  | boolean
  | number
  | positive
  | natural
  /-- A string in a format, if the draft checks formats. -/
  | text (format : Option String)
  /-- An address without a fragment, but for its mark. -/
  | address
  /-- The name of a place. -/
  | anchor (extra : List Char)
  | list
  /-- A list of different values, not empty. -/
  | choices
  | strings (mayBeEmpty : Bool)
  | typeNames
  | stringLists
  | flags
  | schema
  | schemas
  | schemaMap (patternKeys : Bool)
  | schemaOrBoolean
  | schemaOrSchemas
  /-- An object of schemas and lists of strings. -/
  | dependencies
deriving DecidableEq, Repr

namespace Shape

/-! ## Keywords -/

def limits2020 : List (String × Shape) := [
  ("multipleOf", .positive), ("maximum", .number), ("exclusiveMaximum", .number),
  ("minimum", .number), ("exclusiveMinimum", .number), ("maxLength", .natural),
  ("minLength", .natural), ("pattern", .text (some "regex")), ("maxItems", .natural),
  ("minItems", .natural), ("uniqueItems", .boolean), ("maxContains", .natural),
  ("minContains", .natural), ("maxProperties", .natural), ("minProperties", .natural),
  ("required", .strings true), ("dependentRequired", .stringLists)]

def annotations : List (String × Shape) := [
  ("title", .text none), ("description", .text none), ("default", .any), ("deprecated", .boolean),
  ("readOnly", .boolean), ("writeOnly", .boolean), ("examples", .list), ("format", .text none),
  ("contentEncoding", .text none), ("contentMediaType", .text none), ("contentSchema", .schema)]

def branches : List (String × Shape) := [
  ("propertyNames", .schema), ("if", .schema), ("then", .schema), ("else", .schema),
  ("allOf", .schemas), ("anyOf", .schemas), ("oneOf", .schemas), ("not", .schema)]

def draft2020 : List (String × Shape) := [
  ("$id", .address), ("$schema", .text none), ("$ref", .text none), ("$anchor", .anchor ['_']),
  ("$dynamicRef", .text none), ("$dynamicAnchor", .anchor ['_']), ("$vocabulary", .flags),
  ("$comment", .text none), ("$defs", .schemaMap false), ("prefixItems", .schemas),
  ("items", .schema), ("contains", .schema), ("additionalProperties", .schema),
  ("properties", .schemaMap false), ("patternProperties", .schemaMap true),
  ("dependentSchemas", .schemaMap false)] ++ branches ++ [
  ("unevaluatedItems", .schema), ("unevaluatedProperties", .schema), ("type", .typeNames),
  ("const", .any), ("enum", .list)] ++ limits2020 ++ annotations ++ [
  ("definitions", .schemaMap false), ("dependencies", .dependencies),
  ("$recursiveAnchor", .anchor ['_']), ("$recursiveRef", .text none)]

def draft2019 : List (String × Shape) := [
  ("$id", .address), ("$schema", .text none), ("$anchor", .anchor [':']), ("$ref", .text none),
  ("$recursiveRef", .text none), ("$recursiveAnchor", .boolean), ("$vocabulary", .flags),
  ("$comment", .text none), ("$defs", .schemaMap false), ("additionalItems", .schema),
  ("unevaluatedItems", .schema), ("items", .schemaOrSchemas), ("contains", .schema),
  ("additionalProperties", .schema), ("unevaluatedProperties", .schema),
  ("properties", .schemaMap false), ("patternProperties", .schemaMap true),
  ("dependentSchemas", .schemaMap false)] ++ branches ++ limits2020 ++ [
  ("const", .any), ("enum", .list), ("type", .typeNames)] ++ annotations ++ [
  ("definitions", .schemaMap false), ("dependencies", .dependencies)]

def draft7 : List (String × Shape) := [
  ("$id", .text (some "uri-reference")), ("$schema", .text (some "uri")),
  ("$ref", .text (some "uri-reference")), ("$comment", .text none), ("title", .text none),
  ("description", .text none), ("default", .any), ("readOnly", .boolean), ("writeOnly", .boolean),
  ("examples", .list), ("multipleOf", .positive), ("maximum", .number),
  ("exclusiveMaximum", .number), ("minimum", .number), ("exclusiveMinimum", .number),
  ("maxLength", .natural), ("minLength", .natural), ("pattern", .text (some "regex")),
  ("additionalItems", .schema), ("items", .schemaOrSchemas), ("maxItems", .natural),
  ("minItems", .natural), ("uniqueItems", .boolean), ("contains", .schema),
  ("maxProperties", .natural), ("minProperties", .natural), ("required", .strings true),
  ("additionalProperties", .schema), ("definitions", .schemaMap false),
  ("properties", .schemaMap false), ("patternProperties", .schemaMap true),
  ("dependencies", .dependencies), ("propertyNames", .schema), ("const", .any), ("enum", .list),
  ("type", .typeNames), ("format", .text none), ("contentMediaType", .text none),
  ("contentEncoding", .text none), ("if", .schema), ("then", .schema), ("else", .schema),
  ("allOf", .schemas), ("anyOf", .schemas), ("oneOf", .schemas), ("not", .schema)]

def draft6 : List (String × Shape) := [
  ("$id", .text (some "uri-reference")), ("$schema", .text (some "uri")),
  ("$ref", .text (some "uri-reference")), ("title", .text none), ("description", .text none),
  ("default", .any), ("examples", .list), ("multipleOf", .positive), ("maximum", .number),
  ("exclusiveMaximum", .number), ("minimum", .number), ("exclusiveMinimum", .number),
  ("maxLength", .natural), ("minLength", .natural), ("pattern", .text (some "regex")),
  ("additionalItems", .schema), ("items", .schemaOrSchemas), ("maxItems", .natural),
  ("minItems", .natural), ("uniqueItems", .boolean), ("contains", .schema),
  ("maxProperties", .natural), ("minProperties", .natural), ("required", .strings true),
  ("additionalProperties", .schema), ("definitions", .schemaMap false),
  ("properties", .schemaMap false), ("patternProperties", .schemaMap false),
  ("dependencies", .dependencies), ("propertyNames", .schema), ("const", .any), ("enum", .choices),
  ("type", .typeNames), ("format", .text none), ("allOf", .schemas), ("anyOf", .schemas),
  ("oneOf", .schemas), ("not", .schema)]

def draft4 : List (String × Shape) := [
  ("id", .text (some "uri")), ("$schema", .text (some "uri")), ("title", .text none),
  ("description", .text none), ("default", .any), ("multipleOf", .positive), ("maximum", .number),
  ("exclusiveMaximum", .boolean), ("minimum", .number), ("exclusiveMinimum", .boolean),
  ("maxLength", .natural), ("minLength", .natural), ("pattern", .text (some "regex")),
  ("additionalItems", .schemaOrBoolean), ("items", .schemaOrSchemas), ("maxItems", .natural),
  ("minItems", .natural), ("uniqueItems", .boolean), ("maxProperties", .natural),
  ("minProperties", .natural), ("required", .strings false),
  ("additionalProperties", .schemaOrBoolean), ("definitions", .schemaMap false),
  ("properties", .schemaMap false), ("patternProperties", .schemaMap false),
  ("dependencies", .dependencies), ("enum", .choices), ("type", .typeNames), ("format", .text none),
  ("allOf", .schemas), ("anyOf", .schemas), ("oneOf", .schemas), ("not", .schema)]

def keywords : Draft → List (String × Shape)
  | .draft4 => draft4
  | .draft6 => draft6
  | .draft7 => draft7
  | .draft2019 => draft2019
  | .draft2020 => draft2020

/-! ## Simple shapes -/

def typeNameList : List String :=
  ["array", "boolean", "integer", "null", "number", "object", "string"]

def isTypeName : Value → Bool
  | .string s => typeNameList.contains s
  | _ => false

/-- Whether a number counts as an integer; before draft 6 only one written as such. -/
def isInteger (draft : Draft) : Number → Bool
  | .integer _ => true
  | .double d => draft.since .draft6 && d.isWhole

def isAddress (s : List Char) : Bool :=
  match s.dropWhile (· != '#') with
  | [] | ['#'] => true
  | _ => false

def isAnchor (extra s : List Char) : Bool :=
  match s with
  | [] => false
  | c :: s =>
    (c.isAlpha || (c == '_' && extra.contains '_')) &&
      s.all fun c => c.isAlphanum || "-._".toList.contains c || extra.contains c

def isStringList (mayBeEmpty : Bool) (items : List Value) : Bool :=
  items.all (fun v => v.string?.isSome) && (mayBeEmpty || !items.isEmpty) &&
    Value.areDistinct items

/-- The first element that fails a test, by its position. -/
def firstFailing? (ok : Value → Bool) (i : Nat) : List Value → Option Trail
  | [] => none
  | v :: vs => if ok v then firstFailing? ok (i + 1) vs else some [toString i]

/-- Where a list of strings is none. -/
def stringListFault? (mayBeEmpty : Bool) : Value → Option Trail
  | .array items =>
    (firstFailing? (fun v => v.string?.isSome) 0 items).or
      (if isStringList mayBeEmpty items then none else some [])
  | _ => some []

/-- Whether a value without schemas in it has a shape. -/
def isPlain (draft : Draft) (shape : Shape) (v : Value) : Bool :=
  match shape, v with
  | .any, _ => true
  | .boolean, .bool _ => true
  | .number, .number _ => true
  | .positive, .number n => decide (0 < n.units)
  | .natural, .number n => isInteger draft n && decide (0 ≤ n.units)
  | .text none, .string _ => true
  | .text (some format), .string s => !draft.checksFormats || Format.holds draft format s
  | .address, .string s => isAddress s.toList
  | .anchor extra, .string s => isAnchor extra s.toList
  | .list, .array _ => true
  | .choices, .array items => !items.isEmpty && Value.areDistinct items
  | .typeNames, .string s => typeNameList.contains s
  | .typeNames, .array items => !items.isEmpty && items.all isTypeName && Value.areDistinct items
  | _, _ => false

/-! ## Schemas -/

/-- The first member that has a fault, and the trail to it. -/
def firstMember? (fault : Value → Option Trail) : Fields → Option Trail
  | [] => none
  | (k, v) :: rest =>
    match fault v with
    | some trail => some (trail ++ [k])
    | none => firstMember? fault rest

def firstItem? (fault : Value → Option Trail) (i : Nat) : List Value → Option Trail
  | [] => none
  | v :: rest =>
    match fault v with
    | some trail => some (trail ++ [toString i])
    | none => firstItem? fault (i + 1) rest

/-- The first keyword whose value has a fault. -/
def firstKeyword? (fault : Shape → Value → Option Trail) (fields : Fields) :
    List (String × Shape) → Option Trail
  | [] => none
  | (key, shape) :: rest =>
    match (Fields.get? key fields).bind (fault shape) with
    | some trail => some (trail ++ [key])
    | none => firstKeyword? fault fields rest

/-- Limits that need another keyword beside them, before draft 6. -/
def lacksLimit (draft : Draft) (fields : Fields) : Bool :=
  draft == .draft4 &&
    ((Fields.has "exclusiveMaximum" fields && !Fields.has "maximum" fields) ||
      (Fields.has "exclusiveMinimum" fields && !Fields.has "minimum" fields))

/-- A non-empty list of schemas. -/
def schemasFault? (fault : Value → Option Trail) : Value → Option Trail
  | .array [] => some []
  | .array items => firstItem? fault 0 items
  | _ => some []

/-- One of two shapes; if it is neither, the fault is here. -/
def either? (a b : Option Trail) : Option Trail := if a.isNone || b.isNone then none else some []

/-- The trail to the first place in a value that is not shaped as it should be. -/
def fault? (draft : Draft) : (fuel : Nat) → Shape → Value → Option Trail
  | 0, _, _ => none
  | fuel + 1, shape, v =>
    let schema := fault? draft fuel .schema
    match shape, v with
    | .schema, .bool _ => if draft.since .draft6 then none else some []
    | .schema, .object fields =>
      (firstKeyword? (fault? draft fuel) fields (keywords draft)).or
        (if lacksLimit draft fields then some [] else none)
    | .schema, _ => some []
    | .schemas, v => schemasFault? schema v
    | .schemaMap patternKeys, .object fields =>
      (firstMember? schema fields).or
        (if patternKeys && draft.checksFormats && !fields.all fun (k, _) => Format.isPattern k then
          some [] else none)
    | .schemaOrBoolean, .bool _ => none
    | .schemaOrBoolean, v => (schema v).map fun _ => []
    | .schemaOrSchemas, v => either? (schema v) (schemasFault? schema v)
    | .dependencies, .object fields =>
      let mayBeEmpty := draft.since .draft6
      firstMember? (fun v => either? (schema v) (stringListFault? mayBeEmpty v)) fields
    | .strings mayBeEmpty, v => stringListFault? mayBeEmpty v
    | .stringLists, .object fields => firstMember? (stringListFault? true) fields
    | .flags, .object fields =>
      firstMember? (fun v => if isPlain draft .boolean v then none else some []) fields
    | shape, v => if isPlain draft shape v then none else some []

end Shape

end Recast.Validation
