import Recast.Validation.Check

/-!
# Schemas for validation

A schema is compiled before it is used: it has to have the shape of a schema of its draft, its
references have to lead somewhere, and its patterns have to be patterns.
-/

namespace Recast.Validation

open Json (Value Fields)

/-- A schema that can be checked against. -/
structure Schema where
  library : Library

namespace Schema

/-! ## Compiling -/

/-- Why a schema cannot be used, and the trail to the place that is reported. -/
abbrev Fault := Trail

def patternFault? (trail : Trail) : Value → Option Fault
  | .string source => if Format.isPattern source then none else some trail
  | _ => none

/-- Schemas below a keyword, in the order in which they are entered. -/
def below (d : Draft) (spot : Spot) (fields : Fields) (key : String) (arg : Value) : List Spot :=
  let one := [spot.into [key] arg]
  let each := match arg with
    | .object schemas => schemas.map fun (k, schema) => spot.into [k, key] schema
    | .array schemas => Check.branches spot key 0 schemas
    | _ => []
  match key with
  | "properties" | "patternProperties" | "dependencies" | "allOf" | "anyOf" | "oneOf" => each
  | "dependentSchemas" => if d.since .draft2019 then each else []
  | "prefixItems" => if d.since .draft2020 then each else []
  | "items" => match arg with
    | .array _ => each
    | _ => one
  | "additionalProperties" | "not" => one
  | "additionalItems" => if d.since .draft2020 then [] else one
  | "contains" | "propertyNames" => if d.since .draft6 then one else []
  | "if" =>
    if !d.since .draft7 then []
    else one ++ (["then", "else"].filterMap fun k =>
      (Fields.get? k fields).map fun schema => spot.into [k] schema)
  | "unevaluatedProperties" | "unevaluatedItems" => if d.since .draft2019 then one else []
  | _ => []

/-- The first pattern among keys that is none. -/
def patternKeyFault? (spot : Spot) (key : String) (arg : Value) : Option Fault :=
  match key, arg with
  | "patternProperties", .object schemas =>
    (schemas.find? fun (source, _) => !Format.isPattern source).map fun (source, _) =>
      source :: key :: spot.trail
  | _, _ => none

/-- The first fault of a schema and the schemas it leads to. `entered` are the references that were
followed on the way. -/
def fault? (l : Library) : (fuel : Nat) → (entered : List (List Char × String)) → Spot → Option Fault
  | 0, _, _ => none
  | fuel + 1, entered, spot =>
    match spot.schema with
    | .bool _ => none
    | .object fields =>
      let spot := { spot with base := ownAddress l.draft spot.base fields }
      let counted := if l.draft.isolatesReferences && Fields.has "$ref" fields then
          fields.filter fun f => f.1 == "$ref"
        else fields
      counted.findSome? fun (key, arg) =>
        if Check.isReference l.draft key then
          let mark := (spot.base, arg.string?.getD "")
          if entered.contains mark then none
          else match Check.target? l spot key arg with
            | none => some []
            | some target => fault? l fuel (mark :: entered) target
        else if key == "pattern" then patternFault? spot.trail arg
        else (patternKeyFault? spot key arg).or
          ((below l.draft spot fields key arg).findSome? fun s => match s.schema with
            | .array _ => none
            | _ => fault? l fuel entered s)
    | _ => some []

/-- The schema of a value, or a pointer to the first place that is wrong in it. -/
def compile (schema : Value) : Except String Schema :=
  match Draft.detect? schema with
  | none => .error ""
  | some draft =>
    match Shape.fault? draft (2 * schema.height + 2) .schema schema with
    | some trail => .error (pointer trail)
    | none =>
      let library := Library.ofSchema draft schema
      match fault? library ((schema.weight + 1) * 2) [] ⟨library.base, [], schema⟩ with
      | some trail => .error (pointer trail)
      | none => .ok ⟨library⟩

/-! ## Validating -/

/-- What the schema has against a document, in order, if checking comes to an end. Fuel is enough for
every schema to be entered at every level of the document, so that more is going in circles. -/
def violations? (s : Schema) (document : Value) : Option (List Violation) :=
  let fuel := (s.library.root.weight + 1) * (document.height + 1) + 1
  let outcome := check s.library fuel ⟨s.library.base, [], s.library.root⟩ ⟨[], document⟩
  if outcome.isEndless then none else some (Violations.ofList outcome.violations)

end Schema

end Recast.Validation
