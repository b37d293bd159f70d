import Recast.Validation.Assertion
import Recast.Validation.Errors
import Recast.Validation.Reference

/-!
# Checking documents

`check` lists what a schema has against a value. Keywords with schemas in them apply these to the
value, to its members or to its elements. Schemas that refer to each other need not come to an end.
-/

namespace Recast.Validation

open Json (Value Fields compact)

/-- A schema: the address it is seen from, the trail that led to it, and the schema. -/
structure Spot where
  base : List Char
  trail : Trail
  schema : Value

namespace Spot

/-- A schema below another one. -/
def into (s : Spot) (keys : Trail) (schema : Value) : Spot :=
  { s with trail := keys ++ s.trail, schema }

end Spot

/-- A value and the trail that led to it. -/
structure Site where
  trail : Trail
  value : Value

namespace Site

def member (s : Site) (key : String) (v : Value) : Site := ⟨key :: s.trail, v⟩

def element (s : Site) (i : Nat) (v : Value) : Site := ⟨toString i :: s.trail, v⟩

end Site

/-- What a schema has against a value: violations, in order, and whether there is no end behind
them. -/
structure Outcome where
  violations : List Violation
  isEndless : Bool

namespace Outcome

def of (violations : List Violation) : Outcome := ⟨violations, false⟩

def nothing : Outcome := of []

def endless : Outcome := ⟨[], true⟩

/-- What was decided, if it was. -/
def ofOption (decided : Option (List Violation)) : Outcome :=
  match decided with
  | some violations => of violations
  | none => endless

/-- What is next is only looked at behind an end. -/
def andThen (o : Outcome) (next : Unit → Outcome) : Outcome :=
  if o.isEndless then o
  else
    let rest := next ()
    ⟨o.violations ++ rest.violations, rest.isEndless⟩

/-- One after the other. -/
def each (f : α → Outcome) : List α → Outcome
  | [] => nothing
  | a :: rest => (f a).andThen fun _ => each f rest

/-- Whether there is nothing against the value. A violation decides it, whatever is behind it. -/
def holds? (o : Outcome) : Option Bool :=
  if !o.violations.isEmpty then some false else if o.isEndless then none else some true

end Outcome

abbrev Checker := Spot → Site → Outcome

namespace Check

def report (trail : Trail) (site : Site) (message : String) : Violation :=
  ⟨pointer site.trail, pointer trail, message⟩

/-- How many of the list pass, as far as it takes to find `enough`. -/
def countUpTo (enough : Nat) (passes : α → Option Bool) : List α → Option Nat
  | [] => some 0
  | a :: rest =>
    match enough with
    | 0 => some 0
    | n + 1 => do
      if ← passes a then .some ((← countUpTo n passes rest) + 1) else countUpTo (n + 1) passes rest

def falseMessage (v : Value) : String := "False schema does not allow " ++ compact v

/-- The names of things that should not be there. -/
def unexpected (names : List String) : String :=
  "(" ++ Text.joinWith ", " (names.map fun n => "'" ++ n ++ "'") ++
    (if names.length == 1 then " was unexpected)" else " were unexpected)")

def patternMatches (source key : String) : Bool :=
  match Pattern.compileScript? source with
  | some p => p.occursIn key
  | none => false

/-- The sources of the patterns of a schema. -/
def patternsOf (fields : Fields) : List String :=
  match Fields.get? "patternProperties" fields with
  | some (.object patterns) => Fields.keys patterns
  | _ => []

def membersOf (key : String) (fields : Fields) : Fields :=
  match Fields.get? key fields with
  | some (.object members) => members
  | _ => []

/-- The members that neither a property nor a pattern of the schema is for. -/
def additional (fields members : Fields) : Fields :=
  let properties := membersOf "properties" fields
  let patterns := patternsOf fields
  members.filter fun (k, _) =>
    !Fields.has k properties && !patterns.any fun p => patternMatches p k

/-- How many elements have schemas by position, and whether the schema for the others is another
keyword. -/
def prefixLength (draft : Draft) (fields : Fields) : Nat :=
  let key := if draft.since .draft2020 then "prefixItems" else "items"
  match Fields.get? key fields with
  | some (.array items) => items.length
  | _ => 0

/-! ## Members -/

def properties (recurse : Checker) (spot : Spot) (arg : Value) (site : Site) : Outcome :=
  match arg, site.value with
  | .object schemas, .object members =>
    Outcome.each (fun (key, schema) =>
      match Fields.get? key members with
      | some v => recurse (spot.into [key, "properties"] schema) (site.member key v)
      | none => .nothing) schemas
  | _, _ => .nothing

def patternProperties (recurse : Checker) (spot : Spot) (arg : Value) (site : Site) :
    Outcome :=
  match arg, site.value with
  | .object schemas, .object members =>
    Outcome.each (fun (source, schema) =>
      Outcome.each (fun (key, v) =>
          recurse (spot.into [source, "patternProperties"] schema) (site.member key v))
        (members.filter fun (key, _) => patternMatches source key)) schemas
  | _, _ => .nothing

def additionalProperties (recurse : Checker) (spot : Spot) (fields : Fields) (arg : Value)
    (site : Site) : Outcome :=
  let trail := "additionalProperties" :: spot.trail
  match arg, site.value with
  | .bool true, _ => .nothing
  | .bool false, .object members =>
    match additional fields members with
    | [] => .nothing
    | (key, v) :: rest =>
      if Fields.has "properties" fields || Fields.has "patternProperties" fields then
        .of [report trail site ("Additional properties are not allowed " ++
          unexpected (key :: Fields.keys rest))]
      else .of [report trail site (falseMessage v)]
  | schema, .object members =>
    Outcome.each (fun (key, v) => recurse { spot with trail, schema } (site.member key v))
      (additional fields members)
  | _, _ => .nothing

def propertyNames (recurse : Checker) (spot : Spot) (arg : Value) (site : Site) : Outcome :=
  let trail := "propertyNames" :: spot.trail
  match arg, site.value with
  | .bool false, .object (_ :: _) => .of [report trail site (falseMessage site.value)]
  | schema, .object members =>
    Outcome.each (fun (key, _) => recurse { spot with trail, schema } ⟨site.trail, .string key⟩)
      members
  | _, _ => .nothing

/-- Schemas and lists of keys that the keys of an object ask for. -/
def dependencies (recurse : Checker) (spot : Spot) (keyword : String) (arg : Value) (site : Site) :
    Outcome :=
  match arg, site.value with
  | .object schemas, .object members =>
    Outcome.each (fun (key, schema) =>
      if !Fields.has key members then .nothing
      else match schema with
        | .array _ =>
          .of ((Assertion.required schema site.value).map (report (keyword :: spot.trail) site))
        | schema => recurse (spot.into [key, keyword] schema) site) schemas
  | _, _ => .nothing

/-! ## Elements -/

/-- Schemas by position. -/
def itemList (recurse : Checker) (spot : Spot) (keyword : String) (site : Site) :
    (i : Nat) → List Value → List Value → Outcome
  | i, schema :: schemas, v :: vs =>
    (recurse (spot.into [toString i, keyword] schema) (site.element i v)).andThen fun _ =>
      itemList recurse spot keyword site (i + 1) schemas vs
  | _, _, _ => .nothing

/-- One schema for all elements from a position on. -/
def itemsFrom (recurse : Checker) (spot : Spot) (keyword : String) (schema : Value) (site : Site) :
    (i : Nat) → List Value → Outcome
  | _, [] => .nothing
  | i, v :: vs =>
    (recurse (spot.into [keyword] schema) (site.element i v)).andThen fun _ =>
      itemsFrom recurse spot keyword schema site (i + 1) vs

def items (draft : Draft) (recurse : Checker) (spot : Spot) (fields : Fields) (arg : Value)
    (site : Site) : Outcome :=
  match arg, site.value with
  | .array schemas, .array vs => itemList recurse spot "items" site 0 schemas vs
  | schema, .array vs =>
    let first := if draft.since .draft2020 then prefixLength draft fields else 0
    itemsFrom recurse spot "items" schema site first (vs.drop first)
  | _, _ => .nothing

def additionalItems (recurse : Checker) (spot : Spot) (fields : Fields) (arg : Value)
    (site : Site) : Outcome :=
  match Fields.get? "items" fields, site.value with
  | some (.array schemas), .array vs =>
    let rest := vs.drop schemas.length
    match arg, rest with
    | .bool false, _ :: _ =>
      .of [report ("additionalItems" :: spot.trail) site
        ("Additional items are not allowed (" ++ Text.joinWith ", " (rest.map compact) ++
          (if rest.length == 1 then " was unexpected)" else " were unexpected)"))]
    | schema, rest => itemsFrom recurse spot "additionalItems" schema site schemas.length rest
  | _, _ => .nothing

/-- How many elements satisfy a schema: at least one, or as many as two other keywords say. -/
def contains (draft : Draft) (recurse : Checker) (spot : Spot) (fields : Fields) (arg : Value)
    (site : Site) : Outcome :=
  match site.value with
  | .array vs =>
    let limit (key : String) : Option Nat :=
      if draft.since .draft2019 then (Fields.get? key fields).bind Assertion.natural? else none
    let found (enough : Nat) : Option Nat := countUpTo enough (fun v =>
      (recurse (spot.into ["contains"] arg) ⟨site.trail, v⟩).holds?) vs
    let failed (keys : Trail) : List Violation :=
      [report (keys ++ spot.trail) site ("None of " ++ compact site.value ++
        " are valid under the given schema")]
    .ofOption (match limit "minContains", limit "maxContains" with
      | none, none => (found 1).map fun n => if n == 0 then failed ["contains"] else []
      | some least, none =>
        (found least).map fun n => if n < least then failed ["minContains"] else []
      | none, some most =>
        (found (most + 1)).map fun n => if n == 0 || n > most then failed ["maxContains"] else []
      | some least, some most =>
        (found (most + 1)).map fun n =>
          if n > most then failed ["maxContains", "contains"]
          else if n < least then failed ["minContains", "contains"] else [])
  | _ => .nothing

/-! ## Branches -/

def branches (spot : Spot) (keyword : String) : (i : Nat) → List Value → List Spot
  | _, [] => []
  | i, schema :: rest =>
    spot.into [toString i, keyword] schema :: branches spot keyword (i + 1) rest

def branchesOf (spot : Spot) (keyword : String) (arg : Value) : List Spot :=
  branches spot keyword 0 (arg.array?.getD [])

def anyOf (recurse : Checker) (spot : Spot) (arg : Value) (site : Site) : Outcome :=
  .ofOption ((countUpTo 1 (fun s => (recurse s site).holds?) (branchesOf spot "anyOf" arg)).map
    fun passing => if passing == 0 then
        [report ("anyOf" :: spot.trail) site (compact site.value ++
          " is not valid under any of the schemas listed in the 'anyOf' keyword")]
      else [])

def oneOf (recurse : Checker) (spot : Spot) (arg : Value) (site : Site) : Outcome :=
  .ofOption ((countUpTo 2 (fun s => (recurse s site).holds?) (branchesOf spot "oneOf" arg)).map
    fun passing => match passing with
      | 0 => [report ("oneOf" :: spot.trail) site (compact site.value ++
          " is not valid under any of the schemas listed in the 'oneOf' keyword")]
      | 1 => []
      | _ => [report ("oneOf" :: spot.trail) site (compact site.value ++
          " is valid under more than one of the schemas listed in the 'oneOf' keyword")])

def negation (recurse : Checker) (spot : Spot) (arg : Value) (site : Site) : Outcome :=
  .ofOption ((recurse (spot.into ["not"] arg) site).holds?.map fun holds =>
    if holds then [report ("not" :: spot.trail) site
      (compact arg ++ " is not allowed for " ++ compact site.value)]
    else [])

/-- The branch that a condition chooses, if there is one; nothing where the condition has no end. -/
def chosen? (recurse : Checker) (spot : Spot) (fields : Fields) (condition : Value) (site : Site) :
    Option (Option Spot) :=
  (recurse (spot.into ["if"] condition) site).holds?.map fun holds =>
    let key := if holds then "then" else "else"
    (Fields.get? key fields).map fun schema => spot.into [key] schema

def conditional (recurse : Checker) (spot : Spot) (fields : Fields) (condition : Value)
    (site : Site) : Outcome :=
  match chosen? recurse spot fields condition site with
  | some (some branch) => recurse branch site
  | some none => .nothing
  | none => .endless

/-! ## References -/

def isReference (draft : Draft) (key : String) : Bool :=
  key == "$ref" || (key == "$dynamicRef" && draft == .draft2020) ||
    (key == "$recursiveRef" && draft == .draft2019)

/-- The schema that a reference leads to. -/
def target? (l : Library) (spot : Spot) (key : String) (arg : Value) : Option Spot := do
  let (base, schema) ← l.find? spot.base (← arg.string?)
  some ⟨base, key :: spot.trail, schema⟩

def reference (l : Library) (recurse : Checker) (spot : Spot) (key : String) (arg : Value)
    (site : Site) : Outcome :=
  match target? l spot key arg with
  | some target => recurse target site
  | none => .nothing

/-! ## What is left over -/

/-- The branches of a schema that hold for a value, so that what they look at counts as looked
at. -/
def holding (l : Library) (recurse : Checker) (spot : Spot) (fields : Fields) (site : Site) :
    Option (List Spot) := do
  let passing (spots : List Spot) : Option (List Spot) :=
    spots.filterM fun s => (recurse s site).holds?
  let found ← fields.mapM fun (key, arg) =>
    if isReference l.draft key then some (target? l spot key arg).toList
    else match key with
      | "allOf" => some (branchesOf spot key arg)
      | "anyOf" | "oneOf" => passing (branchesOf spot key arg)
      | "if" => do
        let condition ← passing [spot.into [key] arg]
        some (condition ++ (← chosen? recurse spot fields arg site).toList)
      | "dependentSchemas" =>
        match arg, site.value with
        | .object schemas, .object members =>
          some ((schemas.filter fun (k, _) => Fields.has k members).map fun (k, schema) =>
            spot.into [k, key] schema)
        | _, _ => some []
      | _ => some []
  some found.flatten

/-- The members of an object that a schema looks at itself. -/
def ownNames (fields members : Fields) : List String :=
  let named := (Fields.keys members).filter fun k =>
    Fields.has k (membersOf "properties" fields) ||
      (patternsOf fields).any fun p => patternMatches p k
  if Fields.has "additionalProperties" fields || Fields.has "unevaluatedProperties" fields then
    Fields.keys members
  else named

/-- The members of an object that a schema looks at, in its branches too. -/
def seenNames (l : Library) (recurse : Checker) : (fuel : Nat) → Spot → Site → Option (List String)
  | 0, _, _ => none
  | fuel + 1, spot, site =>
    match spot.schema, site.value with
    | .object fields, .object members => do
      let below ← (← holding l recurse spot fields site).mapM fun s =>
        seenNames l recurse fuel s site
      some (ownNames fields members ++ below.flatten)
    | _, _ => some []

/-- The positions of a list that a schema looks at itself. -/
def ownPositions (draft : Draft) (recurse : Checker) (spot : Spot) (fields : Fields)
    (vs : List Value) : Option (List Nat) :=
  let all := List.range vs.length
  let others := if draft.since .draft2020 then "items" else "additionalItems"
  let isForAll := Fields.has "unevaluatedItems" fields || Fields.has others fields ||
    (!draft.since .draft2020 && (match Fields.get? "items" fields with
      | some (.array _) | none => false
      | some _ => true))
  if isForAll then some all
  else
    let contained := match Fields.get? "contains" fields with
      | some schema => if draft.since .draft2020 then
          all.filterM fun i => match vs[i]? with
            | some v => (recurse (spot.into ["contains"] schema) ⟨[], v⟩).holds?
            | none => some false
        else some []
      | none => some []
    contained.map (List.range (prefixLength draft fields) ++ ·)

/-- The positions of a list that a schema looks at, in its branches too. -/
def seenPositions (l : Library) (recurse : Checker) : (fuel : Nat) → Spot → Site → Option (List Nat)
  | 0, _, _ => none
  | fuel + 1, spot, site =>
    match spot.schema, site.value with
    | .object fields, .array vs => do
      let own ← ownPositions l.draft recurse spot fields vs
      let below ← (← holding l recurse spot fields site).mapM fun s =>
        seenPositions l recurse fuel s site
      some (own ++ below.flatten)
    | _, _ => some []

/-- A schema without one of its keywords. -/
def without (key : String) (fields : Fields) : Value := .object (fields.filter fun f => f.1 != key)

def unevaluatedProperties (l : Library) (recurse : Checker) (fuel : Nat) (spot : Spot)
    (fields : Fields) (arg : Value) (site : Site) : Outcome :=
  let key := "unevaluatedProperties"
  match site.value with
  | .object members => .ofOption do
    let seen ← seenNames l recurse fuel { spot with schema := without key fields } site
    let left ← members.filterM fun (k, v) =>
      if seen.contains k then some false
      else (recurse (spot.into [key] arg) (site.member k v)).holds?.map not
    if left.isEmpty then some []
    else some [report (key :: spot.trail) site
      ("Unevaluated properties are not allowed " ++ unexpected (Fields.keys left))]
  | _ => .nothing

def unevaluatedItems (l : Library) (recurse : Checker) (fuel : Nat) (spot : Spot)
    (fields : Fields) (arg : Value) (site : Site) : Outcome :=
  let key := "unevaluatedItems"
  match site.value with
  | .array vs => .ofOption do
    let seen ← seenPositions l recurse fuel { spot with schema := without key fields } site
    let left ← vs.zipIdx.filterM fun (v, i) =>
      if seen.contains i then some false
      else (recurse (spot.into [key] arg) (site.element i v)).holds?.map not
    if left.isEmpty then some []
    else some [report (key :: spot.trail) site
      ("Unevaluated items are not allowed " ++ unexpected (left.map fun (v, _) => compact v))]
  | _ => .nothing

/-! ## Schemas -/

/-- Content that is looked at as a document. -/
def content (draft : Draft) (spot : Spot) (fields : Fields) (arg : Value) (site : Site) :
    Outcome :=
  let key := "contentMediaType"
  let encoded := Fields.get? "contentEncoding" fields
  match Assertion.contentFault? encoded arg site.value with
  | some fault => if draft.checksContent then .of [⟨"", "", fault.message⟩] else .nothing
  | none =>
    let (reported, messages) := Assertion.check draft fields key arg site.value
    .of (messages.map (report (reported :: spot.trail) site))

/-- What one keyword has against a value. -/
def keyword (l : Library) (recurse : Checker) (fuel : Nat) (spot : Spot) (fields : Fields)
    (key : String) (arg : Value) (site : Site) : Outcome :=
  let d := l.draft
  let after (first : Draft) (o : Outcome) : Outcome := if d.since first then o else .nothing
  if isReference d key then reference l recurse spot key arg site
  else match key with
    | "properties" => properties recurse spot arg site
    | "patternProperties" => patternProperties recurse spot arg site
    | "additionalProperties" => additionalProperties recurse spot fields arg site
    | "propertyNames" => after .draft6 (propertyNames recurse spot arg site)
    | "dependencies" => dependencies recurse spot key arg site
    | "dependentSchemas" => after .draft2019 (dependencies recurse spot key arg site)
    | "prefixItems" =>
      after .draft2020 (itemList recurse spot key site 0 (arg.array?.getD [])
        (site.value.array?.getD []))
    | "items" => items d recurse spot fields arg site
    | "additionalItems" =>
      if d.since .draft2020 then .nothing else additionalItems recurse spot fields arg site
    | "contains" => after .draft6 (contains d recurse spot fields arg site)
    | "allOf" => Outcome.each (fun s => recurse s site) (branchesOf spot key arg)
    | "anyOf" => anyOf recurse spot arg site
    | "oneOf" => oneOf recurse spot arg site
    | "not" => negation recurse spot arg site
    | "if" => after .draft7 (conditional recurse spot fields arg site)
    | "unevaluatedProperties" =>
      after .draft2019 (unevaluatedProperties l recurse fuel spot fields arg site)
    | "unevaluatedItems" =>
      after .draft2019 (unevaluatedItems l recurse fuel spot fields arg site)
    | "contentMediaType" => content d spot fields arg site
    | _ =>
      let (reported, messages) := Assertion.check d fields key arg site.value
      .of (messages.map (report (reported :: spot.trail) site))

end Check

open Check in
/-- What a schema has against a value. Fuel bounds the schemas entered one inside the other. -/
def check (l : Library) : (fuel : Nat) → Checker
  | 0, _, _ => .endless
  | fuel + 1, spot, site =>
    match spot.schema with
    | .bool false => .of [report spot.trail site (falseMessage site.value)]
    | .object fields =>
      let spot := { spot with base := ownAddress l.draft spot.base fields }
      let counted := if l.draft.isolatesReferences && Fields.has "$ref" fields then
          fields.filter fun f => f.1 == "$ref"
        else fields
      Outcome.each (fun (key, arg) => keyword l (check l fuel) fuel spot fields key arg site) counted
    | _ => .nothing

end Recast.Validation
