import Recast.Text.Utf8
import Recast.Validation.Draft
import Recast.Text.Basic

/-!
# References

Schemas are found by address: the document by its own one, schemas in it by theirs, and places by a
name or by a pointer behind the address.
-/

namespace Recast.Validation

open Json (Value Fields)

namespace Address

/-- The text before the first mark of a fragment, and the fragment. -/
def split (s : List Char) : List Char × List Char :=
  (s.takeWhile (· != '#'), (s.dropWhile (· != '#')).drop 1)

/-- Whether a reference starts with a scheme. -/
def hasScheme (s : List Char) : Bool :=
  match Text.cutAt? ':' s with
  | some (head, _) => !head.isEmpty && !head.contains '/' && !head.contains '?'
  | none => false

/-- The scheme and host of an address, and its path. -/
def origin (s : List Char) : List Char × List Char :=
  match Text.cutAt? ':' s with
  | some (scheme, '/' :: '/' :: rest) =>
    (scheme ++ "://".toList ++ rest.takeWhile (· != '/'), rest.dropWhile (· != '/'))
  | some (scheme, rest) => (scheme ++ [':'], rest)
  | none => ([], s)

/-- Drops steps to the same place and, with the step before them, steps back. -/
def resolveSteps (done : List (List Char)) : List (List Char) → List (List Char)
  | [] => done.reverse
  | [['.']] => ([] :: done).reverse
  | [['.', '.']] => ([] :: done.drop 1).reverse
  | ['.'] :: rest => resolveSteps done rest
  | ['.', '.'] :: rest => resolveSteps (done.drop 1) rest
  | step :: rest => resolveSteps (step :: done) rest

def joinSteps : List (List Char) → List Char
  | [] => []
  | [step] => step
  | step :: rest => step ++ '/' :: joinSteps rest

/-- A reference without its fragment, as seen from an address without one. -/
def resolve (base reference : List Char) : List Char :=
  let (host, path) := origin base
  match reference with
  | [] => base
  | '/' :: '/' :: _ =>
    match Text.cutAt? ':' base with
    | some (scheme, _) => scheme ++ ':' :: reference
    | none => reference
  | '/' :: _ => host ++ joinSteps (resolveSteps [] (Text.splitAt (· == '/') reference))
  | _ =>
    if hasScheme reference then reference
    else
      let steps := (Text.splitAt (· == '/') path).dropLast ++ Text.splitAt (· == '/') reference
      host ++ joinSteps (resolveSteps [] steps)

/-- Replaces percent signs and the two digits after them by the bytes they stand for. -/
def percentBytes : List Char → List UInt8
  | '%' :: a :: b :: s =>
    match Text.hexDigit? a, Text.hexDigit? b with
    | some x, some y => UInt8.ofNat (x * 16 + y) :: percentBytes s
    | _, _ => 37 :: percentBytes (a :: b :: s)
  | c :: s => Text.Utf8.encode (String.ofList [c]) ++ percentBytes s
  | [] => []

def decoded (s : List Char) : List Char := (Text.Utf8.decode? (percentBytes s)).getD s

end Address

/-! ## Pointers -/

/-- The key that a step of a pointer writes. -/
def unescapeStep : List Char → List Char
  | '~' :: '1' :: s => '/' :: unescapeStep s
  | '~' :: '0' :: s => '~' :: unescapeStep s
  | c :: s => c :: unescapeStep s
  | [] => []

def stepInto? (v : Value) (step : List Char) : Option Value :=
  match v with
  | .object fields => Fields.get? (String.ofList (unescapeStep step)) fields
  | .array items => (Text.natural? step).bind fun i => items[i]?
  | _ => none

/-- The value that a pointer leads to. -/
def atPointer? (v : Value) (pointer : List Char) : Option Value :=
  match Text.splitAt (· == '/') pointer with
  | [] :: steps => steps.foldlM stepInto? v
  | _ => none

/-! ## Libraries -/

/-- A schema with its draft and the addresses of the schemas in it. -/
structure Library where
  draft : Draft
  root : Value
  /-- The address of the document. -/
  base : List Char
  schemas : List (List Char × Value)

/-- The address of a document that gives itself none. -/
def defaultAddress : List Char := "json-schema:///".toList

/-- The address that a schema gives itself, as seen from the one around it. -/
def ownAddress (draft : Draft) (base : List Char) (fields : Fields) : List Char :=
  let isReference := draft.isolatesReferences && Fields.has "$ref" fields
  match Fields.get? draft.idKey fields with
  | some (.string id) =>
    let (address, _) := Address.split id.toList
    if isReference || address.isEmpty then base else Address.resolve base address
  | _ => base

/-- The names that a schema gives its place. -/
def anchors (draft : Draft) (fields : Fields) : List (List Char) :=
  let named (key : String) := ((Fields.get? key fields).bind Value.string?).toList.map String.toList
  if draft.since .draft2019 then named "$anchor" ++ named "$dynamicAnchor"
  else (named draft.idKey).filterMap fun id =>
    match id with
    | '#' :: name => some name
    | _ => none

mutual

/-- The addresses of a value and the schemas in it. -/
def addresses (draft : Draft) (base : List Char) (v : Value) : List (List Char × Value) :=
  match v with
  | .object fields =>
    let own := ownAddress draft base fields
    let self : List (List Char × Value) := if own == base then [] else [(own, .object fields)]
    self ++ (anchors draft fields).map (fun name => (own ++ '#' :: name, .object fields)) ++
      memberAddresses draft own fields
  | .array items => itemAddresses draft base items
  | _ => []
termination_by structural v

def memberAddresses (draft : Draft) (base : List Char) :
    List (String × Value) → List (List Char × Value)
  | [] => []
  | (key, v) :: rest =>
    (if key == "enum" || key == "const" then [] else addresses draft base v) ++
      memberAddresses draft base rest
termination_by structural fields => fields

def itemAddresses (draft : Draft) (base : List Char) : List Value → List (List Char × Value)
  | [] => []
  | v :: rest => addresses draft base v ++ itemAddresses draft base rest
termination_by structural items => items

end

namespace Library

def ofSchema (draft : Draft) (root : Value) : Library :=
  let base := match root with
    | .object fields => ownAddress draft defaultAddress fields
    | _ => defaultAddress
  ⟨draft, root, base, (base, root) :: addresses draft base root⟩

/-- The schema that a reference leads to, and the address it is seen from. -/
def find? (l : Library) (base : List Char) (reference : String) : Option (List Char × Value) := do
  let (address, fragment) := Address.split reference.toList
  let target := Address.resolve base address
  let fragment := Address.decoded fragment
  match fragment with
  | [] => some (target, ← l.schemas.lookup target)
  | '/' :: _ => some (target, ← atPointer? (← l.schemas.lookup target) fragment)
  | name => some (target, ← l.schemas.lookup (target ++ '#' :: name))

end Library

end Recast.Validation
