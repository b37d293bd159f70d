import Recast.Number.Reader

/-!
# TOML values

A table remembers how it came about, which decides what may still be put into it.
-/

namespace Recast.Toml

/-- How a table came about. -/
inductive Form where
  /-- Written out at once, between braces. -/
  | closed
  /-- Opened by a header of its own. -/
  | header
  /-- Opened by the header of a table in it. -/
  | implied
  /-- Opened by a dotted key. -/
  | dotted
deriving DecidableEq, Repr

inductive Value where
  | string (s : String)
  | integer (i : Int)
  | float (d : Double)
  | infinity (negative : Bool)
  | notANumber
  | boolean (b : Bool)
  /-- A date, a time or both, as it is written. -/
  | moment (text : String)
  | array (items : List Value)
  | table (form : Form) (fields : List (String × Value))
  /-- Tables that were opened one by one with the same header. -/
  | tables (elements : List (List (String × Value)))
deriving Inhabited

abbrev Fields := List (String × Value)

namespace Fields

/-- Gives a key a value, in its old place if it has one, else at the end. -/
def put (key : String) (v : Value) : Fields → Fields
  | [] => [(key, v)]
  | (k, w) :: rest => if k == key then (k, v) :: rest else (k, w) :: put key v rest

/-- Changes the table at the end of a path. Tables that are missing on the way are opened, by a
dotted key or by a header; a dotted key passes only through tables that were not opened by a header
of their own. Of tables in a row the last one counts. -/
def alter? (dotted : Bool) (change : Form → Fields → Option Fields) :
    Form → List String → Fields → Option Fields
  | form, [], fields => change form fields
  | _, key :: path, fields =>
    match fields.lookup key with
    | none =>
      let form := if dotted then Form.dotted else .implied
      (alter? dotted change form path []).map fun inner => put key (.table form inner) fields
    | some (.table form inner) =>
      if form == .closed || (dotted && form == .header) then none
      else (alter? dotted change form path inner).map fun inner => put key (.table form inner) fields
    | some (.tables elements) =>
      match elements.reverse with
      | [] => none
      | last :: before => (alter? dotted change .header path last).map fun last =>
        put key (.tables (last :: before).reverse) fields
    | some _ => none

/-- Gives a key a value in the table at a path of dotted keys. The key must be new, and the table on
the path must have been opened by dotted keys. -/
def insert? (path : List String) (key : String) (v : Value) (fields : Fields) : Option Fields :=
  alter? true (fun form inner =>
    if (form == .dotted) == path.isEmpty || (inner.lookup key).isSome then none
    else some (inner ++ [(key, v)])) .header path fields

end Fields

/-- A key with a value: the keys before its last dot, its last key, and the value. -/
structure Entry where
  path : List String
  key : String
  value : Value

/-- Puts entries in one by one. -/
def Fields.insertAll? (entries : List Entry) (fields : Fields) : Option Fields :=
  entries.foldlM (fun (fields : Fields) e => fields.insert? e.path e.key e.value) fields

/-- Where the entries of a section belong. -/
inductive Header where
  | top
  | table (path : List String) (key : String)
  /-- A further table in a row. -/
  | element (path : List String) (key : String)

/-- A header and the entries after it. -/
structure Section where
  header : Header
  entries : List Entry

/-- Adds a section to the tables of a document. -/
def Section.addTo? (s : Section) (root : Fields) : Option Fields :=
  match s.header with
  | .top => root.insertAll? s.entries
  | .table path key => root.alter? false (fun _ fields => do
      let inner ← match fields.lookup key with
        | none => some []
        | some (.table .implied inner) => some inner
        | some _ => none
      some (fields.put key (.table .header (← Fields.insertAll? s.entries inner)))) .header path
  | .element path key => root.alter? false (fun _ fields => do
      let before ← match fields.lookup key with
        | none => some []
        | some (.tables elements) => some elements
        | some _ => none
      let element ← Fields.insertAll? s.entries []
      some (fields.put key (.tables (before ++ [element])))) .header path

end Recast.Toml
