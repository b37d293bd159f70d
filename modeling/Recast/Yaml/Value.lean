import Recast.Json.Value
import Recast.Yaml.Node
import Recast.Yaml.Plain

/-!
# Values of YAML documents

A document says a value: aliases stand for what they name, and plain scalars say what they look
like. Keys of a mapping differ. As JSON, keys become text and local tags become objects with one
member.
-/

namespace Recast.Yaml

inductive Value where
  | null
  | bool (b : Bool)
  | integer (i : Int)
  | double (d : Double)
  | infinity (negative : Bool)
  | notANumber
  | string (s : String)
  | sequence (items : List Value)
  | mapping (entries : List (Value × Value))
  /-- A value with a local tag, without its mark. -/
  | tagged (tag : String) (value : Value)
deriving Inhabited

namespace Value

/-! ## Equality -/

mutual

/-- Whether two values are equal; mappings are in any order. -/
def equal : Value → Value → Bool
  | null, null => true
  | bool a, bool b => a == b
  | integer a, integer b => a == b
  | double a, double b => a.eq b
  | infinity a, infinity b => a == b
  | notANumber, notANumber => true
  | string a, string b => a == b
  | sequence a, sequence b => equalItems a b
  | mapping a, mapping b => a.length == b.length && equalEntries a b
  | tagged s a, tagged t b => s == t && equal a b
  | _, _ => false
termination_by structural v => v

def equalItems : List Value → List Value → Bool
  | [], [] => true
  | v :: vs, w :: ws => equal v w && equalItems vs ws
  | _, _ => false
termination_by structural vs => vs

def equalEntries : List (Value × Value) → List (Value × Value) → Bool
  | [], _ => true
  | (k, v) :: es, others =>
    others.any (fun (l, w) => equal k l && equal v w) && equalEntries es others
termination_by structural es => es

end

/-! ## Values of nodes -/

def ofPlain : Plain → String → Value
  | .null, _ => null
  | .bool b, _ => bool b
  | .integer i, _ => integer i
  | .double d, _ => double d
  | .infinity negative, _ => infinity negative
  | .notANumber, _ => notANumber
  | .text, s => string s

def ofPlain? (text : String) : Option Value := (Plain.read? text).map fun p => ofPlain p text

/-- The name of a local tag, without at most two marks in front of it. -/
def localTag? (tag : Option String) : Option String :=
  match tag.map String.toList with
  | some ['!'] => some "!"
  | some ('!' :: '!' :: c :: name) => some (String.ofList (c :: name))
  | some ('!' :: name) => some (String.ofList name)
  | _ => none

/-- A scalar with a tag of its own schema, or without one. -/
def ofScalar? (tag : Option String) (style : Style) (text : String) : Option Value :=
  let standard (name : String) : Bool := tag == some ("tag:yaml.org,2002:" ++ name)
  if standard "bool" then (Plain.bool? text).map bool
  else if standard "int" then
    match Plain.integer? text.toList with
    | some _ => match ofPlain? text with
      | some (integer i) => some (integer i)
      | _ => none
    | none => none
  else if standard "float" then
    match Plain.fraction? text.toList with
    | some p => some (ofPlain p text)
    | none => none
  else if standard "null" then if Plain.isNull text then some null else none
  else if tag.isSome || style != .plain then some (string text)
  else ofPlain? text

/-- A document that is being read: its tree, and how many more aliases may be followed. -/
structure Walk where
  root : Node
  left : Nat

/-- A node without its anchor; an alias is followed. -/
def follow? (w : Walk) : Node → Option (Node × Walk)
  | .reference id =>
    match w.left with
    | 0 => none
    | left + 1 => (w.root.find? id).map fun node => (node, { w with left })
  | .anchored _ node => some (node, w)
  | node => some (node, w)

/-- The values of nodes one after the other. -/
def listWith? (read : Node → Walk → Option (Value × Walk)) :
    List Node → Walk → Option (List Value × Walk)
  | [], w => some ([], w)
  | n :: ns, w => do
    let (v, w) ← read n w
    let (vs, w) ← listWith? read ns w
    some (v :: vs, w)

/-- The entries of a mapping after those in `done`, reversed. No key comes twice. -/
def entriesWith? (read : Node → Walk → Option (Value × Walk)) :
    (done : List (Value × Value)) → List (Node × Node) → Walk →
    Option (List (Value × Value) × Walk)
  | done, [], w => some (done.reverse, w)
  | done, (k, v) :: es, w => do
    let (key, w) ← read k w
    if done.any fun e => equal e.1 key then none
    else
      let (value, w) ← read v w
      entriesWith? read ((key, value) :: done) es w

/-- The value of a node, with at most `depth` levels of collections. -/
def ofNode? : (depth : Nat) → Node → Walk → Option (Value × Walk)
  | depth, node, w => do
    let (node, w) ← follow? w node
    let (tag, body, w) ← match node with
      | .scalar tag style text =>
        match localTag? tag with
        | some name =>
          let style := if style == .plain then Style.plain else .double
          (ofScalar? none style text).map fun v => (some name, v, w)
        | none => (ofScalar? tag style text).map fun v => ((none : Option String), v, w)
      | .sequence tag items =>
        match depth with
        | 0 => none
        | depth + 1 => (listWith? (ofNode? depth) items w).map fun (vs, w) =>
          (localTag? tag, sequence vs, w)
      | .mapping tag entries =>
        match depth with
        | 0 => none
        | depth + 1 => (entriesWith? (ofNode? depth) [] entries w).map fun (es, w) =>
          (localTag? tag, mapping es, w)
      | _ => none
    match tag with
    | some "" => none
    | some name => some (tagged name body, w)
    | none => some (body, w)

/-- The levels of collections that a document may have. -/
def depthLimit : Nat := 128

/-- The value of a document. -/
def ofDocument? (d : Document) : Option Value :=
  match d.root with
  | none => some null
  | some root => (ofNode? depthLimit root ⟨root, root.size * 100⟩).map (·.1)

/-! ## Values as JSON -/

/-- Why a value is no JSON. -/
inductive KeyFault where
  | notText
  | notFinite
deriving DecidableEq, Repr

def KeyFault.message : KeyFault → String
  | notText => "key must be a string"
  | notFinite => "float key must be finite (got NaN or +/-inf)"

/-- A key as text. -/
def keyText : Value → Except KeyFault String
  | string s => .ok s
  | bool b => .ok (if b then "true" else "false")
  | integer i => .ok (toString i)
  | double d => .ok d.text
  | infinity _ | notANumber => .error .notFinite
  | _ => .error .notText

mutual

/-- The value as JSON. -/
def toJson : Value → Except KeyFault Json.Value
  | null | infinity _ | notANumber => .ok .null
  | bool b => .ok (.bool b)
  | integer i => .ok (.number (.integer i))
  | double d => .ok (.number (.double d))
  | string s => .ok (.string s)
  | sequence items => do .ok (.array (← itemsToJson items))
  | mapping entries => do .ok (.object (← entriesToJson [] entries))
  | tagged tag value => do
    .ok (.object [("!" ++ tag, ← toJson value)])
termination_by structural v => v

def itemsToJson : List Value → Except KeyFault (List Json.Value)
  | [] => .ok []
  | v :: vs => do
    let v ← toJson v
    .ok (v :: (← itemsToJson vs))
termination_by structural vs => vs

/-- The members that the entries make, put in after those in `done`. -/
def entriesToJson (done : Json.Fields) : List (Value × Value) → Except KeyFault Json.Fields
  | [] => .ok done
  | (k, v) :: es => do
    let key ← keyText k
    let v ← toJson v
    entriesToJson (Json.Fields.put key v done) es
termination_by structural es => es

end

end Value

end Recast.Yaml
