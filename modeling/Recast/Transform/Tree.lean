import Recast.Json.Location
import Recast.Path.Reader

/-!
# Output trees

A tree is built by writing values at concrete paths, which make the objects and lists on their way.
`write` gives the tree as it is afterwards also when it fails.
-/

namespace Recast

open Json (Fields Location Step Value)

/-- Why a path cannot be written to. -/
inductive Tree.Problem where
  | notConcrete
  /-- A step leads into a value that is neither empty nor of its kind. -/
  | blocked (segment : Step) (depth : Nat)
deriving DecidableEq, Repr

inductive Tree.Fault where
  | badPath (fault : Path.Fault)
  | badPlace (path : String) (problem : Tree.Problem)
deriving DecidableEq, Repr

namespace Tree

/-- A step as messages name it. -/
def describe : Step → String
  | .key name => "key '" ++ name ++ "'"
  | .index i => "index " ++ toString i

def Problem.message : Problem → String
  | notConcrete => "output paths must be concrete"
  | blocked segment depth =>
    "cannot address " ++ describe segment ++ " through a non-container value at depth " ++
      toString depth

/-! ## Paths -/

/-- The step that a selector stands for, if it leads to one place. -/
def stepOf? : Path.Selector → Option Step
  | .child name => some (.key name)
  | .index i => some (.index i)
  | _ => none

/-- The steps of a concrete path. -/
def segments (path : String) : Except Fault Location :=
  match Path.parse path with
  | .error fault => .error (.badPath fault)
  | .ok p =>
    match p.selectors.mapM stepOf? with
    | some segments => .ok segments
    | none => .error (.badPlace path .notConcrete)

/-! ## Writing -/

/-- An empty place becomes the container that a step needs. -/
def opened (segment : Step) (tree : Value) : Value :=
  match tree, segment with
  | .null, .key _ => .object []
  | .null, .index _ => .array []
  | v, _ => v

/-- A list that has a place at `i`: empty objects fill it up to there, and the place is null. -/
def padded (i : Nat) (items : List Value) : List Value :=
  if i < items.length then items
  else items ++ List.replicate (i - items.length) (.object []) ++ [.null]

/-- The tree with a value at the end of some steps; a step that is blocked leaves the rest of its
path unwritten. -/
def place (value : Value) : (depth : Nat) → Location → (tree : Value) → Value × Option Problem
  | _, [], _ => (value, none)
  | depth, segment :: rest, tree =>
    match segment, opened segment tree with
    | .key name, .object fields =>
      let (child, problem) := place value (depth + 1) rest ((Fields.get? name fields).getD .null)
      (.object (Fields.put name child fields), problem)
    | .index i, .array items =>
      let items := padded i items
      let (child, problem) := place value (depth + 1) rest (items[i]?.getD .null)
      (.array (items.set i child), problem)
    | segment, tree => (tree, some (.blocked segment depth))

/-- Writes a value at a path; without a value nothing happens, and the path is not read. -/
def write (path : String) (value : Option Value) (tree : Value) : Value × Except Fault Unit :=
  match value with
  | none => (tree, .ok ())
  | some value =>
    match segments path with
    | .error fault => (tree, .error fault)
    | .ok segments =>
      match place value 0 segments tree with
      | (tree, none) => (tree, .ok ())
      | (tree, some problem) => (tree, .error (.badPlace path problem))

/-! ## Reading -/

/-- The value at the end of some steps, unless it is null. -/
def valueAt? (segments : Location) (tree : Value) : Option Value :=
  (tree.at? segments).bind Value.present

def get (path : String) (tree : Value) : Except Fault (Option Value) := do
  .ok (valueAt? (← segments path) tree)

/-- The tree with null at the end of some steps, if they lead anywhere. -/
def vacate : Location → (tree : Value) → Value
  | [], _ => .null
  | .key name :: rest, .object fields =>
    match Fields.get? name fields with
    | some child => .object (Fields.put name (vacate rest child) fields)
    | none => .object fields
  | .index i :: rest, .array items =>
    match items[i]? with
    | some child => .array (items.set i (vacate rest child))
    | none => .array items
  | _, tree => tree

/-- Moves the value at a path out of the tree; its place is null afterwards. -/
def take (path : String) (tree : Value) : Except Fault (Option Value × Value) := do
  let segments ← segments path
  .ok (valueAt? segments tree, vacate segments tree)

/-! ## Documents -/

/-- A tree that nothing was written to. -/
def empty : Value := .null

/-- The finished document: without anything written, an empty object. -/
def document (tree : Value) : Value := if tree.isNull then .object [] else tree

end Tree

end Recast
