import Recast.Transform.Resolve

/-!
# Walking instances

`walk` resolves an instance and everything below it and writes the values into the output tree.
Every element of a list is walked with an output tree of its own.
-/

namespace Recast.Transform

open Input (Finding Context)
open Json (Value)
open Schema (Instance)

def writeAt (path : String) (value : Option Value) (tree : Value) : Except Error Value :=
  match Tree.write path value tree with
  | (tree, .ok ()) => .ok tree
  | (_, .error fault) => .error (.ofTree fault)

/-- Moves the value of an element out of its tree. -/
def takeAt (path : String) (tree : Value) : Except Error (Option Value) :=
  match Tree.take path tree with
  | .ok (value, _) => .ok value
  | .error fault => .error (.ofTree fault)

/-- Writes the value of an instance, if it has one. -/
def writeInstance (p : Place) (i : Instance) (found : Option Finding) (tree : Value) :
    Except Error Value :=
  writeAt (p.concrete i.path) ((found.map Finding.toJson).bind Value.present) tree

/-- The values of elements that have one; `element` gives the value at an index for a seed. -/
def collect (element : Nat → Finding → Except ε (Option Value)) (index : Nat) :
    List Finding → Except ε (List Value)
  | [] => .ok []
  | seed :: rest => do
    let value ← element index seed
    .ok (value.toList ++ (← collect element (Path.nextIndex index) rest))

mutual

/-- Walks an instance. -/
def walk (i : Instance) (p : Place) (tree : Value) : Except Error Value :=
  match i with
  | .scalar declared kind => do
    let i := Instance.scalar declared kind
    writeInstance p i (← resolve p i) tree
  | .object declared properties => do
    let i := Instance.object declared properties
    walkEach properties p (← writeInstance p i (← resolve p i) tree)
  | .array declared items => do
    let path := p.concrete declared.path
    match ← resolve p (.array declared items) with
    | none => .ok tree
    | some base =>
      let element (index : Nat) (seed : Finding) : Except Error (Option Value) := do
        let elementPath := Path.elementPath path index
        takeAt elementPath
          (← walk items (p.enter items.path elementPath seed) Tree.empty)
      writeAt path (some (.array (← collect element 0 base.seeds))) tree
termination_by structural i

/-- Walks instances one after the other. -/
def walkEach (is : List Instance) (p : Place) (tree : Value) : Except Error Value :=
  match is with
  | [] => .ok tree
  | i :: rest => do walkEach rest p (← walk i p tree)
termination_by structural is

end

/-- The document that a document is transformed into, before validation. -/
def run (root : Instance) (ruleSet : String) (document : Input.Document) : Except Error Value := do
  .ok (Tree.document (← walk root (.start ruleSet document) Tree.empty))

end Recast.Transform
