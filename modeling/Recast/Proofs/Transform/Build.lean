import Recast.Proofs.Schema.Instance
import Recast.Transform.Run

/-!
# Building documents in slots

`build` evaluates an instance along the schema: it fills a slot, and no path of the output is read
or written. Every element of a list is built in an empty slot of its own.
-/

namespace Recast.Transform

open Input (Finding)
open Json (Value Fields)
open Schema (Instance)

/-! ## Slots -/

/-- A slot of the output: it holds a value, null while it is empty, or it is closed because it lies
below a value that is no object. -/
inductive Slot where
  | holds (v : Value)
  | closed
deriving DecidableEq

namespace Slot

def empty : Slot := holds .null

/-- Gives the slot a value, if there is one; a closed slot takes none. -/
def fill (v : Option Value) (s : Slot) : Except Error.Kind Slot :=
  match v, s with
  | none, s => .ok s
  | some v, holds _ => .ok (holds v)
  | some _, closed => .error .tree

/-- The slot of a member. -/
def member (name : String) : Slot → Slot
  | holds .null => empty
  | holds (.object fields) => holds ((Fields.get? name fields).getD .null)
  | _ => closed

/-- The slot with what the slot of a member holds; an empty slot becomes an object. -/
def withMember (name : String) (s member : Slot) : Slot :=
  match member, s with
  | holds .null, s => s
  | holds v, holds .null => holds (.object [(name, v)])
  | holds v, holds (.object fields) => holds (.object (Fields.put name v fields))
  | _, s => s

/-- What the slot holds, unless it is empty. -/
def value? : Slot → Option Value
  | holds v => v.present
  | closed => none

/-- The document that the slot holds. -/
def document : Slot → Value
  | holds v => Tree.document v
  | closed => Tree.document Tree.empty

end Slot

/-! ## Building -/

/-- The resolved value of an instance, if it has one; errors are told by their kind. -/
def resolved (p : Place) (i : Instance) : Except Error.Kind (Option Finding) :=
  (resolve p i).mapError Error.kind

/-- A finding as a value of the output, unless that is null. -/
def valueOf (found : Option Finding) : Option Value := (found.map Finding.toJson).bind Value.present

mutual

/-- Builds an instance in a slot. A scalar fills it with its value. An object fills it with its own
value and then builds its properties in their slots. A list that resolves fills it with the results
of its elements that are not null, each built in an empty slot inside the element. -/
def build (i : Instance) (p : Place) (s : Slot) : Except Error.Kind Slot :=
  match i with
  | .scalar declared kind => do s.fill (valueOf (← resolved p (.scalar declared kind)))
  | .object declared properties => do
    buildEach properties p (← s.fill (valueOf (← resolved p (.object declared properties))))
  | .array declared items => do
    match ← resolved p (.array declared items) with
    | none => .ok s
    | some base =>
      let element (index : Nat) (seed : Finding) : Except Error.Kind (Option Value) := do
        let path := Path.elementPath (p.concrete declared.path) index
        .ok (← build items (p.enter items.path path seed) Slot.empty).value?
      s.fill (some (.array (← collect element 0 base.seeds)))
termination_by structural i

/-- Builds properties in their slots, one after the other. -/
def buildEach (is : List Instance) (p : Place) (s : Slot) : Except Error.Kind Slot :=
  match is with
  | [] => .ok s
  | i :: rest => do buildEach rest p (s.withMember i.key (← build i p (s.member i.key)))
termination_by structural is

end

end Recast.Transform
