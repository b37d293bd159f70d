import Recast.Proofs.Path.Locations
import Recast.Proofs.Selection

/-!
# Document order

`descendants` lists what is in a value in document order: a value comes before everything in it, and
what is in an earlier element or member before what is in a later one. Nothing is in itself. The
values in a value are pairwise different if those are that have nothing in them.
-/

namespace Recast.Path

open Json (Fields Value)
open Selection (Listing)

variable {v : Value}

/-! ## The listing -/

theorem itemDescendants_eq (vs : List Value) : itemDescendants vs = vs.flatMap descendants := by
  induction vs with
  | nil => rfl
  | cons v vs ih => rw [itemDescendants, ih, List.flatMap_cons]

theorem fieldDescendants_eq (fields : Fields) :
    fieldDescendants fields = (fields.map (·.2)).flatMap descendants := by
  induction fields with
  | nil => rfl
  | cons field fields ih => rw [fieldDescendants, ih, List.map_cons, List.flatMap_cons]

/-- A value comes before everything in it. -/
theorem descendants_eq (v : Value) : descendants v = v :: (children v).flatMap descendants := by
  cases v with
  | array items => rw [descendants, itemDescendants_eq, children]
  | object fields => rw [descendants, fieldDescendants_eq, children]
  | _ => rfl

theorem descendants_listing : Listing children descendants := ⟨descendants_eq⟩

/-! ## Leaves -/

/-- The values in a value that have nothing in them. -/
def leaves (v : Value) : List Value := (descendants v).filter fun w => (children w).isEmpty

theorem leaves_of_isEmpty (h : (children v).isEmpty = true) : leaves v = [v] :=
  descendants_listing.leaves_of_isEmpty h

theorem leaves_of_not_isEmpty (h : (children v).isEmpty = false) :
    leaves v = (children v).flatMap leaves :=
  descendants_listing.leaves_of_not_isEmpty h

/-- Values are pairwise different if those are that have nothing in them. -/
theorem nodup_descendants (h : (leaves v).Nodup) : (descendants v).Nodup :=
  descendants_listing.nodup h

end Recast.Path
