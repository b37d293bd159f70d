import Recast.Input.Context
import Recast.Proofs.Path.Trail
import Recast.Proofs.Selection

/-!
# What paths find

Steps find what the later ones find in each value that the first ones find. The steps to properties
find one value at most, that of the last property in what the others find.
-/

namespace Recast.Path

open Input (Context Finding)
open Json (Value)

variable {v w : Value} {names : List String}

theorem stepwise : Selection.Stepwise Selector.select selectAll := ⟨fun _ _ => rfl⟩

/-! ## Everything below a value -/

theorem mem_itemDescendants {vs : List Value} :
    w ∈ itemDescendants vs ↔ ∃ v ∈ vs, w ∈ descendants v := by
  induction vs with
  | nil => simp [itemDescendants]
  | cons v vs ih => simp [itemDescendants, ih]

theorem mem_fieldDescendants {fields : List (String × Value)} :
    w ∈ fieldDescendants fields ↔ ∃ field ∈ fields, w ∈ descendants field.2 := by
  induction fields with
  | nil => simp [fieldDescendants]
  | cons field fields ih => simp [fieldDescendants, ih]

/-! ## Properties -/

/-- The value that a chain of properties leads to. -/
def follow (names : List String) (v : Value) : Option Value :=
  names.foldlM (fun v name => v.field? name) v

theorem follow_append (names : List String) (name : String) (v : Value) :
    follow (names ++ [name]) v = (follow names v).bind fun v => v.field? name := by
  simp [follow, List.foldlM_append]

theorem selectAll_members (names : List String) (v : Value) :
    selectAll (members names) v = (follow names v).toList := by
  induction names generalizing v with
  | nil => rfl
  | cons name names ih =>
      have hcons : selectAll (members (name :: names)) v =
          (v.field? name).toList.flatMap (selectAll (members names)) := stepwise.cons _ _ v
      rw [hcons]
      cases hf : v.field? name with
      | none => simp [follow, hf]
      | some w => simp [follow, hf, ih w]

theorem first?_members (names : List String) (v : Value) :
    first? ⟨.document, members names⟩ v = follow names v := by
  rw [first?, select, selectAll_members]
  cases follow names v <;> rfl

theorem isDefinite_members (names : List String) :
    isDefinite ⟨.document, members names⟩ = true := by
  simp [isDefinite, members, Selector.isDefinite]

/-- The steps to properties find the value that they lead to, unless it is null. -/
theorem inValue_members (names : List String) (v : Value) :
    Context.inValue ⟨.document, members names⟩ v = (follow names v).bind Finding.ofJson? := by
  rw [Context.inValue, isDefinite_members, if_pos rfl, first?_members]

end Recast.Path
