import Recast.Json.Location
import Recast.Proofs.Json.Keys

/-!
# Laws of locations

A location in two parts leads where its back leads from what stands at its front. Nothing stands in
null or in an empty object.
-/

namespace Recast.Json.Value

variable {v w : Value} {s : Step} {loc front back : Location}

theorem child?_key (name : String) (v : Value) : v.child? (.key name) = v.field? name := by
  cases v <;> rfl

@[simp] theorem at?_nil (v : Value) : v.at? [] = some v := rfl

theorem at?_cons (s : Step) (loc : Location) (v : Value) :
    v.at? (s :: loc) = (v.child? s).bind (at? loc) := rfl

theorem at?_cons_eq_some :
    v.at? (s :: loc) = some w ↔ ∃ child, v.child? s = some child ∧ child.at? loc = some w := by
  rw [at?_cons, Option.bind_eq_some_iff]

theorem at?_append (front back : Location) (v : Value) :
    v.at? (front ++ back) = (v.at? front).bind (at? back) := by
  induction front generalizing v with
  | nil => rfl
  | cons s front ih =>
      rw [List.cons_append, at?_cons, at?_cons]
      cases v.child? s with
      | none => rfl
      | some w => exact ih w

theorem at?_append_eq_some :
    v.at? (front ++ back) = some w ↔
      ∃ child, v.at? front = some child ∧ child.at? back = some w := by
  rw [at?_append, Option.bind_eq_some_iff]

theorem at?_null (h : loc ≠ []) : Value.null.at? loc = none := by
  cases loc with
  | nil => contradiction
  | cons s loc => cases s <;> rfl

theorem at?_emptyObject (h : loc ≠ []) : (Value.object []).at? loc = none := by
  cases loc with
  | nil => contradiction
  | cons s loc => cases s <;> rfl

/-- What is in a value with distinct keys has distinct keys. -/
theorem hasDistinctKeys_child? (h : v.hasDistinctKeys = true) (hw : v.child? s = some w) :
    w.hasDistinctKeys = true := by
  cases s with
  | key name =>
      cases v with
      | object fields => exact hasDistinctKeys_of_get? (hasDistinctKeys_object.mp h).2 hw
      | _ => cases hw
  | index i =>
      cases v with
      | array items => exact hasDistinctKeys_array.mp h w (List.mem_of_getElem? hw)
      | _ => cases hw

theorem hasDistinctKeys_at? (h : v.hasDistinctKeys = true) (hw : v.at? loc = some w) :
    w.hasDistinctKeys = true := by
  induction loc generalizing v with
  | nil =>
      cases hw
      exact h
  | cons s loc ih =>
      obtain ⟨u, hu, hw⟩ := at?_cons_eq_some.mp hw
      exact ih (hasDistinctKeys_child? h hu) hw

end Recast.Json.Value
