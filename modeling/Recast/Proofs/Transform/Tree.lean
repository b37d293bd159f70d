import Recast.Proofs.Json.Location
import Recast.Transform.Tree

/-!
# Places of output trees

`reach` tells what stands at the end of some steps, null where nothing was written yet, and `put`
writes there; both fail where a step is blocked. Writing and taking are `put` and `reach`.
-/

namespace Recast

open Json (Fields Location Step Value)

namespace Tree

variable {v w : Value} {segment : Step} {segments rest : Location} {tree tree' : Value}

/-! ## One step -/

/-- What stands one step further: null where nothing was written yet, and nothing where the step is
blocked. -/
def descend (segment : Step) (tree : Value) : Option Value :=
  match segment, opened segment tree with
  | .key name, .object fields => some ((Fields.get? name fields).getD .null)
  | .index i, .array items => some (items[i]?.getD .null)
  | _, _ => none

/-- The tree with another value one step further. -/
def ascend (segment : Step) (child tree : Value) : Value :=
  match segment, opened segment tree with
  | .key name, .object fields => .object (Fields.put name child fields)
  | .index i, .array items => .array ((padded i items).set i child)
  | _, tree => tree

/-- The containers that a step leads into. -/
theorem descend_eq_some (h : descend segment tree = some v) :
    (∃ name fields, segment = .key name ∧ opened segment tree = .object fields ∧
        v = (Fields.get? name fields).getD .null) ∨
      ∃ i items, segment = .index i ∧ opened segment tree = .array items ∧
        v = items[i]?.getD .null := by
  unfold descend at h
  split at h
  · rename_i name fields ho
    cases h
    exact Or.inl ⟨name, fields, rfl, ho, rfl⟩
  · rename_i i items ho
    cases h
    exact Or.inr ⟨i, items, rfl, ho, rfl⟩
  · cases h

theorem length_padded (i : Nat) (items : List Value) : i < (padded i items).length := by
  unfold padded
  split
  · assumption
  · simp
    omega

theorem getElem?_padded (i : Nat) (items : List Value) :
    (padded i items)[i]?.getD .null = items[i]?.getD .null := by
  unfold padded
  split
  · rfl
  · rename_i h
    have hn : items[i]? = none := List.getElem?_eq_none (by omega)
    rw [List.getElem?_append_right (by simp; omega), hn]
    simp [show i - (items.length + (i - items.length)) = 0 by omega]

theorem padded_of_lt {i : Nat} {items : List Value} (h : i < items.length) :
    padded i items = items := by
  rw [padded, if_pos h]

theorem descend_ascend (h : descend segment tree = some v) (w : Value) :
    descend segment (ascend segment w tree) = some w := by
  rcases descend_eq_some h with ⟨name, fields, rfl, ho, _⟩ | ⟨i, items, rfl, ho, _⟩
  · simp only [ascend, ho]
    simp [descend, opened]
  · have hlt := length_padded i items
    simp only [ascend, ho]
    simp [descend, opened, List.getElem?_set_self hlt]

theorem ascend_ascend (h : descend segment tree = some v) (w u : Value) :
    ascend segment u (ascend segment w tree) = ascend segment u tree := by
  rcases descend_eq_some h with ⟨name, fields, rfl, ho, _⟩ | ⟨i, items, rfl, ho, _⟩
  · simp only [ascend, ho]
    simp [opened]
  · have hlt : i < ((padded i items).set i w).length := by simpa using length_padded i items
    simp only [ascend, ho]
    simp [opened, padded_of_lt hlt]

theorem descend_null (segment : Step) : descend segment .null = some .null := by
  cases segment <;> rfl

/-! ## Many steps -/

/-- What stands at the end of some steps. -/
def reach : Location → Value → Option Value
  | [], tree => some tree
  | segment :: rest, tree => (descend segment tree).bind (reach rest)

/-- The tree with a value at the end of some steps, if no step is blocked. -/
def put (v : Value) : Location → Value → Option Value
  | [], _ => some v
  | segment :: rest, tree =>
    (descend segment tree).bind fun child => (put v rest child).map fun w => ascend segment w tree

theorem put_isSome (v : Value) (segments : Location) (tree : Value) :
    (put v segments tree).isSome = (reach segments tree).isSome := by
  induction segments generalizing tree with
  | nil => rfl
  | cons segment rest ih =>
      cases hd : descend segment tree with
      | none => simp [put, reach, hd]
      | some child => simp [put, reach, hd, ih]

theorem reach_append (segments rest : Location) (tree : Value) :
    reach (segments ++ rest) tree = (reach segments tree).bind (reach rest) := by
  induction segments generalizing tree with
  | nil => rfl
  | cons segment segments ih =>
      cases hd : descend segment tree with
      | none => simp [reach, hd]
      | some child => simp [reach, hd, ih]

/-- A value far down is put into the value on its way, and that one into the tree. -/
theorem put_append (v : Value) (segments rest : Location) (tree : Value) :
    put v (segments ++ rest) tree =
      ((reach segments tree).bind (put v rest)).bind fun w => put w segments tree := by
  induction segments generalizing tree with
  | nil =>
      simp only [List.nil_append, reach, Option.bind_some]
      cases put v rest tree <;> rfl
  | cons segment segments ih =>
      cases hd : descend segment tree with
      | none => simp [put, reach, hd]
      | some child =>
          simp only [List.cons_append, put, reach, hd, Option.bind_some, ih]
          cases (reach segments child).bind (put v rest) <;> rfl

theorem reach_put (h : put v segments tree = some tree') : reach segments tree' = some v := by
  induction segments generalizing tree tree' with
  | nil => exact h.symm
  | cons segment rest ih =>
      simp only [put, Option.bind_eq_some_iff, Option.map_eq_some_iff] at h
      obtain ⟨child, hd, w, hw, rfl⟩ := h
      simp only [reach, descend_ascend hd, Option.bind_some]
      exact ih hw

theorem put_put (h : put v segments tree = some tree') (w : Value) :
    put w segments tree' = put w segments tree := by
  induction segments generalizing tree tree' with
  | nil => rfl
  | cons segment rest ih =>
      simp only [put, Option.bind_eq_some_iff, Option.map_eq_some_iff] at h
      obtain ⟨child, hd, u, hu, rfl⟩ := h
      simp only [put, descend_ascend hd, hd, Option.bind_some, ih hu, ascend_ascend hd]

theorem reach_null (segments : Location) : reach segments .null = some .null := by
  induction segments with
  | nil => rfl
  | cons segment rest ih => simp [reach, descend_null, ih]

/-! ## Writing and taking -/

theorem place_cons (v : Value) (depth : Nat) (segment : Step) (rest : Location)
    (tree : Value) :
    place v depth (segment :: rest) tree =
      match descend segment tree with
      | some child =>
        (ascend segment (place v (depth + 1) rest child).1 tree, (place v (depth + 1) rest child).2)
      | none => (opened segment tree, some (.blocked segment depth)) := by
  cases segment with
  | key name => cases ho : opened (.key name) tree <;> simp [place, descend, ascend, ho]
  | index i =>
      cases ho : opened (.index i) tree <;> simp [place, descend, ascend, ho, getElem?_padded]

/-- Writing puts the value in its place. -/
theorem place_eq (depth : Nat) (h : put v segments tree = some tree') :
    place v depth segments tree = (tree', none) := by
  induction segments generalizing depth tree tree' with
  | nil =>
      cases h
      rfl
  | cons segment rest ih =>
      simp only [put, Option.bind_eq_some_iff, Option.map_eq_some_iff] at h
      obtain ⟨child, hd, w, hw, rfl⟩ := h
      rw [place_cons, hd]
      simp only [ih _ hw]

/-- Writing tells which step is blocked. -/
theorem place_blocked (depth : Nat) (h : put v segments tree = none) :
    ∃ segment at_, (place v depth segments tree).2 = some (.blocked segment at_) := by
  induction segments generalizing depth tree with
  | nil => cases h
  | cons segment rest ih =>
      rw [place_cons]
      cases hd : descend segment tree with
      | none => exact ⟨segment, depth, rfl⟩
      | some child =>
          simp only [put, hd, Option.bind_some, Option.map_eq_none_iff] at h
          exact ih (depth + 1) h

theorem descend_of_child? (h : tree.child? segment = some v) : descend segment tree = some v := by
  unfold Value.child? at h
  split at h
  · simp [descend, opened, h]
  · simp [descend, opened, h]
  · cases h

theorem descend_of_child?_none (h : tree.child? segment = none)
    (hd : descend segment tree = some v) : v = .null := by
  rcases descend_eq_some hd with ⟨name, fields, rfl, ho, rfl⟩ | ⟨i, items, rfl, ho, rfl⟩
  · cases tree <;> simp_all [opened, Value.child?, Fields.get?]
  · cases tree <;> simp_all [opened, Value.child?]

/-- What is taken from a tree stands there and is not null. -/
theorem valueAt?_eq (segments : Location) (tree : Value) :
    valueAt? segments tree = (reach segments tree).bind Value.present := by
  induction segments generalizing tree with
  | nil => rfl
  | cons segment rest ih =>
      cases hc : tree.child? segment with
      | some child =>
          rw [reach, descend_of_child? hc, Option.bind_some, ← ih]
          simp [valueAt?, Value.at?_cons, hc]
      | none =>
          have ha : valueAt? (segment :: rest) tree = none := by
            simp [valueAt?, Value.at?_cons, hc]
          rw [ha, reach]
          cases hd : descend segment tree with
          | none => rfl
          | some child =>
              rw [descend_of_child?_none hc hd, Option.bind_some, reach_null]
              rfl

end Tree

end Recast
