import Recast.Proofs.Transform.Tree

/-!
# What a write changes

A slot is what stands at the end of some steps, null included. A write fills its own slot and leaves
every slot beside its steps alone; only a list that grows gets empty objects in the places before the
new one. A write that fails leaves the tree as it was.
-/

namespace Recast

open Json (Fields Location Step Value)

namespace Tree

variable {v w child : Value} {segment other : Step} {front steps rest place : Location}
  {tree tree' : Value} {path : String}

/-! ## One step -/

theorem child?_opened (segment other : Step) (tree : Value) :
    (opened segment tree).child? other = tree.child? other := by
  cases tree with
  | null => cases segment <;> cases other <;> rfl
  | _ => rfl

theorem opened_eq_self (h : descend segment tree = none) : opened segment tree = tree := by
  cases tree with
  | null =>
      rw [descend_null] at h
      cases h
  | _ => cases segment <;> rfl

theorem getElem?_padded_of_ne {i j : Nat} (h : j ≠ i) (items : List Value) :
    (padded i items)[j]? =
      if items.length ≤ j ∧ j < i then some (.object []) else items[j]? := by
  unfold padded
  by_cases hi : i < items.length
  · rw [if_pos hi, if_neg (by omega)]
  · rw [if_neg hi]
    split
    · rename_i hj
      rw [List.append_assoc, List.getElem?_append_right hj.1,
        List.getElem?_append_left (by simp; omega), List.getElem?_replicate, if_pos (by omega)]
    · rename_i hj
      by_cases hlt : j < items.length
      · rw [List.append_assoc, List.getElem?_append_left hlt]
      · rw [List.getElem?_eq_none (by simp; omega), List.getElem?_eq_none (by omega)]

theorem child?_ascend_self (h : descend segment tree = some v) (w : Value) :
    (ascend segment w tree).child? segment = some w := by
  rcases descend_eq_some h with ⟨name, fields, rfl, ho, _⟩ | ⟨i, items, rfl, ho, _⟩
  · simp only [ascend, ho]
    simp [Value.child?]
  · have hlt := length_padded i items
    simp only [ascend, ho]
    simp [Value.child?, List.getElem?_set_self hlt]

/-- A list that grows gets empty objects in the places before the new one. -/
theorem child?_ascend_padding {i j : Nat} (h : descend (.index i) tree = some v) (hj : j < i)
    (hnew : tree.child? (.index j) = none) (w : Value) :
    (ascend (.index i) w tree).child? (.index j) = some (.object []) := by
  rcases descend_eq_some h with ⟨name, fields, hs, _⟩ | ⟨i, items, hs, ho, _⟩
  · cases hs
  · cases hs
    rw [← child?_opened (.index i), ho] at hnew
    have hlength : items.length ≤ j := List.getElem?_eq_none_iff.mp hnew
    simp only [ascend, ho]
    rw [Value.child?, List.getElem?_set_ne (by omega), getElem?_padded_of_ne (by omega),
      if_pos ⟨hlength, hj⟩]

/-- All other places beside a step stay as they are. -/
theorem child?_ascend_of_ne (h : descend segment tree = some v) (hne : segment ≠ other)
    (hold : ∀ i j, segment = .index i → other = .index j → j < i → tree.child? other ≠ none)
    (w : Value) : (ascend segment w tree).child? other = tree.child? other := by
  rw [← child?_opened segment other tree]
  rcases descend_eq_some h with ⟨name, fields, rfl, ho, _⟩ | ⟨i, items, rfl, ho, _⟩
  · simp only [ascend, ho]
    cases other with
    | key key => exact Fields.get?_put_of_ne fun he => hne (he ▸ rfl)
    | index j => rfl
  · cases other with
    | key key =>
        simp only [ascend, ho]
        rfl
    | index j =>
        have hji : j ≠ i := fun he => hne (he ▸ rfl)
        have hkept : ¬ (items.length ≤ j ∧ j < i) := by
          rintro ⟨hlength, hlt⟩
          apply hold i j rfl rfl hlt
          rw [← child?_opened (.index i), ho]
          exact List.getElem?_eq_none hlength
        simp only [ascend, ho]
        rw [Value.child?, List.getElem?_set_ne (Ne.symm hji), getElem?_padded_of_ne hji,
          if_neg hkept]
        rfl

theorem ascend_child? (h : tree.child? segment = some v) : ascend segment v tree = tree := by
  unfold Value.child? at h
  split at h
  · simp [ascend, opened, Fields.put_eq_self h]
  · rename_i i items
    obtain ⟨hlt, hv⟩ := List.getElem?_eq_some_iff.mp h
    simp [ascend, opened, padded_of_lt hlt, ← hv]
  · cases h

/-! ## Many steps -/

theorem reach_of_at? (h : tree.at? steps = some v) : reach steps tree = some v := by
  induction steps generalizing tree with
  | nil => exact h
  | cons segment rest ih =>
      obtain ⟨child, hc, hrest⟩ := Value.at?_cons_eq_some.mp h
      rw [reach, descend_of_child? hc]
      exact ih hrest

/-- What stands below a place stands below what is reached there. -/
theorem at?_append_of_reach (h : reach front tree = some child) (hrest : rest ≠ []) :
    tree.at? (front ++ rest) = child.at? rest := by
  induction front generalizing tree with
  | nil => rw [List.nil_append, Option.some.inj h]
  | cons segment front ih =>
      obtain ⟨next, hd, hnext⟩ := Option.bind_eq_some_iff.mp h
      rw [List.cons_append, Value.at?_cons]
      cases hc : tree.child? segment with
      | some u =>
          obtain rfl : u = next := Option.some.inj ((descend_of_child? hc).symm.trans hd)
          exact ih hnext
      | none =>
          obtain rfl := descend_of_child?_none hc hd
          obtain rfl : .null = child := Option.some.inj ((reach_null front).symm.trans hnext)
          exact (Value.at?_null hrest).symm

theorem at?_put (h : put v steps tree = some tree') : tree'.at? steps = some v := by
  induction steps generalizing tree tree' with
  | nil => exact h.symm
  | cons segment rest ih =>
      simp only [put, Option.bind_eq_some_iff, Option.map_eq_some_iff] at h
      obtain ⟨child, hd, w, hw, rfl⟩ := h
      rw [Value.at?_cons, child?_ascend_self hd]
      exact ih hw

/-- A write changes a tree at the first step in which its path leaves another one. -/
theorem put_append_eq_some (h : put v (front ++ segment :: rest) tree = some tree') :
    ∃ child next w, reach front tree = some child ∧ descend segment child = some next ∧
      tree'.at? front = some (ascend segment w child) := by
  rw [put_append] at h
  simp only [put, Option.bind_eq_some_iff, Option.map_eq_some_iff] at h
  obtain ⟨_, ⟨child, hreach, next, hd, w, _, rfl⟩, hput⟩ := h
  exact ⟨child, next, w, hreach, hd, at?_put hput⟩

/-- Whether a write along `steps` leaves an empty object at `place`: the steps lead to an element of
a list behind it, and there was nothing at the place before. -/
def Pads (steps place : Location) (tree : Value) : Prop :=
  ∃ front i j rest, steps = front ++ .index i :: rest ∧ place = front ++ [.index j] ∧ j < i ∧
    tree.at? place = none

theorem at?_put_of_pads (h : put v steps tree = some tree') (hp : Pads steps place tree) :
    tree'.at? place = some (.object []) := by
  obtain ⟨front, i, j, rest, rfl, rfl, hj, hnew⟩ := hp
  obtain ⟨child, next, w, hreach, hd, hfront⟩ := put_append_eq_some h
  rw [at?_append_of_reach hreach (List.cons_ne_nil _ _), Value.at?_cons] at hnew
  have hnew : child.child? (.index j) = none := by
    cases hc : child.child? (.index j) with
    | none => rfl
    | some u => simp [hc] at hnew
  rw [Value.at?_append, hfront, Option.bind_some, Value.at?_cons, child?_ascend_padding hd hj hnew]
  rfl

theorem exists_parting (h : ¬ steps <+: place) (h' : ¬ place <+: steps) :
    ∃ front segment other rest below, steps = front ++ segment :: rest ∧
      place = front ++ other :: below ∧ segment ≠ other := by
  induction steps generalizing place with
  | nil => exact absurd List.nil_prefix h
  | cons segment steps ih =>
      cases place with
      | nil => exact absurd List.nil_prefix h'
      | cons other place =>
          by_cases he : segment = other
          · subst he
            rw [List.prefix_cons_inj] at h h'
            obtain ⟨front, s, t, rest, below, rfl, rfl, hne⟩ := ih h h'
            exact ⟨segment :: front, s, t, rest, below, rfl, rfl, hne⟩
          · exact ⟨[], segment, other, steps, place, rfl, rfl, he⟩

theorem at?_put_apart (h : put v steps tree = some tree') (hp : ¬ steps <+: place)
    (hp' : ¬ place <+: steps) (hpads : ¬ Pads steps place tree) :
    tree'.at? place = tree.at? place := by
  obtain ⟨front, segment, other, rest, below, rfl, rfl, hne⟩ := exists_parting hp hp'
  obtain ⟨child, next, w, hreach, hd, hfront⟩ := put_append_eq_some h
  have hslot : tree.at? (front ++ other :: below) = child.at? (other :: below) :=
    at?_append_of_reach hreach (List.cons_ne_nil _ _)
  rw [hslot, Value.at?_append, hfront, Option.bind_some, Value.at?_cons, Value.at?_cons]
  by_cases hfilled :
      ∃ i j, segment = .index i ∧ other = .index j ∧ j < i ∧ child.child? other = none
  · -- An empty object is put here, and it is not the place itself: nothing is in it.
    obtain ⟨i, j, rfl, rfl, hj, hnew⟩ := hfilled
    have hbelow : below ≠ [] := by
      rintro rfl
      refine hpads ⟨front, i, j, rest, rfl, rfl, hj, ?_⟩
      rw [hslot, Value.at?_cons, hnew]
      rfl
    rw [child?_ascend_padding hd hj hnew, hnew]
    exact Value.at?_emptyObject hbelow
  · rw [child?_ascend_of_ne hd hne fun i j hi hj hlt hnew => hfilled ⟨i, j, hi, hj, hlt, hnew⟩]

/-! ## Writing at a path -/

theorem get_eq (h : segments path = .ok steps) (tree : Value) :
    get path tree = .ok ((tree.at? steps).bind Value.present) := by
  rw [get, h]
  rfl

theorem write_eq_ok_iff (h : segments path = .ok steps) :
    write path (some v) tree = (tree', .ok ()) ↔ put v steps tree = some tree' := by
  simp only [write, h]
  cases hput : put v steps tree with
  | some placed => simp [place_eq 0 hput]
  | none =>
      obtain ⟨segment, depth, hb⟩ := place_blocked 0 hput
      generalize Tree.place v 0 steps tree = placed at hb
      obtain ⟨placed, problem⟩ := placed
      cases hb
      simp

/-- After a write, its place holds the value: what stands below the place is what stands in the value.
Every place beside the path holds what it held; only the elements that are missing before one that is
added to a list become empty objects. -/
theorem get_write (hpath : segments path = .ok steps)
    (hwrite : write path (some v) tree = (tree', .ok ())) :
    (∀ below rest, segments below = .ok (steps ++ rest) → get below tree' = .ok (valueAt? rest v)) ∧
      ∀ beside place, segments beside = .ok place → ¬ steps <+: place → ¬ place <+: steps →
        (Pads steps place tree →
          get beside tree = .ok none ∧ get beside tree' = .ok (some (.object []))) ∧
        (¬ Pads steps place tree → get beside tree' = get beside tree) := by
  have hput := (write_eq_ok_iff hpath).mp hwrite
  constructor
  · intro below rest hbelow
    rw [get_eq hbelow, Value.at?_append, at?_put hput]
    rfl
  · intro beside place hbeside hp hp'
    rw [get_eq hbeside, get_eq hbeside]
    constructor
    · intro hpads
      have hnone : tree.at? place = none := by
        obtain ⟨_, _, _, _, _, _, _, h⟩ := hpads
        exact h
      rw [at?_put_of_pads hput hpads, hnone]
      exact ⟨rfl, rfl⟩
    · intro hpads
      rw [at?_put_apart hput hp hp' hpads]

/-- A list of one item. -/
def oneItem : Value := .object [("items", .array [.object [("a", .bool true)]])]

/-- The list with a third item. -/
def thirdItem : Value :=
  .object [("items", .array [.object [("a", .bool true)], .object [],
    .object [("b", .object [("c", .string "x")])]])]

theorem get_write_thirdItem :
    write "$.items[2].b" (some (.object [("c", .string "x")])) oneItem = (thirdItem, .ok ()) ∧
      get "$.items[2].b.c" thirdItem = .ok (some (.string "x")) ∧
      get "$.items[1]" oneItem = .ok none ∧
      get "$.items[1]" thirdItem = .ok (some (.object [])) ∧
      get "$.items[0].a" thirdItem = get "$.items[0].a" oneItem := by
  have hwrite : write "$.items[2].b" (some (.object [("c", .string "x")])) oneItem =
      (thirdItem, .ok ()) := rfl
  have hpath : segments "$.items[2].b" = .ok [.key "items", .index 2, .key "b"] := rfl
  obtain ⟨hbelow, hbeside⟩ := get_write hpath hwrite
  have hpadding := hbeside "$.items[1]" [.key "items", .index 1] rfl (by decide) (by decide)
  have hfirst := hbeside "$.items[0].a" [.key "items", .index 0, .key "a"] rfl (by decide) (by decide)
  have hpads : Pads [.key "items", .index 2, .key "b"] [.key "items", .index 1] oneItem :=
    ⟨[.key "items"], 2, 1, [.key "b"], rfl, rfl, by decide, rfl⟩
  have hkept : ¬ Pads [.key "items", .index 2, .key "b"] [.key "items", .index 0, .key "a"]
      oneItem := by
    rintro ⟨front, i, j, rest, _, h, _⟩
    have hlast := congrArg List.getLast? h
    simp at hlast
  exact ⟨hwrite, hbelow "$.items[2].b.c" [.key "c"] rfl, (hpadding.1 hpads).1,
    (hpadding.1 hpads).2, hfirst.2 hkept⟩

/-! ## Failing -/

/-- A step that is blocked leaves no trace: before it, the write found all places that it needed. -/
theorem place_fst_of_put_eq_none (depth : Nat) (h : put v steps tree = none) :
    (Tree.place v depth steps tree).1 = tree := by
  induction steps generalizing depth tree with
  | nil => cases h
  | cons segment rest ih =>
      rw [place_cons]
      cases hd : descend segment tree with
      | none => exact opened_eq_self hd
      | some child =>
          simp only [put, hd, Option.bind_some, Option.map_eq_none_iff] at h
          -- From a new place on nothing is blocked.
          have hc : tree.child? segment = some child := by
            cases hc : tree.child? segment with
            | some u => rw [← descend_of_child? hc, hd]
            | none =>
                obtain rfl := descend_of_child?_none hc hd
                have hsome := put_isSome v rest .null
                rw [h, reach_null] at hsome
                cases hsome
          show ascend segment (Tree.place v (depth + 1) rest child).1 tree = tree
          rw [ih (depth + 1) h, ascend_child? hc]

/-- A write that fails leaves the tree as it was. -/
theorem write_eq_self_of_error {value : Option Value} {fault : Fault}
    (h : (write path value tree).2 = .error fault) : (write path value tree).1 = tree := by
  cases value with
  | none => rfl
  | some v =>
      cases hpath : segments path with
      | error e => simp only [write, hpath]
      | ok steps =>
          cases hput : put v steps tree with
          | some tree' =>
              rw [(write_eq_ok_iff hpath).mpr hput] at h
              cases h
          | none =>
              have hfst := place_fst_of_put_eq_none 0 hput
              simp only [write, hpath]
              generalize Tree.place v 0 steps tree = placed at hfst
              obtain ⟨placed, problem⟩ := placed
              cases problem <;> exact hfst

theorem write_eq_self_of_error_blocked :
    (write "$.items[0].a.b" (some .null) oneItem).2 =
        .error (.badPlace "$.items[0].a.b" (.blocked (.key "b") 3)) ∧
      (write "$.items[0].a.b" (some .null) oneItem).1 = oneItem := by
  have h : (write "$.items[0].a.b" (some .null) oneItem).2 =
      .error (.badPlace "$.items[0].a.b" (.blocked (.key "b") 3)) := rfl
  exact ⟨h, write_eq_self_of_error h⟩

end Tree

end Recast
