import Recast.Proofs.Transform.Writes

/-!
# What taking changes

To take a value is to read it and to write null in its slot, if there is one. The containers on the
way keep their places, and the slot can be written again.
-/

namespace Recast

open Json (Fields Location Step Value)

namespace Tree

variable {v child : Value} {segment : Step} {front steps rest place : Location}
  {tree tree' : Value} {path : String}

/-! ## Outlines -/

/-- What a container is apart from the values in it: the length of a list, the keys of an object. -/
inductive Outline where
  | items (length : Nat)
  | keys (names : List String)
deriving DecidableEq, Repr

def outline? : Value → Option Outline
  | .array items => some (.items items.length)
  | .object fields => some (.keys (Fields.keys fields))
  | _ => none

/-- A container with another value in one of its places has the same outline. -/
theorem outline?_ascend (h : tree.child? segment = some v) (w : Value) :
    outline? (ascend segment w tree) = outline? tree := by
  unfold Value.child? at h
  split at h
  · rename_i name fields
    have hmem : name ∈ Fields.keys fields := List.mem_map.mpr ⟨_, Fields.mem_of_get? h, rfl⟩
    simp [ascend, opened, outline?, Fields.keys_put_of_mem hmem]
  · rename_i i items
    have hlt : i < items.length := (List.getElem?_eq_some_iff.mp h).1
    simp [ascend, opened, outline?, padded_of_lt hlt]
  · cases h

/-! ## Vacated places -/

theorem vacate_cons (segment : Step) (rest : Location) (tree : Value) :
    vacate (segment :: rest) tree =
      match tree.child? segment with
      | some child => ascend segment (vacate rest child) tree
      | none => tree := by
  cases segment with
  | key name =>
      cases tree with
      | object fields =>
          cases hg : Fields.get? name fields <;> simp [vacate, Value.child?, ascend, opened, hg]
      | _ => rfl
  | index i =>
      cases tree with
      | array items =>
          cases hg : items[i]? with
          | none => simp [vacate, Value.child?, hg]
          | some child =>
              have hlt : i < items.length := (List.getElem?_eq_some_iff.mp hg).1
              simp [vacate, Value.child?, ascend, opened, hg, padded_of_lt hlt]
      | _ => rfl

theorem vacate_of_at?_eq_none (h : tree.at? steps = none) : vacate steps tree = tree := by
  induction steps generalizing tree with
  | nil => cases h
  | cons segment rest ih =>
      rw [vacate_cons]
      cases hc : tree.child? segment with
      | none => rfl
      | some child =>
          rw [Value.at?_cons, hc, Option.bind_some] at h
          show ascend segment (vacate rest child) tree = tree
          rw [ih h, ascend_child? hc]

/-- To vacate a slot is to write null there. -/
theorem put_null (h : tree.at? steps = some v) :
    put .null steps tree = some (vacate steps tree) := by
  induction steps generalizing tree with
  | nil => rfl
  | cons segment rest ih =>
      obtain ⟨child, hc, hrest⟩ := Value.at?_cons_eq_some.mp h
      rw [put, descend_of_child? hc, Option.bind_some, ih hrest, vacate_cons, hc]
      rfl

theorem put_at? (h : tree.at? steps = some v) : put v steps tree = some tree := by
  induction steps generalizing tree with
  | nil => exact h.symm
  | cons segment rest ih =>
      obtain ⟨child, hc, hrest⟩ := Value.at?_cons_eq_some.mp h
      rw [put, descend_of_child? hc, Option.bind_some, ih hrest, Option.map_some, ascend_child? hc]

/-- A write to a slot that is there adds no other one. -/
theorem not_pads_of_at? (h : tree.at? steps = some v) : ¬ Pads steps place tree := by
  rintro ⟨front, i, j, rest, rfl, rfl, hj, hnone⟩
  obtain ⟨child, hfront, hrest⟩ := Value.at?_append_eq_some.mp h
  obtain ⟨next, hnext, _⟩ := Value.at?_cons_eq_some.mp hrest
  rw [Value.at?_append, hfront, Option.bind_some, Value.at?_cons] at hnone
  cases child with
  | array items =>
      have hi : i < items.length := (List.getElem?_eq_some_iff.mp hnext).1
      have hget : Value.child? (.index j) (.array items) = some items[j] :=
        List.getElem?_eq_getElem (by omega)
      rw [hget] at hnone
      cases hnone
  | _ => cases hnext

theorem at?_vacate (steps rest : Location) (tree : Value) :
    ((vacate steps tree).at? (steps ++ rest)).bind Value.present = none := by
  rw [Value.at?_append]
  cases hs : tree.at? steps with
  | none =>
      rw [vacate_of_at?_eq_none hs, hs]
      rfl
  | some v =>
      rw [at?_put (put_null hs), Option.bind_some]
      cases rest with
      | nil => rfl
      | cons segment rest => rw [Value.at?_null (List.cons_ne_nil _ _)]; rfl

theorem at?_vacate_apart (h : ¬ steps <+: place) (h' : ¬ place <+: steps) (tree : Value) :
    (vacate steps tree).at? place = tree.at? place := by
  cases hs : tree.at? steps with
  | none => rw [vacate_of_at?_eq_none hs]
  | some v => exact at?_put_apart (put_null hs) h h' (not_pads_of_at? hs)

theorem outline?_vacate (hfront : front <+: steps) (hne : front ≠ steps) (tree : Value) :
    ((vacate steps tree).at? front).map outline? = (tree.at? front).map outline? := by
  cases hs : tree.at? steps with
  | none => rw [vacate_of_at?_eq_none hs]
  | some v =>
      obtain ⟨below, rfl⟩ := hfront
      cases below with
      | nil => exact absurd (List.append_nil front).symm hne
      | cons segment rest =>
          obtain ⟨child, hc, hrest⟩ := Value.at?_append_eq_some.mp hs
          obtain ⟨next, hn, _⟩ := Value.at?_cons_eq_some.mp hrest
          obtain ⟨child', _, w, hreach, _, hnew⟩ := put_append_eq_some (put_null hs)
          obtain rfl : child = child' := Option.some.inj ((reach_of_at? hc).symm.trans hreach)
          rw [hnew, hc, Option.map_some, Option.map_some, outline?_ascend hn]

/-! ## Taking at a path -/

theorem eq_null_of_present (h : v.present = none) : v = .null := by
  cases v with
  | null => rfl
  | _ => cases h

/-- What is taken is what could be read. Afterwards nothing stands at the place or below it, all that
stands beside the path is as it was, and the containers on the way have their places still. If there
was nothing to take, the tree is as it was; if there was, the place can be written again. -/
theorem take_eq_get (hpath : segments path = .ok steps) (tree : Value) :
    ∃ found tree', take path tree = .ok (found, tree') ∧ get path tree = .ok found ∧
      (∀ below rest, segments below = .ok (steps ++ rest) → get below tree' = .ok none) ∧
      (∀ beside place, segments beside = .ok place → ¬ steps <+: place → ¬ place <+: steps →
        get beside tree' = get beside tree) ∧
      (∀ front, front <+: steps → front ≠ steps →
        (tree'.at? front).map outline? = (tree.at? front).map outline?) ∧
      (found = none → tree' = tree) ∧
      (found.isSome → ∀ v, ∃ tree'', write path (some v) tree' = (tree'', .ok ())) := by
  have htake : take path tree = .ok (valueAt? steps tree, vacate steps tree) := by
    rw [take, hpath]
    rfl
  refine ⟨_, _, htake, get_eq hpath tree, ?below, ?beside, fun front => (outline?_vacate · · tree),
    ?nothing, ?again⟩
  case below =>
    intro below rest hbelow
    rw [get_eq hbelow, at?_vacate]
  case beside =>
    intro beside place hbeside h h'
    rw [get_eq hbeside, get_eq hbeside, at?_vacate_apart h h']
  case nothing =>
    intro hnone
    cases hs : tree.at? steps with
    | none => exact vacate_of_at?_eq_none hs
    | some v =>
        -- The slot holds null, and null is written there.
        rw [valueAt?] at hnone
        have hv : v.present = none := (congrArg (Option.bind · Value.present) hs).symm.trans hnone
        obtain rfl := eq_null_of_present hv
        exact Option.some.inj ((put_null hs).symm.trans (put_at? hs))
  case again =>
    intro hsome v
    obtain ⟨found, hfound⟩ := Option.isSome_iff_exists.mp hsome
    obtain ⟨u, hs, _⟩ := Option.bind_eq_some_iff.mp hfound
    have hput : (put v steps (vacate steps tree)).isSome = true := by
      rw [put_put (put_null hs), put_isSome, reach_of_at? hs]
      rfl
    obtain ⟨tree'', htree⟩ := Option.isSome_iff_exists.mp hput
    exact ⟨tree'', (write_eq_ok_iff hpath).mpr htree⟩

/-- Two crops. -/
def twoCrops : Value :=
  .object [("crops", .array [.object [("name", .string "a")], .object [("name", .string "b")]])]

/-- The second crop, in its old place. -/
def secondCrop : Value :=
  .object [("crops", .array [.null, .object [("name", .string "b")]])]

theorem take_eq_get_crop :
    segments "$.crops[0]" = .ok [.key "crops", .index 0] ∧
      take "$.crops[0]" twoCrops = .ok (some (.object [("name", .string "a")]), secondCrop) ∧
      get "$.crops[0]" twoCrops = .ok (some (.object [("name", .string "a")])) ∧
      get "$.crops[0].name" secondCrop = .ok none ∧
      get "$.crops[1].name" secondCrop = get "$.crops[1].name" twoCrops ∧
      (secondCrop.at? [.key "crops"]).map outline? =
        (twoCrops.at? [.key "crops"]).map outline? ∧
      ∃ tree'', write "$.crops[0]" (some (.bool true)) secondCrop = (tree'', .ok ()) := by
  have hpath : segments "$.crops[0]" = .ok [.key "crops", .index 0] := rfl
  have htaken : take "$.crops[0]" twoCrops =
      .ok (some (.object [("name", .string "a")]), secondCrop) := rfl
  obtain ⟨found, tree', htake, hget, hbelow, hbeside, hway, _, hagain⟩ := take_eq_get hpath twoCrops
  cases htaken.symm.trans htake
  exact ⟨hpath, htaken, hget, hbelow "$.crops[0].name" [.key "name"] rfl,
    hbeside "$.crops[1].name" [.key "crops", .index 1, .key "name"] rfl (by decide) (by decide),
    hway [.key "crops"] (by decide) (by decide), hagain rfl (.bool true)⟩

end Tree

end Recast
