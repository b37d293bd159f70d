import Recast.Proofs.Path.Trail

/-!
# Trails of items

The beginnings of a trail that end in a wildcard lead to the items of the lists that the trail goes
through. They are filled in as the trail is.
-/

namespace Recast.Path

variable {o outer sels more : List Selector} {indices later : List Nat} {names : List String}

/-- The beginnings of a trail that lead to the items of a list, the outermost first. -/
def itemTrails : List Selector → List (List Selector)
  | [] => []
  | .wildcard :: sels => [.wildcard] :: (itemTrails sels).map (.wildcard :: ·)
  | sel :: sels => (itemTrails sels).map (sel :: ·)

theorem itemTrails_append (sels more : List Selector) :
    itemTrails (sels ++ more) = itemTrails sels ++ (itemTrails more).map (sels ++ ·) := by
  induction sels with
  | nil => simp [itemTrails]
  | cons sel sels ih => cases sel <;> simp [itemTrails, ih]

theorem itemTrails_members (names : List String) : itemTrails (members names) = [] := by
  induction names with
  | nil => rfl
  | cons name names ih => simpa [members, itemTrails] using ih

/-- Steps to properties lead to no items. -/
theorem itemTrails_append_members (outer : List Selector) (names : List String) :
    itemTrails (outer ++ members names) = itemTrails outer := by
  rw [itemTrails_append, itemTrails_members, List.map_nil, List.append_nil]

theorem itemTrails_append_items (outer : List Selector) (names : List String) :
    itemTrails (outer ++ members names ++ [.wildcard]) =
      itemTrails outer ++ [outer ++ members names ++ [.wildcard]] := by
  rw [itemTrails_append, itemTrails_append_members]
  rfl

theorem prefix_of_mem_itemTrails (h : o ∈ itemTrails sels) : o <+: sels := by
  induction sels generalizing o with
  | nil => cases h
  | cons sel sels ih =>
      have htail : ∀ {o}, o ∈ (itemTrails sels).map (sel :: ·) → o <+: sel :: sels := by
        intro o ho
        obtain ⟨o', ho', rfl⟩ := List.mem_map.mp ho
        exact List.cons_prefix_cons.mpr ⟨rfl, ih ho'⟩
      cases sel with
      | wildcard =>
          rcases List.mem_cons.mp h with rfl | h
          · exact List.cons_prefix_cons.mpr ⟨rfl, List.nil_prefix⟩
          · exact htail h
      | _ => exact htail h

theorem wildcard_mem_of_mem_itemTrails (h : o ∈ itemTrails sels) : .wildcard ∈ o := by
  induction sels generalizing o with
  | nil => cases h
  | cons sel sels ih =>
      have htail : ∀ {o}, o ∈ (itemTrails sels).map (sel :: ·) → .wildcard ∈ o := by
        intro o ho
        obtain ⟨o', ho', rfl⟩ := List.mem_map.mp ho
        exact List.mem_cons_of_mem sel (ih ho')
      cases sel with
      | wildcard =>
          rcases List.mem_cons.mp h with rfl | h
          · exact List.mem_singleton.mpr rfl
          · exact htail h
      | _ => exact htail h

/-- Every trail of items is a beginning of those behind it. -/
theorem itemTrails_pairwise (sels : List Selector) :
    (itemTrails sels).Pairwise fun o o' => ∃ more, more ≠ [] ∧ o' = o ++ more := by
  induction sels with
  | nil => exact .nil
  | cons sel sels ih =>
      have htail : ((itemTrails sels).map (sel :: ·)).Pairwise
          fun o o' => ∃ more, more ≠ [] ∧ o' = o ++ more := by
        refine List.Pairwise.map _ ?_ ih
        rintro o o' ⟨more, hne, rfl⟩
        exact ⟨more, hne, rfl⟩
      cases sel with
      | wildcard =>
          refine List.pairwise_cons.mpr ⟨?_, htail⟩
          intro o' ho'
          obtain ⟨o, ho, rfl⟩ := List.mem_map.mp ho'
          have hw := wildcard_mem_of_mem_itemTrails ho
          exact ⟨o, List.ne_nil_of_mem hw, rfl⟩
      | _ => exact htail

/-- The last trail of a list that has a property, if there is one. -/
theorem exists_last_or_none (P : List Selector → Prop) (trails : List (List Selector)) :
    (∀ o ∈ trails, ¬ P o) ∨
      ∃ before o after, trails = before ++ o :: after ∧ P o ∧ ∀ o' ∈ after, ¬ P o' := by
  induction trails with
  | nil => simp
  | cons o trails ih =>
      rcases ih with hnone | ⟨before, o', after, rfl, ho', hafter⟩
      · by_cases ho : P o
        · exact Or.inr ⟨[], o, trails, rfl, ho, hnone⟩
        · refine Or.inl fun o' ho' => ?_
          rcases List.mem_cons.mp ho' with rfl | ho'
          · exact ho
          · exact hnone o' ho'
      · exact Or.inr ⟨o :: before, o', after, rfl, ho', hafter⟩

/-! ## Filling in -/

theorem length_fill (sels : List Selector) (indices : List Nat) :
    (fill sels indices).length = sels.length := by
  induction sels generalizing indices with
  | nil => rfl
  | cons sel sels ih => cases sel <;> cases indices <;> simp [fill, ih]

theorem isStep_fill (h : ∀ s ∈ sels, IsTrailStep s) (hlt : ∀ k ∈ indices, k < indexLimit) :
    ∀ s ∈ fill sels indices, s.IsStep := by
  induction sels generalizing indices with
  | nil => simp [fill]
  | cons sel sels ih =>
      have hrest : ∀ s ∈ sels, IsTrailStep s := fun s hs => h s (by simp [hs])
      have hsel := (h sel (by simp)).isStep
      intro s hs
      cases sel with
      | wildcard =>
          cases indices with
          | nil =>
              rw [fill_nil] at hs
              exact (h s hs).isStep
          | cons k indices =>
              rcases List.mem_cons.mp hs with rfl | hs
              · exact hlt k (by simp)
              · exact ih hrest (fun k hk => hlt k (by simp [hk])) s hs
      | _ =>
          rcases List.mem_cons.mp hs with rfl | hs
          · exact hsel
          · exact ih hrest hlt s hs

/-- What follows some steps is filled with the indices that they leave. -/
theorem fill_append_drop (sels more : List Selector) (indices : List Nat) :
    fill (sels ++ more) indices = fill sels indices ++ fill more (indices.drop (depth sels)) := by
  induction sels generalizing indices with
  | nil => simp [fill, depth]
  | cons sel sels ih =>
      cases sel with
      | wildcard => cases indices <;> simp [fill, depth, ih, fill_nil]
      | _ => simp [fill, depth, ih]

/-- Indices beyond the wildcards are not used. -/
theorem fill_append_indices (h : depth sels ≤ indices.length) (later : List Nat) :
    fill sels (indices ++ later) = fill sels indices := by
  induction sels generalizing indices with
  | nil => rfl
  | cons sel sels ih =>
      cases sel with
      | wildcard =>
          cases indices with
          | nil => simp [depth] at h
          | cons i indices =>
              have hd : depth sels ≤ indices.length := by simpa [depth] using h
              simp [fill, ih hd]
      | _ =>
          have hd : depth sels ≤ indices.length := by simpa [depth] using h
          simp [fill, ih hd]

theorem depth_append (sels more : List Selector) : depth (sels ++ more) = depth sels + depth more :=
  List.count_append

theorem depth_le_of_prefix (h : o <+: sels) : depth o ≤ depth sels := by
  obtain ⟨more, rfl⟩ := h
  rw [depth_append]
  exact Nat.le_add_right _ _

end Recast.Path
