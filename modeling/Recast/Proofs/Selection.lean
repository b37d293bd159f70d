import Mathlib.Data.List.Flatten
import Mathlib.Data.List.Nodup
import Mathlib.Data.List.Perm.Subperm

/-!
# Selecting from trees

A selection goes on from everything that was found so far. A tree is listed in document order: it
comes before everything in it, and what is in an earlier part before what is in a later one. Nothing
is in itself, and the trees in a tree are pairwise different if those are that have no parts.
-/

namespace Recast.Selection

variable {α β : Type} {parts listing : α → List α} {u v w x y : α} {l : List α}

/-! ## Step by step -/

/-- Steps find, from one place, what each of them finds from everything that was found before. -/
structure Stepwise (select : β → α → List α) (all : List β → α → List α) : Prop where
  eq : ∀ steps v, all steps v = steps.foldl (fun found s => found.flatMap (select s)) [v]

namespace Stepwise

variable {select : β → α → List α} {all : List β → α → List α} (h : Stepwise select all)

include h

theorem nil (v : α) : all [] v = [v] := h.eq [] v

/-- The steps lead from several places to what they lead to from each. -/
theorem foldl_flatMap (steps : List β) (found : List α) :
    steps.foldl (fun found s => found.flatMap (select s)) found = found.flatMap (all steps) := by
  induction steps generalizing found with
  | nil =>
      rw [funext h.nil, List.flatMap_singleton']
      rfl
  | cons s steps ih =>
      rw [List.foldl_cons, ih, List.flatMap_assoc]
      refine congrArg (found.flatMap ·) (funext fun v => ?_)
      rw [h.eq, List.foldl_cons, List.flatMap_singleton, ih]

theorem cons (s : β) (steps : List β) (v : α) :
    all (s :: steps) v = (select s v).flatMap (all steps) := by
  rw [h.eq, List.foldl_cons, List.flatMap_singleton, h.foldl_flatMap]

theorem append (steps more : List β) (v : α) :
    all (steps ++ more) v = (all steps v).flatMap (all more) := by
  rw [h.eq, List.foldl_append, h.foldl_flatMap, ← h.eq]

theorem mem_cons {s : β} {steps : List β} :
    w ∈ all (s :: steps) v ↔ ∃ u ∈ select s v, w ∈ all steps u := by
  rw [h.cons, List.mem_flatMap]

theorem mem_append {steps more : List β} :
    w ∈ all (steps ++ more) v ↔ ∃ u ∈ all steps v, w ∈ all more u := by
  rw [h.append, List.mem_flatMap]

theorem flatMap_nil (found : List α) : found.flatMap (all []) = found :=
  (h.foldl_flatMap [] found).symm

/-- From several places: the first step for all of them, and then the others. -/
theorem flatMap_cons (s : β) (steps : List β) (found : List α) :
    found.flatMap (all (s :: steps)) = (found.flatMap (select s)).flatMap (all steps) := by
  rw [← h.foldl_flatMap, ← h.foldl_flatMap, List.foldl_cons]

end Stepwise

/-! ## Lists of what is found -/

theorem sublist_flatMap (h : v ∈ l) (f : α → List β) : (f v).Sublist (l.flatMap f) := by
  simpa using (List.singleton_sublist.mpr h).flatMap f

theorem flatMap_subperm {f g : α → List β} (h : ∀ v ∈ l, (f v).Subperm (g v)) :
    (l.flatMap f).Subperm (l.flatMap g) := by
  induction l with
  | nil => exact List.Subperm.refl _
  | cons v l ih =>
      rw [List.flatMap_cons, List.flatMap_cons]
      exact (h v List.mem_cons_self).append (ih fun u hu => h u (List.mem_cons_of_mem _ hu))

theorem toList_sublist {found : Option α} (h : ∀ v, found = some v → v ∈ l) :
    found.toList.Sublist l := by
  cases found with
  | none => exact List.nil_sublist _
  | some v => exact List.singleton_sublist.mpr (h v rfl)

/-- Of two different places one comes first. -/
theorem not_sublist_swap (hl : l.Nodup) (h : [x, y].Sublist l) : ¬ [y, x].Sublist l := by
  induction l with
  | nil => cases h
  | cons z l ih =>
      obtain ⟨hz, hl⟩ := List.nodup_cons.mp hl
      intro h'
      cases h with
      | cons _ h =>
          cases h' with
          | cons _ h' => exact ih hl h h'
          | cons_cons _ h' => exact hz (h.subset (by simp))
      | cons_cons _ h =>
          cases h' with
          | cons _ h' => exact hz (h'.subset (by simp))
          | cons_cons _ h' => exact hz (h'.subset (by simp))

/-! ## Listings -/

/-- Every tree is listed before what its parts list. -/
structure Listing (parts listing : α → List α) : Prop where
  eq : ∀ v, listing v = v :: (parts v).flatMap listing

namespace Listing

variable (hl : Listing parts listing)

include hl

theorem self_mem (v : α) : v ∈ listing v := by
  rw [hl.eq]
  exact List.mem_cons_self

theorem flatMap_parts_sublist (v : α) : ((parts v).flatMap listing).Sublist (listing v) := by
  rw [hl.eq v]
  exact List.sublist_cons_self _ _

theorem parts_sublist (v : α) : (parts v).Sublist (listing v) := by
  have hself : ((parts v).flatMap fun u => [u]).Sublist ((parts v).flatMap listing) :=
    List.Sublist.flatMap_right _ fun u _ => List.singleton_sublist.mpr (hl.self_mem u)
  rw [List.flatMap_singleton'] at hself
  exact hself.trans (hl.flatMap_parts_sublist v)

theorem mem_of_mem_parts (h : u ∈ parts v) : u ∈ listing v := (hl.parts_sublist v).subset h

theorem length_lt (h : u ∈ parts v) : (listing u).length < (listing v).length := by
  have hle := (sublist_flatMap h listing).length_le
  rw [hl.eq v, List.length_cons]
  omega

theorem induction {motive : α → Prop} (step : ∀ v, (∀ u ∈ parts v, motive u) → motive v) (v : α) :
    motive v := by
  have hbelow (n : Nat) : ∀ v, (listing v).length < n → motive v := by
    induction n with
    | zero => exact fun v h => absurd h (Nat.not_lt_zero _)
    | succ n ih =>
        exact fun v h => step v fun u hu =>
          ih u (Nat.lt_of_lt_of_le (hl.length_lt hu) (Nat.lt_succ_iff.mp h))
  exact hbelow _ v (Nat.lt_succ_self _)

theorem mem_iff : w ∈ listing v ↔ w = v ∨ ∃ u ∈ parts v, w ∈ listing u := by
  rw [hl.eq, List.mem_cons, List.mem_flatMap]

theorem sublist_of_mem (h : w ∈ listing v) : (listing w).Sublist (listing v) := by
  induction v using hl.induction with
  | step v ih =>
      rcases hl.mem_iff.mp h with rfl | ⟨u, hu, hw⟩
      · exact List.Sublist.refl _
      · exact (ih u hu hw).trans ((sublist_flatMap hu listing).trans (hl.flatMap_parts_sublist v))

/-- Nothing is in itself. -/
theorem not_mem_of_mem_parts (h : u ∈ parts v) : v ∉ listing u := fun hv =>
  absurd (hl.sublist_of_mem hv).length_le (Nat.not_le.mpr (hl.length_lt h))

/-- Everything but the tree itself is a part of one other tree. -/
theorem flatMap_parts_perm (v : α) :
    ((listing v).flatMap parts).Perm ((parts v).flatMap listing) := by
  induction v using hl.induction with
  | step v ih =>
      have hbelow : ((parts v).flatMap fun u => (listing u).flatMap parts).Perm
          ((parts v).flatMap fun u => (parts u).flatMap listing) :=
        List.Perm.flatMap_left _ ih
      have hjoined : (parts v ++ (parts v).flatMap fun u => (parts u).flatMap listing).Perm
          ((parts v).flatMap fun u => u :: (parts u).flatMap listing) := by
        simpa using List.map_append_flatMap_perm (parts v) id fun u => (parts u).flatMap listing
      simp only [← hl.eq] at hjoined
      rw [hl.eq v, List.flatMap_cons, List.flatMap_assoc]
      exact (hbelow.append_left _).trans hjoined

theorem mem_flatMap_parts (h : w ∈ listing v) (hu : u ∈ parts w) :
    u ∈ (parts v).flatMap listing :=
  (hl.flatMap_parts_perm v).subset (List.mem_flatMap.mpr ⟨w, h, hu⟩)

/-- What is found for a tree comes before what is found for a tree in it. -/
theorem found_sublist {f : α → List α} (h : u ∈ (parts v).flatMap listing) (hx : x ∈ f v)
    (hy : y ∈ f u) : [x, y].Sublist ((listing v).flatMap f) := by
  have hlater : y ∈ ((parts v).flatMap listing).flatMap f := List.mem_flatMap.mpr ⟨u, h, hy⟩
  rw [hl.eq, List.flatMap_cons]
  exact (List.singleton_sublist.mpr hx).append (List.singleton_sublist.mpr hlater)

/-- The first of some trees comes before everything that is in one of them. -/
theorem head_sublist (vs : List α) :
    (vs.head?.toList ++ vs.flatMap fun v => (parts v).flatMap listing).Sublist
      (vs.flatMap listing) := by
  cases vs with
  | nil => exact List.Sublist.refl _
  | cons v vs =>
      have hlater : (vs.flatMap fun v => (parts v).flatMap listing).Sublist (vs.flatMap listing) :=
        List.Sublist.flatMap_right _ fun u _ => hl.flatMap_parts_sublist u
      rw [List.flatMap_cons, List.flatMap_cons, hl.eq v, List.cons_append]
      exact (hlater.append_left _).cons_cons v

theorem flatMap_head_sublist (v : α) :
    ((listing v).flatMap fun u => (parts u).head?.toList).Sublist ((parts v).flatMap listing) := by
  induction v using hl.induction with
  | step v ih =>
      have hbelow : ((parts v).flatMap fun u =>
          (listing u).flatMap fun w => (parts w).head?.toList).Sublist
          ((parts v).flatMap fun u => (parts u).flatMap listing) :=
        List.Sublist.flatMap_right _ ih
      rw [hl.eq v, List.flatMap_cons, List.flatMap_assoc]
      exact (hbelow.append_left _).trans (hl.head_sublist (parts v))

end Listing

/-! ## Leaves -/

/-- The trees in a tree that have no parts. -/
def leaves (parts listing : α → List α) (v : α) : List α :=
  (listing v).filter fun w => (parts w).isEmpty

namespace Listing

variable (hl : Listing parts listing)

include hl

theorem leaves_of_isEmpty (h : (parts v).isEmpty = true) : leaves parts listing v = [v] := by
  rw [leaves, hl.eq, List.isEmpty_iff.mp h]
  simp [h]

theorem leaves_of_not_isEmpty (h : (parts v).isEmpty = false) :
    leaves parts listing v = (parts v).flatMap (leaves parts listing) := by
  rw [leaves, hl.eq, List.filter_cons_of_neg (by simp [h]), List.filter_flatMap]
  rfl

theorem leaves_ne_nil (v : α) : leaves parts listing v ≠ [] := by
  induction v using hl.induction with
  | step v ih =>
      cases h : (parts v).isEmpty with
      | true => simp [hl.leaves_of_isEmpty h]
      | false =>
          obtain ⟨u, rest, hu⟩ := List.exists_cons_of_ne_nil (List.isEmpty_eq_false_iff.mp h)
          have hne := ih u (by simp [hu])
          simp [hl.leaves_of_not_isEmpty h, hu, hne]

theorem leaves_subset (h : w ∈ listing v) : leaves parts listing w ⊆ leaves parts listing v :=
  ((hl.sublist_of_mem h).filter _).subset

/-- The trees in a tree are pairwise different if those are that have no parts. -/
theorem nodup (h : (leaves parts listing v).Nodup) : (listing v).Nodup := by
  induction v using hl.induction with
  | step v ih =>
      rw [hl.eq, List.nodup_cons]
      cases he : (parts v).isEmpty with
      | true => simp [List.isEmpty_iff.mp he]
      | false =>
          rw [hl.leaves_of_not_isEmpty he, List.nodup_flatMap] at h
          refine ⟨?fresh, List.nodup_flatMap.mpr ⟨fun u hu => ih u hu (h.1 u hu), ?apart⟩⟩
          case fresh =>
            intro hv
            obtain ⟨u, hu, hv⟩ := List.mem_flatMap.mp hv
            exact hl.not_mem_of_mem_parts hu hv
          case apart =>
            -- What two parts have in common has a leaf, which both of them have.
            refine h.2.imp fun hdisjoint w hw hw' => ?_
            obtain ⟨leaf, rest, hleaf⟩ := List.exists_cons_of_ne_nil (hl.leaves_ne_nil w)
            have hmem : leaf ∈ leaves parts listing w := by simp [hleaf]
            exact hdisjoint (hl.leaves_subset hw hmem) (hl.leaves_subset hw' hmem)

end Listing

end Recast.Selection
