import Recast.Proofs.Path.Numbered
import Recast.Proofs.Path.Writing

/-!
# The order of what paths find

A path finds values in document order exactly when a descent in it is followed by first elements
only, and it finds every place once exactly when there is one descent at most. For every other path
there is a value with pairwise different values in it that tells.
-/

namespace Recast.Path

open Json (Fields Value)

variable {u v w : Value} {sel : Selector} {sels rest : List Selector} {a b : Nat}

/-! ## Paths that keep the order -/

/-- Whether selectors find values in document order: behind a descent there are first elements
only. -/
def inOrder : List Selector → Bool
  | [] => true
  | .descent :: rest => rest.all (· == .index 0)
  | _ :: rest => inOrder rest

theorem inOrder_cons (h : sel ≠ .descent) (rest : List Selector) :
    inOrder (sel :: rest) = inOrder rest := by
  cases sel <;> first | rfl | contradiction

/-- One step finds elements or members in their order. -/
theorem select_sublist_children (h : sel ≠ .descent) (v : Value) :
    (sel.select v).Sublist (children v) := by
  cases sel with
  | child name =>
      cases v with
      | object fields =>
          exact Selection.toList_sublist fun w hw => List.mem_map.mpr ⟨_, Fields.mem_of_get? hw, rfl⟩
      | _ => exact List.nil_sublist _
  | index i =>
      cases v with
      | array items => exact Selection.toList_sublist fun w hw => List.mem_of_getElem? hw
      | _ => exact List.nil_sublist _
  | fromEnd i =>
      cases v with
      | array items =>
          rw [Selector.select]
          split
          · exact Selection.toList_sublist fun w hw => List.mem_of_getElem? hw
          · exact List.nil_sublist _
      | _ => exact List.nil_sublist _
  | wildcard => exact List.Sublist.refl _
  | descent => contradiction

theorem select_first_sublist (v : Value) :
    ((Selector.index 0).select v).Sublist (children v).head?.toList := by
  cases v with
  | array items => cases items <;> exact List.Sublist.refl _
  | _ => exact List.nil_sublist _

/-- The first element of a list is the next value after the list. -/
theorem flatMap_first_sublist (v : Value) :
    ((descendants v).flatMap (Selector.index 0).select).Sublist
      ((children v).flatMap descendants) :=
  (List.Sublist.flatMap_right _ fun u _ => select_first_sublist u).trans
    (descendants_listing.flatMap_head_sublist v)

theorem flatMap_firsts_sublist (h : rest.all (· == .index 0) = true) (v : Value) :
    ((descendants v).flatMap (selectAll rest)).Sublist (descendants v) := by
  induction rest with
  | nil => rw [stepwise.flatMap_nil]
  | cons sel rest ih =>
      simp only [List.all_cons, Bool.and_eq_true, beq_iff_eq] at h
      obtain ⟨rfl, hrest⟩ := h
      have hfirst := (flatMap_first_sublist v).trans (descendants_listing.flatMap_parts_sublist v)
      rw [stepwise.flatMap_cons]
      exact (hfirst.flatMap _).trans (ih hrest)

theorem selectAll_sublist (h : inOrder sels = true) (v : Value) :
    (selectAll sels v).Sublist (descendants v) := by
  induction sels generalizing v with
  | nil =>
      rw [stepwise.nil, List.singleton_sublist]
      exact descendants_listing.self_mem v
  | cons sel rest ih =>
      rw [stepwise.cons]
      by_cases hsel : sel = .descent
      · subst hsel
        exact flatMap_firsts_sublist h v
      · rw [inOrder_cons hsel] at h
        have hstep := (select_sublist_children hsel v).flatMap (selectAll rest)
        have hbelow : ((children v).flatMap (selectAll rest)).Sublist
            ((children v).flatMap descendants) :=
          List.Sublist.flatMap_right _ fun u _ => ih h u
        exact (hstep.trans hbelow).trans (descendants_listing.flatMap_parts_sublist v)

/-! ## Paths that find every place once -/

/-- Without another descent, what is found below different values is different. -/
theorem flatMap_selectAll_subperm (h : .descent ∉ sels) (v : Value) :
    ((descendants v).flatMap (selectAll sels)).Subperm (descendants v) := by
  induction sels with
  | nil => rw [stepwise.flatMap_nil]
  | cons sel rest ih =>
      simp only [List.mem_cons, not_or] at h
      have hstep : ((descendants v).flatMap sel.select).Sublist ((descendants v).flatMap children) :=
        List.Sublist.flatMap_right _ fun u _ => select_sublist_children (Ne.symm h.1) u
      obtain ⟨found, hfound, hsub⟩ : ((descendants v).flatMap sel.select).Subperm (descendants v) :=
        (hstep.subperm.trans (descendants_listing.flatMap_parts_perm v).subperm).trans
          (descendants_listing.flatMap_parts_sublist v).subperm
      rw [stepwise.flatMap_cons]
      exact (hfound.symm.flatMap_right _).subperm.trans ((hsub.flatMap _).subperm.trans (ih h.2))

theorem selectAll_subperm (h : sels.count .descent ≤ 1) (v : Value) :
    (selectAll sels v).Subperm (descendants v) := by
  induction sels generalizing v with
  | nil => exact (selectAll_sublist rfl v).subperm
  | cons sel rest ih =>
      rw [stepwise.cons]
      by_cases hsel : sel = .descent
      · subst hsel
        rw [List.count_cons_self] at h
        exact flatMap_selectAll_subperm (List.count_eq_zero.mp (by omega)) v
      · rw [List.count_cons_of_ne hsel] at h
        have hstep := (select_sublist_children hsel v).flatMap (selectAll rest)
        have hbelow := Selection.flatMap_subperm (l := children v) fun u _ => ih h u
        exact (hstep.subperm.trans hbelow).trans (descendants_listing.flatMap_parts_sublist v).subperm

/-! ## Paths that lose the order -/

theorem mem_descendants_of_mem_selectAll (h : w ∈ selectAll sels v) : w ∈ descendants v := by
  induction sels generalizing v with
  | nil =>
      rw [stepwise.nil, List.mem_singleton] at h
      exact h ▸ descendants_listing.self_mem v
  | cons sel rest ih =>
      obtain ⟨u, hu, hw⟩ := stepwise.mem_cons.mp h
      have hmem : u ∈ descendants v := by
        by_cases hsel : sel = .descent
        · subst hsel
          exact hu
        · exact descendants_listing.mem_of_mem_parts ((select_sublist_children hsel v).subset hu)
      exact (descendants_listing.sublist_of_mem hmem).subset (ih hw)

/-- Selectors that are not all for first elements find, in some value around a given one, something
that comes after everything in the given one. -/
theorem exists_behind (hrest : ∃ s ∈ rest, s ≠ .index 0) (hsels : ∀ s ∈ rest, s ≠ .fromEnd 0)
    (h : Numbered a b [u]) : ∃ c v y, Numbered a c [v] ∧ y ∈ selectAll rest v ∧
      (∃ w ∈ descendants v, u ∈ children w) ∧
      ∀ x ∈ descendants u, [x, y].Sublist (descendants v) := by
  induction rest with
  | nil => simp at hrest
  | cons sel rest ih =>
      have hlater : ∀ s ∈ rest, s ≠ .fromEnd 0 := fun s hs => hsels s (List.mem_cons_of_mem _ hs)
      by_cases hsel : sel = .index 0
      · subst hsel
        obtain ⟨c, v, y, hv, hy, ⟨w, hw, hu⟩, hpairs⟩ := ih (by simpa using hrest) hlater
        have hdesc := descendants_listing.sublist_of_mem
          (descendants_listing.mem_of_mem_parts (v := .array [v]) (u := v) (by simp [children]))
        exact ⟨c, .array [v], y, hv.array rfl,
          stepwise.mem_cons.mpr ⟨v, by simp [Selector.select], hy⟩, ⟨w, hdesc.subset hw, hu⟩,
          fun x hx => (hpairs x hx).trans hdesc⟩
      · obtain ⟨c, t, ht, hy⟩ := exists_leading (Numbered.number b) hlater
        obtain ⟨d, v, hv, hsecond, hpair⟩ :=
          exists_second (h.append ht) (hsels sel List.mem_cons_self) hsel
        refine ⟨d, v, .ofNat b, hv, stepwise.mem_cons.mpr ⟨t, hsecond, hy⟩,
          ⟨v, descendants_listing.self_mem v, hpair.subset (by simp)⟩, fun x hx => ?_⟩
        have hfound := (List.singleton_sublist.mpr hx).append
          (List.singleton_sublist.mpr (mem_descendants_of_mem_selectAll hy))
        have hboth : (descendants u ++ descendants t).Sublist ((children v).flatMap descendants) := by
          simpa using hpair.flatMap descendants
        exact (hfound.trans hboth).trans (descendants_listing.flatMap_parts_sublist v)

theorem exists_descent (h : inOrder sels = false) :
    ∃ front rest, sels = front ++ .descent :: rest ∧ ∃ s ∈ rest, s ≠ .index 0 := by
  induction sels with
  | nil => cases h
  | cons sel rest ih =>
      by_cases hsel : sel = .descent
      · subst hsel
        exact ⟨[], rest, rfl, by simpa [inOrder] using h⟩
      · rw [inOrder_cons hsel] at h
        obtain ⟨front, later, rfl, hlater⟩ := ih h
        exact ⟨sel :: front, later, rfl, hlater⟩

/-- What selectors find in one value, longer ones find in a value around it. -/
theorem exists_found_around {front : List Selector} (h : Numbered a b [w])
    (hsels : ∀ s ∈ front, s ≠ .fromEnd 0) (rest : List Selector) :
    ∃ v, v.hasDistinctKeys = true ∧ (descendants v).Nodup ∧
      (descendants w).Sublist (descendants v) ∧
      (selectAll rest w).Sublist (selectAll (front ++ rest) v) := by
  obtain ⟨c, v, hv, hw⟩ := exists_leading h hsels
  refine ⟨v, hv.distinctKeys v (by simp), hv.nodup_descendants,
    descendants_listing.sublist_of_mem (mem_descendants_of_mem_selectAll hw), ?_⟩
  rw [stepwise.append]
  exact Selection.sublist_flatMap hw _

theorem exists_out_of_order (h : inOrder sels = false) (hsels : ∀ s ∈ sels, s ≠ .fromEnd 0) :
    ∃ v : Value, v.hasDistinctKeys = true ∧ (descendants v).Nodup ∧
      ¬ (selectAll sels v).Sublist (descendants v) := by
  obtain ⟨front, rest, rfl, hrest⟩ := exists_descent h
  simp only [List.forall_mem_append, List.forall_mem_cons] at hsels
  obtain ⟨b, u, hu, hx⟩ := exists_leading (Numbered.number 0) hsels.2.2
  obtain ⟨c, w, y, hw, hy, ⟨t, ht, hut⟩, hpairs⟩ := exists_behind hrest hsels.2.2 hu
  obtain ⟨v, hk, hnodup, hdesc, hfound⟩ := exists_found_around hw hsels.1 (.descent :: rest)
  refine ⟨v, hk, hnodup, fun hsub => ?_⟩
  have hxy := (hpairs _ (mem_descendants_of_mem_selectAll hx)).trans hdesc
  have hyx : [y, .ofNat 0].Sublist (selectAll (.descent :: rest) w) := by
    rw [stepwise.cons]
    exact descendants_listing.found_sublist (descendants_listing.mem_flatMap_parts ht hut) hy hx
  exact Selection.not_sublist_swap hnodup hxy ((hyx.trans hfound).trans hsub)

theorem exists_repeated (h : 1 < sels.count .descent) (hsels : ∀ s ∈ sels, s ≠ .fromEnd 0) :
    ∃ v : Value, v.hasDistinctKeys = true ∧ (descendants v).Nodup ∧ ¬ (selectAll sels v).Nodup := by
  obtain ⟨front, later, rfl, hfront⟩ :=
    List.eq_append_cons_of_mem (List.count_pos_iff.mp (Nat.zero_lt_of_lt h))
  rw [List.count_append, List.count_eq_zero.mpr hfront, List.count_cons_self] at h
  obtain ⟨mid, rest, rfl, _⟩ := List.eq_append_cons_of_mem
    (List.count_pos_iff (a := Selector.descent) (l := later).mp (by omega))
  simp only [List.forall_mem_append, List.forall_mem_cons] at hsels
  obtain ⟨hfrontSels, _, hmidSels, _, hrestSels⟩ := hsels
  -- The middle leads from the outer value to the list, and from its item to the innermost value.
  obtain ⟨b, inner, hinner, hx⟩ := exists_leading (Numbered.number 0) hrestSels
  obtain ⟨c, item, hitem, hinnerItem⟩ := exists_leading hinner hmidSels
  obtain ⟨d, outer, houter, hlist⟩ := exists_leading (hitem.array rfl) hmidSels
  obtain ⟨v, hk, hnodup, _, hfound⟩ :=
    exists_found_around houter hfrontSels (.descent :: (mid ++ .descent :: rest))
  refine ⟨v, hk, hnodup, fun hv => ?_⟩
  have hfinds {u w : Value} (hu : u ∈ selectAll mid w) (hin : inner ∈ descendants u) :
      .ofNat 0 ∈ selectAll (mid ++ .descent :: rest) w :=
    stepwise.mem_append.mpr ⟨u, hu, stepwise.mem_cons.mpr ⟨inner, hin, hx⟩⟩
  have hitemList : item ∈ children (.array [item]) := by simp [children]
  have hinList : inner ∈ descendants (.array [item]) :=
    (descendants_listing.sublist_of_mem (descendants_listing.mem_of_mem_parts hitemList)).subset
      (mem_descendants_of_mem_selectAll hinnerItem)
  have htwice : [Value.ofNat 0, .ofNat 0].Sublist
      (selectAll (.descent :: (mid ++ .descent :: rest)) outer) := by
    rw [stepwise.cons]
    exact descendants_listing.found_sublist (descendants_listing.mem_flatMap_parts
      (mem_descendants_of_mem_selectAll hlist) hitemList) (hfinds hlist hinList)
      (hfinds hinnerItem (descendants_listing.self_mem inner))
  have hpair := hv.sublist (htwice.trans hfound)
  simp at hpair

/-! ## Paths that are read -/

theorem Writable.ne_fromEnd (h : Writable sels) : ∀ s ∈ sels, s ≠ .fromEnd 0 := by
  have hstep {s : Selector} (hs : s.IsStep) : s ≠ .fromEnd 0 := by
    rintro rfl
    exact absurd hs.1 (Nat.lt_irrefl 0)
  induction h with
  | nil => simp
  | step hs _ ih => exact List.forall_mem_cons.mpr ⟨hstep hs, ih⟩
  | descent hs _ ih =>
      exact List.forall_mem_cons.mpr ⟨by simp, List.forall_mem_cons.mpr ⟨hstep hs, ih⟩⟩

/-- A path that is read finds values in document order, whatever the document, exactly when a descent
in it is followed by first elements only; it finds every place once at most exactly when there is one
descent in it at most. -/
theorem select_sublist_iff {source : String} {p : Path} (h : parse source = .ok p) :
    ((∀ v : Value, v.hasDistinctKeys = true → (descendants v).Nodup →
        (p.select v).Sublist (descendants v)) ↔ inOrder p.selectors = true) ∧
      ((∀ v : Value, v.hasDistinctKeys = true → (descendants v).Nodup → (p.select v).Nodup) ↔
        p.selectors.count .descent ≤ 1) := by
  have hsels := (parse_eq_ok_iff.mp h).writable.ne_fromEnd
  refine ⟨⟨fun hall => ?ordered, fun ho v _ _ => selectAll_sublist ho v⟩,
    ⟨fun hall => ?once, fun hc v _ hnodup => ?nodup⟩⟩
  case ordered =>
    by_contra ho
    obtain ⟨v, hk, hnodup, hout⟩ := exists_out_of_order (Bool.eq_false_iff.mpr ho) hsels
    exact hout (hall v hk hnodup)
  case once =>
    by_contra hc
    obtain ⟨v, hk, hnodup, hout⟩ := exists_repeated (Nat.lt_of_not_le hc) hsels
    exact hout (hall v hk hnodup)
  case nodup =>
    obtain ⟨found, hfound, hsub⟩ := selectAll_subperm hc v
    exact hfound.nodup_iff.mp (hnodup.sublist hsub)

theorem select_sublist_iff_firsts :
    parse "$.rows[*]..[0][0]" =
        .ok ⟨.document, [.child "rows", .wildcard, .descent, .index 0, .index 0]⟩ ∧
      (∀ v : Value, v.hasDistinctKeys = true → (descendants v).Nodup →
        (select ⟨.document, [.child "rows", .wildcard, .descent, .index 0, .index 0]⟩ v).Sublist
          (descendants v)) ∧
      parse "$..a..b" = .ok ⟨.document, [.descent, .child "a", .descent, .child "b"]⟩ ∧
      ¬ ∀ v : Value, v.hasDistinctKeys = true → (descendants v).Nodup →
        (select ⟨.document, [.descent, .child "a", .descent, .child "b"]⟩ v).Nodup := by
  have hfirsts : parse "$.rows[*]..[0][0]" =
      .ok ⟨.document, [.child "rows", .wildcard, .descent, .index 0, .index 0]⟩ := rfl
  have htwice : parse "$..a..b" =
      .ok ⟨.document, [.descent, .child "a", .descent, .child "b"]⟩ := rfl
  exact ⟨hfirsts, (select_sublist_iff hfirsts).1.mpr rfl, htwice,
    fun h => absurd ((select_sublist_iff htwice).2.mp h) (by decide)⟩

/-- An object with its own member behind another one that has the same member below it. -/
def outerLast : Value :=
  .object [("children", .array [.object [("id", .ofNat 2)]]), ("id", .ofNat 1)]

/-- A descent to a name finds an outer member before the inner ones that stand before it. -/
theorem select_outer_first :
    parse "$..id" = .ok ⟨.document, [.descent, .child "id"]⟩ ∧
      outerLast.hasDistinctKeys = true ∧ (descendants outerLast).Nodup ∧
      select ⟨.document, [.descent, .child "id"]⟩ outerLast = [.ofNat 1, .ofNat 2] ∧
      ¬ (select ⟨.document, [.descent, .child "id"]⟩ outerLast).Sublist (descendants outerLast) :=
  ⟨rfl, by decide, by decide, rfl, by decide⟩

end Recast.Path
