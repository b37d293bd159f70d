import Recast.Proofs.Path.Items
import Recast.Proofs.Transform.Within

/-!
# Paths at a place

The elements around a place are those of the trails of items that it is below. A path is made
concrete by the innermost of them that its text is below, and by no other.
-/

namespace Recast.Transform

open Input (BeginsAt Scope beginsAt_nil below? below?_denotes below?_eq_none_of_not
  below?_eq_some_iff)
open Recast.Path

variable {p : Place} {outer sels o : List Selector} {indices : List Nat} {names : List String}
variable {path rest : String}

/-- The element that the indices give for a trail of items. -/
def Element.ofTrail (indices : List Nat) (o : List Selector) : Element :=
  ⟨written o, written (fill o indices)⟩

theorem substitute_of_below {e : Element} (h : below? e.general path = some rest) :
    Place.substitute path e = e.concrete ++ rest := by
  unfold Place.substitute
  rw [h]

theorem foldl_substitute_of_none {es : List Element}
    (h : ∀ e ∈ es, below? e.general path = none) : es.foldl Place.substitute path = path := by
  induction es with
  | nil => rfl
  | cons e es ih =>
      have he : Place.substitute path e = path := by
        unfold Place.substitute
        rw [h e (by simp)]
      rw [List.foldl_cons, he]
      exact ih fun e' he' => h e' (by simp [he'])

namespace Place.Within

/-- The elements are those of the trails of items, the innermost first. -/
theorem elements_eq_ofTrail (h : p.Within outer indices) :
    p.elements = (itemTrails outer).reverse.map (Element.ofTrail indices) := by
  induction h with
  | outside => rfl
  | @element p outer indices names i seed h hi ih =>
      have hrest : (itemTrails outer).reverse.map (Element.ofTrail (indices ++ [i])) =
          (itemTrails outer).reverse.map (Element.ofTrail indices) := by
        refine List.map_congr_left fun o ho => ?_
        have hle := depth_le_of_prefix (prefix_of_mem_itemTrails (List.mem_reverse.mp ho))
        rw [h.depth_eq] at hle
        rw [Element.ofTrail, fill_append_indices hle, Element.ofTrail]
      rw [itemTrails_append_items, List.reverse_append, List.reverse_singleton, List.map_append,
        hrest, ← ih, List.map_singleton, Element.ofTrail, h.fill_element]
      rfl

/-- Inside the same elements, paths are made concrete in the same way. -/
theorem concrete_congr {q : Place} (hp : p.Within outer indices) (hq : q.Within outer indices)
    (path : String) : p.concrete path = q.concrete path := by
  rw [Place.concrete, Place.concrete, hp.elements_eq_ofTrail, hq.elements_eq_ofTrail]

theorem isStep_of_mem (h : p.Within outer indices) (ho : o ∈ itemTrails outer) :
    ∀ s ∈ o, s.IsStep :=
  fun s hs => h.isStep s ((prefix_of_mem_itemTrails ho).subset hs)

theorem isConcrete_fill_of_mem (h : p.Within outer indices) (ho : o ∈ itemTrails outer) :
    ∀ s ∈ fill o indices, IsConcrete s := by
  obtain ⟨more, hmore⟩ := prefix_of_mem_itemTrails ho
  intro s hs
  refine h.isConcrete_fill s ?_
  rw [← hmore, fill_append_drop]
  exact List.mem_append_left _ hs

/-- A path that is at the items of no list stays as it is. -/
theorem concrete_of_none (h : p.Within outer indices)
    (hnone : ∀ o ∈ itemTrails outer, below? (written o) path = none) : p.concrete path = path := by
  refine foldl_substitute_of_none fun e he => ?_
  rw [h.elements_eq_ofTrail] at he
  obtain ⟨o, ho, rfl⟩ := List.mem_map.mp he
  exact hnone o (List.mem_reverse.mp ho)

/-- A path that is concrete along a trail of items is not below the items of a list on its way. -/
theorem below?_of_filled (h : p.Within outer indices) {o' later : List Selector}
    (ho : o ∈ itemTrails outer) (ho' : o' ∈ itemTrails outer) (hlen : o'.length ≤ o.length)
    (hp : Denotes path (fill o indices ++ later)) : below? (written o') path = none := by
  cases hb : below? (written o') path with
  | none => rfl
  | some rest =>
      obtain ⟨later', hlater', _⟩ := below?_denotes (h.isStep_of_mem ho') hp hb
      have hle : o'.length ≤ (fill o indices).length := by rwa [length_fill]
      have hbegin : o' <+: fill o indices :=
        List.prefix_of_prefix_length_le (List.prefix_append o' later')
          (hlater' ▸ List.prefix_append _ _) hle
      -- The wildcard at the end of the trail would be a concrete step.
      have hw := h.isConcrete_fill_of_mem ho .wildcard
        (hbegin.mem (wildcard_mem_of_mem_itemTrails ho'))
      cases hw.2

/-- The innermost trail of items that a path is below is filled in, and what is left of the path is
kept. -/
theorem concrete_of_below (h : p.Within outer indices) {before after : List (List Selector)}
    (hsplit : itemTrails outer = before ++ o :: after) (hp : Denotes path sels)
    (hbelow : below? (written o) path = some rest)
    (hafter : ∀ o' ∈ after, below? (written o') path = none) :
    p.concrete path = written (fill o indices) ++ rest := by
  have hmem : ∀ o' ∈ before ++ o :: after, o' ∈ itemTrails outer := fun o' ho' => hsplit ▸ ho'
  have ho : o ∈ itemTrails outer := hmem o (by simp)
  have hfill : ∀ s ∈ fill o indices, s.IsStep := fun s hs => (h.isConcrete_fill_of_mem ho s hs).1
  obtain ⟨later, rfl, hl⟩ := below?_denotes (h.isStep_of_mem ho) hp hbelow
  have hfilled : Denotes (written (fill o indices) ++ rest) (fill o indices ++ later) :=
    (denotes_append_iff hfill (below?_eq_some_iff.mp hbelow).2).mpr ⟨later, rfl, hl⟩
  have hinner : ∀ e ∈ after.reverse.map (Element.ofTrail indices), below? e.general path = none := by
    intro e he
    obtain ⟨o', ho', rfl⟩ := List.mem_map.mp he
    exact hafter o' (List.mem_reverse.mp ho')
  have houter : ∀ e ∈ before.reverse.map (Element.ofTrail indices),
      below? e.general (written (fill o indices) ++ rest) = none := by
    intro e he
    obtain ⟨o', ho', rfl⟩ := List.mem_map.mp he
    have hpair := itemTrails_pairwise outer
    rw [hsplit, List.pairwise_append] at hpair
    obtain ⟨more, _, rfl⟩ := hpair.2.2 o' (List.mem_reverse.mp ho') o (by simp)
    exact h.below?_of_filled ho (hmem o' (by simpa using Or.inl ho')) (by simp) hfilled
  have hsub : Place.substitute path (Element.ofTrail indices o) = written (fill o indices) ++ rest :=
    substitute_of_below hbelow
  rw [Place.concrete, h.elements_eq_ofTrail, hsplit, List.reverse_append, List.reverse_cons,
    List.append_assoc, List.map_append, List.foldl_append, foldl_substitute_of_none hinner,
    List.map_append, List.map_singleton, List.singleton_append, List.foldl_cons, hsub]
  exact foldl_substitute_of_none houter

/-- The scopes of the input have the concrete paths of trails of items. -/
theorem exists_trail_of_scope (h : p.Within outer indices) {s : Scope} (hs : s ∈ p.input.scopes) :
    ∃ o ∈ itemTrails outer, s.path = written (fill o indices) := by
  have hmem : s.path ∈ p.elements.map Element.concrete := by
    rw [← h.scopes_path]
    exact List.mem_map_of_mem hs
  rw [h.elements_eq_ofTrail, List.map_map] at hmem
  obtain ⟨o, ho, hp⟩ := List.mem_map.mp hmem
  exact ⟨o, List.mem_reverse.mp ho, hp.symm⟩

end Place.Within

/-! ## Where a path leaves the elements -/

/-- A text is at or below the items at `o`, or below no items at all where `o` is empty: `left` is
what is left of it there, and it is below no items further in. -/
structure LeavesAt (p : Place) (outer : List Selector) (indices : List Nat) (path : String)
    (o : List Selector) (left : String) : Prop where
  trail : o = [] ∨ o ∈ itemTrails outer
  path_eq : path = written o ++ left
  atBreak : AtBreak left.toList
  longest : ∀ o' ∈ itemTrails outer, BeginsAt path o' → o' <+: o
  concrete_eq : p.concrete path = written (fill o indices) ++ left

theorem LeavesAt.prefix_outer {left : String} (h : LeavesAt p outer indices path o left) :
    o <+: outer := by
  rcases h.trail with rfl | ho
  · exact List.nil_prefix
  · exact prefix_of_mem_itemTrails ho

theorem LeavesAt.isStep_fill {left : String} (h : LeavesAt p outer indices path o left)
    (hp : p.Within outer indices) : ∀ s ∈ fill o indices, s.IsStep := by
  rcases h.trail with rfl | ho
  · simp [fill]
  · exact fun s hs => (hp.isConcrete_fill_of_mem ho s hs).1

/-- Where a path leaves the elements, its wildcards are filled in, and its other steps are kept. -/
theorem LeavesAt.denotes_concrete {left : String} (h : LeavesAt p outer indices path o left)
    (hp : p.Within outer indices) (hd : Denotes path sels) :
    ∃ later, sels = o ++ later ∧ Denotes (p.concrete path) (fill o indices ++ later) := by
  have ho : ∀ s ∈ o, s.IsStep := fun s hs => hp.isStep s (h.prefix_outer.subset hs)
  rw [h.path_eq] at hd
  obtain ⟨later, rfl, hl⟩ := (denotes_append_iff ho h.atBreak).mp hd
  refine ⟨later, rfl, ?_⟩
  rw [h.concrete_eq]
  exact (denotes_append_iff (h.isStep_fill hp) h.atBreak).mpr ⟨later, rfl, hl⟩

/-- A text that denotes a path leaves the elements somewhere. -/
theorem Place.Within.exists_leavesAt (h : p.Within outer indices) (hp : Denotes path sels) :
    ∃ o left, LeavesAt p outer indices path o left := by
  rcases exists_last_or_none (BeginsAt path) (itemTrails outer) with hnone | hlast
  · obtain ⟨left, hpath, hb⟩ := beginsAt_nil hp
    refine ⟨[], left, Or.inl rfl, hpath, hb, fun o' ho' hb' => absurd hb' (hnone o' ho'), ?_⟩
    rw [h.concrete_of_none fun o ho => below?_eq_none_of_not (hnone o ho), hpath]
    rfl
  · obtain ⟨before, o, after, hsplit, hb, hafter⟩ := hlast
    obtain ⟨left, hpath, hbreak⟩ := hb
    refine ⟨o, left, Or.inr (by simp [hsplit]), hpath, hbreak, fun o' ho' hb' => ?_, ?_⟩
    · have hpair := itemTrails_pairwise outer
      rw [hsplit] at ho' hpair
      rcases List.mem_append.mp ho' with ho' | ho'
      · obtain ⟨more, _, rfl⟩ := (List.pairwise_append.mp hpair).2.2 o' ho' o (by simp)
        exact List.prefix_append o' more
      · rcases List.mem_cons.mp ho' with rfl | ho'
        · exact List.prefix_rfl
        · exact absurd hb' (hafter o' ho')
    · exact h.concrete_of_below hsplit hp (below?_eq_some_iff.mpr ⟨hpath, hbreak⟩)
        fun o' ho' => below?_eq_none_of_not (hafter o' ho')

end Recast.Transform
