import Recast.Proofs.NodePath.Select

/-!
# Documents that node paths lead through

For steps whose predicates only count there are documents in which they find something, if they can
find anything at all. Such documents are built around texts and attribute values of different lengths,
so that all nodes of them are pairwise different.
-/

namespace Recast.NodePath

open Markup (Attribute Node)

variable {n m w : Node} {ns ms : List Node} {s : Step} {steps front rest : List Step} {t : Test}
  {predicates : List Predicate} {a b c k : Nat} {P : Node → Prop}

/-! ## Predicates that count -/

def Predicate.isPosition : Predicate → Bool
  | position _ => true
  | _ => false

/-- Whether all predicates of the steps count. -/
def isPositional (steps : List Step) : Bool :=
  steps.all fun s => s.predicates.all Predicate.isPosition

/-- The predicates keep the node at place `k` of any list. -/
inductive Keeps : List Predicate → Nat → Prop where
  | all (k : Nat) : Keeps [] k
  | one {k : Nat} {predicates : List Predicate} (h : ∀ n, filterAll predicates [n] = [n]) :
      Keeps (.position (k + 1) :: predicates) k

theorem filterAll_nil (predicates : List Predicate) : filterAll predicates [] = [] :=
  List.sublist_nil.mp (filterAll_sublist predicates [])

theorem position_filter (k : Nat) (ns : List Node) :
    (Predicate.position (k + 1)).filter ns = ns[k]?.toList := rfl

theorem Keeps.mem (h : Keeps predicates k) (hn : ns[k]? = some n) : n ∈ filterAll predicates ns := by
  cases h with
  | all => exact List.mem_of_getElem? hn
  | @one _ predicates h =>
      have hfirst : filterAll (.position (k + 1) :: predicates) ns = filterAll predicates [n] := by
        rw [filterAll, List.foldl_cons, position_filter, hn]
        rfl
      rw [hfirst, h]
      exact List.mem_singleton_self n

/-- Predicates that count and keep one single node keep every single node. -/
theorem filterAll_singleton (hpos : predicates.all Predicate.isPosition = true)
    (h : filterAll predicates [m] ≠ []) (n : Node) : filterAll predicates [n] = [n] := by
  induction predicates with
  | nil => rfl
  | cons p predicates ih =>
      rw [List.all_cons, Bool.and_eq_true] at hpos
      cases p with
      | position i =>
          -- Only the first place is there to be kept.
          match i with
          | 0 => exact absurd (filterAll_nil predicates) h
          | 1 => exact ih hpos.2 h
          | i + 2 => exact absurd (filterAll_nil predicates) h
      | _ => cases hpos.1

theorem exists_keeps (hpos : predicates.all Predicate.isPosition = true)
    (h : filterAll predicates ns ≠ []) : ∃ k, Keeps predicates k := by
  cases predicates with
  | nil => exact ⟨0, .all 0⟩
  | cons p predicates =>
      rw [List.all_cons, Bool.and_eq_true] at hpos
      cases p with
      | position i =>
          cases i with
          | zero => exact absurd (filterAll_nil predicates) h
          | succ k =>
              cases hk : ns[k]? with
              | none =>
                  have hnone : filterAll (.position (k + 1) :: predicates) ns = [] := by
                    rw [filterAll, List.foldl_cons, position_filter, hk]
                    exact filterAll_nil predicates
                  exact absurd hnone h
              | some m =>
                  have hsome : filterAll (.position (k + 1) :: predicates) ns =
                      filterAll predicates [m] := by
                    rw [filterAll, List.foldl_cons, position_filter, hk]
                    rfl
                  exact ⟨k, .one (filterAll_singleton hpos.2 (hsome ▸ h))⟩
      | _ => cases hpos.1

/-! ## Steps that can find something -/

/-- Steps that lead on: a step to the node itself keeps it, every other step keeps some place, and
behind texts and attributes no step leads further. -/
inductive Live : List Step → Prop where
  | nil : Live []
  | self {s : Step} {rest : List Step} (haxis : s.axis = .self)
      (h : ∀ n, filterAll s.predicates [n] = [n]) (hrest : Live rest) : Live (s :: rest)
  | element {s : Step} {rest : List Step} {k : Nat} (haxis : s.axis ≠ .self)
      (htest : s.test.isLeaf = false) (h : Keeps s.predicates k) (hrest : Live rest) :
      Live (s :: rest)
  | leaf {s : Step} {rest : List Step} {k : Nat} (haxis : s.axis ≠ .self)
      (htest : s.test.isLeaf = true) (h : Keeps s.predicates k) (hrest : Live rest)
      (hself : ∀ r ∈ rest, r.axis = .self) : Live (s :: rest)

theorem exists_of_selectAll_ne_nil (h : selectAll (s :: rest) n ≠ []) :
    ∃ m ∈ s.select n, selectAll rest m ≠ [] := by
  rw [stepwise.cons] at h
  obtain ⟨w, hw⟩ := List.exists_mem_of_ne_nil _ h
  obtain ⟨m, hm, hw⟩ := List.mem_flatMap.mp hw
  exact ⟨m, hm, List.ne_nil_of_mem hw⟩

theorem axis_eq_self_of_selectAll_ne_nil (hn : n.isElement = false) (h : selectAll steps n ≠ []) :
    ∀ s ∈ steps, s.axis = .self := by
  induction steps with
  | nil => simp
  | cons s rest ih =>
      obtain ⟨m, hm, hrest⟩ := exists_of_selectAll_ne_nil h
      have haxis : s.axis = .self := by
        by_contra haxis
        rw [select_of_not_isElement hn haxis] at hm
        cases hm
      obtain rfl := List.mem_singleton.mp ((select_self_sublist haxis n).subset hm)
      exact List.forall_mem_cons.mpr ⟨haxis, ih hrest⟩

theorem exists_matches_of_mem_select (haxis : s.axis ≠ .self) (h : m ∈ s.select n) :
    ∃ scope, m ∈ filterAll s.predicates (s.test.matches scope) := by
  cases hs : s.axis with
  | self => exact absurd hs haxis
  | child => exact ⟨n, select_child hs n ▸ h⟩
  | descendant =>
      rw [select_descendant hs] at h
      obtain ⟨scope, _, hm⟩ := List.mem_flatMap.mp h
      exact ⟨scope, hm⟩

theorem live_of_selectAll_ne_nil (hpos : isPositional steps = true) (h : selectAll steps n ≠ []) :
    Live steps := by
  induction steps generalizing n with
  | nil => exact .nil
  | cons s rest ih =>
      rw [isPositional, List.all_cons, Bool.and_eq_true] at hpos
      obtain ⟨m, hm, hrest⟩ := exists_of_selectAll_ne_nil h
      by_cases haxis : s.axis = .self
      · have hself : filterAll s.predicates [n] ≠ [] := by
          rw [Step.select, haxis] at hm
          exact List.ne_nil_of_mem hm
        exact .self haxis (filterAll_singleton hpos.1 hself) (ih hpos.2 hrest)
      · obtain ⟨scope, hscope⟩ := exists_matches_of_mem_select haxis hm
        obtain ⟨k, hk⟩ := exists_keeps hpos.1 (List.ne_nil_of_mem hscope)
        cases htest : s.test.isLeaf with
        | false => exact .element haxis htest hk (ih hpos.2 hrest)
        | true =>
            have hleaf := isElement_of_isLeaf htest ((filterAll_sublist _ _).subset hscope)
            exact .leaf haxis htest hk (ih hpos.2 hrest)
              (axis_eq_self_of_selectAll_ne_nil hleaf hrest)

theorem Live.selectAll_self (h : Live steps) (hself : ∀ s ∈ steps, s.axis = .self) (n : Node) :
    selectAll steps n = [n] := by
  induction h with
  | nil => rfl
  | @self s rest haxis hone _ ih =>
      rw [stepwise.cons, Step.select, haxis, hone, List.flatMap_singleton,
        ih fun r hr => hself r (List.mem_cons_of_mem _ hr)]
  | element haxis => exact absurd (hself _ List.mem_cons_self) haxis
  | leaf haxis => exact absurd (hself _ List.mem_cons_self) haxis

/-! ## Nodes that are pairwise different -/

/-- The length of what a node without parts says. -/
def size : Node → Nat
  | .element .. => 0
  | .text content => content.length
  | .attr a => a.value.length

/-- The attributes and texts of a node. -/
def leaves (n : Node) : List Node := Selection.leaves parts nodes n

/-- Nodes whose leaves have pairwise different sizes from a range. -/
structure Numbered (a b : Nat) (ns : List Node) : Prop where
  le : a ≤ b
  nodup : ((ns.flatMap leaves).map size).Nodup
  between : ∀ m ∈ ns.flatMap leaves, a ≤ size m ∧ size m < b

theorem Numbered.nil (a : Nat) : Numbered a a [] where
  le := Nat.le_refl a
  nodup := List.nodup_nil
  between := by simp

theorem Numbered.append (h : Numbered a b ns) (h' : Numbered b c ms) : Numbered a c (ns ++ ms) where
  le := Nat.le_trans h.le h'.le
  nodup := by
    rw [List.flatMap_append, List.map_append, List.nodup_append]
    refine ⟨h.nodup, h'.nodup, ?_⟩
    rintro i hi j hj rfl
    obtain ⟨n, hn, rfl⟩ := List.mem_map.mp hi
    obtain ⟨m, hm, he⟩ := List.mem_map.mp hj
    have := (h.between n hn).2
    have := (h'.between m hm).1
    omega
  between m hm := by
    rw [List.flatMap_append, List.mem_append] at hm
    rcases hm with hm | hm
    · exact ⟨(h.between m hm).1, Nat.lt_of_lt_of_le (h.between m hm).2 h'.le⟩
    · exact ⟨Nat.le_trans h.le (h'.between m hm).1, (h'.between m hm).2⟩

theorem Numbered.perm (h : Numbered a b ns) (hp : ns.Perm ms) : Numbered a b ms where
  le := h.le
  nodup := ((hp.flatMap_right leaves).map size).nodup_iff.mp h.nodup
  between m hm := h.between m ((hp.flatMap_right leaves).mem_iff.mpr hm)

/-- What is put around nodes has their leaves. -/
theorem Numbered.around (h : Numbered a b (parts n)) (hn : (parts n).isEmpty = false) :
    Numbered a b [n] := by
  have hleaves : [n].flatMap leaves = (parts n).flatMap leaves := by
    rw [List.flatMap_singleton]
    exact nodes_listing.leaves_of_not_isEmpty hn
  exact ⟨h.le, hleaves ▸ h.nodup, hleaves ▸ h.between⟩

theorem Numbered.element (h : Numbered a b ns) (hns : ns ≠ []) (name : String) :
    Numbered a b [.element name [] ns] :=
  Numbered.around (n := .element name [] ns) h (List.isEmpty_eq_false_iff.mpr hns)

theorem Numbered.attributes {attributes : List Attribute}
    (h : Numbered a b (attributes.map Node.attr)) (hattributes : attributes ≠ []) (name : String) :
    Numbered a b [.element name attributes []] := by
  have hparts : parts (.element name attributes []) = attributes.map Node.attr := List.append_nil _
  exact Numbered.around (hparts ▸ h) (by simp [hparts, hattributes])

theorem Numbered.leaf (hn : (parts n).isEmpty = true) : Numbered (size n) (size n + 1) [n] := by
  have hleaves : [n].flatMap leaves = [n] := by
    rw [List.flatMap_singleton]
    exact nodes_listing.leaves_of_isEmpty hn
  exact ⟨Nat.le_succ _, by simp [hleaves], by simp [hleaves]⟩

theorem Numbered.nodup_nodes (h : Numbered a b [n]) : (nodes n).Nodup := by
  have hleaves := h.nodup
  rw [List.flatMap_singleton] at hleaves
  exact nodes_listing.nodup (List.Nodup.of_map size hleaves)

/-- A text of that length. -/
def tally (i : Nat) : String := String.ofList (List.replicate i '|')

theorem length_tally (i : Nat) : (tally i).length = i := by
  simp [tally]

/-- A short element. -/
def filler (name : String) (i : Nat) : Node := .element name [] [.text (tally i)]

theorem numbered_text (i : Nat) : Numbered i (i + 1) [.text (tally i)] := by
  have h := Numbered.leaf (n := .text (tally i)) rfl
  rwa [size, length_tally] at h

theorem numbered_attr (name : String) (i : Nat) :
    Numbered i (i + 1) [.attr ⟨name, tally i⟩] := by
  have h := Numbered.leaf (n := .attr ⟨name, tally i⟩) rfl
  rwa [size, length_tally] at h

theorem numbered_filler (name : String) (i : Nat) : Numbered i (i + 1) [filler name i] :=
  (numbered_text i).element (List.cons_ne_nil _ _) name

theorem numbered_map {f : Nat → Node} (hf : ∀ i, Numbered i (i + 1) [f i]) (a count : Nat) :
    Numbered a (a + count) ((List.range' a count).map f) := by
  induction count generalizing a with
  | zero => exact .nil a
  | succ count ih =>
      rw [List.range'_succ, List.map_cons, Nat.add_comm count, ← Nat.add_assoc]
      exact (hf a).append (ih (a + 1))

/-! ## Building around nodes -/

/-- For every name there is an element with that name and a property, whose nodes are pairwise
different, out of texts and values of a length and more. -/
def Buildable (P : Node → Prop) : Prop :=
  ∀ a name, ∃ b attributes children, Numbered a b [.element name attributes children] ∧
    P (.element name attributes children)

/-- The name of what a test is for. -/
def Test.wanted : Test → String
  | name wanted | attr wanted => localName wanted
  | anyElement | anyAttribute | text => "x"

theorem matches_children (ht : t.isLeaf = false) {children : List Node} (name : String)
    (h : ∀ m ∈ children, m.isElement = true ∧ m.name? = some t.wanted) :
    t.matches (.element name [] children) = children := by
  have helements : Node.elements (.element name [] children) = children :=
    List.filter_eq_self.mpr fun m hm => (h m hm).1
  cases t with
  | name wanted =>
      rw [Test.matches, helements]
      exact List.filter_eq_self.mpr fun m hm => by simp [(h m hm).2, Test.wanted]
  | anyElement => rw [Test.matches, helements]
  | _ => cases ht

theorem getElem?_range'_map_append (f : Nat → Node) (a k : Nat) (n : Node) :
    ((List.range' a k).map f ++ [n])[k]? = some n := by
  rw [List.getElem?_append_right (by simp)]
  simp

/-- Some short elements, and then one that a test is for. -/
theorem exists_child_found (hk : Keeps predicates k) (ht : t.isLeaf = false)
    {attributes : List Attribute} {children : List Node}
    (h : Numbered a b [.element t.wanted attributes children]) (name : String) :
    ∃ before, Numbered a (b + k)
        [.element name [] (before ++ [.element t.wanted attributes children])] ∧
      .element t.wanted attributes children ∈ filterAll predicates
        (t.matches (.element name [] (before ++ [.element t.wanted attributes children]))) := by
  refine ⟨(List.range' b k).map (filler t.wanted), ?_, ?_⟩
  · exact ((h.append (numbered_map (numbered_filler t.wanted) b k)).perm
      List.perm_append_comm).element (by simp) name
  · rw [matches_children ht name (by
      simp only [List.forall_mem_append, List.forall_mem_map, List.forall_mem_singleton]
      exact ⟨fun _ _ => ⟨rfl, rfl⟩, rfl, rfl⟩)]
    exact hk.mem (getElem?_range'_map_append _ _ _ _)

theorem Buildable.found (hk : Keeps predicates k) (ht : t.isLeaf = false) (hP : Buildable P) :
    Buildable fun v => ∃ w, w.isElement = true ∧ w ∈ filterAll predicates (t.matches v) ∧ P w := by
  intro a name
  obtain ⟨b, attributes, children, hw, hprop⟩ := hP a t.wanted
  obtain ⟨before, hv, hfound⟩ := exists_child_found hk ht hw name
  exact ⟨b + k, [], _, hv, _, rfl, hfound, hprop⟩

theorem numbered_attributes (wanted : String) (a k : Nat) (name : String) :
    Numbered a (a + (k + 1))
      [.element name ((List.range' a (k + 1)).map fun i => ⟨wanted, tally i⟩) []] := by
  refine Numbered.attributes ?_ (by simp) name
  rw [List.map_map]
  exact numbered_map (numbered_attr wanted) a (k + 1)

theorem exists_leaves (ht : t.isLeaf = true) (a k : Nat) (name : String) :
    ∃ attributes children, Numbered a (a + (k + 1)) [.element name attributes children] ∧
      ∃ f, t.matches (.element name attributes children) = (List.range' a (k + 1)).map f := by
  cases t with
  | name => cases ht
  | anyElement => cases ht
  | text =>
      refine ⟨[], (List.range' a (k + 1)).map fun i => .text (tally i),
        (numbered_map numbered_text a (k + 1)).element (by simp) name, fun i => .text (tally i), ?_⟩
      exact List.filter_eq_self.mpr fun m hm => by
        obtain ⟨i, _, rfl⟩ := List.mem_map.mp hm
        rfl
  | attr wanted =>
      refine ⟨_, [], numbered_attributes (localName wanted) a k name,
        fun i => .attr ⟨localName wanted, tally i⟩, ?_⟩
      simp [Test.matches, Node.attributes, List.filter_map, Function.comp_def]
  | anyAttribute =>
      refine ⟨_, [], numbered_attributes "x" a k name, fun i => .attr ⟨"x", tally i⟩, ?_⟩
      simp [Test.matches, Node.attributes]

theorem mem_select_of_matches (haxis : s.axis ≠ .self)
    (h : m ∈ filterAll s.predicates (s.test.matches n)) : m ∈ s.select n := by
  cases hs : s.axis with
  | self => exact absurd hs haxis
  | child => rwa [select_child hs]
  | descendant =>
      rw [select_descendant hs]
      exact List.mem_flatMap.mpr ⟨n, scopes_listing.self_mem n, h⟩

theorem selectAll_of_self (haxis : s.axis = .self) (h : ∀ n, filterAll s.predicates [n] = [n])
    (rest : List Step) (n : Node) : selectAll (s :: rest) n = selectAll rest n := by
  rw [stepwise.cons, Step.select, haxis, h, List.flatMap_singleton]

/-- Live steps lead somewhere. -/
theorem Live.buildable (h : Live steps) : Buildable fun v => selectAll steps v ≠ [] := by
  induction h with
  | nil =>
      exact fun a name => ⟨a + 1, [], [.text (tally a)],
        (numbered_text a).element (List.cons_ne_nil _ _) name, List.cons_ne_nil _ _⟩
  | self haxis hone _ ih => simpa only [selectAll_of_self haxis hone] using ih
  | element haxis ht hk _ ih =>
      intro a name
      obtain ⟨b, attributes, children, hv, w, _, hw, hrest⟩ := ih.found hk ht a name
      refine ⟨b, attributes, children, hv, ?_⟩
      obtain ⟨z, hz⟩ := List.exists_mem_of_ne_nil _ hrest
      exact List.ne_nil_of_mem (stepwise.mem_cons.mpr ⟨w, mem_select_of_matches haxis hw, hz⟩)
  | @leaf s rest k haxis ht hk hrest hself _ =>
      intro a name
      obtain ⟨attributes, children, hv, f, hmatches⟩ := exists_leaves ht a k name
      refine ⟨_, attributes, children, hv, ?_⟩
      obtain ⟨z, hz⟩ : ∃ z, ((List.range' a (k + 1)).map f)[k]? = some z :=
        ⟨_, List.getElem?_eq_getElem (by simp)⟩
      rw [← hmatches] at hz
      have hself : z ∈ selectAll rest z := by
        rw [hrest.selectAll_self hself]
        exact List.mem_singleton_self z
      have hfound : z ∈ selectAll (s :: rest) (.element name attributes children) :=
        stepwise.mem_cons.mpr ⟨z, mem_select_of_matches haxis (hk.mem hz), hself⟩
      exact List.ne_nil_of_mem hfound

/-- Whether steps only lead to elements. -/
def Inner (steps : List Step) : Prop := ∀ s ∈ steps, s.axis = .self ∨ s.test.isLeaf = false

theorem Live.append_left (h : Live (front ++ rest)) : Live front := by
  induction front with
  | nil => exact .nil
  | cons s front ih =>
      cases h with
      | self haxis hone hrest => exact .self haxis hone (ih hrest)
      | element haxis htest hk hrest => exact .element haxis htest hk (ih hrest)
      | leaf haxis htest hk hrest hself =>
          exact .leaf haxis htest hk (ih hrest) fun r hr => hself r (List.mem_append_left _ hr)

theorem Live.append_right (h : Live (front ++ rest)) : Live rest := by
  induction front with
  | nil => exact h
  | cons s front ih =>
      cases h with
      | self _ _ hrest => exact ih hrest
      | element _ _ _ hrest => exact ih hrest
      | leaf _ _ _ hrest _ => exact ih hrest

/-- Steps that another step follows lead to elements. -/
theorem Live.inner (h : Live (front ++ s :: rest)) (haxis : s.axis ≠ .self) : Inner front := by
  induction front with
  | nil => simp [Inner]
  | cons r front ih =>
      cases h with
      | self hself _ hrest => exact List.forall_mem_cons.mpr ⟨Or.inl hself, ih hrest⟩
      | element _ htest _ hrest => exact List.forall_mem_cons.mpr ⟨Or.inr htest, ih hrest⟩
      | leaf _ _ _ _ hself => exact absurd (hself s (by simp)) haxis

/-- Around an element with a property there is one from which live steps lead to it. -/
theorem Live.around (h : Live front) (hinner : Inner front) (hP : Buildable P) :
    Buildable fun v => ∃ w, w.isElement = true ∧ w ∈ selectAll front v ∧ P w := by
  induction h with
  | nil =>
      intro a name
      obtain ⟨b, attributes, children, hv, hprop⟩ := hP a name
      exact ⟨b, attributes, children, hv, _, rfl, List.mem_singleton_self _, hprop⟩
  | self haxis hone _ ih =>
      simpa only [selectAll_of_self haxis hone] using ih (List.forall_mem_cons.mp hinner).2
  | element haxis ht hk _ ih =>
      intro a name
      obtain ⟨b, attributes, children, hv, u, _, hu, w, hw, hfound, hprop⟩ :=
        (ih (List.forall_mem_cons.mp hinner).2).found hk ht a name
      exact ⟨b, attributes, children, hv, w, hw,
        stepwise.mem_cons.mpr ⟨u, mem_select_of_matches haxis hu, hfound⟩, hprop⟩
  | leaf haxis ht =>
      rcases (List.forall_mem_cons.mp hinner).1 with hself | hleaf
      · exact absurd hself haxis
      · cases ht.symm.trans hleaf

end Recast.NodePath
